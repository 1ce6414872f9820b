import SerialLine.Proofs.Listener.Retry

/-!
# SerialLine.Proofs.Listener.Sweep — stops one after another

A shutdown goes through the table as it finds it, in some order, and stops one listener after
another, while the stops take slots out of the table. `Registry.visited` is what it makes of one
entry of its list if wake-ups fail as they are to fail, and `Registry.Swept` what any number of
entries leaves of a registry. `Registry.Sound.takenDown` says what is left in the end, and that the
order makes no difference.
-/

namespace SerialLine

namespace Registry

/-- What the stop of a listener comes to: nothing if its wake-up is to fail. -/
def stopped (F : SlotId → ListenerKind → Bool) (s : SlotId) (k : ListenerKind) (r : Registry) :
    Registry :=
  if F s k then r else (r.setSeat s k .idle).release s

/-- What a shutdown makes of one entry of its list. -/
def visited (F : SlotId → ListenerKind → Bool) (r : Registry) (e : SlotId × ListenerKind) :
    Registry :=
  if r.isActive e.1 e.2 then r.stopped F e.1 e.2 else r

/-- What a shutdown makes of a registry whose table it takes down in some order. -/
def takenDown (F : SlotId → ListenerKind → Bool) (order : List (Fd × SlotId)) (r : Registry) :
    Registry :=
  ({ r with table := order } : Registry).listeners.foldl (·.visited F) r

variable {F : SlotId → ListenerKind → Bool} {r r₀ : Registry} {s s' : SlotId} {k : ListenerKind}
  {e : SlotId × ListenerKind}

/-- Giving one slot back leaves the others where they are. -/
theorem isCurrent_release_ne (hne : s' ≠ s) : (r.release s).isCurrent s' = r.isCurrent s' := by
  rw [Bool.eq_iff_iff]
  refine ⟨isCurrent_of_release, fun hcur' => ?_⟩
  rcases release_cases s r with hsame | ⟨hcur, -, -, hdrop⟩
  · rwa [hsame]
  · obtain ⟨hlt, hslot⟩ := isCurrent_iff.mp hcur'
    have hfd : r.fdOf s' ≠ r.fdOf s := fun hsame => hne (eq_of_current hcur' hcur hsame)
    rw [isCurrent_iff, slots_release, fdOf_release]
    refine ⟨hlt, ?_⟩
    rw [hdrop, slotOf?_filter, if_neg hfd]
    exact hslot

/-- What is in the table of a sound registry. -/
theorem Sound.mem_table_iff (hr : r.Sound) {entry : Fd × SlotId} :
    entry ∈ r.table ↔ r.isCurrent entry.2 = true ∧ r.fdOf entry.2 = entry.1 := by
  refine ⟨fun hmem => ⟨hr.isCurrent_of_mem hmem, (hr.stored entry hmem).2⟩, ?_⟩
  rintro ⟨hcur, hfd⟩
  have hmem := mem_table_of_slotOf? (isCurrent_iff.mp hcur).2
  rwa [hfd] at hmem

theorem seat_visited (F : SlotId → ListenerKind → Bool) (r : Registry) (e : SlotId × ListenerKind)
    (s : SlotId) (k : ListenerKind) :
    (r.visited F e).seat s k = if (s, k) = e ∧ F s k = false then .idle else r.seat s k := by
  obtain ⟨s₁, k₁⟩ := e
  unfold visited stopped
  by_cases hactive : r.isActive s₁ k₁ = true
  · rw [if_pos hactive]
    by_cases hF : F s₁ k₁ = true
    · rw [if_pos hF, if_neg]
      rintro ⟨⟨⟩, hnot⟩
      rw [hF] at hnot
      cases hnot
    · rw [if_neg hF, seat_release]
      have hlt := lt_of_seat_ne (isActive_iff.mp hactive)
      by_cases hsame : (s, k) = (s₁, k₁)
      · cases hsame
        rw [if_pos ⟨rfl, by simpa using hF⟩]
        exact seat_setSeat_self _ _ _ hlt
      · rw [if_neg fun h => hsame h.1]
        refine seat_setSeat_ne _ _ fun hs hk => hsame ?_
        rw [hs, hk]
  · rw [if_neg hactive]
    split
    · next hsame =>
      cases hsame.1
      have hidle : ¬ r.seat s k ≠ .idle := fun hbusy => hactive (isActive_iff.mpr hbusy)
      exact not_not.mp hidle
    · rfl

/-- What stops have left of a registry: some seats were freed, and with them went the slots whose
last listener was stopped. -/
structure Swept (r₀ r : Registry) : Prop where
  sound : r.Sound
  fd : ∀ s, r.fdOf s = r₀.fdOf s
  seat : ∀ s k, r.seat s k ≠ .idle → r₀.seat s k ≠ .idle
  current : ∀ s, r.isCurrent s = true ↔ r₀.isCurrent s = true ∧
    ((∀ k, r₀.seat s k = .idle) ∨ ∃ k, r.seat s k ≠ .idle)

theorem Sound.swept (hr : r.Sound) : r.Swept r where
  sound := hr
  fd _ := rfl
  seat _ _ := id
  current s := by
    refine ⟨fun hcur => ⟨hcur, ?_⟩, fun h => h.1⟩
    by_cases hfree : ∀ k, r.seat s k = .idle
    · exact .inl hfree
    · exact .inr (not_forall.mp hfree)

/-- A seat is freed that the shutdown found busy, and its slot is given back. -/
theorem Swept.vacated (h : r₀.Swept r) {s₁ : SlotId} {k₁ : ListenerKind}
    (hbusy : r.seat s₁ k₁ ≠ .idle) : r₀.Swept ((r.setSeat s₁ k₁ .idle).release s₁) := by
  have hlt := lt_of_seat_ne hbusy
  have hseat : ∀ s k, (s = s₁ → k ≠ k₁) →
      ((r.setSeat s₁ k₁ .idle).release s₁).seat s k = r.seat s k := by
    intro s k hne
    rw [seat_release, seat_setSeat_ne _ _ hne]
  have hself : ((r.setSeat s₁ k₁ .idle).release s₁).seat s₁ k₁ = .idle := by
    rw [seat_release, seat_setSeat_self _ _ _ hlt]
  have hkeep : ∀ s k, ((r.setSeat s₁ k₁ .idle).release s₁).seat s k ≠ .idle →
      (s = s₁ → k ≠ k₁) := by
    rintro s k hne rfl rfl
    exact hne hself
  refine ⟨(h.sound.setSeat (.inl rfl)).release _, fun s => ?_, fun s k hne => ?_, fun s => ?_⟩
  · rw [fdOf_release, fdOf_setSeat, h.fd]
  · rw [hseat s k (hkeep s k hne)] at hne
    exact h.seat s k hne
  · by_cases hs : s = s₁
    · subst hs
      rw [h.sound.isCurrent_vacated hbusy]
      have hcur₀ := ((h.current s).mp (h.sound.current s k₁ hbusy)).1
      constructor
      · rintro ⟨k, hne, hk⟩
        refine ⟨hcur₀, .inr ⟨k, ?_⟩⟩
        rw [hseat s k fun _ => hne]
        exact isActive_iff.mp hk
      · rintro ⟨-, hidle | ⟨k, hk⟩⟩
        · exact absurd (hidle k₁) (h.seat s k₁ hbusy)
        · have hne := hkeep s k hk rfl
          rw [hseat s k fun _ => hne] at hk
          exact ⟨k, hne, isActive_iff.mpr hk⟩
    · rw [isCurrent_release_ne hs, isCurrent_setSeat, h.current]
      have hsame : ∀ k, ((r.setSeat s₁ k₁ .idle).release s₁).seat s k = r.seat s k := fun k =>
        hseat s k fun heq => absurd heq hs
      simp only [hsame]

theorem Swept.visited (h : r₀.Swept r) (F : SlotId → ListenerKind → Bool)
    (e : SlotId × ListenerKind) : r₀.Swept (r.visited F e) := by
  unfold Registry.visited stopped
  split
  · next hactive =>
    split
    · exact h
    · exact h.vacated (isActive_iff.mp hactive)
  · exact h

/-- What a whole list of stops comes to does not depend on their order. -/
theorem swept_foldl (F : SlotId → ListenerKind → Bool) (todo : List (SlotId × ListenerKind))
    (h : r₀.Swept r) : r₀.Swept (todo.foldl (·.visited F) r) ∧
      ∀ s k, (todo.foldl (·.visited F) r).seat s k =
        if (s, k) ∈ todo ∧ F s k = false then .idle else r.seat s k := by
  induction todo generalizing r with
  | nil => exact ⟨h, fun s k => by simp⟩
  | cons e todo ih =>
    obtain ⟨hswept, hseat⟩ := ih (h.visited F e)
    refine ⟨hswept, fun s k => ?_⟩
    rw [List.foldl_cons, hseat, seat_visited]
    by_cases hF : F s k = false
    · by_cases he : (s, k) = e
      · simp [he, hF]
      · simp [he, hF]
    · simp [hF]

theorem mem_listeners : (s, k) ∈ r.listeners ↔ ∃ fd, (fd, s) ∈ r.table := by
  cases k <;> simp [listeners, ListenerKind.all]

/-- In whatever order a shutdown takes the table down, every listener is stopped whose wake-up does
not fail, and of the slots that had a listener those stay in the table that still have one. -/
theorem Sound.takenDown (hr : r.Sound) {order : List (Fd × SlotId)} (hperm : order.Perm r.table)
    (F : SlotId → ListenerKind → Bool) :
    (∀ s k, (r.takenDown F order).seat s k = if F s k then r.seat s k else .idle) ∧
    ∀ e, e ∈ (r.takenDown F order).table ↔ e ∈ r.table ∧
      ((∃ k, r.isActive e.2 k = true ∧ F e.2 k = true) ∨ ∀ k, r.isActive e.2 k = false) := by
  obtain ⟨hswept, hseat⟩ :=
    swept_foldl F ({ r with table := order } : Registry).listeners hr.swept
  change r.Swept (r.takenDown F order) at hswept
  replace hseat : ∀ s k, (r.takenDown F order).seat s k = if F s k then r.seat s k else .idle := by
    intro s k
    refine (hseat s k).trans ?_
    cases hF : F s k with
    | true => simp
    | false =>
      rw [if_neg Bool.false_ne_true]
      -- a listener that is not on the list is none of the table's, so it has no thread
      by_cases hmem : (s, k) ∈ ({ r with table := order } : Registry).listeners
      · exact if_pos ⟨hmem, rfl⟩
      · rw [if_neg fun h => hmem h.1]
        by_contra hbusy
        have hentry : (r.fdOf s, s) ∈ r.table := hr.mem_table_iff.mpr ⟨hr.current s k hbusy, rfl⟩
        exact hmem (mem_listeners.mpr ⟨_, hperm.mem_iff.mpr hentry⟩)
  refine ⟨hseat, fun e => ?_⟩
  rw [hswept.sound.mem_table_iff, hr.mem_table_iff, hswept.current, hswept.fd]
  have hkept : (∃ k, (r.takenDown F order).seat e.2 k ≠ .idle) ↔
      ∃ k, r.isActive e.2 k = true ∧ F e.2 k = true := by
    refine exists_congr fun k => ?_
    rw [hseat, isActive_iff]
    cases F e.2 k <;> simp
  have hfree : (∀ k, r.seat e.2 k = .idle) ↔ ∀ k, r.isActive e.2 k = false := by
    refine forall_congr' fun k => ?_
    simp [isActive]
  rw [hkept, hfree, or_comm, and_right_comm]

end Registry

end SerialLine
