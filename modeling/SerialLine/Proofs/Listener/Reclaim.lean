import SerialLine.Proofs.Listener.Steps
import SerialLine.Proofs.Listener.Custody

/-!
# SerialLine.Proofs.Listener.Reclaim — who gives a vacant slot back

A slot that the table still has while neither of its seats is taken uses up capacity for nothing.
Freeing a seat and giving the slot back are two critical sections, so there are moments at which
such a slot exists. `Call.Edge.vacant` says that a step leaves a vacant slot behind only if it
found one there, or if the next step of the same call gives it back. The exception are starts on
a slot of the client's own: where they fail, the slot stays.

The other half is `Scene.Reachable.attended`: a seat that is starting or stopping has somebody who
will see to it.
-/

namespace SerialLine

/-! ## Vacant slots -/

namespace Registry

/-- A slot is vacant if the table still has it and neither of its seats is taken. -/
def IsVacant (r : Registry) (s : SlotId) : Prop :=
  r.isCurrent s = true ∧ ∀ k, r.seat s k = .idle

variable {r r' : Registry} {s s' : SlotId} {k : ListenerKind} {x : Seat}

/-- A change of one seat makes no other slot vacant. -/
theorem IsVacant.of_setSeat (h : (r.setSeat s k x).IsVacant s') : s' = s ∨ r.IsVacant s' := by
  by_cases hs : s' = s
  · exact Or.inl hs
  · right
    refine ⟨by simpa using h.1, ?_⟩
    intro k'
    have hidle := h.2 k'
    rwa [seat_setSeat_ne _ _ (fun heq => absurd heq hs)] at hidle

/-- A slot with a seat that was taken is not vacant. -/
theorem IsVacant.of_taken (hx : x ≠ .idle) (h : (r.setSeat s k x).IsVacant s') :
    s' ≠ s ∧ r.IsVacant s' := by
  have hne : s' ≠ s := by
    rintro rfl
    have hlt : s' < r.slots.length := by simpa using (isCurrent_iff.mp h.1).1
    have hself := seat_setSeat_self k x r hlt
    exact hx (hself.symm.trans (h.2 k))
  rcases h.of_setSeat with heq | hvacant
  · exact absurd heq hne
  · exact ⟨hne, hvacant⟩

/-- Only the slot that was asked for may be a new one. -/
theorem IsVacant.of_acquire {fd : Fd} (hacq : r.acquire fd = (.ok s, r')) (h : r'.IsVacant s') :
    s' = s ∨ r.IsVacant s' := by
  obtain rfl : (r.acquire fd).2 = r' := by rw [hacq]
  by_cases hlt : s' < r.slots.length
  · right
    refine ⟨isCurrent_of_acquire hlt h.1, ?_⟩
    intro k
    have hidle := h.2 k
    rwa [seat_acquire] at hidle
  · left
    have hlt' := (isCurrent_iff.mp h.1).1
    rcases acquire_ok hacq with ⟨-, hsame⟩ | ⟨-, hs, hmade⟩
    · rw [hsame] at hlt'
      exact absurd hlt' hlt
    · have hle : s' < r.slots.length + 1 := by simpa [hmade] using hlt'
      rw [hs]
      exact Nat.le_antisymm (Nat.le_of_lt_succ hle) (Nat.le_of_not_lt hlt)

/-- Taking a descriptor's entry out leaves the other descriptors theirs. -/
theorem slotOf?_filter (fd fd' : Fd) (r : Registry) :
    { r with table := r.table.filter (·.1 ≠ fd) }.slotOf? fd' =
      if fd' = fd then none else r.slotOf? fd' := by
  by_cases hfd : fd' = fd
  · rw [if_pos hfd]
    refine List.lookup_eq_none_iff.mpr ?_
    intro e he
    have hne : e.1 ≠ fd := by simpa using (List.mem_filter.mp he).2
    simpa [hfd] using Ne.symm hne
  · rw [if_neg hfd]
    exact lookup_filter_key (fun key => decide (key ≠ fd)) (by simpa using hfd) r.table

/-- A vacant slot that is given back leaves the table. -/
theorem IsVacant.release (h : r.IsVacant s) :
    r.release s = { r with table := r.table.filter (·.1 ≠ r.fdOf s) } := by
  have hlt := (isCurrent_iff.mp h.1).1
  have hslot : r.slots[s]? = some r.slots[s] := List.getElem?_eq_getElem hlt
  have hidle : r.slots[s].isIdle = true := by
    have hdata := h.2 .data
    have hevent := h.2 .event
    simp only [seat, hslot, Slot.seat] at hdata hevent
    simp [Slot.isIdle, hdata, hevent]
  simp [Registry.release, hslot, h.1, hidle, fdOf]

/-- Giving a slot back puts no slot into the table. -/
theorem isCurrent_of_release (h : (r.release s).isCurrent s' = true) : r.isCurrent s' = true := by
  rcases release_cases s r with hsame | ⟨-, -, -, hdrop⟩
  · rwa [hsame] at h
  · rcases isCurrent_iff.mp h with ⟨hlt, hslot⟩
    rw [slots_release] at hlt
    rw [fdOf_release, hdrop, slotOf?_filter] at hslot
    split at hslot
    · cases hslot
    · exact isCurrent_iff.mpr ⟨hlt, hslot⟩

/-- After a slot was given back, it is not vacant, and no other slot is that was not before. -/
theorem IsVacant.of_release (h : (r.release s).IsVacant s') : s' ≠ s ∧ r.IsVacant s' := by
  have hidle : ∀ k, r.seat s' k = .idle := by simpa using h.2
  have hvacant : r.IsVacant s' := ⟨isCurrent_of_release h.1, hidle⟩
  refine ⟨?_, hvacant⟩
  -- a vacant slot that is given back is not in the table any more
  rintro rfl
  have hslot := (isCurrent_iff.mp h.1).2
  rw [fdOf_release, hvacant.release, slotOf?_filter, if_pos rfl] at hslot
  cases hslot

end Registry

/-! ## Calls that give slots back -/

namespace Call

/-- The slot that the next step of a call gives back. -/
def Position.reclaims? : Position → Option SlotId
  | .givingBack s _ | .reclaiming s _ => some s
  | _ => none

/-- Whether a call gives the slot back if it fails to start a listener. -/
def Position.givesBack : Position → Bool
  | .starting .. => false
  | .spawning _ _ giveBack | .hearing _ _ _ giveBack | .dismissing _ _ _ _ giveBack
  | .freeing _ _ _ giveBack => giveBack
  | _ => true

variable {w w' : Listening} {p p' : Position}

theorem Edge.givesBack (he : Edge w p p' w') (h : p.givesBack = true) : p'.givesBack = true := by
  cases he with
  | reserved => cases h
  | spawned | unspawned | misheard | dismissed => exact h
  | @freed s k e giveBack =>
    obtain rfl : giveBack = true := h
    rfl
  | _ => rfl

/-- A step leaves a vacant slot behind only if the call gives it back next, or if the slot was
vacant before and not for this call to give back. -/
theorem Edge.vacant (he : Edge w p p' w') (hback : p.givesBack = true) {s : SlotId}
    (h : w'.registry.IsVacant s) :
    p'.reclaims? = some s ∨ (w.registry.IsVacant s ∧ p.reclaims? ≠ some s) := by
  cases he with
  | taken hacq =>
    rcases Registry.IsVacant.of_taken Seat.noConfusion h with ⟨hne, hmade⟩
    rcases hmade.of_acquire hacq with heq | hvacant
    · exact absurd heq hne
    · exact Or.inr ⟨hvacant, nofun⟩
  | reserved => cases hback
  | recorded | lifted | restored =>
    have hvacant := (Registry.IsVacant.of_taken Seat.noConfusion h).2
    exact Or.inr ⟨hvacant, nofun⟩
  | @freed s k e giveBack =>
    obtain rfl : giveBack = true := hback
    rcases h.of_setSeat with rfl | hvacant
    · exact Or.inl rfl
    · exact Or.inr ⟨hvacant, nofun⟩
  | cleared =>
    rcases h.of_setSeat with rfl | hvacant
    · exact Or.inl rfl
    · exact Or.inr ⟨hvacant, nofun⟩
  | givenBack | reclaimed =>
    rcases h.of_release with ⟨hne, hvacant⟩
    refine Or.inr ⟨hvacant, ?_⟩
    intro heq
    exact hne (Option.some.inj heq).symm
  | _ => exact Or.inr ⟨h, nofun⟩

end Call

namespace Task

/-- The slot that the next step of a task gives back. -/
def reclaims? (task : Task) : Option SlotId := task.position?.bind (·.reclaims?)

/-- Whether a task gives slots back. -/
def GivesBack (task : Task) : Prop := ∀ p, task.position? = some p → p.givesBack = true

variable {task task' : Task} {w w' : Listening}

theorem step_vacant (h : task.step w = some (task', w')) (hback : task.GivesBack) :
    task'.GivesBack ∧ ∀ s, w'.registry.IsVacant s →
      task'.reclaims? = some s ∨ (w.registry.IsVacant s ∧ task.reclaims? ≠ some s) := by
  have he := step_edge h
  unfold GivesBack reclaims? at *
  generalize task.position? = position at he hback ⊢
  generalize task'.position? = position' at he ⊢
  cases he with
  | @wentOn p p' _ he =>
    have hp := hback p rfl
    refine ⟨?_, fun s hs => he.vacant hp hs⟩
    intro q hq
    obtain rfl := Option.some.inj hq
    exact he.givesBack hp
  | turned =>
    refine ⟨?_, fun s hs => Or.inr ⟨hs, (Option.some_ne_none s).symm⟩⟩
    intro q hq
    obtain rfl := Option.some.inj hq
    rfl
  | passedBy | leftBehind =>
    refine ⟨?_, fun s hs => Or.inr ⟨hs, (Option.some_ne_none s).symm⟩⟩
    intro q hq
    cases hq

end Task

/-! ## Seats on their way -/

/-- Whether a seat is on its way from one state to another. -/
def Seat.isMoving : Seat → Bool
  | .starting | .stopping => true
  | .idle | .running _ => false

/-- Every seat on its way is kept by somebody. -/
def Attended (r : Registry) (hold : Nat → Option Holding) : Prop :=
  ∀ s k, (r.seat s k).isMoving = true → ∃ i x, hold i = some x ∧ x.slot = s ∧ x.kind = k

/-- A seat that is changed to `y` and on its way is the one at hand, or it was on its way. -/
theorem Registry.moving_setSeat {r : Registry} {s s' : SlotId} {k k' : ListenerKind} {y : Seat}
    (h : ((r.setSeat s k y).seat s' k').isMoving = true) :
    (s = s' ∧ k = k' ∧ y.isMoving = true) ∨
      ((r.seat s' k').isMoving = true ∧ ¬ (s = s' ∧ k = k')) := by
  by_cases hsk : s = s' ∧ k = k'
  · rcases hsk with ⟨rfl, rfl⟩
    left
    have hne : (r.setSeat s k y).seat s k ≠ .idle := by
      intro hidle
      rw [hidle] at h
      cases h
    have hlt : s < r.slots.length := by simpa using Registry.lt_of_seat_ne hne
    rw [seat_setSeat_self k y r hlt] at h
    exact ⟨rfl, rfl, h⟩
  · right
    rw [seat_setSeat_ne _ _ (fun hs hk => hsk ⟨hs.symm, hk.symm⟩)] at h
    exact ⟨h, hsk⟩

/-- A seat that is on its way after a step is kept by the one who took the step, or it was on its
way before and is not kept by that one. -/
theorem Call.Move.moving {w w' : Listening} {x x' : Option Holding} {ts : List ThreadId}
    (hm : Call.Move w x x' ts w') {s : SlotId} {k : ListenerKind}
    (h : (w'.registry.seat s k).isMoving = true) :
    (∃ y, x' = some y ∧ y.slot = s ∧ y.kind = k) ∨
      ((w.registry.seat s k).isMoving = true ∧
        ∀ y, x = some y → ¬ (y.slot = s ∧ y.kind = k)) := by
  -- the steps that leave the kept seat in the same hands
  have same : ∀ {s₀ : SlotId} {k₀ : ListenerKind} {y₀ : Seat} {t₀ t₁ : Option ThreadId},
      (w.registry.seat s k).isMoving = true →
      (∃ y, some (Holding.mk s₀ k₀ y₀ t₁) = some y ∧ y.slot = s ∧ y.kind = k) ∨
      ((w.registry.seat s k).isMoving = true ∧
        ∀ y, some (Holding.mk s₀ k₀ y₀ t₀) = some y → ¬ (y.slot = s ∧ y.kind = k)) := by
    intro s₀ k₀ y₀ t₀ t₁ hmoving
    by_cases hsk : s₀ = s ∧ k₀ = k
    · exact Or.inl ⟨_, rfl, hsk⟩
    · refine Or.inr ⟨hmoving, ?_⟩
      rintro y hy
      obtain rfl := Option.some.inj hy
      exact hsk
  cases hm with
  | @passed x crew hk =>
    cases x with
    | none => exact Or.inr ⟨h, nofun⟩
    | some x => exact same h
  | acquired fd =>
    rw [Registry.seat_acquire] at h
    exact Or.inr ⟨h, nofun⟩
  | @reservedFor fd s₀ k₀ r hr hidle =>
    rcases Registry.moving_setSeat h with ⟨hs, hk, -⟩ | ⟨hmoving, -⟩
    · exact Or.inl ⟨_, rfl, hs, hk⟩
    · have hseat := Registry.seat_acquire (r := w.registry) fd s k
      rw [hr] at hseat
      rw [hseat] at hmoving
      exact Or.inr ⟨hmoving, nofun⟩
  | reservedOn | lifted =>
    rcases Registry.moving_setSeat h with ⟨hs, hk, -⟩ | ⟨hmoving, -⟩
    · exact Or.inl ⟨_, rfl, hs, hk⟩
    · exact Or.inr ⟨hmoving, nofun⟩
  | spawned hh => exact same h
  | joined hend => exact same h
  | seated | freed =>
    rcases Registry.moving_setSeat h with ⟨-, -, hy⟩ | ⟨hmoving, hne⟩
    · cases hy
    · refine Or.inr ⟨hmoving, ?_⟩
      rintro y hy
      obtain rfl := Option.some.inj hy
      exact hne
  | released s₀ =>
    rw [Registry.seat_release] at h
    exact Or.inr ⟨h, nofun⟩

namespace Scene

variable {s : Scene} {capacity : Nat} {settings : ListenerSettings}

theorem init_attended (capacity : Nat) (settings : ListenerSettings) (host : Host)
    (gates : List (Fd × Gate)) :
    Attended (start capacity settings host gates).registry
      (start capacity settings host gates).hold := by
  intro slot k hmoving
  have hidle := Registry.seat_of_length_le (r := { capacity, settings }) (Nat.zero_le slot) k
  have hseat : (start capacity settings host gates).registry.seat slot k = .idle := hidle
  rw [hseat] at hmoving
  cases hmoving

theorem step_attended {s' : Scene} {a : Action} (h : Attended s.registry s.hold)
    (ha : s.act? a = some s') : Attended s'.registry s'.hold := by
  rcases act?_cases ha with ⟨i, x, ts, hmove, hhold, -⟩ | ⟨t, -, hreg, hhold, -⟩ |
    ⟨host, gates, -, rfl⟩
  · intro slot k hmoving
    rw [hhold]
    rcases hmove.moving hmoving with ⟨y, hy, hslot, hkind⟩ | ⟨hbefore, hnot⟩
    · refine ⟨i, y, ?_, hslot, hkind⟩
      rw [Function.update_self, hy]
    · let Keeps (held : Option Holding) := ∃ x, held = some x ∧ x.slot = slot ∧ x.kind = k
      refine exists_update (P := Keeps) (h slot k hbefore) ?_
      rintro ⟨y, hy, hkept⟩
      exact absurd hkept (hnot y hy)
  · rw [hreg, hhold]
    exact h
  · exact h

/-- In every order of steps, a seat that is starting or stopping has somebody who sees to it. -/
theorem Reachable.attended (h : Reachable capacity settings s) : Attended s.registry s.hold := by
  induction h with
  | start host gates => exact init_attended capacity settings host gates
  | act a _ ha ih => exact step_attended ih ha

/-- Where nobody keeps anything, no seat is on its way. -/
theorem Reachable.still (h : s.Reachable capacity settings) (hfree : ∀ j, s.hold j = none)
    (slot : SlotId) (k : ListenerKind) : (s.registry.seat slot k).isMoving = false := by
  by_contra hmoving
  obtain ⟨j, x, hj, -⟩ := h.attended slot k (by simpa using hmoving)
  rw [hfree j] at hj
  cases hj

end Scene

end SerialLine
