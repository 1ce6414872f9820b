import Mathlib.Data.List.Basic
import Mathlib.Data.List.Nodup
import SerialLine.Listener.Registry

/-!
# SerialLine.Proofs.Listener.Registry — critical sections, one at a time

What each critical section does to the seats, the descriptors and the table of a registry, and
the part of its invariant that speaks of the registry alone. `Registry.Sound` says that the table
is a partial map of bounded size from descriptors to slots of that descriptor, and that a slot
with a taken seat is in it. Whoever changes a seat has to show that the slot is in the table, or
frees the seat.
-/

namespace SerialLine

/-- Taking entries out by their keys leaves the others in their places. -/
theorem lookup_filter_key {κ α : Type} [BEq κ] [LawfulBEq κ] (keep : κ → Bool) {key : κ}
    (h : keep key = true) (entries : List (κ × α)) :
    (entries.filter (keep ·.1)).lookup key = entries.lookup key := by
  induction entries with
  | nil => rfl
  | cons e rest ih =>
    by_cases he : keep e.1 = true
    · rw [List.filter_cons, if_pos he, List.lookup_cons, List.lookup_cons, ih]
    · have hne : (key == e.1) = false := by
        rw [beq_eq_false_iff_ne]
        rintro rfl
        exact he h
      rw [List.filter_cons, if_neg he, ih, List.lookup_cons, hne]

/-- An entry is found under its key where keys do not repeat. -/
theorem lookup_of_mem {κ α : Type} [BEq κ] [LawfulBEq κ] {entries : List (κ × α)} {e : κ × α}
    (hkeys : (entries.map Prod.fst).Nodup) (hmem : e ∈ entries) :
    entries.lookup e.1 = some e.2 := by
  induction entries with
  | nil => cases hmem
  | cons e' rest ih =>
    rcases List.nodup_cons.mp hkeys with ⟨hfresh, hrest⟩
    rcases List.mem_cons.mp hmem with rfl | hmem
    · exact List.lookup_cons_self
    · have hne : e.1 ≠ e'.1 := by
        intro heq
        exact hfresh (heq ▸ List.mem_map_of_mem hmem)
      rw [List.lookup_cons, beq_false_of_ne hne]
      exact ih hrest hmem

theorem Slot.seat_setSeat_ne {k k' : ListenerKind} (h : k' ≠ k) (x : Seat) (s : Slot) :
    (s.setSeat k x).seat k' = s.seat k' := by
  cases k <;> cases k' <;> simp [setSeat, seat] at h ⊢

theorem Slot.setSeat_setSeat (k : ListenerKind) (x : Seat) (s : Slot) :
    (s.setSeat k x).setSeat k (s.seat k) = s := by
  cases k <;> rfl

namespace Registry

variable {r : Registry}

/-! ## Looking -/

theorem seat_of_length_le {s : SlotId} (h : r.slots.length ≤ s) (k : ListenerKind) :
    r.seat s k = .idle := by
  simp [seat, List.getElem?_eq_none h]

theorem lt_of_seat_ne {s : SlotId} {k : ListenerKind} (h : r.seat s k ≠ .idle) :
    s < r.slots.length := by
  by_contra hge
  exact h (seat_of_length_le (Nat.le_of_not_lt hge) k)

theorem isActive_iff {s : SlotId} {k : ListenerKind} :
    r.isActive s k = true ↔ r.seat s k ≠ .idle := by
  simp [isActive]

theorem isCurrent_iff {s : SlotId} :
    r.isCurrent s = true ↔ s < r.slots.length ∧ r.slotOf? (r.fdOf s) = some s := by
  unfold isCurrent fdOf
  cases hs : r.slots[s]? with
  | none =>
    have hge : ¬ s < r.slots.length := Nat.not_lt.mpr (List.getElem?_eq_none_iff.mp hs)
    simp [hge]
  | some slot => simp [(List.getElem?_eq_some_iff.mp hs).1]

theorem mem_table_of_slotOf? {fd : Fd} {s : SlotId} (h : r.slotOf? fd = some s) :
    (fd, s) ∈ r.table := by
  rcases List.lookup_eq_some_iff.mp h with ⟨l₁, l₂, htable, -⟩
  rw [htable]
  simp

/-! ## Changing a seat -/

section SetSeat

variable (s : SlotId) (k : ListenerKind) (x : Seat) (r : Registry)

@[simp] theorem table_setSeat : (r.setSeat s k x).table = r.table := by
  unfold setSeat; split <;> rfl

@[simp] theorem capacity_setSeat : (r.setSeat s k x).capacity = r.capacity := by
  unfold setSeat; split <;> rfl

@[simp] theorem settings_setSeat : (r.setSeat s k x).settings = r.settings := by
  unfold setSeat; split <;> rfl

@[simp] theorem length_setSeat : (r.setSeat s k x).slots.length = r.slots.length := by
  unfold setSeat; split <;> simp

@[simp] theorem slotOf?_setSeat (fd : Fd) : (r.setSeat s k x).slotOf? fd = r.slotOf? fd := by
  simp [slotOf?]

theorem slots_setSeat (s' : SlotId) :
    (r.setSeat s k x).slots[s']? =
      if s' = s then (r.slots[s]?).map (·.setSeat k x) else r.slots[s']? := by
  unfold setSeat
  by_cases hs : s' = s
  · subst hs
    cases hslot : r.slots[s']? with
    | none => simp [hslot]
    | some slot => simp [(List.getElem?_eq_some_iff.mp hslot).1]
  · cases hslot : r.slots[s]? with
    | none => simp [hs]
    | some slot => simp [hs, List.getElem?_set_ne (Ne.symm hs)]

@[simp] theorem fdOf_setSeat (s' : SlotId) : (r.setSeat s k x).fdOf s' = r.fdOf s' := by
  unfold fdOf
  rw [slots_setSeat]
  by_cases hs : s' = s
  · subst hs
    rw [if_pos rfl]
    cases r.slots[s']? with
    | none => rfl
    | some slot => cases k <;> rfl
  · rw [if_neg hs]

@[simp] theorem isCurrent_setSeat (s' : SlotId) :
    (r.setSeat s k x).isCurrent s' = r.isCurrent s' := by
  rw [Bool.eq_iff_iff, isCurrent_iff, isCurrent_iff]
  simp

variable {s} in
theorem seat_setSeat_self (hs : s < r.slots.length) : (r.setSeat s k x).seat s k = x := by
  unfold seat
  rw [slots_setSeat, if_pos rfl, List.getElem?_eq_getElem hs]
  cases k <;> rfl

variable {s k} in
theorem seat_setSeat_ne {s' : SlotId} {k' : ListenerKind} (h : s' = s → k' ≠ k) :
    (r.setSeat s k x).seat s' k' = r.seat s' k' := by
  unfold seat
  rw [slots_setSeat]
  by_cases hs : s' = s
  · subst hs
    have hk := h rfl
    rw [if_pos rfl]
    cases r.slots[s']? with
    | none => rfl
    | some slot => exact Slot.seat_setSeat_ne hk x slot
  · rw [if_neg hs]

/-- A seat that gets back what it had is as it was. -/
theorem setSeat_setSeat : (r.setSeat s k x).setSeat s k (r.seat s k) = r := by
  cases hslot : r.slots[s]? with
  | none => simp [setSeat, hslot]
  | some slot =>
    have hlt := (List.getElem?_eq_some_iff.mp hslot).1
    have hset : (r.slots.set s (slot.setSeat k x))[s]? = some (slot.setSeat k x) :=
      List.getElem?_set_self hlt
    simp only [setSeat, seat, hslot, hset, List.set_set, Slot.setSeat_setSeat]
    rw [(List.getElem?_eq_some_iff.mp hslot).2.symm, List.set_getElem_self]

end SetSeat

/-! ## The invariant of a registry -/

/-- What holds of a registry alone, whatever its clients are at. -/
structure Sound (r : Registry) : Prop where
  /-- The table is no larger than it may be. -/
  size : r.table.length ≤ r.capacity
  /-- No descriptor is in the table twice. -/
  keys : (r.table.map Prod.fst).Nodup
  /-- The slot stored under a descriptor is a slot of that descriptor. -/
  stored : ∀ e ∈ r.table, e.2 < r.slots.length ∧ r.fdOf e.2 = e.1
  /-- A slot with a taken seat is in the table. -/
  current : ∀ s k, r.seat s k ≠ .idle → r.isCurrent s = true

theorem sound_empty (capacity : Nat) (settings : ListenerSettings) :
    Sound { capacity, settings } where
  size := Nat.zero_le _
  keys := List.nodup_nil
  stored := by simp
  current := by
    intro s k h
    exact absurd (seat_of_length_le (Nat.zero_le s) k) h

/-- Two slots of one descriptor in the table are the same slot. -/
theorem eq_of_current {s s' : SlotId} (h : r.isCurrent s = true) (h' : r.isCurrent s' = true)
    (hfd : r.fdOf s = r.fdOf s') : s = s' := by
  have hs := (isCurrent_iff.mp h).2
  have hs' := (isCurrent_iff.mp h').2
  rw [hfd] at hs
  exact Option.some.inj (hs.symm.trans hs')

/-- A slot that is stored in a sound table is the one found under its descriptor. -/
theorem Sound.isCurrent_of_mem (h : r.Sound) {e : Fd × SlotId} (hmem : e ∈ r.table) :
    r.isCurrent e.2 = true := by
  rcases h.stored e hmem with ⟨hlt, hfd⟩
  refine isCurrent_iff.mpr ⟨hlt, ?_⟩
  rw [hfd]
  exact lookup_of_mem h.keys hmem

theorem Sound.setSeat (h : r.Sound) {s : SlotId} {k : ListenerKind} {x : Seat}
    (hx : x = .idle ∨ r.isCurrent s = true) : (r.setSeat s k x).Sound where
  size := by simpa using h.size
  keys := by simpa using h.keys
  stored := by simpa using h.stored
  current := by
    intro s' k' hseat
    rw [isCurrent_setSeat]
    by_cases hsame : s' = s ∧ k' = k
    · rcases hsame with ⟨rfl, rfl⟩
      rcases hx with rfl | hcur
      · have hlt : s' < r.slots.length := by simpa using lt_of_seat_ne hseat
        exact absurd (seat_setSeat_self _ _ _ hlt) hseat
      · exact hcur
    · rw [seat_setSeat_ne _ _ (fun hs hk => hsame ⟨hs, hk⟩)] at hseat
      exact h.current s' k' hseat

/-! ## Making room for a slot -/

/-- The three ways in which a slot is acquired: it is there, there is no room, or it is made. -/
theorem acquire_cases (fd : Fd) (r : Registry) :
    (∃ s, r.slotOf? fd = some s ∧ r.acquire fd = (.ok s, r)) ∨
    (r.acquire fd = (.error (.capacityExceeded r.capacity), r)) ∨
    (r.slotOf? fd = none ∧ r.table.length < r.capacity ∧
      r.acquire fd = (.ok r.slots.length,
        { r with table := (fd, r.slots.length) :: r.table, slots := r.slots ++ [{ fd }] })) := by
  unfold acquire
  cases hslot : r.slotOf? fd with
  | some s => exact Or.inl ⟨s, rfl, rfl⟩
  | none =>
    by_cases hfull : r.capacity ≤ r.table.length
    · exact Or.inr (Or.inl (by simp [hfull]))
    · exact Or.inr (Or.inr ⟨rfl, Nat.lt_of_not_le hfull, by simp [hfull]⟩)

theorem seat_acquire (fd : Fd) (s : SlotId) (k : ListenerKind) :
    (r.acquire fd).2.seat s k = r.seat s k := by
  rcases acquire_cases fd r with ⟨_, -, h⟩ | h | ⟨-, -, h⟩
  · rw [h]
  · rw [h]
  · rw [h]
    unfold seat
    rcases Nat.lt_trichotomy s r.slots.length with hlt | heq | hgt
    · simp [List.getElem?_append_left hlt]
    · subst heq
      cases k <;> simp [Slot.seat]
    · have hle : (r.slots ++ [{ fd : Slot }]).length ≤ s := by simpa using Nat.succ_le_of_lt hgt
      simp [List.getElem?_eq_none hle, List.getElem?_eq_none (Nat.le_of_lt hgt)]

theorem fdOf_acquire (fd : Fd) {s : SlotId} (hs : s < r.slots.length) :
    (r.acquire fd).2.fdOf s = r.fdOf s := by
  rcases acquire_cases fd r with ⟨_, -, h⟩ | h | ⟨-, -, h⟩
  · rw [h]
  · rw [h]
  · rw [h]
    simp [fdOf, List.getElem?_append_left hs]

/-- A slot that was there before is not put back into the table. -/
theorem isCurrent_of_acquire {fd : Fd} {s : SlotId} (hs : s < r.slots.length)
    (h : (r.acquire fd).2.isCurrent s = true) : r.isCurrent s = true := by
  rcases isCurrent_iff.mp h with ⟨-, hslot⟩
  rw [fdOf_acquire fd hs] at hslot
  rcases acquire_cases fd r with ⟨_, -, he⟩ | he | ⟨-, -, he⟩
  · rwa [he] at h
  · rwa [he] at h
  · -- the new entry is not the one under which the slot is found
    rw [he] at hslot
    by_cases hkey : r.fdOf s = fd
    · have hnew : r.slots.length = s := by simpa [slotOf?, hkey] using hslot
      exact absurd hnew (Nat.ne_of_gt hs)
    · have hold : r.slotOf? (r.fdOf s) = some s := by
        simpa [slotOf?, List.lookup_cons, beq_false_of_ne hkey] using hslot
      exact isCurrent_iff.mpr ⟨hs, hold⟩

theorem length_acquire_le (fd : Fd) : r.slots.length ≤ (r.acquire fd).2.slots.length := by
  rcases acquire_cases fd r with ⟨_, -, he⟩ | he | ⟨-, -, he⟩ <;> simp [he]

theorem capacity_acquire (fd : Fd) : (r.acquire fd).2.capacity = r.capacity := by
  rcases acquire_cases fd r with ⟨_, -, h⟩ | h | ⟨-, -, h⟩ <;> rw [h]

theorem settings_acquire (fd : Fd) : (r.acquire fd).2.settings = r.settings := by
  rcases acquire_cases fd r with ⟨_, -, h⟩ | h | ⟨-, -, h⟩ <;> rw [h]

/-- The slot that was acquired is in the table, under its descriptor. -/
theorem acquired_current (hr : r.Sound) {fd : Fd} {s : SlotId} {r' : Registry}
    (h : r.acquire fd = (.ok s, r')) : r'.isCurrent s = true ∧ r'.fdOf s = fd := by
  rcases acquire_cases fd r with ⟨s', hs', h'⟩ | h' | ⟨-, -, h'⟩
  · rw [h] at h'
    obtain ⟨rfl, rfl⟩ : s = s' ∧ r' = r := by simpa using h'
    rcases hr.stored _ (mem_table_of_slotOf? hs') with ⟨hlt, hfd⟩
    refine ⟨isCurrent_iff.mpr ⟨hlt, ?_⟩, hfd⟩
    rw [hfd]
    exact hs'
  · rw [h] at h'
    simp at h'
  · rw [h] at h'
    obtain ⟨rfl, rfl⟩ : s = r.slots.length ∧ r' = _ := by simpa using h'
    simp [isCurrent_iff, fdOf, slotOf?]

theorem Sound.acquire (h : r.Sound) (fd : Fd) : (r.acquire fd).2.Sound := by
  rcases acquire_cases fd r with ⟨_, -, he⟩ | he | ⟨hnone, hroom, he⟩
  · rw [he]; exact h
  · rw [he]; exact h
  · have hseat := fun s k => seat_acquire (r := r) fd s k
    have hfd := fun s hs => fdOf_acquire (r := r) fd (s := s) hs
    rw [he] at hseat hfd ⊢
    have hfresh : fd ∉ r.table.map Prod.fst := by
      intro hmem
      rcases List.mem_map.mp hmem with ⟨e, hentry, rfl⟩
      have := List.lookup_eq_none_iff.mp hnone e hentry
      simp at this
    refine ⟨by simpa using Nat.succ_le_of_lt hroom, List.nodup_cons.mpr ⟨hfresh, h.keys⟩, ?_, ?_⟩
    · intro e hmem
      rcases List.mem_cons.mp hmem with rfl | hmem
      · simp [fdOf]
      · rcases h.stored e hmem with ⟨hlt, hkey⟩
        exact ⟨by simpa using Nat.lt_succ_of_lt hlt, by rw [hfd _ hlt]; exact hkey⟩
    · intro s k hs
      have hs' : r.seat s k ≠ .idle := by rw [← hseat]; exact hs
      rcases isCurrent_iff.mp (h.current s k hs') with ⟨hlt, hslot⟩
      have hne : r.fdOf s ≠ fd := by
        intro heq
        rw [heq, hnone] at hslot
        cases hslot
      refine isCurrent_iff.mpr ⟨by simpa using Nat.lt_succ_of_lt hlt, ?_⟩
      rw [hfd _ hlt]
      simpa [slotOf?, List.lookup_cons, beq_false_of_ne hne] using hslot

/-! ## Taking a seat for a descriptor -/

theorem seatOn_idle {s : SlotId} {k : ListenerKind} (h : r.seat s k = .idle) :
    r.seatOn s k = (.taken s, r.setSeat s k .starting) := by
  simp [seatOn, reserve, h]

theorem seatOn_busy {s : SlotId} {k : ListenerKind} (h : r.seat s k ≠ .idle) :
    r.seatOn s k = (.occupied s (.alreadyRegistered (k.key (r.fdOf s))), r) := by
  simp [seatOn, reserve, h]

/-- A seat is taken for a descriptor as on the slot that would be acquired, though the slot is
looked up and made apart from there. -/
theorem reserveFor_eq (fd : Fd) (k : ListenerKind) (r : Registry) :
    r.reserveFor fd k =
      match r.acquire fd with
      | (.ok s, r') => r'.seatOn s k
      | (.error e, r') => (.full e, r') := by
  unfold reserveFor acquire
  cases r.slotOf? fd with
  | some s => rfl
  | none =>
    by_cases hfull : r.capacity ≤ r.table.length
    · rw [if_pos hfull, if_pos hfull]
    · rw [if_neg hfull, if_neg hfull]

/-! ## Giving a slot back -/

theorem release_cases (s : SlotId) (r : Registry) :
    r.release s = r ∨
    (r.isCurrent s = true ∧ r.seat s .data = .idle ∧ r.seat s .event = .idle ∧
      r.release s = { r with table := r.table.filter (·.1 ≠ r.fdOf s) }) := by
  unfold release
  cases hslot : r.slots[s]? with
  | none => exact Or.inl rfl
  | some slot =>
    by_cases hfree : (r.isCurrent s && slot.isIdle) = true
    · right
      rcases Bool.and_eq_true_iff.mp hfree with ⟨hcur, hidle⟩
      obtain ⟨hdata, hevent⟩ : slot.data = .idle ∧ slot.event = .idle := by
        simpa [Slot.isIdle] using hidle
      simp [hcur, hidle, seat, hslot, Slot.seat, hdata, hevent, fdOf]
    · exact Or.inl (by simp [hfree])

@[simp] theorem slots_release (s : SlotId) : (r.release s).slots = r.slots := by
  rcases release_cases s r with h | ⟨-, -, -, h⟩ <;> rw [h]

@[simp] theorem seat_release (s s' : SlotId) (k : ListenerKind) :
    (r.release s).seat s' k = r.seat s' k := by
  simp [seat]

@[simp] theorem fdOf_release (s s' : SlotId) : (r.release s).fdOf s' = r.fdOf s' := by
  simp [fdOf]

@[simp] theorem capacity_release (s : SlotId) : (r.release s).capacity = r.capacity := by
  rcases release_cases s r with h | ⟨-, -, -, h⟩ <;> rw [h]

@[simp] theorem settings_release (s : SlotId) : (r.release s).settings = r.settings := by
  rcases release_cases s r with h | ⟨-, -, -, h⟩ <;> rw [h]

theorem Sound.release (h : r.Sound) (s : SlotId) : (r.release s).Sound := by
  rcases release_cases s r with he | ⟨hcur, hdata, hevent, he⟩
  · rw [he]; exact h
  · have hseat := fun s' k => seat_release (r := r) s s' k
    have hfd := fun s' => fdOf_release (r := r) s s'
    rw [he] at hseat hfd ⊢
    refine ⟨?_, ?_, ?_, ?_⟩
    · exact Nat.le_trans (List.length_filter_le _ _) h.size
    · exact (List.Sublist.map Prod.fst List.filter_sublist).nodup h.keys
    · intro e hmem
      rw [hfd]
      exact h.stored e (List.mem_filter.mp hmem).1
    · intro s' k hs'
      rw [hseat] at hs'
      have hcur' := h.current s' k hs'
      -- a slot with a taken seat is not the one that is given back
      have hne : r.fdOf s' ≠ r.fdOf s := by
        intro heq
        have := eq_of_current hcur' hcur heq
        subst this
        cases k
        · exact hs' hdata
        · exact hs' hevent
      rcases isCurrent_iff.mp hcur' with ⟨hlt, hslot⟩
      refine isCurrent_iff.mpr ⟨hlt, ?_⟩
      rw [hfd]
      have hkeep :=
        lookup_filter_key (fun fd => decide (fd ≠ r.fdOf s)) (by simpa using hne) r.table
      exact hkeep.trans hslot

end Registry

end SerialLine
