import SerialLine.Host.Basic

/-!
# SerialLine.Proofs.Host.Faults — what a call takes off the schedule of faults

A call meets a fault exactly if the schedule has one for it (`Host.isSome_takeFrom`), and what it
meets leaves the schedule; nothing comes in (`Host.takeFault_subset`). A call that goes on over
interruptions drops all that come before anything else, so that the fault it meets after them is
none: `Host.takeFault_skip`.
-/

namespace SerialLine

namespace Host

variable {c : SystemCall} {code : Errno} {h h' : Host}

/-! ## Schedules -/

/-- A call meets a fault exactly if the schedule has one for it. -/
theorem isSome_takeFrom (c : SystemCall) (faults : List (SystemCall × Errno)) :
    (takeFrom c faults).1.isSome = faults.any (·.1 == c) := by
  induction faults with
  | nil => rfl
  | cons fault faults ih =>
    rw [takeFrom, List.any_cons]
    by_cases hc : fault.1 = c
    · simp [hc]
    · simp [hc, ih]

/-- A fault that is met was on the schedule. -/
theorem mem_of_takeFrom {faults : List (SystemCall × Errno)}
    (h : (takeFrom c faults).1 = some code) : (c, code) ∈ faults := by
  induction faults with
  | nil => cases h
  | cons fault faults ih =>
    rw [takeFrom] at h
    split at h
    · rename_i hc
      rw [← Option.some.inj h, ← hc]
      exact List.mem_cons_self
    · exact List.mem_cons_of_mem _ (ih h)

theorem takeFrom_subset (c : SystemCall) (faults : List (SystemCall × Errno)) :
    (takeFrom c faults).2 ⊆ faults := by
  induction faults with
  | nil => exact List.Subset.refl []
  | cons fault faults ih =>
    rw [takeFrom]
    split
    · exact List.subset_cons_self fault faults
    · exact List.cons_subset_cons fault ih

/-- A fault that is met leaves the schedule. -/
theorem length_takeFrom {faults faults' : List (SystemCall × Errno)}
    (h : takeFrom c faults = (some code, faults')) : faults'.length + 1 = faults.length := by
  induction faults generalizing faults' with
  | nil => cases h
  | cons fault faults ih =>
    rw [takeFrom] at h
    split at h
    · obtain ⟨-, rfl⟩ := Prod.mk.inj h
      rfl
    · rcases hrest : takeFrom c faults with ⟨found, rest⟩
      rw [hrest] at h
      obtain ⟨rfl, rfl⟩ := Prod.mk.inj h
      simp only [List.length_cons, ih hrest]

/-! ## Calls -/

theorem mem_of_takeFault (hfault : h.takeFault c = (some code, h')) : (c, code) ∈ h.faults :=
  mem_of_takeFrom (Prod.mk.inj hfault).1

/-- No call adds a fault. -/
theorem takeFault_subset (c : SystemCall) (h : Host) : (h.takeFault c).2.faults ⊆ h.faults :=
  takeFrom_subset c h.faults

theorem length_takeFault (hfault : h.takeFault c = (some code, h')) :
    h'.faults.length + 1 = h.faults.length := by
  obtain ⟨hfound, rfl⟩ := Prod.mk.inj hfault
  exact length_takeFrom (Prod.ext hfound rfl)

/-- When enough interruptions are dropped, the next fault is no interruption. -/
theorem takeFault_skip {n : Nat} (hn : h.faults.length ≤ n)
    (hfault : (skipInterruptions.go c n h).takeFault c = (some code, h')) : code ≠ .EINTR := by
  induction n generalizing h with
  | zero =>
    have hlen := length_takeFault hfault
    rw [skipInterruptions.go] at hlen
    omega
  | succ n ih =>
    rw [skipInterruptions.go] at hfault
    rcases hnext : h.takeFault c with ⟨_ | found, h₁⟩
    · simp only [hnext] at hfault
      cases hfault
    · by_cases hint : found = Errno.EINTR
      · simp only [hnext, hint, if_true] at hfault
        have hlen := length_takeFault hnext
        exact ih (by omega) hfault
      · simp only [hnext, hint, if_false] at hfault
        obtain ⟨hcode, -⟩ := Prod.mk.inj hfault
        rwa [← Option.some.inj hcode]

theorem skip_subset (c : SystemCall) (n : Nat) (h : Host) :
    (skipInterruptions.go c n h).faults ⊆ h.faults := by
  induction n generalizing h with
  | zero => exact List.Subset.refl _
  | succ n ih =>
    rw [skipInterruptions.go]
    rcases hnext : h.takeFault c with ⟨_ | found, h₁⟩
    · exact List.Subset.refl _
    · have hsub := takeFault_subset c h
      rw [hnext] at hsub
      dsimp only
      split
      · exact List.Subset.trans (ih h₁) hsub
      · exact List.Subset.refl _

end Host

end SerialLine
