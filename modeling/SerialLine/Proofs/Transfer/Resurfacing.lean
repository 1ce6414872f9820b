import SerialLine.Transfer.Scripted
import SerialLine.Proofs.Transfer.Stream

/-!
# SerialLine.Proofs.Transfer.Resurfacing — failures that come after some bytes

A gathering that has some bytes when a read fails breaks off: it hands the bytes back and drops the
failure (`Transfer.BreaksOff`). No operation remembers it. The next one fails exactly if the first
of its reads that is not interrupted fails (`Transfer.FailsFirst`), and with that failure; so
whether the dropped failure comes to light is for the device to say. `readAvailable_broken_off` says
this of every device, and on a device that fails once it is lost.
-/

namespace SerialLine

/-- Neither an interruption nor would-block. -/
structure CallFault.IsReal (f : CallFault) : Prop where
  uninterrupted : f.isInterruption = false
  unblocked : f.isWouldBlock = false

namespace Transfer

variable {σ : Type} {dev : Device σ} {f : CallFault} {s s' : σ}

/-! ## Breaking off -/

/-- A gathering that gets these bytes, and then a read fails. -/
inductive BreaksOff (dev : Device σ) (f : CallFault) : Gathering → σ → Bytes → σ → Prop where
  /-- The next read fails. -/
  | now {g : Gathering} {s s' : σ} (hroom : g.room ≠ 0) (hgot : g.got ≠ [])
    (hread : dev.read g.room s = (.error f, s')) : BreaksOff dev f g s g.got s'
  /-- The next read lets the gathering go on. -/
  | later {g g' : Gathering} {s s₁ s' : σ} {outcome : CallOutcome Bytes} {bytes : Bytes}
    (hroom : g.room ≠ 0) (hread : dev.read g.room s = (outcome, s₁))
    (hnext : g.next outcome = .next g') (hrest : BreaksOff dev f g' s₁ bytes s') :
    BreaksOff dev f g s bytes s'

theorem Gathering.next_interrupted (g : Gathering) (hint : f.isInterruption = true) :
    g.next (.error f) = .next g := by
  simp [Gathering.next, hint]

theorem Gathering.next_blocked (g : Gathering) (hint : f.isInterruption = false)
    (hblock : f.isWouldBlock = true) : g.next (.error f) = .done (.ok g.got) := by
  simp [Gathering.next, hint, hblock]

theorem Gathering.next_real (g : Gathering) (hf : f.IsReal) :
    g.next (.error f) = .done (if g.got = [] then .error (f.toError "read") else .ok g.got) := by
  by_cases hgot : g.got = [] <;> simp [Gathering.next, hf.uninterrupted, hf.unblocked, hgot]

/-- A gathering goes on after an interruption, and after a read that gives bytes. -/
theorem Gathering.next_eq_next {g g' : Gathering} {outcome : CallOutcome Bytes}
    (h : g.next outcome = .next g') :
    (∃ f, outcome = .error f ∧ f.isInterruption = true ∧ g' = g) ∨ g'.got ≠ [] := by
  cases outcome with
  | ok bytes =>
    by_cases hnil : bytes = []
    · subst hnil
      cases h
    · obtain rfl := Turn.next.inj ((g.next_ok hnil).symm.trans h)
      exact Or.inr fun hempty => hnil (List.append_eq_nil_iff.mp hempty).2
  | error f =>
    cases hint : f.isInterruption with
    | true =>
      rw [g.next_interrupted hint] at h
      exact Or.inl ⟨f, rfl, hint, (Turn.next.inj h).symm⟩
    | false =>
      cases hblock : f.isWouldBlock with
      | true =>
        rw [g.next_blocked hint hblock] at h
        cases h
      | false =>
        rw [g.next_real ⟨hint, hblock⟩] at h
        cases h

/-- Only a failure fails a gathering, and only one without bytes. -/
theorem Gathering.next_eq_failed {g : Gathering} {outcome : CallOutcome Bytes} {e : Error}
    (h : g.next outcome = .done (.error e)) :
    g.got = [] ∧ ∃ f, outcome = .error f ∧ f.IsReal ∧ e = f.toError "read" := by
  cases outcome with
  | ok bytes => cases bytes <;> cases h
  | error f =>
    cases hint : f.isInterruption with
    | true =>
      rw [g.next_interrupted hint] at h
      cases h
    | false =>
      cases hblock : f.isWouldBlock with
      | true =>
        rw [g.next_blocked hint hblock] at h
        cases h
      | false =>
        rw [g.next_real ⟨hint, hblock⟩] at h
        have hresult := Turn.done.inj h
        split at hresult
        · next hgot => exact ⟨hgot, f, rfl, ⟨hint, hblock⟩, (Except.error.inj hresult).symm⟩
        · cases hresult

theorem BreaksOff.got_ne_nil {g : Gathering} {bytes : Bytes} (h : BreaksOff dev f g s bytes s') :
    bytes ≠ [] := by
  induction h with
  | now _ hgot _ => exact hgot
  | later _ _ _ _ ih => exact ih

/-- A gathering that breaks off hands its bytes back. -/
theorem BreaksOff.gathers (hf : f.IsReal) {g : Gathering} {bytes : Bytes}
    (h : BreaksOff dev f g s bytes s') :
    ∃ calls, gather dev calls g s = (some (.ok bytes), s') := by
  induction h with
  | @now g _ _ hroom hgot hread =>
    refine ⟨1, ?_⟩
    rw [gather_of_room hroom, hread]
    simp only [g.next_real hf, if_neg hgot]
  | later hroom hread hnext _ ih =>
    obtain ⟨calls, hrest⟩ := ih
    refine ⟨calls + 1, ?_⟩
    rw [gather_of_room hroom, hread]
    simp only [hnext, hrest]

/-! ## The next operation -/

/-- The first read that is not interrupted fails. -/
inductive FailsFirst (dev : Device σ) (room : Nat) (f : CallFault) : σ → Prop where
  | now {s s' : σ} (hreal : f.IsReal) (hread : dev.read room s = (.error f, s')) :
    FailsFirst dev room f s
  | later {s s₁ : σ} {f₁ : CallFault} (hint : f₁.isInterruption = true)
    (hread : dev.read room s = (.error f₁, s₁)) (hrest : FailsFirst dev room f s₁) :
    FailsFirst dev room f s

theorem FailsFirst.gather {room : Nat} (h : FailsFirst dev room f s) (hroom : room ≠ 0) :
    ∃ calls s', gather dev calls ⟨[], room⟩ s = (some (.error (f.toError "read")), s') := by
  have hg : (Gathering.mk [] room).room ≠ 0 := hroom
  induction h with
  | @now _ s' hreal hread =>
    refine ⟨1, s', ?_⟩
    rw [gather_of_room hg, hread]
    simp only [Gathering.next_real _ hreal, if_pos]
  | later hint hread _ ih =>
    obtain ⟨calls, s', hrest⟩ := ih
    refine ⟨calls + 1, s', ?_⟩
    rw [gather_of_room hg, hread]
    simp only [Gathering.next_interrupted _ hint, hrest]

/-- A gathering that fails had no bytes, and it has found the failure itself. -/
theorem failsFirst_of_gather {calls : Nat} {g : Gathering} {e : Error}
    (h : gather dev calls g s = (some (.error e), s')) :
    g.got = [] ∧ ∃ f, FailsFirst dev g.room f s ∧ e = f.toError "read" := by
  by_cases hroom : g.room = 0
  · rw [gather_full hroom] at h
    cases h
  · induction calls generalizing g s with
    | zero =>
      rw [gather, if_neg hroom] at h
      cases h
    | succ calls ih =>
      rw [gather_of_room hroom] at h
      rcases hread : dev.read g.room s with ⟨outcome, s₁⟩
      rw [hread] at h
      cases hnext : g.next outcome with
      | done result =>
        simp only [hnext] at h
        obtain ⟨rfl, rfl⟩ : result = .error e ∧ s₁ = s' := by simpa using h
        obtain ⟨hgot, f, rfl, hreal, he⟩ := Gathering.next_eq_failed hnext
        exact ⟨hgot, f, .now hreal hread, he⟩
      | next g' =>
        simp only [hnext] at h
        rcases Gathering.next_eq_next hnext with ⟨f₁, rfl, hint, rfl⟩ | hgot'
        · obtain ⟨hgot, f, hfails, he⟩ := ih h hroom
          exact ⟨hgot, f, .later hint hread hfails, he⟩
        · -- with bytes it cannot fail any more
          by_cases hroom' : g'.room = 0
          · rw [gather_full hroom'] at h
            cases h
          · exact absurd (ih h hroom').1 hgot'

theorem FailsFirst.readOnce {max : Nat} (h : FailsFirst dev (min max readLimit) f s) :
    ∃ calls s', readOnce dev calls max s = (some (.error (f.toError "read")), s') := by
  induction h with
  | @now _ s' hreal hread =>
    refine ⟨1, s', ?_⟩
    simp only [Transfer.readOnce, hread, afterSingle, hreal.uninterrupted, hreal.unblocked]
    rfl
  | later hint hread _ ih =>
    obtain ⟨calls, s', hrest⟩ := ih
    refine ⟨calls + 1, s', ?_⟩
    simp only [Transfer.readOnce, hread, afterSingle, hint, if_true, hrest]

theorem failsFirst_of_readOnce {calls max : Nat} {e : Error}
    (h : readOnce dev calls max s = (some (.error e), s')) :
    ∃ f, FailsFirst dev (min max readLimit) f s ∧ e = f.toError "read" := by
  induction calls generalizing s with
  | zero => cases h
  | succ calls ih =>
    rcases hread : dev.read (min max readLimit) s with ⟨outcome, s₁⟩
    rw [readOnce, hread] at h
    cases outcome with
    | ok bytes => cases h
    | error f₁ =>
      cases hint : f₁.isInterruption with
      | true =>
        simp only [afterSingle, hint, if_true] at h
        obtain ⟨f, hfails, he⟩ := ih h
        exact ⟨f, .later hint hread hfails, he⟩
      | false =>
        cases hblock : f₁.isWouldBlock with
        | true =>
          simp only [afterSingle, hint, hblock] at h
          cases h
        | false =>
          refine ⟨f₁, .now ⟨hint, hblock⟩ hread, ?_⟩
          simp only [afterSingle, hint, hblock] at h
          exact (Except.error.inj (Option.some.inj (Prod.mk.inj h).1)).symm

/-- The operations that read. -/
inductive ReadOperation where
  | available
  | once

/-- Carries an operation out. -/
def ReadOperation.run (dev : Device σ) : ReadOperation → (calls max : Nat) → σ →
    Option (Outcome Bytes) × σ
  | available => readAvailable dev
  | once => readOnce dev

/-- An operation fails exactly if the first of its reads that is not interrupted does. -/
theorem ReadOperation.fails_iff (op : ReadOperation) {max : Nat} (hmax : 0 < max) {e : Error} :
    (∃ calls s', op.run dev calls max s = (some (.error e), s')) ↔
      ∃ f, FailsFirst dev (min max readLimit) f s ∧ e = f.toError "read" := by
  have hroom : min max readLimit ≠ 0 := by
    have hlimit : 0 < readLimit := by decide
    omega
  constructor
  · rintro ⟨calls, s', h⟩
    cases op with
    | available => exact (failsFirst_of_gather h).2
    | once => exact failsFirst_of_readOnce h
  · rintro ⟨f, hfails, rfl⟩
    cases op with
    | available => exact hfails.gather hroom
    | once => exact hfails.readOnce

/-- A read of whatever is pending that gets some bytes before a read fails hands the bytes back.
The operation that comes next fails exactly if the device has a failure for its first read that is
not interrupted, and then with that one. -/
theorem readAvailable_broken_off {max : Nat} {bytes : Bytes} (hf : f.IsReal)
    (h : BreaksOff dev f ⟨[], min max readLimit⟩ s bytes s') :
    bytes ≠ [] ∧ (∃ calls, readAvailable dev calls max s = (some (.ok bytes), s')) ∧
      ∀ (op : ReadOperation) (max' : Nat), 0 < max' → ∀ e,
        (∃ calls s'', op.run dev calls max' s' = (some (.error e), s'')) ↔
          ∃ f', FailsFirst dev (min max' readLimit) f' s' ∧ e = f'.toError "read" :=
  ⟨h.got_ne_nil, h.gathers hf, fun op _ hmax _ => op.fails_iff hmax⟩

end Transfer

namespace ScriptedDevice

open Transfer

/-- A device that fails as soon as it is not interrupted. -/
def failing : ScriptedDevice where
  reads := [.fault .interrupted, .fault (.errno .EIO)]

/-- A device that gives two bytes, fails, and fails again. -/
def failsTwice : ScriptedDevice where
  reads := .data [0x6f, 0x6b] :: .fault (.errno .EIO) :: failing.reads

theorem failsTwice_broken_off :
    (CallFault.errno .EIO).IsReal ∧
      BreaksOff device (.errno .EIO) ⟨[], min 16 readLimit⟩ failsTwice [0x6f, 0x6b] failing ∧
      ([0x6f, 0x6b] : Bytes) ≠ [] ∧
      (∃ calls, Transfer.readAvailable device calls 16 failsTwice =
        (some (.ok [0x6f, 0x6b]), failing)) ∧
      ∀ (op : ReadOperation) (max : Nat), 0 < max → ∀ e,
        (∃ calls d, op.run device calls max failing = (some (.error e), d)) ↔
          ∃ f, FailsFirst device (min max readLimit) f failing ∧ e = f.toError "read" :=
  have hreal : (CallFault.errno .EIO).IsReal := ⟨rfl, rfl⟩
  have hbreaks : BreaksOff device (.errno .EIO) ⟨[], min 16 readLimit⟩ failsTwice [0x6f, 0x6b]
      failing := .later (by decide) rfl rfl (.now (by decide) (by decide) rfl)
  ⟨hreal, hbreaks, readAvailable_broken_off hreal hbreaks⟩

/-- A device that gives two bytes and then fails, once. -/
def failsOnce : ScriptedDevice where
  reads := [.data [0x61, 0x62], .fault (.errno .EIO)]

/-- The failure breaks the first read off, and no read after it fails: it is lost. -/
theorem failsOnce_loses_failure :
    BreaksOff device (.errno .EIO) ⟨[], min 16 readLimit⟩ failsOnce [0x61, 0x62] {} ∧
      failsOnce.readAvailable 16 = (some (.ok [0x61, 0x62]), {}) ∧
      (({} : ScriptedDevice).readAvailable 16).1 = some (.ok []) ∧
      (({} : ScriptedDevice).readOnce 16).1 = some (.ok []) :=
  ⟨.later (by decide) rfl rfl (.now (by decide) (by decide) rfl), rfl, rfl, rfl⟩

end ScriptedDevice

end SerialLine
