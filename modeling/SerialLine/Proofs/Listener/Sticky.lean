import Mathlib.Data.List.DropRight
import SerialLine.Listener.Waker
import SerialLine.Proofs.Host.Faults

/-!
# SerialLine.Proofs.Listener.Sticky — a wake-up stays until it is taken

Somebody wakes, resets and waits in any order, and any wait may be interrupted any number of times.
A wait stands in the run where it ends: when the counter can be seen, or when its time is up. The
counter then is the number of wakes since the last reset, as far as it can hold that number
(`WakerUse.Inv`). So it is nonzero exactly if a wake is outstanding, and this is what
every wait tells; a wake that finds the counter full has nothing to add. `WakerUse.wakes_stick`
says this of each call of a run, by the calls that come before it.
-/

namespace SerialLine

/-! ## The counter -/

namespace Waker

theorem full_pos : 0 < full := by decide

/-- A wake adds one, up to what the counter can hold. -/
theorem count_wake {w : Waker} (hw : w.count ≤ full) :
    (w.wake none).2.count = min full (w.count + 1) := by
  show (w.add 1).2.count = min full (w.count + 1)
  unfold add
  split
  · next hfits => exact (Nat.min_eq_right hfits).symm
  · next hfull =>
    show w.count = min full (w.count + 1)
    omega

/-- A reset ends after just this many reads, however many it may make. -/
def ResetTakes (w : Waker) (reads : Nat) : Prop :=
  ∀ spare, w.resetWithin (reads + spare) = (some spare, w.reset)

/-- An empty counter is found empty by the first read. -/
theorem resetTakes_one {w : Waker} (hw : w.count = 0) : w.ResetTakes 1 := by
  intro spare
  rw [Nat.add_comm]
  simp [resetWithin, reset, take, hw]

/-- Any other is emptied by the first read, and found empty by the second. -/
theorem resetTakes_two {w : Waker} (hw : w.count ≠ 0) : w.ResetTakes 2 := by
  intro spare
  rw [Nat.add_comm]
  simp [resetWithin, reset, take, hw]

theorem exists_resetTakes (w : Waker) : ∃ reads ≤ 2, w.ResetTakes reads := by
  by_cases hw : w.count = 0
  · exact ⟨1, Nat.le_succ 1, resetTakes_one hw⟩
  · exact ⟨2, Nat.le_refl 2, resetTakes_two hw⟩

end Waker

/-! ## Hosts that only interrupt -/

namespace Host

/-- Whatever else may fail, of the calls on wakers none does, but waits may be interrupted. -/
structure OnlyInterrupts (h : Host) : Prop where
  wakes : ∀ code, (SystemCall.wake, code) ∉ h.faults
  waits : ∀ code, (SystemCall.pollWaker, code) ∈ h.faults → code = .EINTR

variable {h h' : Host}

theorem OnlyInterrupts.of_subset (hh : h.OnlyInterrupts) (hsub : h'.faults ⊆ h.faults) :
    h'.OnlyInterrupts :=
  ⟨fun code hmem => hh.wakes code (hsub hmem), fun code hmem => hh.waits code (hsub hmem)⟩

/-- The next wait meets this many interruptions more. -/
def interruptWaits (interruptions : Nat) (h : Host) : Host :=
  h.addFaults (List.replicate interruptions (.pollWaker, .EINTR))

theorem OnlyInterrupts.interruptWaits (hh : h.OnlyInterrupts) (interruptions : Nat) :
    (h.interruptWaits interruptions).OnlyInterrupts := by
  have hadded {call : SystemCall × Errno}
      (hmem : call ∈ (h.interruptWaits interruptions).faults) :
      call ∈ h.faults ∨ call = (.pollWaker, .EINTR) :=
    (List.mem_append.mp hmem).imp_right List.eq_of_mem_replicate
  constructor
  · intro code hmem
    rcases hadded hmem with hmem | hnew
    · exact hh.wakes code hmem
    · cases hnew
  · intro code hmem
    rcases hadded hmem with hmem | hnew
    · exact hh.waits code hmem
    · exact (Prod.mk.inj hnew).2

/-- A wake succeeds. -/
theorem OnlyInterrupts.wake (hh : h.OnlyInterrupts) (w : Waker) :
    ∃ h', h.wake w = (.ok (), (w.wake none).2, h') ∧ h'.OnlyInterrupts := by
  have hsub := takeFault_subset .wake h
  unfold Host.wake
  rcases hfault : h.takeFault .wake with ⟨_ | code, h'⟩
  · rw [hfault] at hsub
    exact ⟨h', by rw [← w.wake_none], hh.of_subset hsub⟩
  · exact absurd (mem_of_takeFault hfault) (hh.wakes code)

/-- A wait goes on over interruptions, and then tells whether the counter can be seen. -/
theorem OnlyInterrupts.wait (hh : h.OnlyInterrupts) (w : Waker) :
    ∃ h', h.wait w = (.ok w.isReady, h') ∧ h'.OnlyInterrupts := by
  have hskipped : (h.skipInterruptions .pollWaker).OnlyInterrupts :=
    hh.of_subset (skip_subset .pollWaker h.faults.length h)
  have hsub := takeFault_subset .pollWaker (h.skipInterruptions .pollWaker)
  unfold Host.wait waitFault?
  rcases hfault : (h.skipInterruptions .pollWaker).takeFault .pollWaker with ⟨_ | code, h'⟩
  · rw [hfault] at hsub
    exact ⟨h', rfl, hskipped.of_subset hsub⟩
  · -- past the interruptions there is no other fault
    have hint : code = .EINTR := hskipped.waits code (mem_of_takeFault hfault)
    exact absurd hint (takeFault_skip (Nat.le_refl _) hfault)

end Host

/-! ## Calls, one after the other -/

/-- A call on a waker. -/
inductive WakerCall where
  | wake
  | reset
  /-- A wait, which is interrupted this many times. -/
  | wait (interruptions : Nat)
deriving DecidableEq

/-- What a call on a waker answers. -/
inductive WakerAnswer where
  /-- Nothing: a reset has no answer. -/
  | silent
  | woken (result : Outcome Unit)
  | waited (result : Outcome Bool)

namespace WakerCall

/-- Whether a call takes the wake-ups. -/
def isReset : WakerCall → Bool
  | reset => true
  | _ => false

/-- The calls since the last reset. -/
def sinceReset (calls : List WakerCall) : List WakerCall := calls.rtakeWhile (!·.isReset)

theorem sinceReset_reset (calls : List WakerCall) : sinceReset (calls ++ [reset]) = [] := by
  rw [sinceReset, List.rtakeWhile_concat]
  rfl

theorem sinceReset_other {call : WakerCall} (h : call.isReset = false) (calls : List WakerCall) :
    sinceReset (calls ++ [call]) = sinceReset calls ++ [call] := by
  rw [sinceReset, List.rtakeWhile_concat, h]
  rfl

/-- The wakes since the last reset. -/
def outstanding (calls : List WakerCall) : Nat := (sinceReset calls).count wake

theorem outstanding_pos {calls : List WakerCall} :
    0 < outstanding calls ↔ wake ∈ sinceReset calls := List.count_pos_iff

@[simp] theorem outstanding_wake (calls : List WakerCall) :
    outstanding (calls ++ [wake]) = outstanding calls + 1 := by
  rw [outstanding, sinceReset_other rfl, List.count_append]
  rfl

@[simp] theorem outstanding_reset (calls : List WakerCall) :
    outstanding (calls ++ [reset]) = 0 := by
  rw [outstanding, sinceReset_reset]
  rfl

@[simp] theorem outstanding_wait (calls : List WakerCall) (interruptions : Nat) :
    outstanding (calls ++ [wait interruptions]) = outstanding calls := by
  rw [outstanding, sinceReset_other rfl, List.count_append]
  rfl

end WakerCall

/-- A waker in use, and the host that it is on. -/
structure WakerUse where
  waker : Waker := {}
  host : Host := {}

namespace WakerUse

open WakerCall

/-- Does what a call asks for. -/
def perform (u : WakerUse) : WakerCall → WakerAnswer × WakerUse
  | .wake =>
    let (result, waker, host) := u.host.wake u.waker
    (.woken result, { waker, host })
  | .reset => (.silent, { u with waker := u.waker.reset })
  | .wait interruptions =>
    let (result, host) := (u.host.interruptWaits interruptions).wait u.waker
    (.waited result, { u with host })

/-- A waker after some calls. -/
def after (u : WakerUse) (calls : List WakerCall) : WakerUse :=
  calls.foldl (fun u call => (u.perform call).2) u

theorem after_concat (u : WakerUse) (calls : List WakerCall) (call : WakerCall) :
    u.after (calls ++ [call]) = ((u.after calls).perform call).2 := List.foldl_concat ..

/-- How a call is answered that comes after these calls, and what it leaves of the counter. -/
inductive Answered (earlier : List WakerCall) (w : Waker) :
    WakerCall → WakerAnswer → Waker → Prop where
  /-- A wake succeeds, and adds one unless the counter is full. -/
  | woken {w' : Waker} (hcount : w'.count = min Waker.full (w.count + 1)) :
    Answered earlier w .wake (.woken (.ok ())) w'
  /-- A reset empties the counter, with two reads at most. -/
  | reset {w' : Waker} {reads : Nat} (htakes : w.ResetTakes reads) (htwo : reads ≤ 2)
    (hempty : w'.count = 0) : Answered earlier w .reset .silent w'
  /-- However often it is interrupted, a wait tells whether there was a wake since the last reset,
  and takes nothing. -/
  | waited {interruptions : Nat} {seen : Bool} (hseen : seen = true ↔ .wake ∈ sinceReset earlier) :
    Answered earlier w (.wait interruptions) (.waited (.ok seen)) w

/-- What holds after some calls. -/
structure Inv (calls : List WakerCall) (u : WakerUse) : Prop where
  host : u.host.OnlyInterrupts
  /-- The counter is the number of wakes since the last reset, as far as it can hold it. -/
  count : u.waker.count = min Waker.full (outstanding calls)

variable {u : WakerUse} {earlier : List WakerCall}

theorem Inv.count_le (hu : Inv earlier u) : u.waker.count ≤ Waker.full := by
  rw [hu.count]
  exact Nat.min_le_left _ _

/-- The counter can be seen exactly if a wake is outstanding. -/
theorem Inv.isReady_iff (hu : Inv earlier u) :
    u.waker.isReady = true ↔ .wake ∈ sinceReset earlier := by
  have hpos := Waker.full_pos
  have hcount := hu.count
  rw [Waker.isReady, decide_eq_true_iff, ← outstanding_pos]
  omega

/-- What one call answers and leaves. -/
theorem Inv.perform (hu : Inv earlier u) (call : WakerCall) :
    ∃ answer u', u.perform call = (answer, u') ∧ Inv (earlier ++ [call]) u' ∧
      Answered earlier u.waker call answer u'.waker := by
  cases call with
  | wake =>
    obtain ⟨host, hwake, hhost⟩ := hu.host.wake u.waker
    have hadds := Waker.count_wake hu.count_le
    have hrun : u.perform .wake = (.woken (.ok ()), ⟨(u.waker.wake none).2, host⟩) := by
      simp only [WakerUse.perform, hwake]
    refine ⟨_, _, hrun, ⟨hhost, ?_⟩, .woken hadds⟩
    have hcount := hu.count
    rw [outstanding_wake]
    show (u.waker.wake none).2.count = _
    omega
  | reset =>
    obtain ⟨reads, htwo, htakes⟩ := u.waker.exists_resetTakes
    have hempty := u.waker.reset_count
    refine ⟨_, _, rfl, ⟨hu.host, ?_⟩, .reset htakes htwo hempty⟩
    rw [outstanding_reset, Nat.min_zero]
    exact hempty
  | wait interruptions =>
    obtain ⟨host, hwait, hhost⟩ := (hu.host.interruptWaits interruptions).wait u.waker
    have hrun : u.perform (.wait interruptions) =
        (.waited (.ok u.waker.isReady), { u with host }) := by
      simp only [WakerUse.perform, hwait]
    refine ⟨_, _, hrun, ⟨hhost, ?_⟩, .waited hu.isReady_iff⟩
    rw [outstanding_wait]
    exact hu.count

/-- A new waker has seen no wakes, and every call keeps count of them. -/
theorem inv_after {h : Host} (hh : h.OnlyInterrupts) (calls : List WakerCall) :
    Inv calls (WakerUse.after { host := h } calls) := by
  induction calls using List.reverseRecOn with
  | nil => exact ⟨hh, (Nat.min_zero _).symm⟩
  | append_singleton calls call ih =>
    obtain ⟨_, u', hrun, hinv, -⟩ := ih.perform call
    rw [after_concat, hrun]
    exact hinv

/-- Whatever was done to a waker, its counter is the number of wakes since the last reset, as far
as it can hold it, and the next call is answered accordingly: a wake succeeds, a reset is done
after two reads at most, and a wait tells whether there was a wake since the last reset, changes
nothing, and does not fail, however often it is interrupted. -/
theorem wakes_stick {h : Host} (hh : h.OnlyInterrupts) (earlier : List WakerCall)
    (call : WakerCall) :
    ∃ u answer u', WakerUse.after { host := h } earlier = u ∧ u.perform call = (answer, u') ∧
      u.waker.count = min Waker.full ((sinceReset earlier).count .wake) ∧
      Answered earlier u.waker call answer u'.waker := by
  have hu := inv_after hh earlier
  obtain ⟨answer, u', hrun, -, hanswered⟩ := hu.perform call
  exact ⟨_, answer, u', rfl, hrun, hu.count, hanswered⟩

/-- A host on which waits are interrupted, and a drain too. -/
def signalledHost : Host where
  faults := [(.pollWaker, .EINTR), (.tcdrain, .EINTR), (.pollWaker, .EINTR)]

/-- The counter is full, and one more wake succeeds; then a wait is interrupted. -/
theorem brimful_sticks :
    signalledHost.OnlyInterrupts ∧
      (∃ u u', WakerUse.after { host := signalledHost } (List.replicate Waker.full .wake) = u ∧
        u.waker.count = Waker.full ∧ u.perform .wake = (.woken (.ok ()), u') ∧
        u'.waker.count = Waker.full) ∧
      ∃ u u', WakerUse.after { host := signalledHost }
          (List.replicate (Waker.full + 1) .wake) = u ∧
        u.perform (.wait 2) = (.waited (.ok true), u') ∧ u'.waker = u.waker := by
  have hh : signalledHost.OnlyInterrupts := ⟨by simp [signalledHost], by simp [signalledHost]⟩
  have hall (n : Nat) : sinceReset (List.replicate n .wake) = List.replicate n .wake :=
    List.rtakeWhile_eq_self_iff.mpr fun call hcall => by rw [List.eq_of_mem_replicate hcall]; rfl
  refine ⟨hh, ?_, ?_⟩
  · obtain ⟨u, answer, u', hu, hrun, hcount, hanswered⟩ :=
      wakes_stick hh (List.replicate Waker.full .wake) .wake
    rw [hall, List.count_replicate_self, Nat.min_self] at hcount
    cases hanswered with
    | woken hadds =>
      refine ⟨u, u', hu, hcount, hrun, ?_⟩
      rw [hadds, hcount]
      exact Nat.min_eq_left (Nat.le_succ _)
  · obtain ⟨u, answer, u', hu, hrun, -, hanswered⟩ :=
      wakes_stick hh (List.replicate (Waker.full + 1) .wake) (.wait 2)
    generalize hw : u'.waker = w' at hanswered
    cases hanswered with
    | waited hseen =>
      rw [hall] at hseen
      obtain rfl := hseen.mpr (List.mem_replicate.mpr ⟨Nat.succ_ne_zero _, rfl⟩)
      exact ⟨u, u', hu, hrun, hw⟩

end WakerUse

end SerialLine
