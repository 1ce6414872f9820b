import SerialLine.Transfer.Basic
import SerialLine.Host.Basic

/-!
# SerialLine.Listener.Waker — waking a thread that sleeps

A waker is a counter that a sleeping thread watches. Waking adds one, resetting empties the
counter, and the counter can be seen from the moment of the first wake until the next reset, so
a wake is never lost, however early it comes. A counter that is full stays as it is: the thread
counts as woken already.
-/

namespace SerialLine

/-- A wake-up counter. -/
structure Waker where
  count : Nat := 0
deriving DecidableEq, Repr

namespace Waker

/-- The largest value of the counter. -/
def full : Nat := UInt64.size - 2

/-- Whether a thread that watches the counter is woken. -/
def isReady (w : Waker) : Bool := 0 < w.count

/-- Adds to the counter; an addition that does not fit would block. -/
def add (n : Nat) (w : Waker) : CallOutcome Unit × Waker :=
  if w.count + n ≤ full then (.ok (), ⟨w.count + n⟩) else (.error (.errno .EAGAIN), w)

/-- Takes all out of the counter; an empty one would block. -/
def take (w : Waker) : CallOutcome Nat × Waker :=
  if w.count = 0 then (.error (.errno .EAGAIN), w) else (.ok w.count, {})

/-- What the outcome of an addition of one means for the wake-up. -/
def wakeResult : CallOutcome Unit → Outcome Unit
  | .ok () => .ok ()
  | .error f => if f.isWouldBlock then .ok () else .error (f.toError "wake")

/-- Wakes; `fault?` is the failure that the system call meets, if it meets one. -/
def wake (fault? : Option Errno) (w : Waker) : Outcome Unit × Waker :=
  match fault? with
  | some code => (wakeResult (.error (.errno code)), w)
  | none =>
    let (outcome, w) := w.add 1
    (wakeResult outcome, w)

/-- A counter that is full counts as woken. -/
@[simp] theorem wake_none (w : Waker) : (w.wake none).1 = .ok () := by
  show wakeResult (w.add 1).1 = .ok ()
  unfold add
  split <;> rfl

/-- Takes wake-ups until none is left, with at most `calls` calls; gives the number of calls
that are left over. -/
def resetWithin : (calls : Nat) → Waker → Option Nat × Waker
  | 0, w => (none, w)
  | calls + 1, w =>
    match w.take with
    | (.ok _, w) => resetWithin calls w
    | (.error _, w) => (some calls, w)

/-- Takes all pending wake-ups. One call empties the counter, the next finds it empty. -/
def reset (w : Waker) : Waker := (w.resetWithin 2).2

@[simp] theorem reset_count (w : Waker) : w.reset.count = 0 := by
  unfold reset resetWithin take
  by_cases h : w.count = 0 <;> simp [h, resetWithin, take]

end Waker

namespace Host

/-- Creates a waker. -/
def createWaker (h : Host) : Outcome Waker × Host :=
  match h.takeFault .eventfd with
  | (some code, h) => (.error (.osCall "eventfd" code), h)
  | (none, h) => (.ok {}, h)

/-- Wakes. -/
def wake (w : Waker) (h : Host) : Outcome Unit × Waker × Host :=
  let (fault?, h) := h.takeFault .wake
  let (result, w) := w.wake fault?
  (result, w, h)

/-- The failure that a wait on a waker meets, past all interruptions. -/
def waitFault? (h : Host) : Option Errno × Host :=
  (h.skipInterruptions .pollWaker).takeFault .pollWaker

/-- Waits until woken or until the time is up, and tells which; no interruption ends it. -/
def wait (w : Waker) (h : Host) : Outcome Bool × Host :=
  match h.waitFault? with
  | (some code, h) => (.error (.osCall "poll" code), h)
  | (none, h) => (.ok w.isReady, h)

end Host

end SerialLine
