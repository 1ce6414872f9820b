import SerialLine.Listener.Kind
import SerialLine.Transfer.Basic

/-!
# SerialLine.Listener.DataLoop — what a data listener does

A data listener waits until its descriptor can be read, has hung up, or its waker was woken. It
makes one read for each report that the descriptor can be read and hands the bytes to its
callback before it waits again. It ends when it finds itself cancelled, when its wait or its
read fails, or when a hung-up descriptor has nothing more to read.

The listener is a machine: a point in the loop, and one function for each kind of answer that
moves it on. What the answers are is up to the system that it runs in.
-/

namespace SerialLine

/-- What a wait on a descriptor and a waker reports. -/
structure Readiness where
  woken : Bool := false
  readable : Bool := false
  hungUp : Bool := false
deriving DecidableEq, Repr

/-- Whether there is something to report. -/
def Readiness.any (r : Readiness) : Bool := r.woken || r.readable || r.hungUp

namespace DataLoop

/-- A point of the loop: what comes next. -/
inductive Point where
  /-- Create the waker. -/
  | creating
  /-- Tell the starter that the waker is armed. -/
  | announcing
  /-- Look whether the listener was cancelled. -/
  | head
  /-- Enter the wait. -/
  | polling
  /-- Wait for a report. -/
  | parked
  /-- Take the wake-ups. -/
  | resetting (r : Readiness)
  /-- Look again whether the listener was cancelled. -/
  | rechecking (r : Readiness)
  /-- Join the readers at the gate. -/
  | gating (hungUp : Bool)
  /-- Read, as one of the readers at the gate. -/
  | reading (hungUp : Bool)
  /-- Hand bytes to the callback. -/
  | delivering (bytes : Bytes)
  /-- Clear up. -/
  | leaving
  /-- The thread has ended. -/
  | gone
  /-- The thread has ended in a panic, at a stage of its life that nothing moves on. -/
  | dead (stage : Lifecycle)
deriving DecidableEq, Repr

namespace Point

/-- The stage of life that others see. -/
def lifecycle : Point → Lifecycle
  | creating | announcing => .starting
  | leaving => .stopping
  | gone => .stopped
  | dead stage => stage
  | _ => .running

/-- Whether the thread has ended. -/
def hasEnded : Point → Bool
  | gone | dead _ => true
  | _ => false

/-- Whether the thread is one of the readers at its gate. -/
def holdsGate : Point → Bool
  | reading _ => true
  | _ => false

end Point

/-- After the attempt to create the waker. -/
def afterCreation : Outcome Unit → Point
  | .ok () => .announcing
  | .error _ => .gone

/-- After a look whether the listener was cancelled. -/
def afterHead (cancelled : Bool) : Point := if cancelled then .leaving else .polling

/-- After entering the wait, which may fail at once. An interruption starts it over. -/
def afterPoll : Option Errno → Point
  | none => .parked
  | some code => if code = Errno.EINTR then .head else .leaving

/-- What a report asks for, its wake-ups apart. -/
def serve (r : Readiness) : Point :=
  if r.readable then .gating r.hungUp else if r.hungUp then .leaving else .head

/-- After a report. -/
def afterReport (r : Readiness) : Point := if r.woken then .resetting r else serve r

/-- After the second look whether the listener was cancelled. -/
def afterRecheck (cancelled : Bool) (r : Readiness) : Point :=
  if cancelled then .leaving else serve r

/-- After a read. Only an interruption asks for another one right away. -/
def afterRead (hungUp : Bool) (outcome : CallOutcome Bytes) : Point :=
  match Transfer.afterSingle outcome with
  | .next () => .reading hungUp
  | .done (.ok []) => if hungUp then .leaving else .head
  | .done (.ok bytes) => .delivering bytes
  | .done (.error _) => .leaving

/-- The room of one read. -/
def readRoom (chunk : Nat) : Nat := min chunk readLimit

end DataLoop

end SerialLine
