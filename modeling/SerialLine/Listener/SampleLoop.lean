import SerialLine.Listener.Kind

/-!
# SerialLine.Listener.SampleLoop — reporting the changes of a sampled value

Event listeners sample modem lines, presence watchers sample whether a path leads to something.
Both sleep on a waker between two samples and hand a sample to their callback when it differs
from the one before. The first sample is taken before the thread tells its starter that it is
armed, so a value that cannot be sampled fails the start. A wake-up takes no sample; it only
makes the thread look whether it was cancelled: an event listener looks as soon as it has taken
its wake-ups, and every sampling thread looks before it waits. The loop ends when it was, or when
a wait or a sample fails.
-/

namespace SerialLine.SampleLoop

/-- A point of the loop: what comes next. Most points remember the last sample. -/
inductive Point (α : Type) where
  /-- Create the waker. -/
  | creating
  /-- Take the first sample. -/
  | firstSample
  /-- Tell the starter that the waker is armed. -/
  | announcing (last : α)
  /-- Look whether the thread was cancelled. -/
  | head (last : α)
  /-- Enter the wait. -/
  | waiting (last : α)
  /-- Wait until woken or until the interval is over. -/
  | parked (last : α)
  /-- Take the wake-ups. -/
  | resetting (last : α)
  /-- Look again whether the thread was cancelled. -/
  | rechecking (last : α)
  /-- Take a sample. -/
  | sampling (last : α)
  /-- Hand a changed sample to the callback. -/
  | reporting (now : α)
  /-- Clear up. -/
  | leaving
  /-- The thread has ended. -/
  | gone
  /-- The thread has ended in a panic, at a stage of its life that nothing moves on. -/
  | dead (stage : Lifecycle)
deriving DecidableEq, Repr

variable {α : Type}

namespace Point

/-- The stage of life that others see. -/
def lifecycle : Point α → Lifecycle
  | creating | firstSample | announcing _ => .starting
  | leaving => .stopping
  | gone => .stopped
  | dead stage => stage
  | _ => .running

/-- Whether the thread has ended. -/
def hasEnded : Point α → Bool
  | gone | dead _ => true
  | _ => false

end Point

/-- After the attempt to create the waker. -/
def afterCreation : Outcome Unit → Point α
  | .ok () => .firstSample
  | .error _ => .gone

/-- After the first sample. -/
def afterFirst : Outcome α → Point α
  | .ok first => .announcing first
  | .error _ => .gone

/-- After a look whether the thread was cancelled. -/
def afterHead (cancelled : Bool) (last : α) : Point α :=
  if cancelled then .leaving else .waiting last

/-- After entering the wait, which may fail at once; an interruption starts it over. -/
def afterEntry (last : α) : Option Errno → Point α
  | none => .parked last
  | some code => if code = Errno.EINTR then .waiting last else .leaving

/-- After the wait, which was woken or whose interval is over. -/
def afterWait (woken : Bool) (last : α) : Point α :=
  if woken then .resetting last else .sampling last

/-- After the wake-ups were taken; only some loops look again right away. -/
def afterReset (rechecks : Bool) (last : α) : Point α :=
  if rechecks then .rechecking last else .head last

/-- After a second look whether the thread was cancelled. -/
def afterRecheck (cancelled : Bool) (last : α) : Point α :=
  if cancelled then .leaving else .head last

/-- After a sample. -/
def afterSample [DecidableEq α] (last : α) : Outcome α → Point α
  | .ok now => if now = last then .head last else .reporting now
  | .error _ => .leaving

end SerialLine.SampleLoop
