import SerialLine.Monitor.Basic
import SerialLine.Listener.Crew

/-!
# SerialLine.Monitor.Call — what clients do to a monitor

A call of a client is a sequence of atomic steps: critical sections on the table of watched
paths, and single steps on the watchers' threads. `Watch.step` does the next of them; between
two steps anything may happen. A call that waits for a thread has no next step until the thread
has reported or ended.
-/

namespace SerialLine

/-- A monitor with its threads. -/
structure Watching where
  crew : Crew := {}
  monitor : Monitor

/-- Where a client stands in a call. -/
inductive Watch.Position where
  /-- About to put a placeholder. `stalled` holds the new thread up before it does anything. -/
  | reserving (p : Path) (descriptor : Fd) (callback : Callback) (stalled : Bool)
  /-- About to create the thread. -/
  | spawning (p : Path) (descriptor : Fd) (callback : Callback) (stalled : Bool)
  /-- About to hear the thread's report. -/
  | hearing (p : Path) (descriptor : Fd) (t : ThreadId)
  /-- About to join a thread that failed to start. -/
  | dismissing (p : Path) (t : ThreadId) (e : Error)
  /-- About to write the watcher down. -/
  | recording (p : Path) (w : Watcher)
  /-- About to take the placeholder away after a failed start. -/
  | forgetting (p : Path) (e : Error)
  /-- About to take the watcher of a path out of the table. -/
  | taking (p : Path)
  /-- About to ask the thread to end. -/
  | cancelling (t : ThreadId)
  /-- About to wake the thread. -/
  | waking (t : ThreadId)
  /-- About to join the thread. -/
  | joining (t : ThreadId)
  | finished (result : Outcome Unit)

namespace Watch

/-- The answer of a finished call. -/
def Position.result? : Position → Option (Outcome Unit)
  | .finished result => some result
  | _ => none

/-- The thread that a call waits for. -/
def Position.awaits? : Position → Option ThreadId
  | .hearing _ _ t | .dismissing _ t _ | .joining t => some t
  | _ => none

/-- The thread of a watcher. -/
def thread (p : Path) (descriptor : Fd) (callback : Callback) (intervalMs : Nat)
    (stalled : Bool) : Thread :=
  { fd := descriptor, callback, intervalMs, body := .watch .creating p, held := stalled }

/-- The next step of a call; `none` while it waits for a thread, and when it is finished. -/
def step (position : Position) (w : Watching) : Option (Position × Watching) :=
  match position with
  | .reserving p descriptor callback stalled =>
    match w.monitor.reserve p with
    | .ok monitor => some (.spawning p descriptor callback stalled, { w with monitor })
    | .error e => some (.finished (.error e), w)
  | .spawning p descriptor callback stalled =>
    match w.crew.spawn (thread p descriptor callback w.monitor.intervalMs stalled) with
    | (.ok t, crew) => some (.hearing p descriptor t, { w with crew })
    | (.error e, crew) => some (.forgetting p e, { w with crew })
  | .hearing p descriptor t =>
    match w.crew.report? t with
    | some (.ok ()) => some (.recording p { descriptor, thread := t }, w)
    | some (.error e) => some (.dismissing p t e, w)
    | none => none
  | .dismissing p t e => if w.crew.hasEnded t then some (.forgetting p e, w) else none
  | .recording p watcher =>
    some (.finished (.ok ()), { w with monitor := w.monitor.record p watcher })
  | .forgetting p e => some (.finished (.error e), { w with monitor := w.monitor.forget p })
  | .taking p =>
    match w.monitor.take p with
    | (.ok watcher, monitor) => some (.cancelling watcher.thread, { w with monitor })
    | (.error e, monitor) => some (.finished (.error e), { w with monitor })
  | .cancelling t => some (.waking t, { w with crew := w.crew.cancel t })
  | .waking t =>
    match w.crew.wake t with
    | (.ok (), crew) => some (.joining t, { w with crew })
    | (.error e, crew) => some (.finished (.error e), { w with crew })
  | .joining t => (w.crew.joined? t).map fun result => (.finished result, w)
  | .finished _ => none

/-- Where a client stands in a shutdown: the watchers still to stop, and the stop of the one at
hand. All of them have left the table. Which of them come first is up to the monitor. -/
structure Shutdown where
  todo : List Watcher
  stop? : Option Position := none

namespace Shutdown

/-- Whether a shutdown is over. -/
def isFinished (d : Shutdown) : Bool := d.todo.isEmpty && d.stop?.isNone

/-- The next step of a shutdown. Failures to stop a watcher are passed over. -/
def step (d : Shutdown) (w : Watching) : Option (Shutdown × Watching) :=
  match d.stop? with
  | some p =>
    match p.result? with
    | some _ => some ({ d with stop? := none }, w)
    | none => (Watch.step p w).map fun (p, w) => ({ d with stop? := some p }, w)
  | none =>
    match d.todo with
    | [] => none
    | watcher :: todo => some ({ todo, stop? := some (.cancelling watcher.thread) }, w)

end Shutdown

end Watch

namespace Watching

/-- Changes the crew. -/
def mapCrew (f : Crew → Crew) (w : Watching) : Watching := { w with crew := f w.crew }

/-! ## Calls without interleaving -/

/-- Lets a call go on, with at most `fuel` steps of its own and of the threads that it waits
for. A call that waits for a thread at rest stays where it is. -/
def driveWithin : (fuel : Nat) → Watch.Position → Watching → Watch.Position × Watching
  | 0, p, w => (p, w)
  | fuel + 1, p, w =>
    match p.result? with
    | some _ => (p, w)
    | none =>
      match Watch.step p w with
      | some (p, w) => driveWithin fuel p w
      | none =>
        match w.crew.stepAwaiting p.awaits? with
        | some crew => driveWithin fuel p { w with crew }
        | none => (p, w)

/-- Lets a call go on as far as it gets. A call has fewer than eight steps of its own. -/
def drive (p : Watch.Position) (w : Watching) : Watch.Position × Watching :=
  w.driveWithin (w.crew.effort + 128) p

/-- Lets a shutdown go on, with at most `fuel` steps. -/
def shutdownWithin : (fuel : Nat) → Watch.Shutdown → Watching → Watching
  | 0, _, w => w
  | fuel + 1, d, w =>
    match d.step w with
    | some (d, w) => shutdownWithin fuel d w
    | none =>
      if d.isFinished then w
      else
        match w.crew.stepAwaiting (d.stop?.bind (·.awaits?)) with
        | some crew => shutdownWithin fuel d { w with crew }
        | none => w

/-- Stops every watcher. All of them leave the table at once. -/
def shutdown (w : Watching) : Watching :=
  let (todo, monitor) := w.monitor.takeAll
  { w with monitor }.shutdownWithin (w.crew.effort + 32 * (todo.length + 4)) { todo }

/-- Lets the threads go on until all are at rest. -/
def settle (patience : Nat) (w : Watching) : Watching :=
  w.mapCrew (·.settle patience)

end Watching

end SerialLine
