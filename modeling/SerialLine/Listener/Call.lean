import SerialLine.Listener.Crew

/-!
# SerialLine.Listener.Call — what clients do to a registry

A call of a client is a sequence of atomic steps: critical sections on the registry, and single
steps on threads (create one, hear its report, cancel it, wake it, join it). `Call.step` does the
next of them; between two steps anything may happen. A call that waits for a thread has no next
step until the thread has reported or ended.
-/

namespace SerialLine

/-- A listener to start. -/
inductive Listener where
  | data (callback : Callback) (gated : Bool)
  | event (callback : Callback) (source : LineSource)

namespace Listener

/-- The kind of a listener. -/
def kind : Listener → ListenerKind
  | data .. => .data
  | event .. => .event

/-- Lets a data listener read as one of the readers at its descriptor's gate; event listeners
do not read. -/
def withGate : Listener → Listener
  | data callback _ => data callback true
  | l => l

/-- Lets an event listener sample a source of its own; data listeners do not sample. -/
def withSource (source : LineSource) : Listener → Listener
  | event callback _ => event callback source
  | l => l

/-- The listener as a structured value. -/
def structural : Listener → String
  | data _ gated => Text.openRecord "Listener::Data" [("gated", Text.truth gated)]
  | event _ source =>
    Text.openRecord "Listener::Event" [("custom_source", Text.truth source.script?.isSome)]

/-- The thread of a listener on a descriptor. -/
def thread (l : Listener) (fd : Fd) (settings : ListenerSettings) : Thread :=
  match l with
  | data callback gated => { fd, callback, body := .data .creating settings.chunk gated }
  | event callback source =>
    { fd, callback, body := .event .creating source, intervalMs := settings.intervalMs }

end Listener

/-- A registry with its threads. -/
structure Listening where
  crew : Crew := {}
  registry : Registry

/-- Where a client stands in a call. Calls on a listener answer with its slot. -/
inductive Call.Position where
  /-- About to take a seat for a descriptor. -/
  | registering (fd : Fd) (l : Listener)
  /-- About to take a seat on a slot. -/
  | starting (s : SlotId) (l : Listener)
  /-- About to create the thread of a seat that was taken. A slot is given back on failure if
  `giveBack` says so. -/
  | spawning (s : SlotId) (l : Listener) (giveBack : Bool)
  /-- About to hear the thread's report. -/
  | hearing (s : SlotId) (k : ListenerKind) (t : ThreadId) (giveBack : Bool)
  /-- About to join a thread that failed to start. -/
  | dismissing (s : SlotId) (k : ListenerKind) (t : ThreadId) (e : Error) (giveBack : Bool)
  /-- About to write the thread down on its seat. -/
  | recording (s : SlotId) (k : ListenerKind) (t : ThreadId)
  /-- About to free the seat after a failed start. -/
  | freeing (s : SlotId) (k : ListenerKind) (e : Error) (giveBack : Bool)
  /-- About to give the slot back after a failure. -/
  | givingBack (s : SlotId) (e : Error)
  /-- About to look a descriptor's slot up in order to stop a listener. -/
  | unregistering (fd : Fd) (k : ListenerKind)
  /-- About to take the thread off its seat. -/
  | stopping (s : SlotId) (k : ListenerKind)
  /-- About to ask the thread to end. -/
  | cancelling (s : SlotId) (k : ListenerKind) (t : ThreadId)
  /-- About to wake the thread. -/
  | waking (s : SlotId) (k : ListenerKind) (t : ThreadId)
  /-- About to put the thread back on its seat, since it could not be woken. -/
  | restoring (s : SlotId) (k : ListenerKind) (t : ThreadId) (e : Error)
  /-- About to join the thread. -/
  | joining (s : SlotId) (k : ListenerKind) (t : ThreadId)
  /-- About to free the seat of a joined thread. -/
  | clearing (s : SlotId) (k : ListenerKind) (result : Outcome Unit)
  /-- About to give the slot back after a stop. -/
  | reclaiming (s : SlotId) (result : Outcome Unit)
  | finished (result : Outcome SlotId)

namespace Call

/-- The answer of a finished call. -/
def Position.result? : Position → Option (Outcome SlotId)
  | .finished result => some result
  | _ => none

/-- The thread that a call waits for. -/
def Position.awaits? : Position → Option ThreadId
  | .hearing _ _ t _ | .dismissing _ _ t .. | .joining _ _ t => some t
  | _ => none

/-- The rest of a step that was one critical section on the registry. -/
def onRegistry (w : Listening) (p : Position) (r : Registry) : Option (Position × Listening) :=
  some (p, { w with registry := r })

/-- The next step of a call; `none` while it waits for a thread, and when it is finished. -/
def step (p : Position) (w : Listening) : Option (Position × Listening) :=
  let r := w.registry
  match p with
  | .registering fd l =>
    match r.reserveFor fd l.kind with
    | (.taken s, r) => onRegistry w (.spawning s l true) r
    | (.occupied s e, r) => onRegistry w (.givingBack s e) r
    | (.full e, r) => onRegistry w (.finished (.error e)) r
  | .starting s l =>
    match r.reserveOn s l.kind with
    | .ok r => onRegistry w (.spawning s l false) r
    | .error e => onRegistry w (.finished (.error e)) r
  | .spawning s l giveBack =>
    match w.crew.spawn (l.thread (r.fdOf s) r.settings) with
    | (.ok t, crew) => some (.hearing s l.kind t giveBack, { w with crew })
    | (.error e, crew) => some (.freeing s l.kind e giveBack, { w with crew })
  | .hearing s k t giveBack =>
    match w.crew.report? t with
    | some (.ok ()) => some (.recording s k t, w)
    | some (.error e) => some (.dismissing s k t e giveBack, w)
    | none => none
  | .dismissing s k t e giveBack =>
    if w.crew.hasEnded t then some (.freeing s k e giveBack, w) else none
  | .recording s k t => onRegistry w (.finished (.ok s)) (r.setSeat s k (.running t))
  | .freeing s k e giveBack =>
    onRegistry w (if giveBack then .givingBack s e else .finished (.error e)) (r.setSeat s k .idle)
  | .givingBack s e => onRegistry w (.finished (.error e)) (r.release s)
  | .unregistering fd k =>
    match r.slotOf? fd with
    | some s => some (.stopping s k, w)
    | none => some (.finished (.error (.notRegistered (k.key fd))), w)
  | .stopping s k =>
    match r.beginStop s k with
    | (.ok t, r) => onRegistry w (.cancelling s k t) r
    | (.error e, r) => onRegistry w (.finished (.error e)) r
  | .cancelling s k t => some (.waking s k t, { w with crew := w.crew.cancel t })
  | .waking s k t =>
    match w.crew.wake t with
    | (.ok (), crew) => some (.joining s k t, { w with crew })
    | (.error e, crew) => some (.restoring s k t e, { w with crew })
  | .restoring s k t e => onRegistry w (.finished (.error e)) (r.setSeat s k (.running t))
  | .joining s k t => (w.crew.joined? t).map fun result => (.clearing s k result, w)
  | .clearing s k result => onRegistry w (.reclaiming s result) (r.setSeat s k .idle)
  | .reclaiming s result => onRegistry w (.finished (result.map fun () => s)) (r.release s)
  | .finished _ => none

end Call

/-- Where a client stands in a shutdown: the listeners still to look at, and the stop of the one
at hand. Which of them come first is up to the registry. -/
structure Shutdown where
  todo : List (SlotId × ListenerKind)
  stop? : Option Call.Position := none

namespace Shutdown

/-- The start of a shutdown, which takes down what is in the table. -/
def ofRegistry (r : Registry) : Shutdown where
  todo := r.listeners

/-- Whether a shutdown is over. -/
def isFinished (d : Shutdown) : Bool := d.todo.isEmpty && d.stop?.isNone

/-- The next step of a shutdown. Failures to stop a listener are passed over. -/
def step (d : Shutdown) (w : Listening) : Option (Shutdown × Listening) :=
  match d.stop? with
  | some p =>
    match p.result? with
    | some _ => some ({ d with stop? := none }, w)
    | none => (Call.step p w).map fun (p, w) => ({ d with stop? := some p }, w)
  | none =>
    match d.todo with
    | [] => none
    | (s, k) :: todo =>
      some ({ todo, stop? := if w.registry.isActive s k then some (.stopping s k) else none }, w)

end Shutdown

namespace Listening

/-- Changes the crew. -/
def mapCrew (f : Crew → Crew) (w : Listening) : Listening := { w with crew := f w.crew }

/-- Changes the registry. -/
def mapRegistry (f : Registry → Registry) (w : Listening) : Listening :=
  { w with registry := f w.registry }

/-! ## Calls without interleaving -/

/-- Lets a call go on, with at most `fuel` steps of its own and of the threads that it waits
for. A call that waits for a thread at rest stays where it is. -/
def driveWithin : (fuel : Nat) → Call.Position → Listening → Call.Position × Listening
  | 0, p, w => (p, w)
  | fuel + 1, p, w =>
    match p.result? with
    | some _ => (p, w)
    | none =>
      match Call.step p w with
      | some (p, w) => driveWithin fuel p w
      | none =>
        match w.crew.stepAwaiting p.awaits? with
        | some crew => driveWithin fuel p { w with crew }
        | none => (p, w)

/-- Lets a call go on as far as it gets. A call has fewer than sixteen steps of its own. -/
def drive (p : Call.Position) (w : Listening) : Call.Position × Listening :=
  w.driveWithin (w.crew.effort + 128) p

/-- Lets a shutdown go on, with at most `fuel` steps. -/
def shutdownWithin : (fuel : Nat) → Shutdown → Listening → Listening
  | 0, _, w => w
  | fuel + 1, d, w =>
    match d.step w with
    | some (d, w) => shutdownWithin fuel d w
    | none =>
      if d.isFinished then w
      else
        match w.crew.stepAwaiting (d.stop?.bind (·.awaits?)) with
        | some crew => shutdownWithin fuel d { w with crew }
        | none => w

/-- Stops every listener. -/
def shutdown (w : Listening) : Listening :=
  let d := Shutdown.ofRegistry w.registry
  w.shutdownWithin (w.crew.effort + 32 * (d.todo.length + 4)) d

/-- The lifecycle of the listener of a kind on a slot. -/
def lifecycle? (w : Listening) (s : SlotId) (k : ListenerKind) : Option Lifecycle :=
  match w.registry.seat s k with
  | .idle => none
  | .starting => some .starting
  | .stopping => some .stopping
  | .running t => (w.crew.thread? t).map (·.body.lifecycle)

/-- A slot as a structured value. -/
def slotStructural (w : Listening) (s : SlotId) : String :=
  let stage (k : ListenerKind) : String := Text.optional ((w.lifecycle? s k).map Lifecycle.label)
  Text.record "Slot"
    [("fd", toString (w.registry.fdOf s)), ("data", stage .data), ("event", stage .event)]

/-- Lets the threads go on until all are at rest. -/
def settle (patience : Nat) (w : Listening) : Listening :=
  w.mapCrew (·.settle patience)

end Listening

end SerialLine
