import SerialLine.Listener.DataLoop
import SerialLine.Listener.SampleLoop
import SerialLine.Listener.Registry
import SerialLine.Listener.Waker
import SerialLine.Host.Calls
import SerialLine.Transfer.Scripted
import SerialLine.Port

/-!
# SerialLine.Listener.Crew — listener threads on a host

A crew is a host with the threads that listen on it: data listeners, event listeners and
presence watchers. `Crew.step` lets one thread do the next thing in its loop, as long as nothing
holds it up; `Crew.elapse` lets the interval of a sleeping thread pass. Clients reach a thread
only through its waker, its cancellation flag, and the report that it sends when it is armed.

Callbacks and sources are the user's code: a call returns, panics, or blocks until it is let go.
-/

namespace SerialLine

/-- What a call of the user's code does other than return. -/
inductive Reaction where
  | panics | blocks
deriving DecidableEq, Repr

/-- A callback: the calls made so far, and which call does something else than return. -/
structure Callback where
  calls : Nat := 0
  special? : Option (Nat × Reaction) := none
deriving DecidableEq

/-- Calls a callback. -/
def Callback.call (c : Callback) : Callback × Option Reaction :=
  let calls := c.calls + 1
  ({ c with calls }, c.special?.bind fun s => if s.1 = calls then some s.2 else none)

/-- Where an event listener samples its lines. -/
structure LineSource where
  /-- A scripted device; the listener's own descriptor if there is none. -/
  script? : Option ScriptedDevice := none
  /-- What the first sample does other than return. -/
  onFirst? : Option Reaction := none

/-- What a thread runs. -/
inductive Body where
  | data (point : DataLoop.Point) (chunk : Nat) (gated : Bool)
  | event (point : SampleLoop.Point LineStatus) (source : LineSource)
  | watch (point : SampleLoop.Point Bool) (path : Path)

namespace Body

/-- The stage of life that others see. -/
def lifecycle : Body → Lifecycle
  | data point .. => point.lifecycle
  | event point _ => point.lifecycle
  | watch point _ => point.lifecycle

/-- Whether the thread has ended. -/
def hasEnded : Body → Bool
  | data point .. => point.hasEnded
  | event point _ => point.hasEnded
  | watch point _ => point.hasEnded

/-- Whether the thread has ended in a panic. -/
def hasPanicked : Body → Bool
  | data (.dead _) .. | event (.dead _) _ | watch (.dead _) _ => true
  | _ => false

/-- The kind of a listener's thread. -/
def kind? : Body → Option ListenerKind
  | data .. => some .data
  | event .. => some .event
  | watch .. => none

/-- The path that a watcher's thread looks at. -/
def path? : Body → Option Path
  | watch _ path => some path
  | _ => none

/-- The samples left in the script of an event listener that has one. -/
def samplesLeft : Body → Nat
  | event _ source => (source.script?.map (·.samples.length)).getD 0
  | _ => 0

/-- Adds samples to the script of an event listener that has one. -/
def feed (samples : List (Outcome LineStatus)) : Body → Body
  | event point source =>
    let longer (d : ScriptedDevice) : ScriptedDevice := { d with samples := d.samples ++ samples }
    event point { source with script? := source.script?.map longer }
  | body => body

end Body

/-- A thread. -/
structure Thread where
  fd : Fd
  body : Body
  intervalMs : Nat := 0
  callback : Callback := {}
  waker : Waker := {}
  cancelled : Bool := false
  /-- What the thread told its starter: that it is armed, or why it is not. -/
  reports : List (Outcome Unit) := []
  /-- Whether a call into the user's code has not returned yet. -/
  held : Bool := false

/-- What a callback was called with. -/
inductive Item where
  | bytes (bs : Bytes)
  | lines (s : LineStatus)
  | presence (present : Bool)
deriving DecidableEq

/-- A host with its threads. -/
structure Crew where
  host : Host := {}
  threads : List Thread := []
  /-- The gates of ports that data listeners share, by descriptor. -/
  gates : List (Fd × Gate) := []
  /-- Every call of a callback, the latest first. -/
  delivered : List (ThreadId × Item) := []

/-- What a wait for a descriptor finds. A descriptor below zero is never ready, one that is not
open counts as hung up. A socket can also be read at its end, where a pipe has only hung up. -/
def Host.readiness (h : Host) (fd : Fd) : Readiness :=
  if fd < 0 then {}
  else
    match h.endpoint? fd with
    | none => { hungUp := true }
    | some (.stream (some id) _ socket) =>
      let c := h.channel id
      { readable := !c.queued.isEmpty || (socket && !c.writerOpen)
        hungUp := !c.writerOpen }
    | some (.stream none (some id) _) => { hungUp := !(h.channel id).readerOpen }
    | some (.stream none none _) => {}
    | some (.terminal n) =>
      let t := h.pty n
      { readable := max 1 (t.block.char .vmin).toNat ≤ t.input.length }
    | some .null | some .file => { readable := true }

/-- The lines of a descriptor. -/
def Host.sampleLines (h : Host) (fd : Fd) : Outcome LineStatus × Host :=
  (Host.terminalCalls.lineStatus fd).run.run h

namespace Crew

/-- A thread by its number. -/
def thread? (c : Crew) (t : ThreadId) : Option Thread := c.threads[t]?

/-- Replaces a thread. -/
def setThread (t : ThreadId) (th : Thread) (c : Crew) : Crew :=
  { c with threads := c.threads.set t th }

/-- Changes a thread. -/
def editThread (t : ThreadId) (edit : Thread → Thread) (c : Crew) : Crew :=
  match c.thread? t with
  | some th => c.setThread t (edit th)
  | none => c

/-- Changes the host. -/
def mapHost (f : Host → Host) (c : Crew) : Crew := { c with host := f c.host }

/-- The latest thread that satisfies a condition. -/
def latest? (c : Crew) (accepts : Thread → Bool) : Option ThreadId :=
  (List.range c.threads.length).reverse.find? fun t => ((c.thread? t).map accepts).getD false

/-- The latest listener of a kind on a descriptor. -/
def listener? (c : Crew) (fd : Fd) (k : ListenerKind) : Option ThreadId :=
  c.latest? fun th => th.fd == fd && th.body.kind? == some k

/-- The latest watcher of a path. -/
def watcher? (c : Crew) (p : Path) : Option ThreadId :=
  c.latest? fun th => (th.body.path?.map p.same).getD false

/-- What callbacks were called with since there were `count` calls, in order, with the thread
that called. -/
def deliveredSince (c : Crew) (count : Nat) : List (Thread × Item) :=
  (c.delivered.take (c.delivered.length - count)).reverse.filterMap fun e =>
    (c.thread? e.1).map (·, e.2)

/-- The gate of a descriptor. -/
def gate (c : Crew) (fd : Fd) : Gate := (c.gates.lookup fd).getD {}

/-- Replaces the gate of a descriptor. -/
def setGate (fd : Fd) (g : Gate) (c : Crew) : Crew := { c with gates := Host.assign fd g c.gates }

/-! ## One step of a thread -/

/-- Calls the callback of a thread, which is at `returned` afterwards, or at `panicked`. -/
def deliver (t : ThreadId) (th : Thread) (item : Item) (returned panicked : Body) (c : Crew) :
    Crew :=
  let (callback, reaction?) := th.callback.call
  let th := { th with callback }
  let c := { c with delivered := (t, item) :: c.delivered }
  match reaction? with
  | none => c.setThread t { th with body := returned }
  | some .panics => c.setThread t { th with body := panicked }
  | some .blocks => c.setThread t { th with body := returned, held := true }

/-- The end of a read of a data listener. A gated one leaves the gate unless it reads again. -/
def endRead (t : ThreadId) (th : Thread) (chunk : Nat) (gated hungUp : Bool)
    (outcome : CallOutcome Bytes) (c : Crew) : Crew :=
  let point := DataLoop.afterRead hungUp outcome
  let g := c.gate th.fd
  let c := if gated && !point.holdsGate then c.setGate th.fd { g with readers := g.readers - 1 }
    else c
  c.setThread t { th with body := .data point chunk gated }

/-- The next thing that a data listener does; `none` while something holds it up. -/
def stepData (t : ThreadId) (th : Thread) (point : DataLoop.Point) (chunk : Nat) (gated : Bool)
    (c : Crew) : Option Crew :=
  let go (th : Thread) (point : DataLoop.Point) (c : Crew) : Option Crew :=
    some (c.setThread t { th with body := .data point chunk gated })
  match point with
  | .creating =>
    match c.host.createWaker with
    | (.ok waker, host) =>
      let point := if th.fd = -1 then .dead .starting else DataLoop.afterCreation (.ok ())
      go { th with waker } point { c with host }
    | (.error e, host) =>
      go { th with reports := th.reports ++ [.error e] } (DataLoop.afterCreation (.error e))
        { c with host }
  | .announcing => go { th with reports := th.reports ++ [.ok ()] } .head c
  | .head => go th (DataLoop.afterHead th.cancelled) c
  | .polling =>
    let (fault?, host) := c.host.takeFault .pollDescriptor
    go th (DataLoop.afterPoll fault?) { c with host }
  | .parked =>
    let r := { c.host.readiness th.fd with woken := th.waker.isReady }
    if r.any then go th (DataLoop.afterReport r) c else none
  | .resetting r => go { th with waker := th.waker.reset } (.rechecking r) c
  | .rechecking r => go th (DataLoop.afterRecheck th.cancelled r) c
  | .gating hungUp =>
    if !gated then go th (.reading hungUp) c
    else
      let g := c.gate th.fd
      if g.admitsReader then
        go th (.reading hungUp) (c.setGate th.fd { g with readers := g.readers + 1 })
      else none
  | .reading hungUp =>
    let (outcome, host) := c.host.readFd th.fd (DataLoop.readRoom chunk)
    some ({ c with host }.endRead t th chunk gated hungUp outcome)
  | .delivering bytes =>
    some (c.deliver t th (.bytes bytes) (.data .head chunk gated)
      (.data (.dead .running) chunk gated))
  | .leaving => go th .gone c
  | .gone | .dead _ => none

/-- Samples the lines of an event listener. -/
def sampleSource (fd : Fd) (source : LineSource) (host : Host) :
    Outcome LineStatus × LineSource × Host :=
  match source.script? with
  | some d =>
    let (outcome, d) := d.sampleLines
    (outcome, { source with script? := some d }, host)
  | none =>
    let (outcome, host) := host.sampleLines fd
    (outcome, source, host)

/-- The next thing that a sampling thread does, given how it samples, what it runs at a point
and whether it looks at its cancellation again after a wake-up; `none` while something holds it
up. -/
def stepSampler {α : Type} [DecidableEq α] (t : ThreadId) (th : Thread)
    (point : SampleLoop.Point α) (rechecks : Bool) (item : α → Item)
    (sample : Host → Outcome α × (SampleLoop.Point α → Body) × Host)
    (body : SampleLoop.Point α → Body) (c : Crew) : Option Crew :=
  let go (th : Thread) (point : SampleLoop.Point α) (c : Crew) : Option Crew :=
    some (c.setThread t { th with body := body point })
  match point with
  | .creating =>
    match c.host.createWaker with
    | (.ok waker, host) =>
      go { th with waker } (SampleLoop.afterCreation (.ok ())) { c with host }
    | (.error e, host) =>
      go { th with reports := th.reports ++ [.error e] } (SampleLoop.afterCreation (.error e))
        { c with host }
  | .firstSample =>
    let (outcome, body, host) := sample c.host
    let reports := match outcome with
      | .ok _ => th.reports
      | .error e => th.reports ++ [.error e]
    some ({ c with host }.setThread t
      { th with reports, body := body (SampleLoop.afterFirst outcome) })
  | .announcing last => go { th with reports := th.reports ++ [.ok ()] } (.head last) c
  | .head last => go th (SampleLoop.afterHead th.cancelled last) c
  | .waiting last =>
    let (fault?, host) := c.host.takeFault .pollWaker
    go th (SampleLoop.afterEntry last fault?) { c with host }
  | .parked last => if th.waker.isReady then go th (SampleLoop.afterWait true last) c else none
  | .resetting last =>
    go { th with waker := th.waker.reset } (SampleLoop.afterReset rechecks last) c
  | .rechecking last => go th (SampleLoop.afterRecheck th.cancelled last) c
  | .sampling last =>
    let (outcome, body, host) := sample c.host
    some ({ c with host }.setThread t
      { th with body := body (SampleLoop.afterSample last outcome) })
  | .reporting now =>
    some (c.deliver t th (item now) (body (.head now)) (body (.dead .running)))
  | .leaving => go th .gone c
  | .gone | .dead _ => none

/-- The next thing that an event listener does. The first sample may do something else than
return. -/
def stepEvent (t : ThreadId) (th : Thread) (point : SampleLoop.Point LineStatus)
    (source : LineSource) (c : Crew) : Option Crew :=
  match point, source.onFirst? with
  | .firstSample, some .panics =>
    some (c.setThread t { th with body := .event (.dead .starting) source })
  | .firstSample, some .blocks =>
    some (c.setThread t
      { th with body := .event .firstSample { source with onFirst? := none }, held := true })
  | _, _ =>
    c.stepSampler t th point true .lines
      (fun host =>
        let (outcome, source, host) := sampleSource th.fd source host
        (outcome, (.event · source), host))
      (.event · source)

/-- The next thing that a presence watcher does. -/
def stepWatch (t : ThreadId) (th : Thread) (point : SampleLoop.Point Bool) (path : Path)
    (c : Crew) : Option Crew :=
  c.stepSampler t th point false .presence
    (fun host => (.ok (host.devicePresent path), (.watch · path), host)) (.watch · path)

/-- Lets a thread do the next thing; `none` while something holds it up. -/
def step (t : ThreadId) (c : Crew) : Option Crew := do
  let th ← c.thread? t
  if th.held then none
  else
    match th.body with
    | .data point chunk gated => c.stepData t th point chunk gated
    | .event point source => c.stepEvent t th point source
    | .watch point path => c.stepWatch t th point path

/-- Lets the interval of a sleeping thread pass. -/
def elapse (t : ThreadId) (c : Crew) : Option Crew := do
  let th ← c.thread? t
  match th.body with
  | .event (.parked last) source =>
    some (c.setThread t { th with body := .event (SampleLoop.afterWait false last) source })
  | .watch (.parked last) path =>
    some (c.setThread t { th with body := .watch (SampleLoop.afterWait false last) path })
  | _ => none

/-- Lets the wait or the read that a thread is in fail, with nothing taken; an interruption is
one such failure. -/
def fail (t : ThreadId) (code : Errno) (c : Crew) : Option Crew := do
  let th ← c.thread? t
  match th.body with
  | .data .parked chunk gated =>
    some (c.setThread t { th with body := .data (DataLoop.afterPoll (some code)) chunk gated })
  | .data (.reading hungUp) chunk gated =>
    some (c.endRead t th chunk gated hungUp (.error (.errno code)))
  | .event (.parked last) source =>
    some (c.setThread t { th with body := .event (SampleLoop.afterEntry last (some code)) source })
  | .watch (.parked last) path =>
    some (c.setThread t { th with body := .watch (SampleLoop.afterEntry last (some code)) path })
  | _ => none

/-! ## What clients do to threads -/

/-- Creates a thread, unless the system refuses. -/
def spawn (th : Thread) (c : Crew) : Outcome ThreadId × Crew :=
  match c.host.takeFault .thread with
  | (some _, host) => (.error (.lifecycle "spawn"), { c with host })
  | (none, host) => (.ok c.threads.length, { c with host, threads := c.threads ++ [th] })

/-- Whether a thread has ended. -/
def hasEnded (c : Crew) (t : ThreadId) : Bool := ((c.thread? t).map (·.body.hasEnded)).getD true

/-- What a new thread reports. A thread that ends without a report has failed to start. -/
def report? (c : Crew) (t : ThreadId) : Option (Outcome Unit) :=
  match c.thread? t with
  | none => some (.error (.lifecycle "start"))
  | some th =>
    match th.reports with
    | r :: _ => some r
    | [] => if th.body.hasEnded then some (.error (.lifecycle "start")) else none

/-- How a thread ended, once it has. -/
def joined? (c : Crew) (t : ThreadId) : Option (Outcome Unit) :=
  match c.thread? t with
  | none => some (.ok ())
  | some th =>
    if !th.body.hasEnded then none
    else if th.body.hasPanicked then some (.error (.lifecycle "join"))
    else some (.ok ())

/-- Asks a thread to end. -/
def cancel (t : ThreadId) (c : Crew) : Crew := c.editThread t ({ · with cancelled := true })

/-- Wakes a thread. -/
def wake (t : ThreadId) (c : Crew) : Outcome Unit × Crew :=
  match c.thread? t with
  | none => (.ok (), c)
  | some th =>
    let (result, waker, host) := c.host.wake th.waker
    (result, { c with host }.setThread t { th with waker })

/-- Adds a wake-up that comes from nobody's call. -/
def poke (t : ThreadId) (c : Crew) : Crew :=
  c.editThread t fun th => { th with waker := (th.waker.add 1).2 }

/-- Lets a call into the user's code return. -/
def letGo (t : ThreadId) (c : Crew) : Crew := c.editThread t ({ · with held := false })

/-! ## Rest -/

/-- Whether the end of a thread's interval would change anything. -/
def changeDue (c : Crew) (th : Thread) : Bool :=
  match th.body with
  | .event (.parked last) source =>
    th.cancelled || c.host.hasFault .pollWaker ||
      match source.script? with
      | some d => !d.samples.isEmpty
      | none =>
        match (c.host.sampleLines th.fd).1 with
        | .ok now => now != last
        | .error _ => true
  | .watch (.parked last) path =>
    th.cancelled || c.host.hasFault .pollWaker || c.host.devicePresent path != last
  | _ => false

/-- One step of the first thread that can go on; where none can, the end of the first interval
of at most `patience` milliseconds that would change anything. -/
def stepAny (patience : Nat) (c : Crew) : Option Crew :=
  let ids := List.range c.threads.length
  match ids.findSome? (c.step ·) with
  | some c => some c
  | none => ids.findSome? fun t => do
    let th ← c.thread? t
    if th.intervalMs ≤ patience && !th.held && c.changeDue th then c.elapse t else none

/-- One step of the threads while a client waits for one of them. Where none can go on, the
client waits until the interval of the awaited thread is over, however long it is. -/
def stepAwaiting (awaited? : Option ThreadId) (c : Crew) : Option Crew :=
  match c.stepAny 0 with
  | some c => some c
  | none => awaited?.bind (c.elapse ·)

/-- Lets the threads go on until all are at rest, with at most `fuel` steps. -/
def settleWithin (patience : Nat) : (fuel : Nat) → Crew → Crew
  | 0, c => c
  | fuel + 1, c =>
    match c.stepAny patience with
    | some c => settleWithin patience fuel c
    | none => c

/-- The sum of a measure over a list. -/
def total {α : Type} (measure : α → Nat) (xs : List α) : Nat :=
  xs.foldl (fun n x => n + measure x) 0

/-- A bound on the steps until all threads are at rest: each byte, sample, fault and wake-up
takes a thread round its loop once at most. -/
def effort (c : Crew) : Nat :=
  let bytes := total (·.2.queued.length) c.host.channels + total (·.2.input.length) c.host.terminals
  let samples := total (·.body.samplesLeft) c.threads
  16 * (bytes + samples + (c.threads.length + 1) * (c.host.faults.length + 4))

/-- Lets the threads go on until all are at rest. Intervals longer than `patience` do not
pass. -/
def settle (patience : Nat) (c : Crew) : Crew := c.settleWithin patience c.effort

end Crew

end SerialLine
