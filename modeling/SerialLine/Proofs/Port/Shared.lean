import SerialLine.Proofs.Listener.Dealings
import SerialLine.Proofs.Listener.Gate
import SerialLine.Proofs.Listener.WakeUp
import SerialLine.Proofs.Port.Client

/-!
# SerialLine.Proofs.Port.Shared — any number of users of one port

`SharedPort` is a port with any number of clients that change its settings or read from it, each of
them one system call at a time, and with the threads that listen on it. Its terminal keeps of a
block what `keep` says. `SharedPort.act?` is a step of whoever goes next, and `Reachable` collects
what any order of such steps leads to.

Two things are kept beside the system itself, and no step depends on them: the changes in the order
in which they were let in at the gate, and the notes of who joined the readers, read, and wrote.

`SharedPort.act_move` says once what a step does: a client gets the gate alone, makes a call while
it has it, or gives it back, and everything else is at most a visit to the readers.
-/

namespace SerialLine

/-! ## The system -/

/-- A client of a port, with the faults that its changes meet. -/
structure PortClient where
  stage : PortStage
  faults : List (SystemCall × Errno) := []

/-- Who may be one of the readers at the gate of a port. -/
inductive PortUser where
  | client (i : Nat)
  | thread (t : ThreadId)
deriving DecidableEq

/-- What is noted of the users of a port. -/
inductive PortNote where
  /-- Somebody has joined the readers. -/
  | entered (who : PortUser)
  /-- One of the readers has read. -/
  | read (who : PortUser)
  /-- A client has stored a block, or discarded what was queued, for a change of its own. -/
  | wrote (i : Nat)
deriving DecidableEq

/-- A change that was let in at the gate, with the faults that it meets. -/
structure PortChange where
  client : Nat
  change : Reconfiguration
  faults : List (SystemCall × Errno)

/-- A port with its clients, and the threads that listen on it. -/
structure SharedPort where
  crew : Crew
  clients : List PortClient := []
  /-- The client that has the gate alone. -/
  writer? : Option Nat := none
  /-- The changes that were let in at the gate, the latest first. -/
  changes : List PortChange := []
  /-- What was noted so far, the latest first. -/
  notes : List PortNote := []

namespace SharedPort

/-- A step of somebody. -/
inductive Action where
  /-- A client begins a call, whose changes will meet faults. -/
  | begin (stage : PortStage) (faults : List (SystemCall × Errno))
  /-- A client goes on. -/
  | proceed (i : Nat)
  /-- The read that a client is in fails. -/
  | fail (i : Nat) (code : Errno)
  /-- A thread is created. -/
  | spawn (th : Thread)
  /-- Something happens to a thread. -/
  | thread (e : Crew.Event)
  /-- Somebody cancels a thread. -/
  | cancel (t : ThreadId)
  /-- Somebody wakes a thread. -/
  | wake (t : ThreadId)
  /-- Something else happens on the host. -/
  | outside (host : Host)

/-- A port on a host, without clients and threads. -/
def start (host : Host) : SharedPort where
  crew := { host }

variable (keep : ControlBlock → ControlBlock) (p : Port)

/-- The gate of the port. -/
def gate (s : SharedPort) : Gate := s.crew.gate p.fd

/-- The port with its gate as it becomes. -/
def setGate (g : Gate) (s : SharedPort) : SharedPort := { s with crew := s.crew.setGate p.fd g }

/-- Replaces a client. -/
def setClient (i : Nat) (c : PortClient) (s : SharedPort) : SharedPort :=
  { s with clients := s.clients.set i c }

/-- A client gets the gate alone, in order to make a change. -/
def letIn (i : Nat) (r : Reconfiguration) (faults : List (SystemCall × Errno)) (s : SharedPort) :
    SharedPort :=
  let s := (s.setGate p { s.gate p with writer := true }).setClient i ⟨.fetching r, faults⟩
  { s with writer? := some i, changes := ⟨i, r, faults⟩ :: s.changes }

/-- A client that has the gate alone makes its next call. -/
def turn (i : Nat) (c : PortClient) (s : SharedPort) : SharedPort :=
  let r := s.crew.host.facing c.faults (c.stage.turn (Host.lineCalls keep) p)
  let notes := if c.stage.isChanging then .wrote i :: s.notes else s.notes
  { s.setClient i ⟨r.1.1, r.1.2⟩ with crew := { s.crew with host := r.2 }, notes }

/-- A client gives the gate back. -/
def letOut (i : Nat) (c : PortClient) (result : Outcome Unit) (s : SharedPort) : SharedPort :=
  let s := (s.setGate p { s.gate p with writer := false }).setClient i
    { c with stage := .changed result }
  { s with writer? := none }

/-- A client joins the readers. -/
def join (i : Nat) (c : PortClient) (max : Nat) (s : SharedPort) : SharedPort :=
  let g := s.gate p
  let s := (s.setGate p { g with readers := g.readers + 1 }).setClient i
    { c with stage := .ofGathering ⟨[], min max readLimit⟩ }
  { s with notes := .entered (.client i) :: s.notes }

/-- The end of a read of a client. -/
def endRead (i : Nat) (c : PortClient) (g : Transfer.Gathering) (outcome : CallOutcome Bytes)
    (host : Host) (s : SharedPort) : SharedPort :=
  { s.setClient i { c with stage := .afterRead g outcome } with
    crew := { s.crew with host }
    notes := .read (.client i) :: s.notes }

/-- A client leaves the readers. -/
def leave (i : Nat) (c : PortClient) (result : Outcome Bytes) (s : SharedPort) : SharedPort :=
  let g := s.gate p
  (s.setGate p { g with readers := g.readers - 1 }).setClient i { c with stage := .got result }

/-- The next step of a client; `none` while the gate does not admit it, and when it is done. -/
def proceed? (i : Nat) (c : PortClient) (s : SharedPort) : Option SharedPort :=
  match c.stage with
  | .asking r =>
    match r.checkOutside with
    | .error e => some (s.setClient i { c with stage := .refused e })
    | .ok () => if (s.gate p).admitsWriter then some (s.letIn p i r c.faults) else none
  | .fetching _ | .storing .. | .settling _ => some (s.turn keep p i c)
  | .unlocking result => some (s.letOut p i c result)
  | .arriving max => if (s.gate p).admitsReader then some (s.join p i c max) else none
  | .reading g =>
    let r := ((Host.lineCalls keep).device p.fd).read g.room s.crew.host
    some (s.endRead i c g r.1 r.2)
  | .leaving result => some (s.leave p i c result)
  | .changed _ | .refused _ | .got _ => none

/-- The notes after something has happened to a thread. A thread that is one of the readers reads
in each of its steps, unless its read fails. -/
def threadNotes (e : Crew.Event) (crew : Crew) (s : SharedPort) : List PortNote :=
  match s.crew.drains e.thread p.fd, crew.drains e.thread p.fd with
  | true, _ => if e.isStep then .read (.thread e.thread) :: s.notes else s.notes
  | false, true => .entered (.thread e.thread) :: s.notes
  | false, false => s.notes

/-- What there is after a step; `none` if the step cannot be taken. What else happens on the host
leaves the terminal behind the port as it is, but for its queues. -/
def act? (s : SharedPort) : Action → Option SharedPort
  | .begin stage faults =>
    if stage.isEntry then some { s with clients := s.clients ++ [⟨stage, faults⟩] } else none
  | .proceed i => (s.clients[i]?).bind fun c => s.proceed? keep p i c
  | .fail i code => do
    let c ← s.clients[i]?
    match c.stage with
    | .reading g => some (s.endRead i c g (.error (.errno code)) s.crew.host)
    | _ => none
  | .spawn th => if th.isFresh then some { s with crew := (s.crew.spawn th).2 } else none
  | .thread e =>
    (s.crew.after? e).map fun crew => { s with crew, notes := s.threadNotes p e crew }
  | .cancel t => some { s with crew := s.crew.cancel t }
  | .wake t => some { s with crew := (s.crew.wake t).2 }
  | .outside host =>
    if host.endpoint? p.fd = s.crew.host.endpoint? p.fd ∧
        host.lineBlock p.fd = s.crew.host.lineBlock p.fd then
      some { s with crew := { s.crew with host } }
    else none

/-- What there is after several steps. -/
def run? (s : SharedPort) (actions : List Action) : Option SharedPort :=
  actions.foldlM (act? keep p) s

/-- What any order of steps leads to, from a port on a host. -/
inductive Reachable (host : Host) : SharedPort → Prop where
  | start : Reachable host (start host)
  | act {s s' : SharedPort} (a : Action) (h : Reachable host s) (ha : s.act? keep p a = some s') :
    Reachable host s'

theorem Reachable.run {host : Host} {actions : List Action} {s s' : SharedPort}
    (h : Reachable keep p host s) (hrun : s.run? keep p actions = some s') :
    Reachable keep p host s' :=
  run_keeps (fun a _ _ _ hs ha => hs.act a ha) h hrun

/-! ## Who is where -/

/-- Whether somebody is one of the readers. -/
def isInside (s : SharedPort) : PortUser → Bool
  | .client i => s.clients[i]?.any (·.stage.isReading)
  | .thread t => s.crew.drains t p.fd

/-- The number of readers, as their places tell it. -/
def insiders (s : SharedPort) : Nat :=
  s.clients.countP (·.stage.isReading) + s.crew.threads.countP (·.drains p.fd)

/-- A client that has the gate alone. -/
def writing (s : SharedPort) (i : Nat) : Option PortClient :=
  s.clients[i]?.filter (·.stage.isWriting)

/-- Whether a client has or had the gate alone. -/
def wasLetIn (s : SharedPort) (i : Nat) : Bool := s.clients[i]?.any (·.stage.wasLetIn)

/-! ## What a step does -/

/-- What is noted of a visit to the readers: that somebody joined them, or has read as one. -/
def Noted (who : PortUser) (inside inside' : Bool) (notes notes' : List PortNote) : Prop :=
  (notes' = notes ∧ (inside' = true → inside = true)) ∨ notes' = .entered who :: notes ∨
    (inside = true ∧ notes' = .read who :: notes)

/-- A step of somebody who neither has the gate alone nor gets it. -/
structure Visits (who : PortUser) (s s' : SharedPort) : Prop where
  pass : Gate.Pass (s.gate p) (s.isInside p who) (s'.isInside p who) (s'.gate p)
  others : ∀ who', who' ≠ who → s'.isInside p who' = s.isInside p who'
  count : s'.insiders p + (s.isInside p who).toNat = s.insiders p + (s'.isInside p who).toNat
  writing : s'.writing = s.writing
  letIn : s'.wasLetIn = s.wasLetIn
  writer : s'.writer? = s.writer?
  changes : s'.changes = s.changes
  line : s.crew.host.Alike p.fd s'.crew.host
  notes : Noted who (s.isInside p who) (s'.isInside p who) s.notes s'.notes

/-- What a step does. -/
inductive Move (s : SharedPort) : SharedPort → Prop where
  | visited {s' : SharedPort} (who : PortUser) (h : s.Visits p who s') : Move s s'
  | letIn {i : Nat} {r : Reconfiguration} {faults : List (SystemCall × Errno)}
    (hc : s.clients[i]? = some ⟨.asking r, faults⟩) (hfree : (s.gate p).admitsWriter = true) :
    Move s (s.letIn p i r faults)
  | turned {i : Nat} {c : PortClient} (hc : s.clients[i]? = some c)
    (hw : c.stage.isWriting = true) : Move s (s.turn keep p i c)
  | letOut {i : Nat} {c : PortClient} {result : Outcome Unit} (hc : s.clients[i]? = some c)
    (hw : c.stage = .unlocking result) : Move s (s.letOut p i c result)

variable {keep p} {host : Host} {s s' : SharedPort} {i : Nat} {c c' : PortClient}

@[simp] theorem gate_setGate (g : Gate) (s : SharedPort) : (s.setGate p g).gate p = g :=
  Crew.gate_setGate_self p.fd g s.crew

/-! ### One client -/

/-- One client is elsewhere, and the threads are where they were. -/
structure Goes (i : Nat) (c c' : PortClient) (s s' : SharedPort) : Prop where
  client : s.clients[i]? = some c
  clients : s'.clients = s.clients.set i c'
  threads : s'.crew.threads = s.crew.threads

namespace Goes

theorem writing (h : Goes i c c' s s') :
    s'.writing = Function.update s.writing i ((some c').filter (·.stage.isWriting)) := by
  unfold SharedPort.writing
  rw [h.clients]
  let view (c? : Option PortClient) : Option PortClient := c?.filter (·.stage.isWriting)
  exact getElem?_set_update view h.client c'

/-- A client that stays without the gate leaves it to those who have it. -/
theorem writing_same (h : Goes i c c' s s') (hc : c.stage.isWriting = false)
    (hc' : c'.stage.isWriting = false) : s'.writing = s.writing := by
  have hold : s.writing i = none := by
    rw [SharedPort.writing, h.client]
    simp [hc]
  have hnew : (some c').filter (·.stage.isWriting) = none := by simp [hc']
  rw [h.writing, hnew, ← hold, Function.update_eq_self]

theorem wasLetIn (h : Goes i c c' s s') :
    s'.wasLetIn = Function.update s.wasLetIn i c'.stage.wasLetIn := by
  unfold SharedPort.wasLetIn
  rw [h.clients]
  let view (c? : Option PortClient) : Bool := c?.any (·.stage.wasLetIn)
  exact getElem?_set_update view h.client c'

theorem wasLetIn_same (h : Goes i c c' s s') (hc : c'.stage.wasLetIn = c.stage.wasLetIn) :
    s'.wasLetIn = s.wasLetIn := by
  have hold : s.wasLetIn i = c.stage.wasLetIn := by
    rw [SharedPort.wasLetIn, h.client, Option.any_some]
  rw [h.wasLetIn, hc, ← hold, Function.update_eq_self]

theorem inside_self (h : Goes i c c' s s') :
    s.isInside p (.client i) = c.stage.isReading ∧
      s'.isInside p (.client i) = c'.stage.isReading := by
  have hlt := (List.getElem?_eq_some_iff.mp h.client).1
  rw [isInside, isInside, h.client, h.clients, List.getElem?_set_self hlt]
  exact ⟨rfl, rfl⟩

theorem inside_other (h : Goes i c c' s s') {who : PortUser} (hne : who ≠ .client i) :
    s'.isInside p who = s.isInside p who := by
  cases who with
  | client j =>
    have hji : i ≠ j := by
      rintro rfl
      exact hne rfl
    rw [isInside, isInside, h.clients, List.getElem?_set_ne hji]
  | thread t =>
    rw [isInside, isInside, Crew.drains, Crew.drains, Crew.thread?, Crew.thread?, h.threads]

theorem count (h : Goes i c c' s s') :
    s'.insiders p + c.stage.isReading.toNat = s.insiders p + c'.stage.isReading.toNat := by
  have hcount := countP_set (p := fun c : PortClient => c.stage.isReading) (a := c') h.client
  rw [insiders, insiders, h.clients, h.threads]
  omega

/-- Where a client goes that is none of the readers, and does not become one, they stay who they
are. -/
theorem insiders_same (h : Goes i c c' s s') (hc : c.stage.isReading = false)
    (hc' : c'.stage.isReading = false) :
    s'.isInside p = s.isInside p ∧ s'.insiders p = s.insiders p := by
  constructor
  · funext who
    by_cases hwho : who = .client i
    · obtain ⟨hold, hnew⟩ := h.inside_self (p := p)
      rw [hwho, hold, hnew, hc, hc']
    · exact h.inside_other hwho
  · simpa [hc, hc'] using h.count (p := p)

end Goes

/-- A client that has nothing to do with the gate alone visits the readers, or stays outside. -/
theorem Goes.visits (h : Goes i c c' s s') (hc : c.stage.wasLetIn = false)
    (hc' : c'.stage.wasLetIn = false)
    (hpass : Gate.Pass (s.gate p) c.stage.isReading c'.stage.isReading (s'.gate p))
    (hwriter : s'.writer? = s.writer?) (hchanges : s'.changes = s.changes)
    (hline : s.crew.host.Alike p.fd s'.crew.host)
    (hnotes : Noted (.client i) c.stage.isReading c'.stage.isReading s.notes s'.notes) :
    s.Visits p (.client i) s' := by
  obtain ⟨hold, hnew⟩ := h.inside_self (p := p)
  constructor
  case pass =>
    rwa [hold, hnew]
  case others =>
    exact fun who hne => h.inside_other hne
  case count =>
    rw [hold, hnew]
    exact h.count
  case writing =>
    exact h.writing_same (PortStage.not_writing_of_not_letIn hc)
      (PortStage.not_writing_of_not_letIn hc')
  case letIn =>
    exact h.wasLetIn_same (hc'.trans hc.symm)
  case writer =>
    exact hwriter
  case changes =>
    exact hchanges
  case line =>
    exact hline
  case notes =>
    rwa [hold, hnew]

/-! ### Everybody else -/

/-- Where nobody goes anywhere, nobody visits the readers. -/
theorem visits_still (hinside : s'.isInside p = s.isInside p)
    (hcount : s'.insiders p = s.insiders p) (hwriting : s'.writing = s.writing)
    (hletIn : s'.wasLetIn = s.wasLetIn) (hgate : s'.gate p = s.gate p)
    (hwriter : s'.writer? = s.writer?) (hchanges : s'.changes = s.changes)
    (hline : s.crew.host.Alike p.fd s'.crew.host) (hnotes : s'.notes = s.notes) :
    s.Visits p (.client 0) s' where
  pass := by
    rw [hinside, hgate]
    exact .stayed
  others _ _ := by rw [hinside]
  count := by rw [hinside, hcount]
  writing := hwriting
  letIn := hletIn
  writer := hwriter
  changes := hchanges
  line := hline
  notes := Or.inl ⟨hnotes, fun hin => by rwa [hinside] at hin⟩

/-- A thread that passes its gate visits the readers, or stays where it is. -/
theorem visits_thread {t : ThreadId} {crew : Crew} {notes : List PortNote}
    (h : s.crew.PassesAt t crew) (hline : s.crew.host.Alike p.fd crew.host)
    (hnotes : Noted (.thread t) (s.crew.drains t p.fd) (crew.drains t p.fd) s.notes notes) :
    s.Visits p (.thread t) { s with crew, notes } := by
  obtain ⟨th, th', ht, hset, hpass⟩ := h
  have hold : s.crew.drains t p.fd = th.drains p.fd := by rw [Crew.drains, ht, Option.any_some]
  have hnew : crew.drains t p.fd = th'.drains p.fd := by
    rw [Crew.drains, Crew.thread?_set_self ht hset, Option.any_some]
  constructor
  case pass =>
    show Gate.Pass (s.crew.gate p.fd) (s.crew.drains t p.fd) (crew.drains t p.fd) (crew.gate p.fd)
    rw [hold, hnew]
    exact hpass p.fd
  case others =>
    intro who hne
    cases who with
    | client j => rfl
    | thread u =>
      have hut : u ≠ t := by
        rintro rfl
        exact hne rfl
      show crew.drains u p.fd = s.crew.drains u p.fd
      rw [Crew.drains, Crew.drains, Crew.thread?_set_ne hset hut]
  case count =>
    have hcount := countP_set (p := fun th : Thread => th.drains p.fd) (a := th') ht
    show s.clients.countP _ + crew.threads.countP _ + (s.crew.drains t p.fd).toNat =
      s.clients.countP _ + s.crew.threads.countP _ + (crew.drains t p.fd).toNat
    rw [hold, hnew, hset]
    omega
  case writing =>
    rfl
  case letIn =>
    rfl
  case writer =>
    rfl
  case changes =>
    rfl
  case line =>
    exact hline
  case notes =>
    exact hnotes

/-- A thread that was just created is none of the readers. -/
theorem not_drains_of_fresh {th : Thread} (h : th.isFresh = true) (fd : Fd) :
    th.drains fd = false := by
  unfold Thread.isFresh at h
  unfold Thread.drains
  cases hb : th.body with
  | data point chunk gated =>
    cases point with
    | creating => simp [DataLoop.Point.holdsGate]
    | _ => simp [hb, Body.isCreating] at h
  | event point source => simp
  | watch point path => simp

/-- A client that begins a call is outside. -/
theorem begin_visits {stage : PortStage} (h : stage.isEntry = true)
    (faults : List (SystemCall × Errno)) :
    s.Visits p (.client 0) { s with clients := s.clients ++ [⟨stage, faults⟩] } := by
  obtain ⟨hreading, hletIn⟩ : stage.isReading = false ∧ stage.wasLetIn = false := by
    cases stage with
    | asking r | arriving max => exact ⟨rfl, rfl⟩
    | _ => cases h
  refine visits_still ?_ ?_ ?_ ?_ rfl rfl rfl (.refl p.fd _) rfl
  · funext who
    cases who with
    | client j =>
      let view (c? : Option PortClient) : Bool := c?.any (·.stage.isReading)
      have hnone : view (some ⟨stage, faults⟩) = view none := hreading
      exact congrFun (getElem?_append_same view s.clients hnone) j
    | thread t => rfl
  · simp [insiders, hreading]
  · let view (c? : Option PortClient) : Option PortClient := c?.filter (·.stage.isWriting)
    have hnone : view (some ⟨stage, faults⟩) = none := by
      simp [view, PortStage.not_writing_of_not_letIn hletIn]
    exact getElem?_append_same view s.clients hnone
  · let view (c? : Option PortClient) : Bool := c?.any (·.stage.wasLetIn)
    have hnone : view (some ⟨stage, faults⟩) = view none := hletIn
    exact getElem?_append_same view s.clients hnone

/-- A thread that is created is outside. -/
theorem spawn_visits {th : Thread} (h : th.isFresh = true) :
    s.Visits p (.client 0) { s with crew := (s.crew.spawn th).2 } := by
  obtain ⟨host, hhost, ⟨e, he⟩ | he⟩ := s.crew.spawn_cases th
  · rw [he]
    exact visits_still rfl rfl rfl rfl rfl rfl rfl (hhost.alike p.fd) rfl
  · rw [he]
    refine visits_still ?_ ?_ rfl rfl rfl rfl rfl (hhost.alike p.fd) rfl
    · funext who
      cases who with
      | client j => rfl
      | thread t =>
        let view (th? : Option Thread) : Bool := th?.any (·.drains p.fd)
        have hnone : view (some th) = view none := not_drains_of_fresh h p.fd
        exact congrFun (getElem?_append_same view s.crew.threads hnone) t
    · simp [insiders, not_drains_of_fresh h]

/-- What clients do to threads moves none of them. -/
theorem keeps_visits {crew : Crew} (h : s.crew.Keeps crew) (hgates : crew.gates = s.crew.gates) :
    s.Visits p (.client 0) { s with crew } := by
  have hdrains := h.drains p.fd
  refine visits_still ?_ ?_ rfl rfl ?_ rfl rfl (h.host.alike p.fd) rfl
  · funext who
    cases who with
    | client j => rfl
    | thread t =>
      have hget := congrArg (fun l : List Bool => l[t]?.any id) hdrains
      simpa [isInside, Crew.drains, Crew.thread?, Option.any_map] using hget
  · have hcount := congrArg (List.countP id) hdrains
    show s.clients.countP _ + crew.threads.countP _ = s.clients.countP _ + s.crew.threads.countP _
    simpa [List.countP_map, Function.comp_def] using hcount
  · show crew.gate p.fd = s.crew.gate p.fd
    rw [Crew.gate, hgates]
    rfl

/-! ### Everything -/

theorem endRead_visits {g : Transfer.Gathering} {outcome : CallOutcome Bytes} {host : Host}
    (hc : s.clients[i]? = some c) (hstage : c.stage = .reading g)
    (hline : s.crew.host.Alike p.fd host) :
    s.Visits p (.client i) (s.endRead i c g outcome host) := by
  have hreading : c.stage.isReading = true := by rw [hstage]; rfl
  have hreading' := PortStage.isReading_afterRead g outcome
  have hgoes : Goes i c { c with stage := .afterRead g outcome } s
      (s.endRead i c g outcome host) := ⟨hc, rfl, rfl⟩
  refine hgoes.visits (PortStage.not_letIn_of_reading hreading)
    (PortStage.not_letIn_of_reading hreading') ?_ rfl rfl hline (Or.inr (Or.inr ⟨hreading, rfl⟩))
  show Gate.Pass _ c.stage.isReading (PortStage.afterRead g outcome).isReading _
  rw [hreading, hreading']
  exact .stayed

theorem proceed_move (hc : s.clients[i]? = some c) (h : s.proceed? keep p i c = some s') :
    s.Move keep p s' := by
  cases hstage : c.stage with
  | asking r =>
    simp only [proceed?, hstage] at h
    split at h
    · rename_i e _
      obtain rfl := Option.some.inj h
      have hgoes : Goes i c { c with stage := .refused e } s
          (s.setClient i { c with stage := .refused e }) := ⟨hc, rfl, rfl⟩
      refine .visited (.client i) (hgoes.visits ?_ rfl ?_ rfl rfl (.refl p.fd _) ?_)
      · rw [hstage]; rfl
      · rw [hstage]; exact .stayed
      · exact Or.inl ⟨rfl, fun hin => absurd hin Bool.false_ne_true⟩
    · split at h
      · rename_i hfree
        obtain rfl := Option.some.inj h
        obtain ⟨stage, faults⟩ := c
        obtain rfl : stage = .asking r := hstage
        exact .letIn hc hfree
      · cases h
  | fetching r | storing r b | settling r =>
    simp only [proceed?, hstage] at h
    obtain rfl := Option.some.inj h
    exact .turned hc (by rw [hstage]; rfl)
  | unlocking result =>
    simp only [proceed?, hstage] at h
    obtain rfl := Option.some.inj h
    exact .letOut hc hstage
  | arriving max =>
    simp only [proceed?, hstage] at h
    split at h
    · rename_i hadmits
      obtain rfl := Option.some.inj h
      have hreading := PortStage.isReading_ofGathering ⟨[], min max readLimit⟩
      have hgoes : Goes i c { c with stage := .ofGathering ⟨[], min max readLimit⟩ } s
          (s.join p i c max) := ⟨hc, rfl, rfl⟩
      refine .visited (.client i) (hgoes.visits ?_ (PortStage.not_letIn_of_reading hreading) ?_
        rfl rfl (.refl p.fd _) (Or.inr (Or.inl rfl)))
      · rw [hstage]; rfl
      · show Gate.Pass (s.gate p) c.stage.isReading (PortStage.ofGathering _).isReading
          ((s.setGate p _).gate p)
        rw [hstage, hreading, gate_setGate]
        exact .joined hadmits
    · cases h
  | reading g =>
    simp only [proceed?, hstage] at h
    obtain rfl := Option.some.inj h
    have hline : s.crew.host.Alike p.fd (s.crew.host.readFd p.fd g.room).2 :=
      (Host.readFd_spec _ _ _).1.alike p.fd
    exact .visited (.client i) (endRead_visits hc hstage hline)
  | leaving result =>
    simp only [proceed?, hstage] at h
    obtain rfl := Option.some.inj h
    have hgoes : Goes i c { c with stage := .got result } s (s.leave p i c result) :=
      ⟨hc, rfl, rfl⟩
    refine .visited (.client i) (hgoes.visits ?_ rfl ?_ rfl rfl (.refl p.fd _) ?_)
    · rw [hstage]; rfl
    · show Gate.Pass (s.gate p) c.stage.isReading false ((s.setGate p _).gate p)
      rw [hstage, gate_setGate]
      exact .left
    · exact Or.inl ⟨rfl, fun hin => absurd hin Bool.false_ne_true⟩
  | changed result | refused e | got result =>
    simp only [proceed?, hstage] at h
    cases h

theorem event_visits {e : Crew.Event} {crew : Crew} (h : s.crew.after? e = some crew) :
    s.Visits p (.thread e.thread) { s with crew, notes := s.threadNotes p e crew } := by
  have hline := Crew.after?_alike h p.fd
  have hnotes : Noted (.thread e.thread) (s.crew.drains e.thread p.fd)
      (crew.drains e.thread p.fd) s.notes (s.threadNotes p e crew) := by
    unfold threadNotes
    cases s.crew.drains e.thread p.fd with
    | true =>
      dsimp only
      split
      · exact Or.inr (Or.inr ⟨rfl, rfl⟩)
      · exact Or.inl ⟨rfl, fun _ => rfl⟩
    | false =>
      cases crew.drains e.thread p.fd with
      | true => exact Or.inr (Or.inl rfl)
      | false => exact Or.inl ⟨rfl, fun hin => absurd hin Bool.false_ne_true⟩
  rcases Crew.after?_passes h with rfl | hpass
  · exact
      { pass := .stayed
        others := fun _ _ => rfl
        count := rfl
        writing := rfl
        letIn := rfl
        writer := rfl
        changes := rfl
        line := hline
        notes := hnotes }
  · exact visits_thread hpass hline hnotes

theorem act_move {a : Action} (ha : s.act? keep p a = some s') : s.Move keep p s' := by
  cases a with
  | begin stage faults =>
    simp only [act?] at ha
    split at ha
    · rename_i hentry
      obtain rfl := Option.some.inj ha
      exact .visited _ (begin_visits hentry faults)
    · cases ha
  | proceed i =>
    obtain ⟨c, hc, h⟩ := Option.bind_eq_some_iff.mp ha
    exact proceed_move hc h
  | fail i code =>
    obtain ⟨c, hc, h⟩ := Option.bind_eq_some_iff.mp ha
    split at h
    · rename_i g hstage
      obtain rfl := Option.some.inj h
      exact .visited _ (endRead_visits hc hstage (.refl p.fd _))
    · cases h
  | spawn th =>
    simp only [act?] at ha
    split at ha
    · rename_i hfresh
      obtain rfl := Option.some.inj ha
      exact .visited _ (spawn_visits hfresh)
    · cases ha
  | thread e =>
    obtain ⟨crew, hafter, rfl⟩ := Option.map_eq_some_iff.mp ha
    exact .visited _ (event_visits hafter)
  | cancel t =>
    obtain rfl := Option.some.inj ha
    exact .visited _ (keeps_visits (s.crew.keeps_cancel t) (s.crew.cancel_gates t))
  | wake t =>
    obtain rfl := Option.some.inj ha
    exact .visited _ (keeps_visits (s.crew.keeps_wake t) (s.crew.wake_gates t))
  | outside host =>
    simp only [act?] at ha
    split at ha
    · rename_i hsame
      obtain rfl := Option.some.inj ha
      exact .visited _ (visits_still rfl rfl rfl rfl rfl rfl rfl ⟨hsame.1, hsame.2⟩ rfl)
    · cases ha

end SharedPort

end SerialLine
