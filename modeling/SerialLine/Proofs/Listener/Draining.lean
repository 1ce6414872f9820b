import SerialLine.Proofs.Listener.DataStream

/-!
# SerialLine.Proofs.Listener.Draining — reading on after a hang-up

From its hang-up on, nothing arrives at a descriptor any more, and a wait reports the hang-up
along with the bytes that are left.

`Draining` is any run of a scene in which one data listener meets no failure of its waits and its
reads. What it has read is noted down apart for the time before the hang-up and after it.
`Drained` relates these notes, the bytes that are left and what the listener believes of the
descriptor at each point of its loop; it is kept by each step of the listener, of anybody else and
of the peer.
-/

namespace SerialLine

/-! ## The descriptor -/

namespace Host

variable {h h' : Host} {fd : Fd}

/-- The peer of a descriptor has hung up. -/
def hasHungUp (h : Host) (fd : Fd) : Bool := (h.readiness fd).hungUp

theorem SameButFaults.hasHungUp_eq (hs : h.SameButFaults h') (fd : Fd) :
    h'.hasHungUp fd = h.hasHungUp fd := by
  rcases hs with ⟨faults, rfl⟩
  rfl

/-- A hang-up depends on the open ends of channels alone. -/
theorem hasHungUp_congr (hd : h'.descriptors = h.descriptors)
    (hends : ∀ id, (h'.channel id).writerOpen = (h.channel id).writerOpen ∧
      (h'.channel id).readerOpen = (h.channel id).readerOpen) :
    h'.hasHungUp fd = h.hasHungUp fd := by
  unfold hasHungUp readiness endpoint?
  rw [hd]
  by_cases hneg : fd < 0
  · simp only [hneg, if_true]
  simp only [hneg, if_false]
  rcases h.descriptors.lookup fd with _ | e
  · rfl
  · cases e with
    | stream input? output? socket =>
      cases input? with
      | some id => simp only [hends]
      | none =>
        cases output? with
        | some id => simp only [hends]
        | none => rfl
    | terminal n => rfl
    | null => rfl
    | file => rfl

/-- Reads leave the ends of all channels as they are. -/
theorem readFd_hasHungUp (fd' : Fd) (room : Nat) (h : Host) :
    (h.readFd fd' room).2.hasHungUp fd = h.hasHungUp fd := by
  have hset : ∀ (id : Nat) (c : Channel), c.writerOpen = (h.channel id).writerOpen →
      c.readerOpen = (h.channel id).readerOpen →
      (h.setChannel id c).hasHungUp fd = h.hasHungUp fd := by
    intro id c hwriter hreader
    refine hasHungUp_congr rfl fun id' => ?_
    by_cases hid : id' = id
    · subst hid
      rw [channel_setChannel_self]
      exact ⟨hwriter, hreader⟩
    · rw [channel_setChannel_ne hid]
      exact ⟨rfl, rfl⟩
  unfold readFd
  cases h.endpoint? fd' with
  | none => rfl
  | some e =>
    cases e with
    | stream input? output? socket =>
      cases input? with
      | none => rfl
      | some id =>
        simp only [readChannel]
        split
        · rfl
        · split
          · exact hset id _ rfl rfl
          · split
            · exact hset id _ rfl rfl
            · split <;> rfl
    | terminal n =>
      dsimp only
      split
      · rfl
      · split
        · rfl
        · exact hasHungUp_congr rfl fun id => ⟨rfl, rfl⟩
    | null => rfl
    | file => rfl

/-- Where bytes wait, a read takes as many of them as there is room for. -/
theorem readFd_take {room : Nat} (hroom : 0 < room) (hw : h.waiting fd ≠ []) :
    (h.readFd fd room).1 = .ok ((h.waiting fd).take room) ∧
      (h.readFd fd room).2.waiting fd = (h.waiting fd).drop room := by
  have hne : room ≠ 0 := Nat.ne_of_gt hroom
  -- a read leaves the source of the descriptor as it is
  have hrest : (h.readFd fd room).2.waiting fd =
      (h.readFd fd room).2.queuedIn (h.source? fd) := by
    rw [waiting, (readFd_spec fd room h).1.source_eq]
  rw [hrest]
  revert hw
  unfold waiting source? readFd
  cases h.endpoint? fd with
  | none => exact fun hw => absurd rfl hw
  | some e =>
    cases e with
    | terminal n =>
      intro hw
      have hinput : (h.pty n).input.isEmpty = false := by
        simpa [queuedIn, Host.queued] using hw
      simp [hne, hinput, queuedIn, Host.queued]
    | stream input? output? socket =>
      cases input? with
      | none => exact fun hw => absurd rfl hw
      | some id =>
        intro hw
        have hqueued : (h.channel id).queued.isEmpty = false := by
          simpa [queuedIn, Host.queued] using hw
        simp [readChannel, hne, hqueued, queuedIn, Host.queued]
    | null => exact fun hw => absurd rfl hw
    | file => exact fun hw => absurd rfl hw

/-- Where none wait, a read takes none. -/
theorem Carries.read_nothing (hc : h.Carries fd) (room : Nat) (hw : h.waiting fd = []) :
    (h.readFd fd room).2.waiting fd = [] ∧
      ∀ bytes, (h.readFd fd room).1 = .ok bytes → bytes = [] := by
  rcases (hc.read room).2 with ⟨bytes, hok, -, hsplit⟩ | ⟨f, herr, hsame⟩
  · rw [hw] at hsplit
    obtain ⟨rfl, hrest⟩ := List.append_eq_nil_iff.mp hsplit.symm
    refine ⟨hrest, fun bs hbs => ?_⟩
    exact (Except.ok.inj (hok.symm.trans hbs)).symm
  · refine ⟨hsame.trans hw, fun bs hbs => ?_⟩
    rw [herr] at hbs
    cases hbs

end Host

/-! ## Failures -/

/-- Whether a read has failed, given the bytes that wait. An interruption is no failure, and to find
nothing is none where nothing waits. -/
def readFails (waiting : Bytes) : CallOutcome Bytes → Bool
  | .ok _ => false
  | .error f => !f.isInterruption && !(f.isWouldBlock && waiting.isEmpty)

/-- The bytes that a data listener has read on its way between two points. -/
def DataLoop.Point.read? : Point → Point → Option Bytes
  | reading _, delivering bytes => some bytes
  | _, _ => none

namespace Crew

/-- Whether an event is a failure of the wait or of the read that a data listener is in. -/
def isFailure (c : Crew) (t : ThreadId) (e : Event) : Bool :=
  match e, c.place? t with
  | .step u, some (_, .data .polling _ _) =>
    u == t && (c.host.takeFault .pollDescriptor).1.any (· != Errno.EINTR)
  | .step u, some (fd, .data (.reading _) chunk _) =>
    u == t && readFails (c.host.waiting fd) (c.host.readFd fd (DataLoop.readRoom chunk)).1
  | .fail u code, some (_, .data .parked _ _) => u == t && code != Errno.EINTR
  | .fail u code, some (fd, .data (.reading _) _ _) =>
    u == t && readFails (c.host.waiting fd) (.error (.errno code))
  | _, _ => false

/-- The bytes that a data listener has read in between. -/
def read? (t : ThreadId) (c c' : Crew) : Option Bytes :=
  match c.place? t, c'.place? t with
  | some (_, .data p _ _), some (_, .data q _ _) => p.read? q
  | _, _ => none

/-- The bytes of a call, if it is one that a thread has made. -/
def pieceOf? (t : ThreadId) (e : ThreadId × Item) : Option Bytes :=
  match e.2 with
  | .bytes bytes => if e.1 = t then some bytes else none
  | _ => none

/-- What a data listener has called its callback with, call by call. -/
def piecesOf (t : ThreadId) (c : Crew) : List Bytes := c.delivered.reverse.filterMap (pieceOf? t)

end Crew

/-! ## Runs -/

/-- What is noted down about one data listener. -/
structure DrainLog where
  /-- What has arrived since it was created, and what waited then. -/
  arrived : Bytes
  /-- The reads before the hang-up that gave some bytes. -/
  early : List Bytes := []
  /-- Those after it. -/
  late : List Bytes := []
  /-- What was left to read at the hang-up. -/
  left? : Option Bytes := none

namespace DrainLog

/-- The notes about a new listener. -/
def start (fd : Fd) (h : Host) : DrainLog where
  arrived := h.waiting fd
  left? := if h.hasHungUp fd then some (h.waiting fd) else none

/-- A read is noted down, if there was one that gave some bytes. -/
def note (read? : Option Bytes) (log : DrainLog) : DrainLog :=
  match read?, log.left? with
  | none, _ => log
  | some bytes, none => { log with early := log.early ++ [bytes] }
  | some bytes, some _ => { log with late := log.late ++ [bytes] }

section Note

variable (log : DrainLog) (bytes : Bytes)

@[simp] theorem note_none : log.note none = log := rfl

@[simp] theorem note_left : (log.note (some bytes)).left? = log.left? := by
  cases hleft : log.left? <;> simp [note, hleft]

@[simp] theorem note_arrived : (log.note (some bytes)).arrived = log.arrived := by
  unfold note
  cases log.left? <;> rfl

theorem note_late_early {log : DrainLog} (hleft : log.left? = none) :
    (log.note (some bytes)).late = log.late := by
  simp only [note, hleft]

theorem note_late {log : DrainLog} {left : Bytes} (hleft : log.left? = some left) :
    (log.note (some bytes)).late = log.late ++ [bytes] := by
  simp only [note, hleft]

theorem note_reads {log : DrainLog} (hfresh : log.left? = none → log.late = []) :
    (log.note (some bytes)).early ++ (log.note (some bytes)).late =
      log.early ++ log.late ++ [bytes] := by
  cases hleft : log.left? with
  | none => simp [note, hleft, hfresh hleft]
  | some left => simp [note, hleft]

end Note

/-- What the peer has done is noted down: bytes have arrived, or it has hung up. -/
def outside (fd : Fd) (bytes : Bytes) (h : Host) (log : DrainLog) : DrainLog where
  arrived := log.arrived ++ bytes
  early := log.early
  late := log.late
  left? := log.left?.or (if h.hasHungUp fd then some (h.waiting fd) else none)

end DrainLog

/-- Whether a step is a failure of the wait or of the read that a data listener is in. -/
def Scene.isFailure (s : Scene) (t : ThreadId) : Action → Bool
  | .thread e => s.crew.isFailure t e
  | _ => false

/-- The runs of a scene in which a data listener of a descriptor meets no failure, from the step
that creates it. Clients, threads and the registry do whatever they can. The peer may send bytes,
and hang up; once it has, it has for good and sends nothing more. -/
inductive Draining (fd : Fd) (t : ThreadId) (capacity : Nat) (settings : ListenerSettings) :
    Scene → DrainLog → Prop where
  | created {s s' : Scene} {arrived : Bytes} (a : Action)
    (h : StreamRun fd capacity settings s arrived) (hin : a.isInside = true)
    (ha : s.act? a = some s') (hnone : s.crew.thread? t = none)
    (hat : s'.crew.IsAt fd t .creating) :
    Draining fd t capacity settings s' (.start fd s'.crew.host)
  | act {s s' : Scene} {log : DrainLog} (a : Action) (h : Draining fd t capacity settings s log)
    (hin : a.isInside = true) (hgood : s.isFailure t a = false) (ha : s.act? a = some s') :
    Draining fd t capacity settings s' (log.note (s.crew.read? t s'.crew))
  | outside {s : Scene} {log : DrainLog} (bytes : Bytes) (host : Host) (gates : List (Fd × Gate))
    (h : Draining fd t capacity settings s log) (hc : host.Carries fd)
    (hw : host.waiting fd = s.crew.host.waiting fd ++ bytes)
    (hstays : s.crew.host.hasHungUp fd = true → host.hasHungUp fd = true ∧ bytes = []) :
    Draining fd t capacity settings (s.withHost host gates) (log.outside fd bytes host)

theorem Draining.stream {fd : Fd} {t : ThreadId} {capacity : Nat} {settings : ListenerSettings}
    {s : Scene} {log : DrainLog} (h : Draining fd t capacity settings s log) :
    ∃ arrived, StreamRun fd capacity settings s arrived := by
  induction h with
  | created a h hin ha => exact ⟨_, h.act a hin ha⟩
  | act a _ hin _ ha ih =>
    obtain ⟨arrived, ih⟩ := ih
    exact ⟨arrived, ih.act a hin ha⟩
  | outside bytes host gates _ hc hw _ ih =>
    obtain ⟨arrived, ih⟩ := ih
    exact ⟨_, ih.arrive bytes host gates hc hw⟩

/-! ## The listener and its notes -/

namespace DataLoop.Point

/-- The bytes that a listener has read and not handed over yet. -/
def inHand : Point → List Bytes
  | delivering bytes => [bytes]
  | _ => []

/-- What a listener believes of a hang-up is so. -/
def Informed (hungUp : Bool) (waiting : Bytes) : Point → Prop
  | resetting r | rechecking r =>
    r.hungUp = true → hungUp = true ∧ (r.readable = false → waiting = [])
  | gating b | reading b => b = true → hungUp = true
  | _ => True

end DataLoop.Point

/-- What holds of a listener at a point of its loop, given what it was handed over so far, whether
it was asked to end, and the notes about it. -/
structure Drained (fd : Fd) (room : Nat) (h : Host) (pieces : List Bytes) (asked : Bool)
    (log : DrainLog) (p : DataLoop.Point) : Prop where
  marked : log.left?.isSome = h.hasHungUp fd
  fresh : log.left? = none → log.late = []
  /-- Every read after the hang-up but the last one takes as much as there is room for. -/
  bound : ∀ left, log.left? = some left → log.late.length * room < left.length + room
  calls : pieces ++ p.inHand = log.early ++ log.late
  ledger : p.hasEnded = false →
    (log.early ++ log.late).flatten ++ h.waiting fd = log.arrived
  pace : p.hasEnded = false → ∀ left, log.left? = some left → h.waiting fd ≠ [] →
    log.late.length * room + (h.waiting fd).length = left.length
  informed : p.Informed (h.hasHungUp fd) (h.waiting fd)
  leaving : p = .leaving → asked = true ∨ (h.hasHungUp fd = true ∧ h.waiting fd = [])

/-! ## Beliefs -/

namespace DataLoop

variable {hungUp : Bool} {waiting : Bytes}

theorem serve_informed {r : Readiness} (h : r.hungUp = true → hungUp = true) :
    (serve r).Informed hungUp waiting := by
  unfold serve
  split
  · exact h
  · split <;> trivial

theorem afterPoll_informed (fault? : Option Errno) :
    (afterPoll fault?).Informed hungUp waiting := by
  cases fault? with
  | none => trivial
  | some code => by_cases hcode : code = Errno.EINTR <;> simp [afterPoll, hcode, Point.Informed]

theorem afterRead_informed {believed : Bool} (outcome : CallOutcome Bytes)
    (h : believed = true → hungUp = true) :
    (afterRead believed outcome).Informed hungUp waiting := by
  unfold afterRead
  split
  · exact h
  · split <;> trivial
  · trivial
  · trivial

/-- A listener learns of a hang-up from its waits, which do not report one with nothing to read
unless nothing is left. -/
theorem Edge.informed {th : Thread} {chunk : Nat} {h h' : Host} {p q : Point} {w : Waker}
    {handed : List Bytes} (e : Edge th chunk h p q w h' handed) (hc : h.Carries th.fd)
    (hp : p.Informed (h.hasHungUp th.fd) (h.waiting th.fd)) :
    q.Informed (h.hasHungUp th.fd) (h.waiting th.fd) := by
  cases e with
  | created _ hq | handed _ hq => rcases hq with rfl | rfl <;> trivial
  | refused | announced | left => trivial
  | looked =>
    unfold afterHead
    split <;> trivial
  | entered _ fault? => exact afterPoll_informed fault?
  | interrupted code => exact afterPoll_informed (some code)
  | @reported r hr _ =>
    have hhung : r.hungUp = h.hasHungUp th.fd := by rw [hr]; rfl
    have hread : r.readable = false → h.waiting th.fd = [] := by
      intro hnone
      by_contra hne
      rw [hr, hc.reported hne] at hnone
      cases hnone
    unfold afterReport
    split
    · exact fun hr' => ⟨hhung ▸ hr', hread⟩
    · exact serve_informed fun hr' => hhung ▸ hr'
  | reset => exact hp
  | rechecked r =>
    unfold afterRecheck
    split
    · trivial
    · exact serve_informed fun hr => (hp hr).1
  | admitted => exact hp
  | read => exact afterRead_informed _ hp
  | unread _ code => exact afterRead_informed _ hp

end DataLoop

namespace Drained

variable {fd : Fd} {room : Nat} {h h' : Host} {pieces pieces' : List Bytes} {asked asked' : Bool}
  {log : DrainLog} {p q : DataLoop.Point}

/-! ## Steps -/

/-- A step that reads nothing. -/
theorem goOn (hd : Drained fd room h pieces asked log p)
    (hhung : h'.hasHungUp fd = h.hasHungUp fd)
    (hended : q.hasEnded = false → p.hasEnded = false)
    (hw : p.hasEnded = false → h'.waiting fd = h.waiting fd)
    (hcalls : pieces' ++ q.inHand = pieces ++ p.inHand)
    (hq : q.Informed (h'.hasHungUp fd) (h'.waiting fd))
    (hleave : q = .leaving → asked' = true ∨ (h'.hasHungUp fd = true ∧ h'.waiting fd = [])) :
    Drained fd room h' pieces' asked' log q where
  marked := by rw [hhung, hd.marked]
  fresh := hd.fresh
  bound := hd.bound
  calls := by rw [hcalls, hd.calls]
  ledger hlive := by rw [hw (hended hlive), hd.ledger (hended hlive)]
  pace hlive := by
    rw [hw (hended hlive)]
    exact hd.pace (hended hlive)
  informed := hq
  leaving := hleave

/-- Whatever others do, a listener stays where it is. -/
theorem stay (hd : Drained fd room h pieces asked log p)
    (hhung : h'.hasHungUp fd = h.hasHungUp fd)
    (hw : p.hasEnded = false → h'.waiting fd = h.waiting fd)
    (hasked : asked = true → asked' = true) : Drained fd room h' pieces asked' log p := by
  refine hd.goOn hhung id hw rfl ?_ ?_
  · cases hlive : p.hasEnded with
    | false =>
      rw [hhung, hw hlive]
      exact hd.informed
    | true =>
      cases p with
      | gone | dead => trivial
      | _ => cases hlive
  · rintro rfl
    rw [hhung, hw rfl]
    exact (hd.leaving rfl).imp_left hasked

/-- Some of the bytes that wait are read, as many as there is room for. -/
theorem take (hd : Drained fd room h pieces asked log p) (hlive : p.hasEnded = false)
    (hempty : p.inHand = []) (hwaiting : h.waiting fd ≠ [])
    (hhung : h'.hasHungUp fd = h.hasHungUp fd) (hw : h'.waiting fd = (h.waiting fd).drop room) :
    Drained fd room h' pieces asked (log.note (some ((h.waiting fd).take room)))
      (.delivering ((h.waiting fd).take room)) := by
  have hcalls : pieces = log.early ++ log.late := by
    rw [← hd.calls, hempty, List.append_nil]
  have hreads := DrainLog.note_reads ((h.waiting fd).take room) hd.fresh
  have hpos : 0 < (h.waiting fd).length := List.length_pos_of_ne_nil hwaiting
  constructor
  · rw [DrainLog.note_left, hhung, hd.marked]
  · intro hleft
    rw [DrainLog.note_left] at hleft
    rw [DrainLog.note_late_early _ hleft, hd.fresh hleft]
  · intro left hleft
    rw [DrainLog.note_left] at hleft
    have hpace := hd.pace hlive left hleft hwaiting
    rw [DrainLog.note_late _ hleft, List.length_append, List.length_singleton, Nat.succ_mul]
    omega
  · rw [hreads, hcalls]
    rfl
  · intro _
    have hledger := hd.ledger hlive
    rw [hreads, DrainLog.note_arrived, ← hledger, hw, List.flatten_append, List.flatten_singleton,
      List.append_assoc, List.take_append_drop]
  · intro _ left hleft hmore
    rw [DrainLog.note_left] at hleft
    have hpace := hd.pace hlive left hleft hwaiting
    -- something is left, so there was more than the room of this read
    have hroomy : room < (h.waiting fd).length := by
      rw [hw] at hmore
      by_contra hle
      exact hmore (List.drop_eq_nil_of_le (Nat.le_of_not_lt hle))
    rw [hw, List.length_drop, DrainLog.note_late _ hleft, List.length_append,
      List.length_singleton, Nat.succ_mul]
    omega
  · trivial
  · exact nofun

/-- Nothing was noted down yet about a new listener. -/
theorem start (hroom : 0 < room) (h : Host) (asked : Bool) :
    Drained fd room h [] asked (.start fd h) .creating where
  marked := by cases hhung : h.hasHungUp fd <;> simp [DrainLog.start, hhung]
  fresh _ := rfl
  bound left _ := by
    show 0 * room < left.length + room
    omega
  calls := rfl
  ledger _ := rfl
  pace _ left hleft _ := by
    simp only [DrainLog.start] at hleft
    split at hleft
    · obtain rfl := Option.some.inj hleft
      show 0 * room + _ = _
      omega
    · cases hleft
  informed := trivial
  leaving := nofun

/-- The peer sends some bytes or hangs up. -/
theorem outside (hd : Drained fd room h pieces asked log p) (hroom : 0 < room) {bytes : Bytes}
    (hw : h'.waiting fd = h.waiting fd ++ bytes)
    (hstays : h.hasHungUp fd = true → h'.hasHungUp fd = true ∧ bytes = []) :
    Drained fd room h' pieces asked (log.outside fd bytes h') p := by
  have hgone : h.hasHungUp fd = true → h'.hasHungUp fd = true ∧ h'.waiting fd = h.waiting fd := by
    intro hhung
    obtain ⟨hhung', rfl⟩ := hstays hhung
    exact ⟨hhung', by rw [hw, List.append_nil]⟩
  have hmarked := hd.marked
  constructor
  · cases hleft : log.left? with
    | some left =>
      rw [hleft] at hmarked
      simp [DrainLog.outside, hleft, (hgone hmarked.symm).1]
    | none => cases hhung' : h'.hasHungUp fd <;> simp [DrainLog.outside, hleft, hhung']
  · intro hnone
    exact hd.fresh (Option.or_eq_none_iff.mp hnone).1
  · intro left hsome
    rcases Option.or_eq_some_iff.mp hsome with hleft | ⟨hleft, -⟩
    · exact hd.bound left hleft
    · have hlate : (log.outside fd bytes h').late = [] := hd.fresh hleft
      rw [hlate, List.length_nil, Nat.zero_mul]
      exact Nat.lt_add_left _ hroom
  · exact hd.calls
  · intro hlive
    rw [hw, ← List.append_assoc]
    exact congrArg (· ++ bytes) (hd.ledger hlive)
  · intro hlive left hsome hmore
    rcases Option.or_eq_some_iff.mp hsome with hleft | ⟨hleft, hnow⟩
    · rw [hleft] at hmarked
      have hsame := (hgone hmarked.symm).2
      rw [hsame] at hmore ⊢
      exact hd.pace hlive left hleft hmore
    · have hlate : (log.outside fd bytes h').late = [] := hd.fresh hleft
      split at hnow
      · obtain rfl := Option.some.inj hnow
        rw [hlate, List.length_nil, Nat.zero_mul, Nat.zero_add]
      · cases hnow
  · cases hhung : h.hasHungUp fd with
    | true =>
      rw [(hgone hhung).1, (hgone hhung).2, ← hhung]
      exact hd.informed
    | false =>
      -- nothing can be believed of a hang-up that has not been
      have hnone := hd.informed
      rw [hhung] at hnone
      cases p with
      | resetting r | rechecking r => exact fun hr => absurd (hnone hr).1 (by decide)
      | gating b | reading b => exact fun hb => absurd (hnone hb) (by decide)
      | _ => trivial
  · intro hp
    refine (hd.leaving hp).imp_right fun hend => ?_
    rw [(hgone hend.1).2]
    exact ⟨(hgone hend.1).1, hend.2⟩

/-- A step of the listener itself. That it ends without a failure is looked at apart. -/
theorem edge {th : Thread} {chunk : Nat} {w : Waker} {handed : List Bytes}
    (hd : Drained th.fd (DataLoop.readRoom chunk) h pieces asked log p)
    (e : DataLoop.Edge th chunk h p q w h' handed) (hc : h.Carries th.fd) (hchunk : 1 ≤ chunk)
    (hleave : q = .leaving →
      asked = true ∨ (h.hasHungUp th.fd = true ∧ h.waiting th.fd = [])) :
    Drained th.fd (DataLoop.readRoom chunk) h' (pieces ++ handed) asked (log.note (p.read? q))
      q := by
  have hlive := e.not_ended
  have hinformed := e.informed hc hd.informed
  -- bytes come into the hand of the listener by a read and leave it by a call
  rcases e.bytes_cases with
    ⟨hh, rfl, hpq⟩ | ⟨believed, rfl, hq, rfl, rfl⟩ | ⟨bytes, rfl, rfl, rfl, hq⟩
  · have hhung := hh.hasHungUp_eq th.fd
    have hwaiting := hh.waiting_eq th.fd
    have hp : p.inHand = [] := by
      cases p with
      | delivering bs => exact absurd rfl (hpq bs).1
      | _ => rfl
    have hq : q.inHand = [] ∧ p.read? q = none := by
      cases q with
      | delivering bs => exact absurd rfl (hpq bs).2
      | _ => exact ⟨rfl, by cases p <;> rfl⟩
    rw [hq.2, DrainLog.note_none]
    rw [← hhung, ← hwaiting] at hinformed hleave
    refine hd.goOn hhung (fun _ => hlive) (fun _ => hwaiting) ?_ hinformed hleave
    rw [hp, hq.1, List.append_nil]
  · have hroom : 0 < DataLoop.readRoom chunk := Nat.lt_min.mpr ⟨hchunk, by decide⟩
    have hhung : (h.readFd th.fd (DataLoop.readRoom chunk)).2.hasHungUp th.fd = _ :=
      Host.readFd_hasHungUp th.fd (DataLoop.readRoom chunk) h
    by_cases hwaiting : h.waiting th.fd = []
    · -- a read of nothing
      obtain ⟨hnothing, hempty⟩ := hc.read_nothing (DataLoop.readRoom chunk) hwaiting
      have hnot : ∀ bs, DataLoop.afterRead believed _ ≠ .delivering bs :=
        DataLoop.afterRead_ne_delivering hempty
      rw [← hq] at hnot
      have hstill : q.inHand = [] ∧ (DataLoop.Point.reading believed).read? q = none := by
        cases q with
        | delivering bs => exact absurd rfl (hnot bs)
        | _ => exact ⟨rfl, rfl⟩
      rw [hstill.2, DrainLog.note_none]
      have hsame := hnothing.trans hwaiting.symm
      rw [← hhung, ← hsame] at hinformed hleave
      refine hd.goOn hhung (fun _ => hlive) (fun _ => hsame) ?_ hinformed hleave
      rw [hstill.1, List.append_nil]
      rfl
    · obtain ⟨hok, hrest⟩ := Host.readFd_take hroom hwaiting
      have hsome : (h.waiting th.fd).take (DataLoop.readRoom chunk) ≠ [] := by
        intro hnil
        rcases List.take_eq_nil_iff.mp hnil with hzero | hnil
        · omega
        · exact hwaiting hnil
      rw [hok, DataLoop.afterRead_ok_ne_nil believed hsome] at hq
      subst hq
      rw [List.append_nil]
      exact hd.take hlive rfl hwaiting hhung hrest
  · have hq' : q.inHand = [] ∧ (DataLoop.Point.delivering bytes).read? q = none := by
      cases q with
      | delivering bs => exact absurd rfl (hq bs)
      | _ => exact ⟨rfl, rfl⟩
    rw [hq'.2, DrainLog.note_none]
    refine hd.goOn rfl (fun _ => hlive) (fun _ => rfl) ?_ hinformed hleave
    rw [hq'.1, List.append_nil]
    rfl

end Drained

end SerialLine
