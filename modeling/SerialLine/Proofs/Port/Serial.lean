import SerialLine.Proofs.Port.Shared

/-!
# SerialLine.Proofs.Port.Serial — a port that is reconfigured while it is read

Changes of the settings of a shared port are serial: once all clients are done, the block is what
the changes make of it one after another, in the order in which they were let in at the gate. The
invariant says this of `SharedPort.settled`, the host that is there once the client that has the
gate alone is done. The calls of that client do not change that host, and nobody else changes the
block.

Reads are not cut in two by a change: whoever is one of the readers joined them after the last store
or flush of any change.
-/

namespace SerialLine

namespace SharedPort

variable (keep : ControlBlock → ControlBlock) (p : Port)

/-! ## One after another -/

/-- What changes make of a host one after another, each of them with the faults that it meets. The
latest change comes first. -/
def serially : List PortChange → Host → Host
  | [], host => host
  | x :: earlier, host =>
    ((serially earlier host).facing x.faults (x.change.perform (Host.lineCalls keep) p)).2

/-- No client has stored a block or discarded a queue since somebody joined the readers. -/
def QuietSince (who : PortUser) : List PortNote → Prop
  | [] => True
  | .entered who' :: notes => who' = who ∨ QuietSince who notes
  | .read _ :: notes => QuietSince who notes
  | .wrote _ :: _ => False

/-- Everybody who read had joined the readers after the last store or flush. -/
def ReadsQuiet : List PortNote → Prop
  | [] => True
  | .read who :: notes => QuietSince who notes ∧ ReadsQuiet notes
  | _ :: notes => ReadsQuiet notes

/-! ## The invariant -/

/-- The host once the client that has the gate alone is done. -/
def settled (s : SharedPort) : Host :=
  match s.writer?.bind s.writing with
  | some c => (s.crew.host.facing c.faults (c.stage.rest (Host.lineCalls keep) p)).2
  | none => s.crew.host

/-- What is kept by every step, from a port on a host. -/
structure Inv (host : Host) (s : SharedPort) : Prop where
  /-- The gate counts the readers. -/
  readers : s.insiders p = (s.gate p).readers
  /-- Nobody is a reader while a client has the gate alone. -/
  alone : (s.gate p).writer = true → (s.gate p).readers = 0
  locked : (s.gate p).writer = s.writer?.isSome
  /-- At most one client has the gate alone. -/
  sole : ∀ i, (s.writing i).isSome = true ↔ s.writer? = some i
  /-- All who have or had the gate alone have made their change, each of them once. -/
  listed : ∀ i, i ∈ s.changes.map (·.client) ↔ s.wasLetIn i = true
  once : (s.changes.map (·.client)).Nodup
  serial : (serially keep p s.changes host).Alike p.fd (s.settled keep p)
  quiet : ∀ who, s.isInside p who = true → QuietSince who s.notes
  whole : ReadsQuiet s.notes

variable {keep p} {host : Host} {s s' : SharedPort}

/-- Where nobody is a reader by the count, nobody is. -/
theorem not_inside (h : s.insiders p = 0) (who : PortUser) : s.isInside p who = false := by
  have hnone : ∀ {α : Type} {q : α → Bool} {l : List α}, l.countP q = 0 →
      ∀ i : Nat, l[i]?.any q = false := by
    intro α q l hcount i
    rw [List.countP_eq_zero] at hcount
    cases hi : l[i]? with
    | none => rfl
    | some a => simpa using hcount a (List.mem_of_getElem? hi)
  obtain ⟨hclients, hthreads⟩ := Nat.add_eq_zero_iff.mp h
  cases who with
  | client i => exact hnone hclients i
  | thread t => exact hnone hthreads t

theorem settled_alone (h : s.writer? = none) : s.settled keep p = s.crew.host := by
  rw [settled, h]
  rfl

theorem settled_writing {i : Nat} {c : PortClient} (hwriter : s.writer? = some i)
    (hc : s.writing i = some c) : s.settled keep p =
      (s.crew.host.facing c.faults (c.stage.rest (Host.lineCalls keep) p)).2 := by
  rw [settled, hwriter, Option.bind_some, hc]

theorem init_inv (host : Host) : (start host).Inv keep p host where
  readers := rfl
  alone := fun _ => rfl
  locked := rfl
  sole := by
    intro i
    simp [start, writing]
  listed := by
    intro i
    simp [start, wasLetIn]
  once := List.nodup_nil
  serial := .refl p.fd host
  quiet := fun _ _ => trivial
  whole := trivial

/-- Visits keep the invariant. -/
theorem Inv.visited {who : PortUser} (h : s.Inv keep p host) (hv : s.Visits p who s') :
    s'.Inv keep p host where
  readers := hv.pass.readers_eq h.readers hv.count
  alone := hv.pass.alone h.alone
  locked := by rw [hv.pass.writer_eq, hv.writer, h.locked]
  sole := by
    rw [hv.writing, hv.writer]
    exact h.sole
  listed := by
    rw [hv.changes, hv.letIn]
    exact h.listed
  once := by
    rw [hv.changes]
    exact h.once
  serial := by
    rw [hv.changes]
    refine h.serial.trans ?_
    unfold settled
    rw [hv.writing, hv.writer]
    -- what is left to do for the client that has the gate comes out alike
    split
    · exact (PortStage.rest_local keep p _).facing _ hv.line
    · exact hv.line
  quiet := by
    intro who' hin
    have hother : who' ≠ who → QuietSince who' s.notes := by
      intro hne
      rw [hv.others who' hne] at hin
      exact h.quiet who' hin
    -- notes of joining and reading leave it quiet for everybody else
    rcases hv.notes with ⟨hnotes, hstays⟩ | hnotes | ⟨hinside, hnotes⟩
    · rw [hnotes]
      by_cases hwho : who' = who
      · subst hwho
        exact h.quiet who' (hstays hin)
      · exact hother hwho
    · rw [hnotes]
      by_cases hwho : who' = who
      · exact Or.inl hwho.symm
      · exact Or.inr (hother hwho)
    · rw [hnotes]
      by_cases hwho : who' = who
      · subst hwho
        exact h.quiet who' hinside
      · exact hother hwho
  whole := by
    rcases hv.notes with ⟨hnotes, -⟩ | hnotes | ⟨hinside, hnotes⟩
    · rw [hnotes]
      exact h.whole
    · rw [hnotes]
      exact h.whole
    · rw [hnotes]
      exact ⟨h.quiet who hinside, h.whole⟩

theorem writing_of_client {i : Nat} {c : PortClient} (hc : s.clients[i]? = some c)
    (hw : c.stage.isWriting = true) : s.writing i = some c := by
  rw [writing, hc]
  exact Option.filter_some_pos hw

theorem Inv.writer_of_writing {i : Nat} {c : PortClient} (h : s.Inv keep p host)
    (hw : s.writing i = some c) : s.writer? = some i := by
  apply (h.sole i).mp
  rw [hw]
  rfl

/-- Nobody has the gate beside a client that has it alone or is about to get it. -/
theorem Inv.writing_none {i j : Nat} (h : s.Inv keep p host)
    (hwriter : s.writer? = none ∨ s.writer? = some i) (hne : j ≠ i) : s.writing j = none := by
  cases hj : s.writing j with
  | none => rfl
  | some c =>
    have hwriter' := h.writer_of_writing hj
    rcases hwriter with hnone | hsome
    · rw [hnone] at hwriter'
      cases hwriter'
    · rw [hsome] at hwriter'
      exact absurd (Option.some.inj hwriter').symm hne

/-- A client that gets the gate puts its change after those of all who had it before. -/
theorem Inv.letIn {i : Nat} {r : Reconfiguration} {faults : List (SystemCall × Errno)}
    (h : s.Inv keep p host) (hc : s.clients[i]? = some ⟨.asking r, faults⟩)
    (hfree : (s.gate p).admitsWriter = true) : (s.letIn p i r faults).Inv keep p host := by
  obtain ⟨hopen, hempty⟩ : (s.gate p).writer = false ∧ (s.gate p).readers = 0 := by
    simpa [Gate.admitsWriter] using hfree
  have hnone : s.writer? = none := by
    have hlocked := h.locked
    rw [hopen] at hlocked
    simpa using hlocked
  have hgoes : Goes i ⟨.asking r, faults⟩ ⟨.fetching r, faults⟩ s (s.letIn p i r faults) :=
    ⟨hc, rfl, rfl⟩
  obtain ⟨hinside, hcount⟩ := hgoes.insiders_same (p := p) rfl rfl
  have hgate : (s.letIn p i r faults).gate p = { s.gate p with writer := true } :=
    gate_setGate _ _
  have hself : (s.letIn p i r faults).writing i = some ⟨.fetching r, faults⟩ := by
    rw [hgoes.writing, Function.update_self]
    rfl
  constructor
  case readers =>
    rw [hcount, hgate]
    exact h.readers
  case alone =>
    rw [hgate]
    exact fun _ => hempty
  case locked =>
    rw [hgate]
    rfl
  case sole =>
    intro j
    by_cases hj : j = i
    · subst hj
      rw [hself]
      exact ⟨fun _ => rfl, fun _ => rfl⟩
    · rw [hgoes.writing, Function.update_of_ne hj, h.writing_none (Or.inl hnone) hj]
      exact iff_of_false Bool.false_ne_true fun hi => hj (Option.some.inj hi).symm
  case listed =>
    intro j
    show j ∈ i :: s.changes.map (·.client) ↔ _
    rw [List.mem_cons, hgoes.wasLetIn]
    by_cases hj : j = i
    · subst hj
      rw [Function.update_self]
      exact ⟨fun _ => rfl, fun _ => Or.inl rfl⟩
    · rw [Function.update_of_ne hj, ← h.listed j, or_iff_right hj]
  case once =>
    have hnew : i ∉ s.changes.map (·.client) := by
      rw [h.listed, wasLetIn, hc]
      exact Bool.false_ne_true
    exact List.nodup_cons.mpr ⟨hnew, h.once⟩
  case serial =>
    rw [settled_writing rfl hself]
    -- all that is left to do for the new client is the whole of its change
    have hbefore := h.serial
    rw [settled_alone hnone] at hbefore
    exact (PortStage.rest_local keep p (.fetching r)).facing faults hbefore
  case quiet =>
    rw [hinside]
    exact h.quiet
  case whole =>
    exact h.whole

/-- A client that has the gate alone keeps it in its turn, and what there will be once it is done
stays the same. -/
theorem Inv.turned {i : Nat} {c : PortClient} (h : s.Inv keep p host)
    (hc : s.clients[i]? = some c) (hw : c.stage.isWriting = true) :
    (s.turn keep p i c).Inv keep p host := by
  let c' : PortClient :=
    let r := s.crew.host.facing c.faults (c.stage.turn (Host.lineCalls keep) p)
    ⟨r.1.1, r.1.2⟩
  have hw' : c'.stage.isWriting = true :=
    PortStage.turn_isWriting (Host.lineCalls keep) p hw { s.crew.host with faults := c.faults }
  have hgoes : Goes i c c' s (s.turn keep p i c) := ⟨hc, rfl, rfl⟩
  have hbefore := writing_of_client hc hw
  have hafter : (s.turn keep p i c).writing i = some c' := by
    rw [hgoes.writing, Function.update_self]
    exact Option.filter_some_pos hw'
  have hwriter := h.writer_of_writing hbefore
  have hheld : c'.stage.wasLetIn = c.stage.wasLetIn :=
    (PortStage.letIn_of_writing hw').trans (PortStage.letIn_of_writing hw).symm
  obtain ⟨hinside, hcount⟩ := hgoes.insiders_same (p := p) (PortStage.not_reading_of_writing hw)
    (PortStage.not_reading_of_writing hw')
  -- the gate that it has alone has no readers
  have hempty : s.insiders p = 0 := by
    have hlocked := h.locked
    rw [hwriter] at hlocked
    rw [h.readers, h.alone hlocked]
  constructor
  case readers =>
    rw [hcount]
    exact h.readers
  case alone =>
    exact h.alone
  case locked =>
    exact h.locked
  case sole =>
    intro j
    show _ ↔ s.writer? = some j
    by_cases hj : j = i
    · subst hj
      rw [hafter]
      exact ⟨fun _ => hwriter, fun _ => rfl⟩
    · rw [hgoes.writing, Function.update_of_ne hj]
      exact h.sole j
  case listed =>
    intro j
    rw [hgoes.wasLetIn_same hheld]
    exact h.listed j
  case once =>
    exact h.once
  case serial =>
    have hserial := h.serial
    rw [settled_writing hwriter hbefore, ← PortStage.facing_turn] at hserial
    rw [settled_writing (s := s.turn keep p i c) hwriter hafter]
    exact hserial
  case quiet =>
    -- there is nobody whose reads a store or a flush could cut in two
    intro who hin
    rw [hinside, not_inside hempty who] at hin
    cases hin
  case whole =>
    show ReadsQuiet (if c.stage.isChanging then .wrote i :: s.notes else s.notes)
    split
    · exact h.whole
    · exact h.whole

/-- A client that gives the gate back has nothing left to do. -/
theorem Inv.letOut {i : Nat} {c : PortClient} {result : Outcome Unit} (h : s.Inv keep p host)
    (hc : s.clients[i]? = some c) (hw : c.stage = .unlocking result) :
    (s.letOut p i c result).Inv keep p host := by
  have hgoes : Goes i c { c with stage := .changed result } s (s.letOut p i c result) :=
    ⟨hc, rfl, rfl⟩
  have hbefore := writing_of_client hc (by rw [hw]; rfl)
  have hwriter := h.writer_of_writing hbefore
  obtain ⟨hinside, hcount⟩ := hgoes.insiders_same (p := p) (by rw [hw]; rfl) rfl
  have hgate : (s.letOut p i c result).gate p = { s.gate p with writer := false } :=
    gate_setGate _ _
  constructor
  case readers =>
    rw [hcount, hgate]
    exact h.readers
  case alone =>
    rw [hgate]
    exact fun hclosed => absurd hclosed Bool.false_ne_true
  case locked =>
    rw [hgate]
    rfl
  case sole =>
    intro j
    have hnone : (s.letOut p i c result).writing j = none := by
      rw [hgoes.writing]
      by_cases hj : j = i
      · subst hj
        rw [Function.update_self]
        rfl
      · rw [Function.update_of_ne hj, h.writing_none (Or.inr hwriter) hj]
    rw [hnone]
    exact iff_of_false Bool.false_ne_true (Option.some_ne_none j).symm
  case listed =>
    intro j
    have hheld : PortStage.wasLetIn (.changed result) = c.stage.wasLetIn := by rw [hw]; rfl
    rw [hgoes.wasLetIn_same hheld]
    exact h.listed j
  case once =>
    exact h.once
  case serial =>
    have hserial := h.serial
    rw [settled_writing hwriter hbefore, hw] at hserial
    rw [settled_alone rfl]
    have hdone : (s.crew.host.facing c.faults
        ((PortStage.unlocking result).rest (Host.lineCalls keep) p)).2 = s.crew.host := by
      rw [PortStage.rest, Host.facing, Call.lift_eq]
    rwa [hdone] at hserial
  case quiet =>
    rw [hinside]
    exact h.quiet
  case whole =>
    exact h.whole

/-- Every step keeps the invariant. -/
theorem step_inv {a : Action} (h : s.Inv keep p host) (ha : s.act? keep p a = some s') :
    s'.Inv keep p host := by
  cases act_move ha with
  | visited who hv => exact h.visited hv
  | letIn hc hfree => exact h.letIn hc hfree
  | turned hc hw => exact h.turned hc hw
  | letOut hc hw => exact h.letOut hc hw

theorem Reachable.inv (h : Reachable keep p host s) : s.Inv keep p host := by
  induction h with
  | start => exact init_inv host
  | act a _ ha ih => exact step_inv ih ha

/-! ## Changes are serial -/

/-- Where all clients are done, nobody has the gate alone. -/
theorem Inv.alone_at_rest (h : s.Inv keep p host) (hover : ∀ c ∈ s.clients, c.stage.isOver = true) :
    s.writer? = none := by
  cases hwriter : s.writer? with
  | none => rfl
  | some i =>
    obtain ⟨c, hc⟩ := Option.isSome_iff_exists.mp ((h.sole i).mpr hwriter)
    obtain ⟨hget, hwriting⟩ := Option.filter_eq_some_iff.mp hc
    have hletIn := PortStage.letIn_of_writing hwriting
    obtain ⟨result, hstage⟩ :=
      PortStage.changed_of_letIn hletIn (hover c (List.mem_of_getElem? hget))
    rw [hstage] at hwriting
    cases hwriting

/-- No client writes between a read and the time when who makes it joined the readers. -/
theorem QuietSince.not_wrote {who : PortUser} {between earlier : List PortNote}
    (h : QuietSince who (between ++ earlier)) (hstays : .entered who ∉ between) (i : Nat) :
    .wrote i ∉ between := by
  induction between with
  | nil => exact List.not_mem_nil
  | cons note between ih =>
    have hrest : .entered who ∉ between := fun hmem => hstays (List.mem_cons_of_mem note hmem)
    intro hmem
    cases note with
    | entered who' =>
      rcases h with rfl | h
      · exact hstays List.mem_cons_self
      · exact ih h hrest (by simpa using hmem)
    | read who' => exact ih h hrest (by simpa using hmem)
    | wrote j => exact h

theorem ReadsQuiet.quiet {who : PortUser} {later earlier : List PortNote}
    (h : ReadsQuiet (later ++ .read who :: earlier)) : QuietSince who earlier := by
  induction later with
  | nil => exact h.1
  | cons note later ih =>
    cases note with
    | read who' => exact ih h.2
    | entered who' | wrote i => exact ih h

/-- Once all clients are done, the block is what the changes make of it one after another, in the
order in which they were let in at the gate; these are the changes of all clients that were not
refused before, each of them once. And between two reads of one stay with the readers no client
stores a block or discards a queue for a change. -/
theorem Reachable.changes_serial (h : Reachable keep p host s) :
    ((∀ c ∈ s.clients, c.stage.isOver = true) →
      s.crew.host.lineBlock p.fd = (serially keep p s.changes host).lineBlock p.fd ∧
      (s.changes.map (·.client)).Nodup ∧
      ∀ i, i ∈ s.changes.map (·.client) ↔
        ∃ c result, s.clients[i]? = some c ∧ c.stage = .changed result) ∧
    ∀ who later between earlier,
      s.notes = later ++ .read who :: (between ++ .read who :: earlier) →
      .entered who ∉ between → ∀ i, .wrote i ∉ between := by
  constructor
  · intro hover
    have hserial := h.inv.serial
    rw [settled_alone (h.inv.alone_at_rest hover)] at hserial
    refine ⟨hserial.block, h.inv.once, ?_⟩
    intro i
    rw [h.inv.listed, wasLetIn, Option.any_eq_true]
    constructor
    · rintro ⟨c, hc, hletIn⟩
      have hdone := hover c (List.mem_of_getElem? hc)
      obtain ⟨result, hstage⟩ := PortStage.changed_of_letIn hletIn hdone
      exact ⟨c, result, hc, hstage⟩
    · rintro ⟨c, result, hc, hstage⟩
      exact ⟨c, hc, by rw [hstage]; rfl⟩
  · intro who later between earlier hnotes hstays
    have hwhole := h.inv.whole
    rw [hnotes] at hwhole
    exact hwhole.quiet.not_wrote hstays

/-- Bytes have come in on the line of the port. -/
def typed : Host := Host.withPort.setPty 0 { Host.withPort.pty 0 with input := [1, 2, 3, 4] }

/-- Two clients change settings while a client and a listener read. The second change waits for the
first one, whose flush fails, and keeps what it has set. -/
def sharedLine : List Action :=
  [.begin (.asking (.configure { dataBits := .seven })) [(.tcflush, .EIO)],
    .begin (.asking (.minRead 7)) [], .begin (.arriving 2) [],
    .spawn { fd := 3, body := .data .creating 4 true }, .outside typed,
    .thread (.step 0), .thread (.step 0), .thread (.step 0), .thread (.step 0), .thread (.step 0),
    .thread (.step 0), .proceed 2, .thread (.fail 0 .EINTR), .proceed 2, .thread (.step 0),
    .proceed 2, .proceed 0, .thread (.step 0), .proceed 0, .proceed 0, .proceed 0, .proceed 0,
    .proceed 1, .proceed 1, .proceed 1, .proceed 1, .proceed 1]

theorem sharedLine_serial :
    ∃ s, (start Host.withPort).run? id terminalPort sharedLine = some s ∧
      s.changes.map (·.client) = [1, 0] ∧
      s.crew.host.lineBlock 3 = (serially id terminalPort s.changes Host.withPort).lineBlock 3 ∧
      s.notes = [.wrote 1, .wrote 0, .wrote 0, .read (.thread 0), .read (.client 2),
        .read (.thread 0), .entered (.client 2), .entered (.thread 0)] ∧
      ∀ i, .wrote i ∉ [PortNote.read (.client 2)] := by
  have hrun : ∃ s, (start Host.withPort).run? id terminalPort sharedLine = some s ∧
      s.changes.map (·.client) = [1, 0] ∧ s.clients.all (·.stage.isOver) = true ∧
      s.notes = [.wrote 1, .wrote 0, .wrote 0] ++ .read (.thread 0) ::
        ([.read (.client 2)] ++ .read (.thread 0) ::
          [.entered (.client 2), .entered (.thread 0)]) :=
    ⟨_, rfl, rfl, rfl, rfl⟩
  rcases hrun with ⟨s, hrun, hchanges, hover, hnotes⟩
  have hreach := Reachable.run id terminalPort .start hrun
  obtain ⟨hserial, hquiet⟩ := Reachable.changes_serial hreach
  obtain ⟨hblock, -, -⟩ := hserial (List.all_eq_true.mp hover)
  exact ⟨s, hrun, hchanges, hblock, hnotes, hquiet _ _ _ _ hnotes (by decide)⟩

end SharedPort

end SerialLine
