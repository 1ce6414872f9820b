import SerialLine.Proofs.Listener.Pending
import SerialLine.Proofs.Terminal.Fields

/-!
# SerialLine.Proofs.Terminal.ModemLines — clients that drive modem lines of one port

Driving a line takes two calls, one that fetches the word of all lines and one that stores it
with the line changed. Nothing keeps another client from storing a word of its own in between, and
then the second store brings back the old state of the other client's line: `crossed_loses_line`
is such a run.

What holds in every order of calls is that no other bit changes and that the line driven last is
as it was asked for. `LineScene.stale` records whether a word was stored that had been fetched
before another one was stored. As long as it was not, the word is what the clients would have
made of it one after the other.
-/

namespace SerialLine

/-! ## Words -/

namespace ModemWord

/-- The bits of the lines that the host drives. -/
def driven : ModemWord := DTR ||| RTS

/-- Whether a word asserts a line that the host drives. -/
def asserts (w : ModemWord) (line : ModemLine) : Bool := Flags.meets w (bit line)

/-- Driving a line replaces its bit. -/
theorem drive_eq (w : ModemWord) (line : ModemLine) (asserted : Bool) :
    w.drive line asserted =
      Flags.without w (bit line) ||| (if asserted then bit line else 0) := by
  cases asserted with
  | false => simp [drive]
  | true =>
    simp only [drive, if_true]
    apply UInt32.toBitVec_inj.1
    ext i hi
    simp only [Flags.without, UInt32.toBitVec_or, UInt32.toBitVec_and, UInt32.toBitVec_not,
      BitVec.getElem_or, BitVec.getElem_and, BitVec.getElem_not]
    cases w.toBitVec[i] <;> cases (bit line).toBitVec[i] <;> rfl

/-- A line that was driven is as it was asked for. -/
theorem asserts_drive_self (w : ModemWord) (line : ModemLine) (asserted : Bool) :
    (w.drive line asserted).asserts line = asserted := by
  have hcleared : bit line &&& ~~~(bit line) = 0 := by cases line <;> decide
  unfold asserts Flags.meets
  rw [drive_eq, Flags.edit_replaces hcleared]
  cases line <;> cases asserted <;> decide

/-- The other line stays as it is. -/
theorem asserts_drive_other {line line' : ModemLine} (hne : line' ≠ line) (w : ModemWord)
    (asserted : Bool) : (w.drive line asserted).asserts line' = w.asserts line' := by
  have hapart : bit line' &&& ~~~(bit line) = bit line' ∧
      (if asserted then bit line else 0) &&& bit line' = 0 := by
    cases line <;> cases line' <;> cases asserted <;> first | exact absurd rfl hne | decide
  unfold asserts Flags.meets
  rw [drive_eq, Flags.edit_adds hapart.1, hapart.2, UInt32.or_zero]

/-- All other bits stay as they are. -/
theorem without_drive (w : ModemWord) (line : ModemLine) (asserted : Bool) :
    Flags.without (w.drive line asserted) driven = Flags.without w driven := by
  have hapart : ~~~driven &&& ~~~(bit line) = ~~~driven ∧
      (if asserted then bit line else 0) &&& ~~~driven = 0 := by
    cases line <;> cases asserted <;> decide
  show w.drive line asserted &&& ~~~driven = w &&& ~~~driven
  rw [drive_eq, Flags.edit_adds hapart.1, hapart.2, UInt32.or_zero]

end ModemWord

/-! ## Calls that succeed -/

/-- The calls on a descriptor fetch and store a word that the system keeps for it, and do not fail
while there is one. -/
structure TerminalCalls.KeepWord {σ : Type} (calls : TerminalCalls σ) (fd : Fd)
    (word : σ → Option ModemWord) : Prop where
  fetch : ∀ s w, word s = some w → ∃ s', calls.modemBits fd s = (.ok w, s') ∧ word s' = some w
  store : ∀ s w w', word s = some w →
    ∃ s', calls.setModemBits fd w' s = (.ok (), s') ∧ word s' = some w'

namespace Host

/-- The modem lines of a descriptor, on a host on which no call fails. -/
def modemWord (fd : Fd) (h : Host) : Option ModemWord :=
  if h.faults.isEmpty then (h.modem fd).bits? else none

theorem modemWord_eq_some {fd : Fd} {h : Host} {w : ModemWord} :
    h.modemWord fd = some w ↔ h.faults = [] ∧ (h.modem fd).bits? = some w := by
  simp [modemWord]

/-- A host without faults keeps the word. -/
theorem keepWord (fd : Fd) : terminalCalls.KeepWord fd (modemWord fd) where
  fetch := by
    intro h w hw
    rcases modemWord_eq_some.mp hw with ⟨hf, hbits⟩
    refine ⟨h, ?_, hw⟩
    simp [terminalCalls, call, takeFault_none hf, hbits]
  store := by
    intro h w w' hw
    rcases modemWord_eq_some.mp hw with ⟨hf, hbits⟩
    refine ⟨h.setModem fd { h.modem fd with bits? := some w' }, ?_, ?_⟩
    · simp [terminalCalls, call, takeFault_none hf, hbits]
    · refine modemWord_eq_some.mpr ⟨hf, ?_⟩
      simp [modem, setModem, lookup_assign_self]

end Host

/-! ## One client -/

/-- Where a client stands in driving a line. -/
inductive LineStage where
  /-- About to fetch the word. -/
  | fetching
  /-- About to store the word with the line changed. -/
  | storing (bits : ModemWord)
  | finished (result : Outcome Unit)

/-- A client that drives a line. -/
structure LineCall where
  line : ModemLine
  asserted : Bool
  stage : LineStage := .fetching

variable {σ : Type}

/-- The next call of a client; `none` when it is finished. -/
def LineCall.step (calls : TerminalCalls σ) (fd : Fd) (c : LineCall) (s : σ) :
    Option (LineCall × σ) :=
  match c.stage with
  | .fetching =>
    match calls.modemBits fd s with
    | (.ok bits, s) => some ({ c with stage := .storing (bits.drive c.line c.asserted) }, s)
    | (.error e, s) => some ({ c with stage := .finished (.error e) }, s)
  | .storing bits =>
    let (result, s) := calls.setModemBits fd bits s
    some ({ c with stage := .finished result }, s)
  | .finished _ => none

/-- Lets a client make at most `fuel` calls. -/
def LineCall.runWithin (calls : TerminalCalls σ) (fd : Fd) :
    (fuel : Nat) → LineCall → σ → LineCall × σ
  | 0, c, s => (c, s)
  | fuel + 1, c, s =>
    match c.step calls fd s with
    | some (c, s) => runWithin calls fd fuel c s
    | none => (c, s)

/-- A client whom nobody interrupts does what driving the line does. -/
theorem LineCall.runWithin_two (calls : TerminalCalls σ) (fd : Fd) (line : ModemLine)
    (asserted : Bool) (s : σ) :
    LineCall.runWithin calls fd 2 { line, asserted } s =
      ({ line, asserted, stage := .finished ((calls.setModemLine fd line asserted).run.run s).1 },
        ((calls.setModemLine fd line asserted).run.run s).2) := by
  have hline : (calls.setModemLine fd line asserted).run.run s =
      match calls.modemBits fd s with
      | (.ok bits, s) => calls.setModemBits fd (bits.drive line asserted) s
      | (.error e, s) => (.error e, s) := by
    show ExceptT.bind (calls.modemBits fd) _ s = _
    unfold ExceptT.bind ExceptT.mk
    simp only [bind, StateT.bind]
    rcases calls.modemBits fd s with ⟨_ | _, _⟩ <;> rfl
  rw [hline]
  simp only [runWithin, step]
  rcases calls.modemBits fd s with ⟨_ | bits, s'⟩ <;> rfl

/-! ## Any number of clients -/

/-- A client, with the number of words that had been stored when it fetched its own. -/
structure LineClient extends LineCall where
  seen : Nat := 0

/-- A port with the clients that drive its lines. -/
structure LineScene (σ : Type) where
  state : σ
  clients : List LineClient := []
  /-- The lines that were driven, the latest first. -/
  stores : List (ModemLine × Bool) := []
  /-- Whether a word was stored that had been fetched before another one was stored. -/
  stale : Bool := false

/-- A step of somebody. -/
inductive LineAction where
  /-- A client begins to drive a line. -/
  | begin (line : ModemLine) (asserted : Bool)
  /-- A client makes its next call. -/
  | proceed (client : Nat)

namespace LineScene

/-- A scene after a step; `none` if the step cannot be taken. -/
def act? (calls : TerminalCalls σ) (fd : Fd) (s : LineScene σ) : LineAction → Option (LineScene σ)
  | .begin line asserted => some { s with clients := s.clients ++ [{ line, asserted }] }
  | .proceed i => do
    let c ← s.clients[i]?
    let (call, state) ← c.toLineCall.step calls fd s.state
    match c.stage with
    | .fetching =>
      let c' : LineClient := { call with seen := s.stores.length }
      some { s with state, clients := s.clients.set i c' }
    | .storing _ =>
      let c' : LineClient := { call with seen := c.seen }
      some {
        state
        clients := s.clients.set i c'
        stores := (c.line, c.asserted) :: s.stores
        stale := s.stale || c.seen != s.stores.length }
    | .finished _ => none

/-- A scene after several steps. -/
def run? (calls : TerminalCalls σ) (fd : Fd) (s : LineScene σ) (actions : List LineAction) :
    Option (LineScene σ) :=
  actions.foldlM (act? calls fd) s

/-- What any order of calls leads to. -/
inductive Reachable (calls : TerminalCalls σ) (fd : Fd) (state : σ) : LineScene σ → Prop where
  | start : Reachable calls fd state { state }
  | act {s s' : LineScene σ} (a : LineAction) (h : Reachable calls fd state s)
    (ha : s.act? calls fd a = some s') : Reachable calls fd state s'

theorem Reachable.run {calls : TerminalCalls σ} {fd : Fd} {state : σ} {s s' : LineScene σ}
    {actions : List LineAction} (h : Reachable calls fd state s)
    (hrun : s.run? calls fd actions = some s') : Reachable calls fd state s' :=
  run_keeps (fun a _ _ _ hs ha => hs.act a ha) h hrun

/-- The word that clients make of one when they drive lines one after the other, the latest
first in the list. -/
def wordAfter (w : ModemWord) (stores : List (ModemLine × Bool)) : ModemWord :=
  stores.foldr (fun d w => w.drive d.1 d.2) w

/-- What a client that is about to store a word holds: a word with its own line as asked for, and
the word of the port with that line driven, if nobody has stored one since. -/
structure Ready (w₀ w : ModemWord) (stores : Nat) (c : LineClient) (bits : ModemWord) : Prop where
  others : Flags.without bits ModemWord.driven = Flags.without w₀ ModemWord.driven
  own : bits.asserts c.line = c.asserted
  seen : c.seen ≤ stores
  fresh : c.seen = stores → bits = w.drive c.line c.asserted

/-- What holds of a port whose lines are driven, with the word that it had and the one that it
has. -/
structure Inv (w₀ w : ModemWord) (s : LineScene σ) : Prop where
  /-- No other bit has changed. -/
  others : Flags.without w ModemWord.driven = Flags.without w₀ ModemWord.driven
  /-- The line driven last is as it was asked for. -/
  latest : ∀ d rest, s.stores = d :: rest → w.asserts d.1 = d.2
  /-- Without stale stores no line was lost. -/
  word : s.stale = false → w = wordAfter w₀ s.stores
  /-- Lines are driven by clients. -/
  asked : ∀ d ∈ s.stores, ∃ c ∈ s.clients, (c.line, c.asserted) = d
  ready : ∀ c ∈ s.clients, ∀ bits, c.stage = .storing bits → Ready w₀ w s.stores.length c bits
  /-- No client has failed, and those that are finished have driven their lines. -/
  finished : ∀ c ∈ s.clients, ∀ result, c.stage = .finished result →
    result = .ok () ∧ (c.line, c.asserted) ∈ s.stores

variable {calls : TerminalCalls σ} {fd : Fd} {word : σ → Option ModemWord} {s s' : LineScene σ}
  {w₀ w : ModemWord}

theorem init_inv (w : ModemWord) (state : σ) : Inv w w { state : LineScene σ } where
  others := rfl
  latest := by
    intro d rest h
    cases h
  word := fun _ => rfl
  asked := by
    intro d hd
    cases hd
  ready := by
    intro c hc
    cases hc
  finished := by
    intro c hc
    cases hc

/-- A client that begins is not about to store anything. -/
theorem Inv.begin (h : s.Inv w₀ w) (line : ModemLine) (asserted : Bool) :
    Inv w₀ w { s with clients := s.clients ++ [{ line, asserted }] } where
  others := h.others
  latest := h.latest
  word := h.word
  asked := by
    intro d hd
    rcases h.asked d hd with ⟨c, hc, hcd⟩
    exact ⟨c, List.mem_append_left _ hc, hcd⟩
  ready := by
    intro c hc bits hstage
    rcases List.mem_append.mp hc with hc | hc
    · exact h.ready c hc bits hstage
    · obtain rfl := List.mem_singleton.mp hc
      cases hstage
  finished := by
    intro c hc result hstage
    rcases List.mem_append.mp hc with hc | hc
    · exact h.finished c hc result hstage
    · obtain rfl := List.mem_singleton.mp hc
      cases hstage

/-- A client that fetches the word has it with its own line driven. -/
theorem Inv.fetch (h : s.Inv w₀ w) {i : Nat} {c c' : LineClient} (state : σ)
    (hi : s.clients[i]? = some c) (hsame : (c'.line, c'.asserted) = (c.line, c.asserted))
    (hstage : c'.stage = .storing (w.drive c'.line c'.asserted))
    (hseen : c'.seen = s.stores.length) :
    Inv w₀ w { s with state, clients := s.clients.set i c' } where
  others := h.others
  latest := h.latest
  word := h.word
  asked := fun d hd => exists_mem_set hi hsame.trans (h.asked d hd)
  ready := by
    intro c₁ hc₁ bits hbits
    rcases List.mem_or_eq_of_mem_set hc₁ with hc₁ | rfl
    · exact h.ready c₁ hc₁ bits hbits
    · obtain rfl := LineStage.storing.inj (hstage.symm.trans hbits)
      constructor
      · exact (ModemWord.without_drive w c₁.line c₁.asserted).trans h.others
      · exact ModemWord.asserts_drive_self w c₁.line c₁.asserted
      · exact Nat.le_of_eq hseen
      · exact fun _ => rfl
  finished := by
    intro c₁ hc₁ result hresult
    rcases List.mem_or_eq_of_mem_set hc₁ with hc₁ | rfl
    · exact h.finished c₁ hc₁ result hresult
    · rw [hstage] at hresult
      cases hresult

/-- A client that stores its word makes all others stale that were fetched before. -/
theorem Inv.store (h : s.Inv w₀ w) {i : Nat} {c c' : LineClient} {bits : ModemWord} (state : σ)
    (hi : s.clients[i]? = some c) (hsame : (c'.line, c'.asserted) = (c.line, c.asserted))
    (hstage : c.stage = .storing bits) (hstage' : c'.stage = .finished (.ok ())) :
    Inv w₀ bits
      { state
        clients := s.clients.set i c'
        stores := (c.line, c.asserted) :: s.stores
        stale := s.stale || c.seen != s.stores.length } := by
  have hlt := (List.getElem?_eq_some_iff.mp hi).1
  have hready := h.ready c (List.mem_of_getElem? hi) bits hstage
  constructor
  · exact hready.others
  · intro d rest hd
    obtain rfl := (List.cons.inj hd).1
    exact hready.own
  · intro hstale
    obtain ⟨hbefore, hseen⟩ : s.stale = false ∧ c.seen = s.stores.length := by
      simpa using hstale
    show bits = (wordAfter w₀ s.stores).drive c.line c.asserted
    rw [← h.word hbefore]
    exact hready.fresh hseen
  · intro d hd
    rcases List.mem_cons.mp hd with rfl | hd
    · exact ⟨c', List.mem_set hlt c', hsame⟩
    · exact exists_mem_set hi hsame.trans (h.asked d hd)
  · intro c₁ hc₁ bits₁ hstage₁
    rcases List.mem_or_eq_of_mem_set hc₁ with hc₁ | rfl
    · -- what the others hold was fetched before this store, so it is stale from now on
      have hold := h.ready c₁ hc₁ bits₁ hstage₁
      have hless : c₁.seen < s.stores.length + 1 := Nat.lt_succ_of_le hold.seen
      exact ⟨hold.others, hold.own, Nat.le_of_lt hless,
        fun heq => absurd heq (Nat.ne_of_lt hless)⟩
    · rw [hstage'] at hstage₁
      cases hstage₁
  · intro c₁ hc₁ result hresult
    rcases List.mem_or_eq_of_mem_set hc₁ with hc₁ | rfl
    · rcases h.finished c₁ hc₁ result hresult with ⟨hok, hmem⟩
      exact ⟨hok, List.mem_cons_of_mem _ hmem⟩
    · rw [hstage'] at hresult
      refine ⟨(LineStage.finished.inj hresult).symm, ?_⟩
      rw [hsame]
      exact List.mem_cons_self

/-- A step of somebody preserves the invariant, for the word that the port has afterwards. -/
theorem step_inv (hk : calls.KeepWord fd word) {a : LineAction} (h : s.Inv w₀ w)
    (hw : word s.state = some w) (ha : s.act? calls fd a = some s') :
    ∃ w', word s'.state = some w' ∧ s'.Inv w₀ w' := by
  cases a with
  | begin line asserted =>
    obtain rfl := Option.some.inj ha
    exact ⟨w, hw, h.begin line asserted⟩
  | proceed i =>
    rcases Option.bind_eq_some_iff.mp ha with ⟨c, hi, hrest⟩
    rcases Option.bind_eq_some_iff.mp hrest with ⟨⟨call, state⟩, hstep, hscene⟩
    unfold LineCall.step at hstep
    cases hstage : c.stage with
    | fetching =>
      rcases hk.fetch s.state w hw with ⟨state', hfetch, hw'⟩
      simp only [hstage, hfetch] at hstep hscene
      rcases Prod.mk.inj (Option.some.inj hstep) with ⟨rfl, rfl⟩
      obtain rfl := Option.some.inj hscene
      exact ⟨w, hw', h.fetch state' hi rfl rfl rfl⟩
    | storing bits =>
      rcases hk.store s.state w bits hw with ⟨state', hstore, hw'⟩
      simp only [hstage, hstore] at hstep hscene
      rcases Prod.mk.inj (Option.some.inj hstep) with ⟨rfl, rfl⟩
      obtain rfl := Option.some.inj hscene
      exact ⟨bits, hw', h.store state' hi rfl hstage rfl⟩
    | finished result =>
      simp only [hstage] at hstep
      cases hstep

theorem Reachable.inv {state : σ} (hk : calls.KeepWord fd word) (hw : word state = some w₀)
    (h : Reachable calls fd state s) : ∃ w, word s.state = some w ∧ s.Inv w₀ w := by
  induction h with
  | start => exact ⟨w₀, hw, init_inv w₀ state⟩
  | act a _ ha ih =>
    rcases ih with ⟨w, hword, hinv⟩
    exact step_inv hk hinv hword ha

/-! ## What becomes of the lines -/

/-- A line that was driven is as it was asked for, if it was never asked for otherwise. -/
theorem asserts_wordAfter {line : ModemLine} {asserted : Bool} {stores : List (ModemLine × Bool)}
    (hmem : (line, asserted) ∈ stores) (hagree : ∀ d ∈ stores, d.1 = line → d.2 = asserted)
    (w : ModemWord) : (wordAfter w stores).asserts line = asserted := by
  induction stores with
  | nil => cases hmem
  | cons d rest ih =>
    show ((wordAfter w rest).drive d.1 d.2).asserts line = asserted
    -- the last one who drove the line decides
    by_cases hline : d.1 = line
    · have hd := hagree d List.mem_cons_self hline
      rw [hline, hd]
      exact ModemWord.asserts_drive_self _ line asserted
    · rw [ModemWord.asserts_drive_other (Ne.symm hline)]
      rcases List.mem_cons.mp hmem with rfl | hmem
      · exact absurd rfl hline
      · exact ih hmem fun d' hd' => hagree d' (List.mem_cons_of_mem _ hd')

/-- What clients find of a word that was `w₀` before they drove its lines and is `w` now. -/
structure Driven (w₀ w : ModemWord) (s : LineScene σ) : Prop where
  /-- All other bits are as they were. -/
  others : Flags.without w ModemWord.driven = Flags.without w₀ ModemWord.driven
  /-- Every client that is finished has succeeded. -/
  answered : ∀ c ∈ s.clients, ∀ result, c.stage = .finished result → result = .ok ()
  /-- The line driven last is as it was asked for. -/
  latest : ∀ d rest, s.stores = d :: rest → w.asserts d.1 = d.2
  /-- Unless a stale word was stored, the line of every client that is finished is as it was asked
  for, where no other client asks otherwise. -/
  kept : s.stale = false → ∀ c ∈ s.clients, ∀ result, c.stage = .finished result →
    (∀ c' ∈ s.clients, c'.line = c.line → c'.asserted = c.asserted) →
    w.asserts c.line = c.asserted

/-- In every order of calls no bit changes that nobody drives, and no line is lost unless a stale
word is stored. -/
theorem Reachable.lines_driven {state : σ} (hk : calls.KeepWord fd word)
    (hw : word state = some w₀) (h : Reachable calls fd state s) :
    ∃ w, word s.state = some w ∧ s.Driven w₀ w := by
  rcases h.inv hk hw with ⟨w, hword, hinv⟩
  refine ⟨w, hword, hinv.others, fun c hc result hr => (hinv.finished c hc result hr).1,
    hinv.latest, ?_⟩
  intro hfresh c hc result hresult hagree
  rw [hinv.word hfresh]
  refine asserts_wordAfter (hinv.finished c hc result hresult).2 ?_ w₀
  intro d hd hline
  rcases hinv.asked d hd with ⟨c', hc', rfl⟩
  exact hagree c' hc' hline

/-- A host on which a descriptor has modem lines. -/
def wired (bits : ModemWord) : Host := { modems := [(5, { bits? := some bits })] }

/-- Two clients assert a line each. The second one fetches the word before the first one stores
its own. -/
def crossed : List LineAction :=
  [.begin .rts true, .begin .dtr true, .proceed 0, .proceed 1, .proceed 0, .proceed 1]

/-- The same, one after the other. -/
def orderly : List LineAction :=
  [.begin .rts true, .begin .dtr true, .proceed 0, .proceed 0, .proceed 1, .proceed 1]

/-- Both clients have succeeded, and the line of the first is not asserted. -/
theorem crossed_loses_line :
    ∃ s, run? Host.terminalCalls 5 { state := wired 0 } crossed = some s ∧
      s.clients.map (·.toLineCall) =
        [⟨.rts, true, .finished (.ok ())⟩, ⟨.dtr, true, .finished (.ok ())⟩] ∧
      s.state.modemWord 5 = some ModemWord.DTR ∧ ModemWord.DTR.asserts .rts = false :=
  ⟨_, rfl, rfl, rfl, by decide⟩

theorem orderly_lines_driven :
    ∃ s, run? Host.terminalCalls 5 { state := wired 0 } orderly = some s ∧
      ∃ w, s.state.modemWord 5 = some w ∧ w.asserts .rts = true ∧ w.asserts .dtr = true := by
  let first : LineClient := { line := .rts, asserted := true, stage := .finished (.ok ()) }
  let second : LineClient := { first with line := .dtr, seen := 1 }
  have hrun : ∃ s, run? Host.terminalCalls 5 { state := wired 0 } orderly = some s ∧
      s.stale = false ∧ s.clients = [first, second] :=
    ⟨_, rfl, rfl, rfl⟩
  rcases hrun with ⟨s, hrun, hfresh, hclients⟩
  have hreach : Reachable Host.terminalCalls 5 (wired 0) s := Reachable.run .start hrun
  have hword : (wired 0).modemWord 5 = some 0 := rfl
  rcases Reachable.lines_driven (Host.keepWord 5) hword hreach with ⟨w, hw, hdriven⟩
  have hall : ∀ c ∈ s.clients, c.asserted = true := by simp [hclients, first, second]
  have hfirst := hdriven.kept hfresh first (by simp [hclients]) _ rfl fun c hc _ => hall c hc
  have hsecond := hdriven.kept hfresh second (by simp [hclients]) _ rfl fun c hc _ => hall c hc
  exact ⟨s, hrun, w, hw, hfirst, hsecond⟩

end LineScene

end SerialLine
