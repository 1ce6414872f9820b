import SerialLine.Port
import SerialLine.Proofs.Listener.Pending

/-!
# SerialLine.Proofs.Terminal.Line — the block of one terminal

What calls do to the control block of the terminal behind one descriptor. `KeepBlock` says of any
system that it gives a block back as it was stored; `Host.lineCalls` are calls that do so on a
host, with whatever its terminals keep of a block.

Nothing that is called in order to change a block depends on more than the block, the endpoint of
the descriptor and the faults to come. `Call.Local` is this property: hosts that are alike at a
line stay alike, and give the same answers.
-/

namespace SerialLine

variable {σ : Type}

/-! ## Calls one after the other -/

namespace Call

variable {α β : Type}

theorem bind_eq (m : Call σ α) (f : α → Call σ β) (s : σ) :
    (m >>= f) s =
      match m s with
      | (.ok a, s') => f a s'
      | (.error e, s') => (.error e, s') := by
  show ExceptT.bind m f s = _
  unfold ExceptT.bind ExceptT.mk
  simp only [bind, StateT.bind]
  rcases m s with ⟨_ | _, _⟩ <;> rfl

/-- Where a sequence of calls succeeds, each of them does. -/
theorem bind_ok {m : Call σ α} {f : α → Call σ β} {s s' : σ} {b : β}
    (h : (m >>= f) s = (.ok b, s')) : ∃ a s₁, m s = (.ok a, s₁) ∧ f a s₁ = (.ok b, s') := by
  rw [bind_eq] at h
  rcases hms : m s with ⟨e | a, s₁⟩
  · rw [hms] at h
    cases h
  · rw [hms] at h
    exact ⟨a, s₁, rfl, h⟩

/-- Where a sequence of calls fails, one of them does. -/
theorem bind_error {m : Call σ α} {f : α → Call σ β} {s s' : σ} {e : Error}
    (h : (m >>= f) s = (.error e, s')) :
    m s = (.error e, s') ∨ ∃ a s₁, m s = (.ok a, s₁) ∧ f a s₁ = (.error e, s') := by
  rw [bind_eq] at h
  rcases hms : m s with ⟨e' | a, s₁⟩
  · rw [hms] at h
    obtain ⟨herr, rfl⟩ := Prod.mk.inj h
    obtain rfl := Except.error.inj herr
    exact .inl rfl
  · rw [hms] at h
    exact .inr ⟨a, s₁, rfl, h⟩

/-- What each call of a sequence keeps is kept by the sequence. -/
theorem keeps_bind {γ : Type} {view : σ → γ} {m : Call σ α} {f : α → Call σ β} {s : σ}
    (hm : view (m s).2 = view s) (hf : ∀ a s', view (f a s').2 = view s') :
    view ((m >>= f) s).2 = view s := by
  rw [bind_eq]
  rcases hms : m s with ⟨e | a, s'⟩
  · rwa [hms] at hm
  · rw [hms] at hm
    exact (hf a s').trans hm

/-- Where a call is known to keep something, so is its outcome. -/
theorem keeps_of_eq {γ : Type} {view : σ → γ} {m : Call σ α} {s s' : σ} {result : Outcome α}
    (hm : view (m s).2 = view s) (h : m s = (result, s')) : view s' = view s := by
  rw [h] at hm
  exact hm

theorem lift_eq (result : Outcome α) (s : σ) :
    (liftM result : Call σ α) s = (result, s) := by
  cases result <;> rfl

theorem lift_ok (a : α) : (liftM (.ok a : Outcome α) : Call σ α) = pure a := rfl

end Call

/-! ## Opening -/

namespace Port

variable (d : Driver) (calls : TerminalCalls σ) (fd : Fd)

/-- What opening does after the claim, for a port that is handed out if all of it succeeds. -/
def setUp (c : Configuration) (p : Port) : Call σ Port := do
  let b ← calls.getBlock fd
  let b ← liftM ((encode d c).on (makeRaw d b))
  calls.setBlock fd b
  calls.commitBaud fd c.baud
  calls.flush fd .both
  return p

theorem init_eq (path : String) (options : OpenOptions) :
    init d calls fd path options = (do
      if options.exclusive then calls.claim fd
      setUp d calls fd options.config { fd, path, exclusive := options.exclusive }) := rfl

end Port

/-! ## Terminals that keep their block -/

/-- The calls on a descriptor fetch the block that was stored last, and only a store that succeeds
changes it. Each of them may fail. -/
structure TerminalCalls.KeepBlock (calls : TerminalCalls σ) (fd : Fd) (block : σ → ControlBlock) :
    Prop where
  fetched : ∀ s b, (calls.getBlock fd s).1 = .ok b → b = block s
  fetching : ∀ s, block (calls.getBlock fd s).2 = block s
  storing : ∀ s b, block (calls.setBlock fd b s).2 =
    if (calls.setBlock fd b s).1.isOk then b else block s
  committing : ∀ s baud, block (calls.commitBaud fd baud s).2 = block s
  flushing : ∀ s queue, block (calls.flush fd queue s).2 = block s
  claiming : ∀ s, block (calls.claim fd s).2 = block s
  unblocking : ∀ s, block (calls.setNonBlocking fd s).2 = block s

/-! ## Hosts -/

namespace Host

/-- The calls of a host whose terminals keep of a block what `keep` says. -/
def lineCalls (keep : ControlBlock → ControlBlock) : TerminalCalls Host :=
  { terminalCalls with
    setBlock := fun fd b => onTerminal .TCSETS2 fd fun t => { t with block := keep b } }

/-- Pseudo-terminals keep all but what they cannot change. -/
theorem terminalCalls_eq : terminalCalls = lineCalls Pty.kept := rfl

/-- The block of the terminal behind a descriptor. -/
def lineBlock (fd : Fd) (h : Host) : ControlBlock :=
  match h.endpoint? fd with
  | some (.terminal n) => (h.pty n).block
  | _ => {}

theorem terminalOf_ok {fd : Fd} {h : Host} {n : Nat} (hn : h.terminalOf fd = .ok n) :
    h.endpoint? fd = some (.terminal n) := by
  unfold terminalOf at hn
  split at hn
  · rename_i n' hfd
    obtain rfl := Except.ok.inj hn
    exact hfd
  · cases hn
  · cases hn

/-- A call on the terminal behind a descriptor meets its next fault, or there is no terminal, or it
is done. -/
theorem call_terminal {α : Type} (c : SystemCall) (fd : Fd) (act : Nat → Host → α × Host)
    (h : Host) :
    call c (fun h => do let n ← h.terminalOf fd; return act n h) h =
      match takeFrom c h.faults, h.terminalOf fd with
      | (some code, faults), _ => (.error (.osCall c.operation code), { h with faults })
      | (none, faults), .error code => (.error (.osCall c.operation code), { h with faults })
      | (none, faults), .ok n => ((act n { h with faults }).map .ok id) := by
  unfold call takeFault
  rcases takeFrom c h.faults with ⟨_ | code, faults⟩
  · cases hn : h.terminalOf fd with
    | error code =>
      have hn' : terminalOf fd { h with faults } = .error code := hn
      simp only [hn']
      rfl
    | ok n =>
      have hn' : terminalOf fd { h with faults } = .ok n := hn
      simp only [hn']
      rfl
  · rfl

/-- A call on a terminal keeps its block if what it does keeps it. -/
theorem call_terminal_block {α : Type} {c : SystemCall} {fd : Fd} {act : Nat → Host → α × Host}
    (hact : ∀ n h, h.endpoint? fd = some (.terminal n) →
      (act n h).2.lineBlock fd = h.lineBlock fd) (h : Host) :
    (call c (fun h => do let n ← h.terminalOf fd; return act n h) h).2.lineBlock fd =
      h.lineBlock fd := by
  rw [call_terminal]
  split
  · rfl
  · rfl
  · rename_i faults n _ hn
    exact hact n { h with faults } (terminalOf_ok hn)

/-- A change of the terminal behind a descriptor changes the block as it says. -/
theorem lineBlock_setPty {fd : Fd} {h : Host} {n : Nat} (hn : h.endpoint? fd = some (.terminal n))
    (t : Pty) : (h.setPty n t).lineBlock fd = t.block := by
  have hn' : (h.setPty n t).endpoint? fd = some (.terminal n) := hn
  rw [lineBlock, hn']
  show ((h.setPty n t).pty n).block = t.block
  rw [pty_setPty_self]

/-- A call that changes a terminal, but not its block, keeps it. -/
theorem onTerminal_block {c : SystemCall} {fd : Fd} {act : Pty → Pty}
    (hact : ∀ t, (act t).block = t.block) (h : Host) :
    (onTerminal c fd act h).2.lineBlock fd = h.lineBlock fd := by
  refine call_terminal_block ?_ h
  intro n h hn
  have hblock : h.lineBlock fd = (h.pty n).block := by rw [lineBlock, hn]
  rw [lineBlock_setPty hn, hact, hblock]

/-- A host whose terminals keep every block as it is given keeps the block. -/
theorem keepBlock (fd : Fd) : (lineCalls id).KeepBlock fd (lineBlock fd) where
  fetched := by
    intro h b hget
    have hcall : (lineCalls id).getBlock fd h = _ :=
      call_terminal .TCGETS2 fd (fun n h => ((h.pty n).block, h)) h
    rw [hcall] at hget
    split at hget
    · cases hget
    · cases hget
    · rename_i n _ hn
      rw [lineBlock, terminalOf_ok hn]
      exact (Except.ok.inj hget).symm
  fetching := by
    intro h
    exact call_terminal_block (fun _ _ _ => rfl) h
  storing := by
    intro h b
    have hcall : (lineCalls id).setBlock fd b h = _ := call_terminal .TCSETS2 fd
      (fun n h => ((), h.setPty n { h.pty n with block := b })) h
    rw [hcall]
    split
    · rfl
    · rfl
    · rename_i faults n _ hn
      exact lineBlock_setPty (h := { h with faults }) (terminalOf_ok hn) _
  committing _ _ := rfl
  flushing := by
    intro h queue
    refine onTerminal_block ?_ h
    intro t
    unfold Pty.flush
    split <;> rfl
  claiming := by
    intro h
    have hact : ∀ t : Pty, { t with exclusive := true }.block = t.block := fun _ => rfl
    exact onTerminal_block hact h
  unblocking := by
    intro h
    show lineBlock fd (if (h.endpoint? fd).isSome then (Except.ok (), h) else _).2 = _
    split <;> rfl

/-! ## Hosts that are alike at a line -/

/-- Two hosts are alike at a line if the descriptor stands for the same thing on both, and the
terminals that it may stand for have the same block. -/
structure Alike (fd : Fd) (h h' : Host) : Prop where
  endpoint : h'.endpoint? fd = h.endpoint? fd
  block : h'.lineBlock fd = h.lineBlock fd

namespace Alike

variable {fd : Fd} {h h' h'' : Host}

theorem refl (fd : Fd) (h : Host) : h.Alike fd h := ⟨rfl, rfl⟩

theorem symm (ha : h.Alike fd h') : h'.Alike fd h := ⟨ha.endpoint.symm, ha.block.symm⟩

theorem trans (ha : h.Alike fd h') (hb : h'.Alike fd h'') : h.Alike fd h'' :=
  ⟨hb.endpoint.trans ha.endpoint, hb.block.trans ha.block⟩

/-- Faults make no difference. -/
theorem withFaults (ha : h.Alike fd h') (faults faults' : List (SystemCall × Errno)) :
    { h with faults }.Alike fd { h' with faults := faults' } :=
  ⟨ha.endpoint, ha.block⟩

theorem terminalOf (ha : h.Alike fd h') : h'.terminalOf fd = h.terminalOf fd := by
  unfold Host.terminalOf
  rw [ha.endpoint]

/-- The terminals of hosts that are alike have the same block. -/
theorem pty_block (ha : h.Alike fd h') {n : Nat} (hn : h.endpoint? fd = some (.terminal n)) :
    (h'.pty n).block = (h.pty n).block := by
  have hblock := ha.block
  have hn' : h'.endpoint? fd = some (.terminal n) := ha.endpoint.trans hn
  unfold lineBlock at hblock
  rwa [hn, hn'] at hblock

/-- Hosts stay alike when their terminals get the same block. -/
theorem setPty (ha : h.Alike fd h') {n : Nat} (hn : h.endpoint? fd = some (.terminal n))
    {t t' : Pty} (ht : t'.block = t.block) : (h.setPty n t).Alike fd (h'.setPty n t') where
  endpoint := ha.endpoint
  block := by
    rw [lineBlock_setPty hn, lineBlock_setPty (ha.endpoint.trans hn), ht]

end Alike

/-- A host that differs in faults, or in bytes that wait, is alike. -/
theorem SameButFaults.alike {h h' : Host} (hs : h.SameButFaults h') (fd : Fd) : h.Alike fd h' := by
  rcases hs with ⟨faults, rfl⟩
  exact ⟨rfl, rfl⟩

theorem SameButQueue.alike {src? : Option Source} {h h' : Host} (hs : SameButQueue src? h h')
    (fd : Fd) : h.Alike fd h' := by
  have hfd : h'.endpoint? fd = h.endpoint? fd := by
    unfold endpoint?
    rw [hs.descriptors]
  refine ⟨hfd, ?_⟩
  unfold lineBlock
  rw [hfd]
  split
  · exact hs.block _
  · rfl

end Host

/-- What happens to threads makes no difference to a line. -/
theorem Crew.after?_alike {c c' : Crew} {e : Crew.Event} (h : c.after? e = some c') (fd : Fd) :
    c.host.Alike fd c'.host := by
  have hedge : ∀ {th : Thread} {chunk : Nat} {p q : DataLoop.Point} {w : Waker} {h h' : Host}
      {handed : List Bytes}, DataLoop.Edge th chunk h p q w h' handed → h.Alike fd h' := by
    intro th chunk p q w h h' handed e
    cases e with
    | created hh | refused hh | entered hh => exact hh.alike fd
    | read => exact (Host.readFd_spec _ _ _).1.alike fd
    | _ => exact .refl fd h
  rcases after?_cases h with rfl | ⟨t, th, th', items, -, hstep, -⟩
  · exact .refl fd _
  · generalize c'.host = host at hstep
    cases hstep with
    | data _ e => exact hedge e
    | event _ _ hh | watch _ _ hh => exact hh.alike fd
    | poked | letGo => exact .refl fd _

/-! ## Calls that look at a line only -/

/-- A call is local to a line if hosts that are alike there, with the same faults to come, answer
the same and stay alike. -/
def Call.Local {α : Type} (fd : Fd) (m : Call Host α) : Prop :=
  ∀ h h' : Host, h.Alike fd h' → h'.faults = h.faults →
    (m h').1 = (m h).1 ∧ (m h).2.Alike fd (m h').2 ∧ (m h').2.faults = (m h).2.faults

namespace Call.Local

variable {α β : Type} {fd : Fd}

theorem lift (result : Outcome α) : Local fd (liftM result : Call Host α) := by
  intro h h' ha hfaults
  rw [lift_eq, lift_eq]
  exact ⟨rfl, ha, hfaults⟩

theorem bind {m : Call Host α} {f : α → Call Host β} (hm : Local fd m)
    (hf : ∀ a, Local fd (f a)) : Local fd (m >>= f) := by
  intro h h' ha hfaults
  obtain ⟨hanswer, halike, hrest⟩ := hm h h' ha hfaults
  rw [bind_eq, bind_eq]
  rcases hms : m h with ⟨e | a, s⟩
  · rcases hms' : m h' with ⟨e' | a', s'⟩
    · rw [hms, hms'] at hanswer halike hrest
      exact ⟨congrArg Except.error (Except.error.inj hanswer), halike, hrest⟩
    · rw [hms, hms'] at hanswer
      cases hanswer
  · rcases hms' : m h' with ⟨e' | a', s'⟩
    · rw [hms, hms'] at hanswer
      cases hanswer
    · rw [hms, hms'] at hanswer halike hrest
      obtain rfl := Except.ok.inj hanswer
      exact hf _ s s' halike hrest

/-- A call on a terminal is local if what it does is. -/
theorem call_terminal {c : SystemCall} {act : Nat → Host → α × Host}
    (hact : ∀ n h h', h.endpoint? fd = some (.terminal n) → h.Alike fd h' → h'.faults = h.faults →
      (act n h').1 = (act n h).1 ∧ (act n h).2.Alike fd (act n h').2 ∧
        (act n h').2.faults = (act n h).2.faults) :
    Local fd (Host.call c fun h => do let n ← h.terminalOf fd; return act n h) := by
  intro h h' ha hfaults
  rw [Host.call_terminal, Host.call_terminal, ha.terminalOf, hfaults]
  split
  · exact ⟨rfl, ha.withFaults _ _, rfl⟩
  · exact ⟨rfl, ha.withFaults _ _, rfl⟩
  · rename_i faults n _ hn
    obtain ⟨hanswer, halike, hrest⟩ := hact n { h with faults } { h' with faults }
      (Host.terminalOf_ok hn) (ha.withFaults _ _) rfl
    exact ⟨congrArg Except.ok hanswer, halike, hrest⟩

/-- A call that changes a terminal is local if the new block depends on the old one alone. -/
theorem onTerminal {c : SystemCall} {act : Pty → Pty}
    (hact : ∀ t t' : Pty, t'.block = t.block → (act t').block = (act t).block) :
    Local fd (Host.onTerminal c fd act) := by
  refine call_terminal ?_
  intro n h h' hn ha hfaults
  exact ⟨rfl, ha.setPty hn (hact _ _ (ha.pty_block hn)), hfaults⟩

variable (fd) (keep : ControlBlock → ControlBlock)

theorem getBlock : Local fd ((Host.lineCalls keep).getBlock fd) := by
  refine call_terminal ?_
  intro n h h' hn ha hfaults
  exact ⟨ha.pty_block hn, ha, hfaults⟩

theorem setBlock (b : ControlBlock) : Local fd ((Host.lineCalls keep).setBlock fd b) :=
  onTerminal fun _ _ _ => rfl

theorem flush (queue : QueueSelector) : Local fd ((Host.lineCalls keep).flush fd queue) := by
  refine onTerminal ?_
  intro t t' ht
  unfold Pty.flush
  split
  · exact ht
  · exact ht

end Call.Local

/-! ## Calls with faults of their own -/

/-- Does something that meets faults of its own in place of those of the host, and gives the faults
that are left. -/
def Host.facing {α : Type} (faults : List (SystemCall × Errno)) (act : Host → α × Host) (h : Host) :
    (α × List (SystemCall × Errno)) × Host :=
  let r := act { h with faults }
  ((r.1, r.2.faults), { r.2 with faults := h.faults })

/-- Hosts that are alike stay alike, whoever's faults are met. -/
theorem Call.Local.facing {α : Type} {fd : Fd} {m : Call Host α} (hm : Local fd m)
    (faults : List (SystemCall × Errno)) {h h' : Host} (ha : h.Alike fd h') :
    (h.facing faults m).2.Alike fd (h'.facing faults m).2 := by
  obtain ⟨-, halike, -⟩ := hm _ _ (ha.withFaults faults faults) rfl
  exact halike.withFaults _ _

end SerialLine
