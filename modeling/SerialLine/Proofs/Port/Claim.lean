import SerialLine.Host.Open
import SerialLine.Proofs.Host.Faults
import SerialLine.Proofs.Terminal.Line

/-!
# SerialLine.Proofs.Port.Claim — the claim of a port that is opened

A port that is opened exclusively claims its terminal first and sets it up afterwards. None of the
later steps touches the claim, whether it succeeds or fails (`Port.init_claimed`), and nothing on a
way out gives the claim back. So `Opening.claim_left` can say which openings that failed have left
the terminal claimed: all those that had claimed it.
-/

namespace SerialLine

variable {σ : Type}

/-! ## Claiming and setting up -/

/-- What opening a port does to the claim on a terminal: a claim through the descriptor is granted
or not, and the calls after it leave it alone. -/
structure TerminalCalls.KeepClaim (calls : TerminalCalls σ) (fd : Fd) (claimed grants : σ → Bool) :
    Prop where
  claiming : ∀ s, claimed (calls.claim fd s).2 = (claimed s || grants s)
  fetching : ∀ s, claimed (calls.getBlock fd s).2 = claimed s
  storing : ∀ s b, claimed (calls.setBlock fd b s).2 = claimed s
  committing : ∀ s baud, claimed (calls.commitBaud fd baud s).2 = claimed s
  flushing : ∀ s queue, claimed (calls.flush fd queue s).2 = claimed s

namespace Port

variable {calls : TerminalCalls σ} {fd : Fd} {claimed grants : σ → Bool} (d : Driver)

/-- Nothing that comes after the claim touches it. -/
theorem setUp_claimed (hk : calls.KeepClaim fd claimed grants) (c : Configuration) (p : Port)
    (s : σ) : claimed (setUp d calls fd c p s).2 = claimed s := by
  refine Call.keeps_bind (hk.fetching s) fun b s => ?_
  refine Call.keeps_bind (by rw [Call.lift_eq]) fun b s => ?_
  refine Call.keeps_bind (hk.storing s b) fun _ s => ?_
  refine Call.keeps_bind (hk.committing s _) fun _ s => ?_
  exact Call.keeps_bind (hk.flushing s _) fun _ s => rfl

/-- Opening leaves the terminal claimed if it was, or if a claim was asked for and granted;
it makes no difference what happens afterwards. -/
theorem init_claimed (hk : calls.KeepClaim fd claimed grants) (path : String)
    (options : OpenOptions) (s : σ) :
    claimed (init d calls fd path options s).2 =
      (claimed s || (options.exclusive && grants s)) := by
  rw [init_eq]
  cases options.exclusive with
  | false =>
    rw [Bool.false_and, Bool.or_false]
    exact setUp_claimed d hk _ _ s
  | true =>
    rw [Bool.true_and, ← hk.claiming]
    simp only [if_true]
    rw [Call.bind_eq]
    rcases calls.claim fd s with ⟨e | _, s'⟩
    · rfl
    · exact setUp_claimed d hk _ _ s'

end Port

/-! ## Hosts -/

namespace Host

variable {n : Nat} {fd : Fd} {c : SystemCall}

/-- Whether a terminal is claimed. -/
def claimed (n : Nat) (h : Host) : Bool := (h.pty n).exclusive

/-- Whether a claim through a descriptor gets a terminal. -/
def grants (n : Nat) (fd : Fd) (h : Host) : Bool :=
  h.endpoint? fd == some (.terminal n) && !h.hasFault .TIOCEXCL

theorem claimed_setPty (m : Nat) (t : Pty) (h : Host) :
    (h.setPty m t).claimed n = if n = m then t.exclusive else h.claimed n := by
  unfold claimed
  by_cases hm : n = m
  · rw [if_pos hm, hm, pty_setPty_self]
  · rw [if_neg hm, pty_setPty_ne hm]

/-- A call that changes a terminal, but not whether it is claimed, leaves all claims alone. -/
theorem onTerminal_claimed {act : Pty → Pty} (hact : ∀ t, (act t).exclusive = t.exclusive)
    (h : Host) : (onTerminal c fd act h).2.claimed n = h.claimed n := by
  have hcall : onTerminal c fd act h = _ :=
    call_terminal c fd (fun m h => ((), h.setPty m (act (h.pty m)))) h
  rw [hcall]
  split
  · rfl
  · rfl
  · rename_i faults m _ _
    refine (claimed_setPty m _ _).trans ?_
    split
    · rename_i hm
      rw [hact, hm]
      rfl
    · rfl

/-- A claim is granted if it meets no fault and the descriptor stands for the terminal. -/
theorem claim_claimed (h : Host) :
    (terminalCalls.claim fd h).2.claimed n = (h.claimed n || h.grants n fd) := by
  have hcall : terminalCalls.claim fd h = _ :=
    call_terminal .TIOCEXCL fd (fun m h => ((), h.setPty m { h.pty m with exclusive := true })) h
  have hfaults := isSome_takeFrom .TIOCEXCL h.faults
  rw [hcall]
  split
  · -- a fault is met
    rename_i hfault
    rw [hfault] at hfaults
    have hnone : h.grants n fd = false := by
      rw [grants, hasFault, ← hfaults]
      exact Bool.and_false _
    rw [hnone, Bool.or_false]
    rfl
  · -- the descriptor stands for no terminal
    rename_i hnot
    have hnone : h.grants n fd = false := by
      have hne : h.endpoint? fd ≠ some (.terminal n) := by
        intro hfd
        simp [terminalOf, hfd] at hnot
      rw [grants, beq_false_of_ne hne, Bool.false_and]
    rw [hnone, Bool.or_false]
    rfl
  · rename_i faults m hfault hm
    rw [hfault] at hfaults
    have hgrants : h.grants n fd = decide (n = m) := by
      rw [grants, hasFault, ← hfaults, terminalOf_ok hm]
      simp [beq_eq_decide, eq_comm]
    refine (claimed_setPty m _ _).trans ?_
    rw [hgrants]
    by_cases hnm : n = m
    · simp [hnm]
    · simp [hnm]
      rfl

theorem keepClaim (n : Nat) (fd : Fd) : terminalCalls.KeepClaim fd (claimed n) (grants n fd) where
  claiming := claim_claimed
  fetching := by
    intro h
    have hcall : terminalCalls.getBlock fd h = _ :=
      call_terminal .TCGETS2 fd (fun m h => ((h.pty m).block, h)) h
    rw [hcall]
    split <;> rfl
  storing := by
    intro h b
    have hact : ∀ t, (Pty.setBlock b t).exclusive = t.exclusive := fun _ => rfl
    exact onTerminal_claimed hact h
  committing _ _ := rfl
  flushing := by
    intro h queue
    refine onTerminal_claimed ?_ h
    intro t
    unfold Pty.flush
    split <;> rfl

/-- Closing the descriptor of an opening that failed gives no claim back. -/
theorem closingOnError_claimed {α : Type} (fd : Fd) (act : Call Host α) (h : Host) :
    (closingOnError fd act h).2.claimed n = (act h).2.claimed n := by
  have hrun : act h = act.run.run h := rfl
  rw [hrun, closingOnError]
  rcases act.run.run h with ⟨e | value, h'⟩
  · rfl
  · rfl

/-- A descriptor that is open is adopted by initializing it. -/
theorem adopt_eq (fd : Fd) (label : String) (options : OpenOptions) (h : Host) :
    Port.adopt Linux.driver terminalCalls fd label options h =
      if (h.endpoint? fd).isSome then Port.init Linux.driver terminalCalls fd label options h
      else (.error (.osCall "fcntl(F_GETFL)" .EBADF), h) := by
  have hset : terminalCalls.setNonBlocking fd h =
      if (h.endpoint? fd).isSome then (.ok (), h)
      else (.error (.osCall "fcntl(F_GETFL)" .EBADF), h) := rfl
  rw [Port.adopt, Call.bind_eq, hset]
  cases (h.endpoint? fd).isSome <;> rfl

/-- Opening a device changes neither claims nor faults. -/
theorem openDevice_keeps (p : Path) (read write : Bool) (h : Host) :
    (openDevice p read write h).2.claimed n = h.claimed n ∧
      (openDevice p read write h).2.faults = h.faults := by
  unfold openDevice
  dsimp only
  split
  · exact ⟨rfl, rfl⟩
  · split
    · exact ⟨rfl, rfl⟩
    · exact ⟨rfl, rfl⟩

end Host

/-! ## Ways of opening a port -/

/-- How a port is opened on a host. -/
inductive Opening where
  /-- By handing over a descriptor that is open already. -/
  | adopting (fd : Fd) (label : String)
  /-- By its path. -/
  | path (p : Path)

namespace Opening

open Host

/-- Opens the port. If that fails, the descriptor is closed. -/
def run (options : OpenOptions) : Opening → Call Host Port
  | adopting fd label => closingOnError fd (Port.adopt Linux.driver terminalCalls fd label options)
  | path p => openPort p options

/-- Whether an opening gets to a terminal. -/
def reaches (n : Nat) (options : OpenOptions) (h : Host) : Opening → Bool
  | adopting fd _ => h.endpoint? fd == some (.terminal n)
  | path p =>
    match openDevice p options.read options.write h with
    | (.ok fd, h) => h.endpoint? fd == some (.terminal n)
    | (.error _, _) => false

/-- A terminal is claimed after an opening if it was before, or if the opening asks for a claim,
gets to the terminal, and is not refused the claim. -/
theorem claimed_run (o : Opening) (n : Nat) (options : OpenOptions) (h : Host) :
    (o.run options h).2.claimed n =
      (h.claimed n || (options.exclusive && (o.reaches n options h && !h.hasFault .TIOCEXCL))) := by
  cases o with
  | adopting fd label =>
    refine (closingOnError_claimed fd _ h).trans ?_
    rw [adopt_eq]
    split
    · exact Port.init_claimed Linux.driver (keepClaim n fd) label options h
    · rename_i hnone
      have hfd : h.endpoint? fd = none := by simpa using hnone
      simp [reaches, hfd]
  | path p =>
    obtain ⟨hkept, hfaults⟩ := openDevice_keeps (n := n) p options.read options.write h
    have hopen : (path p).run options h = _ := Call.bind_eq _ _ h
    rw [hopen, reaches]
    rcases hdevice : openDevice p options.read options.write h with ⟨e | fd, h₁⟩
    · rw [hdevice] at hkept
      simpa using hkept
    · rw [hdevice] at hkept hfaults
      have hinit := Port.init_claimed Linux.driver (keepClaim n fd) p.display options h₁
      refine (closingOnError_claimed fd _ h₁).trans (hinit.trans ?_)
      rw [hkept, grants, hasFault, hfaults]
      rfl

/-- An opening that fails leaves a terminal claimed that was not, exactly if it had claimed it by
then. -/
theorem claim_left {o : Opening} {n : Nat} {options : OpenOptions} {h h' : Host} {e : Error}
    (hclear : h.claimed n = false) (hfail : o.run options h = (.error e, h')) :
    h'.claimed n = (options.exclusive && (o.reaches n options h && !h.hasFault .TIOCEXCL)) := by
  have hrun := o.claimed_run n options h
  rw [hfail, hclear] at hrun
  exact hrun

/-- A host on which two descriptors stand for one terminal, which nobody has claimed. -/
def heldTwice : Host := openTerminal 4 0 (openTerminal 3 0 {})

/-- The same host, on which the next control block cannot be stored. -/
def unstorable : Host := heldTwice.addFaults [(.TCSETS2, .EIO)]

theorem claim_left_unstored :
    ((adopting 3 "t").run {} unstorable).1 = .error (.osCall "ioctl(TCSETS2)" .EIO) ∧
      ((adopting 3 "t").run {} unstorable).2.claimed 0 = true := by
  have hclear : unstorable.claimed 0 = false := rfl
  have hfail : (adopting 3 "t").run {} unstorable =
      (.error (.osCall "ioctl(TCSETS2)" .EIO), ((adopting 3 "t").run {} unstorable).2) := rfl
  exact ⟨rfl, claim_left hclear hfail⟩

/-- An invalid configuration is found after the claim has been made, which stays. -/
theorem invalid_leaves_claim :
    heldTwice.claimed 0 = false ∧
      ∃ h', (adopting 3 "t").run { config := { reportParityErrors := true } } heldTwice =
          (.error .parityNotEnabled, h') ∧ h'.claimed 0 = true :=
  ⟨rfl, _, rfl, rfl⟩

end Opening

end SerialLine
