import SerialLine.Proofs.Port.Claim
import SerialLine.Proofs.Terminal.Applying

/-!
# SerialLine.Proofs.Port.Invalid — what an invalid configuration gets to

A configuration comes to a terminal in two ways. Configuring an open port checks it before any call,
whatever the system (`Port.configure_invalid`). Adopting a descriptor looks at it late: the
descriptor is claimed and its block is fetched first, and each of these can fail
(`Port.setUp_invalid`). `invalid_configuration` says of both what is called, what the answer is, and
what is left of the terminal.
-/

namespace SerialLine

variable {σ : Type}

/-! ## On any system -/

/-- The codec refuses what is invalid before it edits anything. -/
theorem encode_on_invalid {c : Configuration} {e : Error} (hc : c.validate = .error e) (d : Driver)
    (b : ControlBlock) : (encode d c).on b = .error e := by
  apply Edit.on_error.2
  refine ⟨b, ?_⟩
  unfold encode
  rw [hc, Call.bind_eq, Call.lift_eq]

namespace Port

variable {c : Configuration} {e : Error} (hc : c.validate = .error e) (d : Driver)
  (calls : TerminalCalls σ)

include hc

/-- Configuring a port calls nothing, and nothing is changed. -/
theorem configure_invalid (p : Port) (s : σ) : configure d calls p c s = (.error e, s) := by
  unfold configure Terminal.apply
  rw [hc, Call.bind_eq, Call.lift_eq]

/-- What opening does after the claim ends with the block being fetched. -/
theorem setUp_invalid (fd : Fd) (p : Port) (s : σ) :
    setUp d calls fd c p s =
      match calls.getBlock fd s with
      | (.ok _, s') => (.error e, s')
      | (.error e', s') => (.error e', s') := by
  unfold setUp
  rw [Call.bind_eq]
  rcases calls.getBlock fd s with ⟨e' | b, s'⟩
  · rfl
  · dsimp only
    rw [encode_on_invalid hc, Call.bind_eq, Call.lift_eq]

end Port

/-! ## On a host -/

namespace Host

/-- The first fault that calls meet, made one after the other until one fails, and the faults that
are then to come. -/
def firstFault : List SystemCall → List (SystemCall × Errno) →
    Option (SystemCall × Errno) × List (SystemCall × Errno)
  | [], faults => (none, faults)
  | c :: cs, faults =>
    match takeFrom c faults with
    | (some code, faults) => (some (c, code), faults)
    | (none, faults) => firstFault cs faults

/-- The answer to calls that are to end with an error, whether or not one of them fails before. -/
def answerAfter (e : Error) : Option (SystemCall × Errno) → Error
  | some (c, code) => .osCall c.operation code
  | none => e

/-- The calls that are made on a terminal before its configuration is looked at. -/
def approach (exclusive : Bool) : List SystemCall :=
  (if exclusive then [.TIOCEXCL] else []) ++ [.TCGETS2]

section

variable {fd : Fd} {n : Nat} {h : Host} (hfd : h.endpoint? fd = some (.terminal n))

include hfd

/-- A call on a descriptor that stands for a terminal only fails with its next fault. -/
theorem call_of_terminal {α : Type} (c : SystemCall) (act : Nat → Host → α × Host) :
    call c (fun h => do let n ← h.terminalOf fd; return act n h) h =
      match takeFrom c h.faults with
      | (some code, faults) => (.error (.osCall c.operation code), { h with faults })
      | (none, faults) => (act n { h with faults }).map .ok id := by
  have hterminal : h.terminalOf fd = .ok n := by
    unfold terminalOf
    rw [hfd]
  rw [call_terminal, hterminal]
  rcases takeFrom c h.faults with ⟨_ | code, faults⟩
  · rfl
  · rfl

/-- Setting a terminal up with an invalid configuration fetches its block and no more. -/
theorem setUp_invalid {c : Configuration} {e : Error} (hc : c.validate = .error e) (p : Port) :
    Port.setUp Linux.driver terminalCalls fd c p h =
      (.error (answerAfter e (firstFault [.TCGETS2] h.faults).1),
        { h with faults := (firstFault [.TCGETS2] h.faults).2 }) := by
  have hget : terminalCalls.getBlock fd h = _ :=
    call_of_terminal hfd .TCGETS2 fun m h => ((h.pty m).block, h)
  rw [Port.setUp_invalid hc, hget, firstFault]
  rcases takeFrom .TCGETS2 h.faults with ⟨_ | code, faults⟩
  · rfl
  · rfl

/-- Initializing a terminal with an invalid configuration claims it, if it is asked to, fetches its
block, and fails; the claim is all that is left of it. -/
theorem init_invalid {e : Error} (path : String) (options : OpenOptions)
    (hc : options.config.validate = .error e) :
    ∃ h', Port.init Linux.driver terminalCalls fd path options h =
        (.error (answerAfter e (firstFault (approach options.exclusive) h.faults).1), h') ∧
      h'.faults = (firstFault (approach options.exclusive) h.faults).2 ∧
      h'.pty n = { h.pty n with
        exclusive := (h.pty n).exclusive || (options.exclusive && !h.hasFault .TIOCEXCL) } := by
  rw [Port.init_eq]
  cases options.exclusive with
  | false =>
    refine ⟨_, setUp_invalid hfd hc _, rfl, ?_⟩
    rw [Bool.false_and, Bool.or_false]
    rfl
  | true =>
    have hclaim : terminalCalls.claim fd h = _ :=
      call_of_terminal hfd .TIOCEXCL
        fun m h => ((), h.setPty m { h.pty m with exclusive := true })
    have hmet := isSome_takeFrom .TIOCEXCL h.faults
    simp only [if_true, Bool.true_and]
    rw [Call.bind_eq, hclaim, approach, if_pos rfl, List.singleton_append, firstFault, hasFault]
    rcases hfault : takeFrom .TIOCEXCL h.faults with ⟨_ | code, faults⟩
    · -- the claim is granted, and what comes after leaves the terminal alone
      let claimed := { h with faults }.setPty n { h.pty n with exclusive := true }
      have hclaimed : claimed.endpoint? fd = some (.terminal n) := hfd
      rw [hfault] at hmet
      refine ⟨_, setUp_invalid hclaimed hc _, rfl, ?_⟩
      rw [← hmet, Option.isSome_none, Bool.not_false, Bool.or_true]
      exact pty_setPty_self n _ { h with faults := _ }
    · rw [hfault] at hmet
      refine ⟨_, rfl, rfl, ?_⟩
      rw [← hmet, Option.isSome_some, Bool.not_true, Bool.or_false]
      rfl

end

end Host

namespace Opening

open Host

/-- An invalid configuration is refused by an open port before any call, on every system. Handing a
terminal over with one comes to the claim, if that is asked for, and to the fetch of the block: the
answer is the fault that these meet first, or else that of the validation; no other call is made,
and nothing of the terminal changes but the claim. -/
theorem invalid_configuration {c : Configuration} {e : Error} (hc : c.validate = .error e) :
    (∀ (σ : Type) (d : Driver) (calls : TerminalCalls σ) (p : Port) (s : σ),
      p.configure d calls c s = (.error e, s)) ∧
    (∀ (options : OpenOptions) (h : Host) (fd : Fd) (label : String) (n : Nat),
      options.config = c → h.endpoint? fd = some (.terminal n) →
        ∃ h', (adopting fd label).run options h =
            (.error (answerAfter e (firstFault (approach options.exclusive) h.faults).1), h') ∧
          h'.faults = (firstFault (approach options.exclusive) h.faults).2 ∧
          h'.pty n = { h.pty n with
            exclusive := (h.pty n).exclusive ||
              (options.exclusive && !h.hasFault .TIOCEXCL) }) := by
  constructor
  · intro σ d calls p s
    exact Port.configure_invalid hc d calls p s
  · intro options h fd label n hoptions hfd
    subst hoptions
    have hadopt : Port.adopt Linux.driver terminalCalls fd label options h =
        Port.init Linux.driver terminalCalls fd label options h := by
      rw [adopt_eq, hfd]
      rfl
    obtain ⟨h₁, hinit, hfaults, hpty⟩ := init_invalid hfd label options hc
    have hcall : (Port.adopt Linux.driver terminalCalls fd label options).run.run h = _ :=
      hadopt.trans hinit
    refine ⟨h₁.close fd, ?_, hfaults, hpty⟩
    show closingOnError fd (Port.adopt Linux.driver terminalCalls fd label options) h = _
    rw [closingOnError, hcall]

/-- Two equal flow control characters, for a terminal that somebody else has claimed: the failure of
the claim is what the caller sees. -/
theorem refused_claim_hides_invalid :
    let c : Configuration := { flowControl := .software, xonChar := 0x11, xoffChar := 0x11 }
    c.validate = .error (.invalidSetting "xon_char" "XON and XOFF must be different characters") ∧
      ((adopting 3 "t").run { config := c } (heldTwice.addFaults [(.TIOCEXCL, 16)])).1 =
        .error (.osCall "ioctl(TIOCEXCL)" 16) :=
  ⟨rfl, rfl⟩

/-- On an open port and on a terminal that meets no fault, the same configuration is refused for
what it is; the terminal that was handed over is claimed all the same. -/
theorem sameCharacters_refused :
    let c : Configuration := { flowControl := .software, xonChar := 0x11, xoffChar := 0x11 }
    let e : Error := .invalidSetting "xon_char" "XON and XOFF must be different characters"
    c.validate = .error e ∧ heldTwice.endpoint? 3 = some (.terminal 0) ∧
      Port.configure Linux.driver terminalCalls ⟨3, "t", true⟩ c heldTwice =
        (.error e, heldTwice) ∧
      ∃ h', (adopting 3 "t").run { config := c } heldTwice = (.error e, h') ∧
        (h'.pty 0).exclusive = true := by
  intro c e
  have hc : c.validate = .error e := rfl
  have hfd : heldTwice.endpoint? 3 = some (.terminal 0) := rfl
  obtain ⟨hconfigure, hadopt⟩ := invalid_configuration hc
  obtain ⟨h', hrun, -, hpty⟩ := hadopt { config := c } heldTwice 3 "t" 0 rfl hfd
  refine ⟨hc, hfd, hconfigure _ _ _ _ _, h', hrun, ?_⟩
  rw [hpty]
  rfl

end Opening

end SerialLine
