import SerialLine.Proofs.Terminal.Line
import SerialLine.Proofs.Terminal.RoundTrip

/-!
# SerialLine.Proofs.Terminal.Reconfiguring — a port that is set up and reconfigured

Everything that writes a control block fetches it first, edits it and stores it again. For the two
reconfigurations of an open port `Reconfiguration.perform_eq` makes this shape explicit: a check
that calls nothing, a fetch, an edit, a store, and what may still fail after the store.

`PortRun` is what any sequence of reconfigurations leads to from a port that was opened, with any
call failing or not. Its log has those whose store succeeded. `PortRun.keeps` reduces what is said
about the block of such a port to the block of a new port and to single edits.
-/

namespace SerialLine

variable {σ : Type}

/-! ## Reconfigurations -/

/-- A change of the settings of an open port. -/
inductive Reconfiguration where
  | configure (c : Configuration)
  | minRead (n : Nat)
deriving DecidableEq

namespace Reconfiguration

variable (calls : TerminalCalls σ) (p : Port)

/-- Makes the change. -/
def perform : Reconfiguration → Call σ Unit
  | configure c => p.configure Linux.driver calls c
  | minRead n => p.setMinReadLength calls n

/-- What is checked before anything is called. -/
def check : Reconfiguration → Outcome Unit
  | configure c => c.validate
  | minRead n =>
    if n > Port.maxMinRead then .error (.invalidSetting "min_read_length" s!"{n} exceeds 255")
    else .ok ()

/-- What becomes of the block that was fetched. -/
def edit : Reconfiguration → ControlBlock → ControlBlock
  | configure c => encoded c
  | minRead n => (·.setChar .vmin (UInt8.ofNat n))

/-- The change up to the store, after which it is in effect. -/
def store (r : Reconfiguration) : Call σ Unit := do
  liftM r.check
  let b ← calls.getBlock p.fd
  calls.setBlock p.fd (r.edit b)

/-- What is done after the store. -/
def settle : Reconfiguration → Call σ Unit
  | configure c => do
    calls.commitBaud p.fd c.baud
    calls.flush p.fd .both
  | minRead _ => return ()

/-- Whether the store is reached and succeeds. -/
def takesEffect (r : Reconfiguration) (s : σ) : Bool := (r.store calls p s).1.isOk

theorem on_encode {c : Configuration} (hc : c.validate = .ok ()) (b : ControlBlock) :
    (encode Linux.driver c).on b = .ok (encoded c b) := by
  unfold Edit.on
  rw [encode_valid hc]

theorem on_encode_ok {c : Configuration} {b b' : ControlBlock}
    (h : (encode Linux.driver c).on b = .ok b') : c.validate = .ok () ∧ b' = encoded c b := by
  cases hc : c.validate with
  | error e =>
    unfold Edit.on at h
    rw [encode_invalid hc] at h
    cases h
  | ok _ =>
    rw [on_encode hc] at h
    exact ⟨rfl, (Except.ok.inj h).symm⟩

/-- A change is made by a store, and by what is done after it if it succeeds. -/
theorem perform_eq (r : Reconfiguration) :
    r.perform calls p = (do r.store calls p; r.settle calls p) := by
  cases r with
  | configure c =>
    rw [perform, Port.configure, Terminal.apply, store, check]
    cases hc : c.validate with
    | error e => rfl
    | ok _ =>
      simp only [Call.lift_ok, pure_bind, bind_assoc, on_encode hc]
      rfl
  | minRead n =>
    rw [perform, Port.setMinReadLength, store, check]
    split
    · rfl
    · simp only [Call.lift_ok, pure_bind, bind_assoc]
      have hsettle : settle calls p (minRead n) = return () := rfl
      simp only [hsettle, bind_pure_unit]
      rfl

/-- A change answers with the failure of its store, or of what is done after it. -/
theorem perform_answer (r : Reconfiguration) (s : σ) :
    (r.perform calls p s).1 =
      if r.takesEffect calls p s then (r.settle calls p (r.store calls p s).2).1
      else (r.store calls p s).1 := by
  rw [perform_eq, Call.bind_eq, takesEffect]
  rcases r.store calls p s with ⟨e | _, s'⟩
  · rfl
  · rfl

end Reconfiguration

section KeepBlock

variable {calls : TerminalCalls σ} {p : Port} {block : σ → ControlBlock}

namespace Reconfiguration

theorem check_of_takesEffect {r : Reconfiguration} {s : σ} (h : r.takesEffect calls p s = true) :
    r.check = .ok () := by
  cases hc : r.check with
  | ok _ => rfl
  | error e =>
    have hstore : r.store calls p s = (.error e, s) := by
      rw [store, hc]
      rfl
    rw [takesEffect, hstore] at h
    cases h

theorem store_block (hk : calls.KeepBlock p.fd block) (r : Reconfiguration) (s : σ) :
    block (r.store calls p s).2 =
      if r.takesEffect calls p s then r.edit (block s) else block s := by
  unfold takesEffect store
  cases r.check with
  | error e => rfl
  | ok _ =>
    rw [Call.lift_ok, pure_bind, Call.bind_eq]
    have hfetching := hk.fetching s
    have hfetched := hk.fetched s
    rcases hget : calls.getBlock p.fd s with ⟨e | b, s₁⟩
    · rw [hget] at hfetching
      exact hfetching
    · rw [hget] at hfetching hfetched
      obtain rfl : b = block s := hfetched b rfl
      have hstoring := hk.storing s₁ (r.edit (block s))
      rwa [hfetching] at hstoring

theorem settle_block (hk : calls.KeepBlock p.fd block) (r : Reconfiguration) (s : σ) :
    block (r.settle calls p s).2 = block s := by
  cases r with
  | configure c => exact Call.keeps_bind (hk.committing s c.baud) fun _ s' => hk.flushing s' .both
  | minRead n => rfl

/-- A change edits the block if its store is reached and succeeds, and leaves it as it is
otherwise. -/
theorem perform_block (hk : calls.KeepBlock p.fd block) (r : Reconfiguration) (s : σ) :
    block (r.perform calls p s).2 =
      if r.takesEffect calls p s then r.edit (block s) else block s := by
  rw [perform_eq, ← store_block hk, Call.bind_eq]
  rcases r.store calls p s with ⟨e | _, s'⟩
  · rfl
  · exact settle_block hk r s'

end Reconfiguration

/-- A port that was opened has a block in raw mode with a valid configuration written into it. -/
theorem Port.init_block (hk : calls.KeepBlock p.fd block) {path : String} {options : OpenOptions}
    {s s' : σ} (h : Port.init Linux.driver calls p.fd path options s = (.ok p, s')) :
    options.config.validate = .ok () ∧
      block s' = encoded options.config (makeRaw Linux.driver (block s)) := by
  obtain ⟨s₁, hclaimed, h⟩ : ∃ s₁, block s₁ = block s ∧
      setUp Linux.driver calls p.fd options.config
        { fd := p.fd, path, exclusive := options.exclusive } s₁ = (.ok p, s') := by
    rw [init_eq] at h
    split at h
    · obtain ⟨_, s₁, hclaim, h⟩ := Call.bind_ok h
      exact ⟨s₁, Call.keeps_of_eq (hk.claiming s) hclaim, h⟩
    · exact ⟨s, rfl, h⟩
  obtain ⟨b, s₂, hget, h⟩ := Call.bind_ok h
  obtain ⟨b', s₃, hencode, h⟩ := Call.bind_ok h
  obtain ⟨_, s₄, hset, h⟩ := Call.bind_ok h
  obtain ⟨_, s₅, hcommit, h⟩ := Call.bind_ok h
  obtain ⟨_, s₆, hflush, hend⟩ := Call.bind_ok h
  rw [Call.lift_eq] at hencode
  obtain ⟨hon, rfl⟩ := Prod.mk.inj hencode
  obtain ⟨hvalid, rfl⟩ := Reconfiguration.on_encode_ok hon
  obtain rfl : b = block s := by
    have hfetched := hk.fetched s₁ b (by rw [hget])
    exact hfetched.trans hclaimed
  have hstored := hk.storing s₂ (encoded options.config (makeRaw Linux.driver (block s)))
  rw [hset] at hstored
  have hcommitted := Call.keeps_of_eq (hk.committing s₄ _) hcommit
  have hflushed := Call.keeps_of_eq (hk.flushing s₅ _) hflush
  obtain rfl : s' = s₆ := (Prod.mk.inj hend).2.symm
  exact ⟨hvalid, (hflushed.trans hcommitted).trans hstored⟩

end KeepBlock

/-! ## Runs -/

/-- What any sequence of reconfigurations leads to from a port that was opened or adopted, with the
changes whose store succeeded, the latest first. Between two calls anything may happen that leaves
the block as it is. -/
inductive PortRun (calls : TerminalCalls σ) (p : Port) (block : σ → ControlBlock) :
    List Reconfiguration → σ → Prop where
  | opened {path : String} {options : OpenOptions} {s s' : σ}
    (h : Port.init Linux.driver calls p.fd path options s = (.ok p, s')) :
    PortRun calls p block [.configure options.config] s'
  | adopted {label : String} {options : OpenOptions} {s s' : σ}
    (h : Port.adopt Linux.driver calls p.fd label options s = (.ok p, s')) :
    PortRun calls p block [.configure options.config] s'
  | changed {log : List Reconfiguration} {s : σ} (r : Reconfiguration)
    (h : PortRun calls p block log s) (heffect : r.takesEffect calls p s = true) :
    PortRun calls p block (r :: log) (r.perform calls p s).2
  | failed {log : List Reconfiguration} {s : σ} (r : Reconfiguration)
    (h : PortRun calls p block log s) (hnone : r.takesEffect calls p s = false) :
    PortRun calls p block log (r.perform calls p s).2
  | outside {log : List Reconfiguration} {s s' : σ} (h : PortRun calls p block log s)
    (hblock : block s' = block s) : PortRun calls p block log s'

/-- What holds of the block of a new port, and is kept by every change whose check passes, holds
of the block of any port. -/
theorem PortRun.keeps {calls : TerminalCalls σ} {p : Port} {block : σ → ControlBlock}
    (hk : calls.KeepBlock p.fd block) {P : List Reconfiguration → ControlBlock → Prop}
    (hopen : ∀ c b, c.validate = .ok () →
      P [.configure c] (encoded c (makeRaw Linux.driver b)))
    (hedit : ∀ r log b, Reconfiguration.check r = .ok () → P log b → P (r :: log) (r.edit b))
    {log : List Reconfiguration} {s : σ} (h : PortRun calls p block log s) : P log (block s) := by
  induction h with
  | opened h =>
    rcases Port.init_block hk h with ⟨hvalid, hblock⟩
    rw [hblock]
    exact hopen _ _ hvalid
  | adopted h =>
    obtain ⟨_, s₁, -, h⟩ := Call.bind_ok h
    rcases Port.init_block hk h with ⟨hvalid, hblock⟩
    rw [hblock]
    exact hopen _ _ hvalid
  | changed r _ heffect ih =>
    rw [Reconfiguration.perform_block hk, if_pos heffect]
    exact hedit r _ _ (Reconfiguration.check_of_takesEffect heffect) ih
  | failed r _ hnone ih =>
    rw [Reconfiguration.perform_block hk, hnone]
    exact ih
  | outside _ hblock ih => rwa [hblock]

/-! ## A port on a host -/

/-- A terminal on descriptor 3 as a port. -/
def terminalPort : Port := { fd := 3, path := "t", exclusive := true }

/-- A host on which a new terminal was adopted as this port. -/
def Host.withPort : Host :=
  (Port.adopt Linux.driver (lineCalls id) 3 "t" {} (openTerminal 3 0 {})).2

theorem Host.withPort_run :
    PortRun (lineCalls id) terminalPort (lineBlock 3) [.configure {}] withPort := by
  let options : OpenOptions := {}
  have hadopt : Port.adopt Linux.driver (lineCalls id) 3 "t" options (openTerminal 3 0 {}) =
      (.ok terminalPort, withPort) := rfl
  have hrun : PortRun (lineCalls id) terminalPort (lineBlock 3) [.configure options.config]
      withPort := .adopted hadopt
  exact hrun

end SerialLine
