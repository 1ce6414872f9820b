import SerialLine.Proofs.Terminal.Reconfiguring

/-!
# SerialLine.Proofs.Port.Client — calls on a port, one system call at a time

A client that reconfigures a port or reads from it makes several system calls, and between two of
them anybody else may go on. `PortStage` is where such a client stands: before the gate of the port,
inside with something left to do, or done. `PortStage.turn` is the next system call of a client that
changes settings, and `PortStage.afterRead` is where a read leaves a client that reads.

Two theorems tie the stages to the calls. `PortStage.turn_rest` says that a turn leaves a change
with exactly the rest of its program, so a client whom nobody interrupts does what the call does,
and `PortStage.gather_eq` says the same of reads.
-/

namespace SerialLine

/-- Where a client stands in a call on a port. -/
inductive PortStage where
  /-- About to take the gate alone, in order to change settings. -/
  | asking (r : Reconfiguration)
  /-- Has the gate alone, and is about to check the change and to fetch the block. -/
  | fetching (r : Reconfiguration)
  /-- About to store what becomes of the block that was fetched. -/
  | storing (r : Reconfiguration) (b : ControlBlock)
  /-- About to do what is left to do after the store. -/
  | settling (r : Reconfiguration)
  /-- About to give the gate back. -/
  | unlocking (result : Outcome Unit)
  /-- A reconfiguration has returned. -/
  | changed (result : Outcome Unit)
  /-- A reconfiguration was refused before it asked for the gate. -/
  | refused (e : Error)
  /-- About to join the readers at the gate. -/
  | arriving (max : Nat)
  /-- One of the readers, with the bytes that it has got. -/
  | reading (g : Transfer.Gathering)
  /-- About to leave the readers. -/
  | leaving (result : Outcome Bytes)
  /-- A read has returned. -/
  | got (result : Outcome Bytes)

/-- What is checked before a change asks for the gate. Configurations are checked behind it. -/
def Reconfiguration.checkOutside : Reconfiguration → Outcome Unit
  | configure _ => .ok ()
  | minRead n => (minRead n).check

namespace PortStage

/-- Whether a client may begin here. -/
def isEntry : PortStage → Bool
  | asking _ | arriving _ => true
  | _ => false

/-- Whether a client has the gate alone. -/
def isWriting : PortStage → Bool
  | fetching _ | storing .. | settling _ | unlocking _ => true
  | _ => false

/-- Whether a client is one of the readers at the gate. -/
def isReading : PortStage → Bool
  | reading _ | leaving _ => true
  | _ => false

/-- Whether a client has or had the gate alone. -/
def wasLetIn : PortStage → Bool
  | changed _ => true
  | stage => stage.isWriting

/-- Whether a call has returned. -/
def isOver : PortStage → Bool
  | changed _ | refused _ | got _ => true
  | _ => false

/-- Whether the next system call of a client is one that changes the terminal. -/
def isChanging : PortStage → Bool
  | storing .. | settling (.configure _) => true
  | _ => false

variable {σ : Type}

/-! ## Changing settings -/

section

variable (calls : TerminalCalls σ) (p : Port)

/-- The next system call of a client that has the gate alone. -/
def turn (stage : PortStage) (s : σ) : PortStage × σ :=
  match stage with
  | fetching r =>
    match r.check with
    | .error e => (unlocking (.error e), s)
    | .ok () =>
      match calls.getBlock p.fd s with
      | (.ok b, s) => (storing r b, s)
      | (.error e, s) => (unlocking (.error e), s)
  | storing r b =>
    match calls.setBlock p.fd (r.edit b) s with
    | (.ok (), s) => (settling r, s)
    | (.error e, s) => (unlocking (.error e), s)
  | settling r =>
    let (result, s) := r.settle calls p s
    (unlocking result, s)
  | stage => (stage, s)

/-- What a client that has the gate alone has still to do before it gives it back. -/
def rest : PortStage → Call σ Unit
  | fetching r => r.perform calls p
  | storing r b => do
    calls.setBlock p.fd (r.edit b)
    r.settle calls p
  | settling r => r.settle calls p
  | unlocking result => liftM result
  | _ => return ()

/-- A turn does the first part of what is left to do. -/
theorem turn_rest (stage : PortStage) (s : σ) :
    (stage.turn calls p s).1.rest calls p (stage.turn calls p s).2 = stage.rest calls p s := by
  cases stage with
  | fetching r =>
    have hrest : rest calls p (fetching r) s =
        (do r.store calls p; r.settle calls p : Call σ Unit) s := by
      rw [rest, r.perform_eq]
    rw [hrest, Reconfiguration.store, turn]
    cases hc : r.check with
    | error e => rfl
    | ok _ =>
      simp only [Call.lift_ok, pure_bind, bind_assoc]
      rw [Call.bind_eq]
      rcases calls.getBlock p.fd s with ⟨e | b, s₁⟩
      · rfl
      · rfl
  | storing r b =>
    rw [turn, rest, Call.bind_eq]
    rcases calls.setBlock p.fd (r.edit b) s with ⟨e | _, s₁⟩
    · rfl
    · rfl
  | settling r => exact Call.lift_eq _ _
  | _ => rfl

/-- A client that has the gate alone keeps it until all is done. -/
theorem turn_isWriting {stage : PortStage} (h : stage.isWriting = true) (s : σ) :
    (stage.turn calls p s).1.isWriting = true := by
  cases stage with
  | fetching r =>
    rw [turn]
    cases r.check with
    | error e => rfl
    | ok _ => rcases calls.getBlock p.fd s with ⟨_ | _, _⟩ <;> rfl
  | storing r b =>
    rw [turn]
    rcases calls.setBlock p.fd (r.edit b) s with ⟨_ | _, _⟩ <;> rfl
  | settling r => rfl
  | unlocking result => exact h
  | _ => cases h

end

/-- A turn makes no difference to the host that there is once all is done. -/
theorem facing_turn (keep : ControlBlock → ControlBlock) (p : Port) (stage : PortStage)
    (faults : List (SystemCall × Errno)) (h : Host) :
    let r := h.facing faults (stage.turn (Host.lineCalls keep) p)
    (r.2.facing r.1.2 (r.1.1.rest (Host.lineCalls keep) p)).2 =
      (h.facing faults (stage.rest (Host.lineCalls keep) p)).2 := by
  have hrest : stage.rest (Host.lineCalls keep) p = fun h =>
      (stage.turn (Host.lineCalls keep) p h).1.rest (Host.lineCalls keep) p
        (stage.turn (Host.lineCalls keep) p h).2 := by
    funext h
    exact (turn_rest (Host.lineCalls keep) p stage h).symm
  rw [hrest]
  rfl

/-- What is left of a change looks at the line of its port only. -/
theorem rest_local (keep : ControlBlock → ControlBlock) (p : Port) (stage : PortStage) :
    Call.Local p.fd (stage.rest (Host.lineCalls keep) p) := by
  have hsettle : ∀ r : Reconfiguration, Call.Local p.fd (r.settle (Host.lineCalls keep) p) := by
    intro r
    cases r with
    | configure c => exact (Call.Local.lift (.ok ())).bind fun _ => .flush p.fd keep .both
    | minRead n => exact .lift (.ok ())
  cases stage with
  | fetching r =>
    rw [rest, r.perform_eq, Reconfiguration.store]
    refine Call.Local.bind (Call.Local.bind (.lift r.check) fun _ => ?_) fun _ => hsettle r
    exact (Call.Local.getBlock p.fd keep).bind fun b => .setBlock p.fd keep (r.edit b)
  | storing r b => exact (Call.Local.setBlock p.fd keep (r.edit b)).bind fun _ => hsettle r
  | settling r => exact hsettle r
  | unlocking result => exact .lift result
  | _ => exact .lift (.ok ())

/-! ## Reading -/

/-- A reader with room left reads on. One without leaves. -/
def ofGathering (g : Transfer.Gathering) : PortStage :=
  if g.room = 0 then leaving (.ok g.got) else reading g

/-- Where a read leaves a reader. -/
def afterRead (g : Transfer.Gathering) (outcome : CallOutcome Bytes) : PortStage :=
  match g.next outcome with
  | .next g => ofGathering g
  | .done result => leaving result

/-- What a reader gets that nobody interrupts, with at most `bound` reads. -/
def gather (dev : Device σ) (bound : Nat) : PortStage → σ → Option (Outcome Bytes) × σ
  | reading g, s => Transfer.gather dev bound g s
  | leaving result, s => (some result, s)
  | _, s => (none, s)

theorem gather_ofGathering (dev : Device σ) (bound : Nat) (g : Transfer.Gathering) (s : σ) :
    (ofGathering g).gather dev bound s = Transfer.gather dev bound g s := by
  unfold ofGathering
  split
  · rename_i hroom
    rw [Transfer.gather.eq_def, if_pos hroom]
    rfl
  · rfl

/-- A reader that has just joined gets what a read of the port gives. -/
theorem gather_readAvailable (calls : TerminalCalls σ) (p : Port) (bound max : Nat) (s : σ) :
    (ofGathering ⟨[], min max readLimit⟩).gather (calls.device p.fd) bound s =
      p.readAvailable calls bound max s :=
  gather_ofGathering (calls.device p.fd) bound ⟨[], min max readLimit⟩ s

/-- Gathering is a read, and then what is left to gather. -/
theorem gather_eq (dev : Device σ) (bound : Nat) {g : Transfer.Gathering} (hroom : g.room ≠ 0)
    (s : σ) :
    Transfer.gather dev (bound + 1) g s =
      (afterRead g (dev.read g.room s).1).gather dev bound (dev.read g.room s).2 := by
  rw [Transfer.gather, if_neg hroom, afterRead]
  rcases dev.read g.room s with ⟨outcome, s'⟩
  dsimp only
  cases g.next outcome with
  | next g' => exact (gather_ofGathering dev bound g' s').symm
  | done result => rfl

theorem isReading_ofGathering (g : Transfer.Gathering) : (ofGathering g).isReading = true := by
  unfold ofGathering
  split <;> rfl

/-- A reader stays one of the readers after a read. -/
theorem isReading_afterRead (g : Transfer.Gathering) (outcome : CallOutcome Bytes) :
    (afterRead g outcome).isReading = true := by
  unfold afterRead
  split
  · exact isReading_ofGathering _
  · rfl

/-! ## Who is where -/

/-- A reader has never had the gate alone. -/
theorem not_letIn_of_reading {stage : PortStage} (h : stage.isReading = true) :
    stage.wasLetIn = false := by
  cases stage with
  | reading g | leaving result => rfl
  | _ => cases h

/-- A client that has the gate alone is none of the readers. -/
theorem not_reading_of_writing {stage : PortStage} (h : stage.isWriting = true) :
    stage.isReading = false := by
  cases stage with
  | reading g | leaving result => cases h
  | _ => rfl

theorem letIn_of_writing {stage : PortStage} (h : stage.isWriting = true) :
    stage.wasLetIn = true := by
  cases stage with
  | changed result => rfl
  | _ => exact h

theorem not_writing_of_not_letIn {stage : PortStage} (h : stage.wasLetIn = false) :
    stage.isWriting = false := by
  cases stage with
  | changed result => cases h
  | _ => exact h

/-- A client that was let in, and is done, has made its change. -/
theorem changed_of_letIn {stage : PortStage} (h : stage.wasLetIn = true)
    (hover : stage.isOver = true) : ∃ result, stage = .changed result := by
  cases stage with
  | changed result => exact ⟨result, rfl⟩
  | refused e | got result => cases h
  | _ => cases hover

end PortStage

end SerialLine
