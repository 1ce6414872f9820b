import SerialLine.Proofs.Terminal.Reconfiguring

/-!
# SerialLine.Proofs.Terminal.ReadBack — a port reads back what took effect last

A port shows the configuration of its latest change, whatever changes failed in between and
however they failed. A change of the least length of a read replaces this field alone. The log of
a `PortRun` has the changes that took effect, so `inEffect` is the configuration to expect, and
`PortRun.reads_back` says that it is the one in the block.
-/

namespace SerialLine

/-- The configuration that a terminal shows after this one was written: one and a half stop bits
are programmed as two, and the speed comes from the table where it is listed. -/
def Configuration.programmed (c : Configuration) : Configuration :=
  { c with baud := .ofRate c.baud.rate, stopBits := c.stopBits.programmed }

/-- The configuration in effect after changes, the latest first. -/
def inEffect : List Reconfiguration → Configuration
  | [] => {}
  | .configure c :: _ => c.programmed
  | .minRead n :: log => { inEffect log with minReadLength := UInt8.ofNat n }

/-- A change of the least length of a read changes nothing else that is read back. -/
theorem decode_setChar_vmin {b : ControlBlock} {c : Configuration} (v : UInt8)
    (h : decode Linux.driver b = .ok c) :
    decode Linux.driver (b.setChar .vmin v) = .ok { c with minReadLength := v } := by
  obtain rfl := Except.ok.inj h
  show Except.ok (decodeFields _ _ _) = _
  simp only [decodeFields, char_setChar_self, char_setChar_ne, ne_eq, reduceCtorEq,
    not_false_eq_true]
  rfl

/-- Every change leaves the configuration in effect in the block. -/
theorem Reconfiguration.decode_edit {r : Reconfiguration} {log : List Reconfiguration}
    {b : ControlBlock} (hcheck : r.check = .ok ())
    (h : decode Linux.driver b = .ok (inEffect log)) :
    decode Linux.driver (r.edit b) = .ok (inEffect (r :: log)) := by
  cases r with
  | configure c => exact decode_encoded hcheck b
  | minRead n => exact decode_setChar_vmin _ h

/-- A length that passes the check fits into a control character. -/
theorem Reconfiguration.le_of_check {n : Nat} (h : (minRead n).check = .ok ()) :
    n ≤ Port.maxMinRead := by
  simp only [check] at h
  split at h
  · cases h
  · omega

section

variable {σ : Type} {calls : TerminalCalls σ} {p : Port} {block : σ → ControlBlock}
variable {log : List Reconfiguration} {s : σ}

/-- Only changes that pass their check take effect. -/
theorem PortRun.checked (hk : calls.KeepBlock p.fd block) (h : PortRun calls p block log s) :
    ∀ r ∈ log, r.check = .ok () := by
  refine h.keeps hk (P := fun log _ => ∀ r ∈ log, r.check = .ok ()) ?_ ?_
  · intro c _ hvalid r hr
    obtain rfl := List.mem_singleton.mp hr
    exact hvalid
  · intro r log _ hcheck hlog r' hr'
    rcases List.mem_cons.mp hr' with rfl | hr'
    · exact hcheck
    · exact hlog r' hr'

/-- The configuration in effect stands in the block. -/
theorem PortRun.decoded (hk : calls.KeepBlock p.fd block) (h : PortRun calls p block log s) :
    decode Linux.driver (block s) = .ok (inEffect log) :=
  h.keeps hk (P := fun log b => decode Linux.driver b = .ok (inEffect log))
    (fun _ _ hvalid => decode_encoded hvalid _)
    (fun _ _ _ hcheck hdecode => Reconfiguration.decode_edit hcheck hdecode)

/-- Reading a configuration is fetching a block and decoding it. -/
theorem Port.configuration_eq (d : Driver) (s : σ) :
    (p.configuration d calls s).1 = (calls.getBlock p.fd s).1.bind (decode d) := by
  have hread : p.configuration d calls =
      calls.getBlock p.fd >>= fun b => liftM (d.snapshot b).configuration := by
    simp only [configuration, snapshot, Terminal.read, bind_assoc, pure_bind]
  rw [hread, Call.bind_eq]
  rcases calls.getBlock p.fd s with ⟨e | b, s'⟩
  · rfl
  · exact congrArg Prod.fst (Call.lift_eq _ s')

/-- A port whose terminal keeps its block reads back the configuration in effect whenever the
block can be fetched. A change whose store fails, or is not reached, answers with that failure and
leaves the block alone; one whose store succeeds is in effect, even if it answers with a failure of
what is done after it. The lengths in the log are those that were asked for. -/
theorem PortRun.reads_back (hk : calls.KeepBlock p.fd block) (h : PortRun calls p block log s) :
    (p.configuration Linux.driver calls s).1 =
        (calls.getBlock p.fd s).1.map (fun _ => inEffect log) ∧
      (∀ r : Reconfiguration,
        if r.takesEffect calls p s then
          (r.perform calls p s).1 = (r.settle calls p (r.store calls p s).2).1 ∧
            decode Linux.driver (block (r.perform calls p s).2) = .ok (inEffect (r :: log))
        else
          (r.perform calls p s).1 = (r.store calls p s).1 ∧
            block (r.perform calls p s).2 = block s) ∧
      ∀ n, .minRead n ∈ log → (UInt8.ofNat n).toNat = n := by
  have hdecoded := h.decoded hk
  refine ⟨?_, ?_, ?_⟩
  · rw [Port.configuration_eq]
    cases hget : (calls.getBlock p.fd s).1 with
    | error e => rfl
    | ok b =>
      obtain rfl := hk.fetched s b hget
      exact hdecoded
  · intro r
    rw [r.perform_block hk, r.perform_answer]
    split
    · rename_i heffect
      have hcheck := Reconfiguration.check_of_takesEffect heffect
      exact ⟨rfl, Reconfiguration.decode_edit hcheck hdecoded⟩
    · exact ⟨rfl, rfl⟩
  · intro n hn
    have hle := Reconfiguration.le_of_check (h.checked hk _ hn)
    have hmax : Port.maxMinRead = 255 := rfl
    simp only [UInt8.toNat_ofNat']
    omega

end

/-! ## A flush that fails -/

/-- Odd parity, one and a half stop bits, a rate from the table, at least four bytes a read. -/
def oddLine : Configuration :=
  { baud := .custom 115200, stopBits := .onePointFive, parity := .odd, minReadLength := 4 }

/-- The flush of a change fails, and the change after it is refused. Both are passed over: the
first one is in effect, the second one is not. -/
theorem oddLine_reads_back : ∃ h h',
    ((Reconfiguration.configure oddLine).perform (Host.lineCalls id) terminalPort h).1 =
      .error (.osCall "tcflush" .EIO) ∧
    PortRun (Host.lineCalls id) terminalPort (Host.lineBlock 3)
      [.minRead 7, .configure oddLine, .configure {}] h' ∧
    (terminalPort.configuration Linux.driver (Host.lineCalls id) h').1 =
      .ok { oddLine.programmed with minReadLength := 7 } := by
  let calls := Host.lineCalls id
  let faulty := Host.withPort.addFaults [(.tcflush, .EIO)]
  have hfaulty : PortRun calls terminalPort (Host.lineBlock 3) [.configure {}] faulty :=
    Host.withPort_run.outside rfl
  have hrun := PortRun.changed (.minRead 7) (.failed (.minRead 300)
    (.changed (.configure oddLine) hfaulty rfl) rfl) rfl
  refine ⟨faulty, _, rfl, hrun, ?_⟩
  rw [(hrun.reads_back (Host.keepBlock 3)).1]
  rfl

end SerialLine
