import SerialLine.Proofs.Terminal.Fields

/-!
# SerialLine.Proofs.Terminal.RoundTrip — what is written is read back

A configuration that the Linux driver writes into a block is read back from that block,
whatever stood in the block before: `decode_encode_linux`. The two exceptions are those that the
settings name: one and a half stop bits are programmed as two, and a speed comes back from the
table where it is listed there.

The proof goes word by word. `encoded_control` and `encoded_input` say what the codec leaves in
the fields that it reads from; both right-hand sides depend on the configuration alone, so no bit
of the old block is left in them. The lemmas before them read such words back.
-/

namespace SerialLine

open Flags

/-! ## The control word -/

/-- The control bits of a parity on a platform with a stick bit. -/
def Parity.stickFlags (stick : Flags) : Parity → Flags
  | .none => 0
  | .odd => PARENB ||| PARODD
  | .even => PARENB
  | .mark => PARENB ||| PARODD ||| stick
  | .space => PARENB ||| stick

theorem parity_flags_some (stick : Flags) (p : Parity) :
    p.flags (some stick) = .ok (p.stickFlags stick) := by
  cases p <;> rfl

/-- The control bits that hardware flow control takes on Linux. -/
def FlowControl.hardwareFlags (f : FlowControl) : Flags :=
  if f = .hardware then CRTSCTS else 0

/-- The fields of the control word that a configuration is read from. -/
def controlFields (d : DataBits) (s : StopBits) (p : Parity) (f : FlowControl) : Flags :=
  (d.flags ||| s.flags) &&& (framing ||| CMSPAR) |||
    p.stickFlags CMSPAR &&& (framing ||| CMSPAR) ||| f.hardwareFlags &&& decodedControl

section

variable (d : DataBits) (s : StopBits) (p : Parity) (f : FlowControl)

theorem dataBits_controlFields : DataBits.ofFlags (controlFields d s p f) = d := by
  cases d <;> cases s <;> cases p <;> cases f <;> rfl

theorem stopBits_controlFields : StopBits.ofFlags (controlFields d s p f) = s.programmed := by
  cases d <;> cases s <;> cases p <;> cases f <;> rfl

theorem parity_controlFields : Parity.ofFlags (some CMSPAR) (controlFields d s p f) = p := by
  cases d <;> cases s <;> cases p <;> cases f <;> rfl

theorem hardware_controlFields :
    (controlFields d s p f).meets CRTSCTS = decide (f = .hardware) := by
  cases d <;> cases s <;> cases p <;> cases f <;> rfl

end

theorem dataBits_ofFlags_masked (w : Flags) :
    DataBits.ofFlags (w &&& decodedControl) = DataBits.ofFlags w := by
  have hsize : w &&& decodedControl &&& CSIZE = w &&& CSIZE := and_of_within (by decide) w
  simp only [DataBits.ofFlags, hsize]

theorem stopBits_ofFlags_masked (w : Flags) :
    StopBits.ofFlags (w &&& decodedControl) = StopBits.ofFlags w := by
  have hstop := meets_of_within CSTOPB decodedControl (by decide) w
  simp only [StopBits.ofFlags, hstop]

theorem parity_ofFlags_masked (w : Flags) :
    Parity.ofFlags (some CMSPAR) (w &&& decodedControl) = Parity.ofFlags (some CMSPAR) w := by
  have henb := meets_of_within PARENB decodedControl (by decide) w
  have hodd := meets_of_within PARODD decodedControl (by decide) w
  have hstick := meets_of_within CMSPAR decodedControl (by decide) w
  simp only [Parity.ofFlags, henb, hodd, Option.map_some, hstick]

/-! ## The input word -/

/-- The fields of the input word that a configuration is read from. -/
def inputFields (p : Parity) (f : FlowControl) (errors overrun : Bool) : Flags :=
  (if p.enabled then INPCK ||| (if errors then PARMRK else IGNPAR) else 0) &&& PARMRK |||
    (if overrun then IMAXBEL else 0) &&& (PARMRK ||| IMAXBEL) |||
    (if f = .software then softwareFlow else 0) &&& decodedInput

section

variable (p : Parity) (f : FlowControl) (errors overrun : Bool)

theorem software_inputFields :
    (inputFields p f errors overrun).meets softwareFlow = decide (f = .software) := by
  cases p <;> cases f <;> cases errors <;> cases overrun <;> rfl

theorem overrun_inputFields : (inputFields p f errors overrun).meets IMAXBEL = overrun := by
  cases p <;> cases f <;> cases errors <;> cases overrun <;> rfl

theorem errors_inputFields :
    (inputFields p f errors overrun).meets PARMRK = (p.enabled && errors) := by
  cases p <;> cases f <;> cases errors <;> cases overrun <;> rfl

end

/-- A valid configuration marks parity errors only on a line with parity. -/
theorem enabled_and_errors {c : Configuration} (hc : c.validate = .ok ()) :
    (c.parity.enabled && c.reportParityErrors) = c.reportParityErrors := by
  unfold Configuration.validate at hc
  cases henb : c.parity.enabled with
  | true => rw [Bool.true_and]
  | false =>
    cases herr : c.reportParityErrors with
    | false => rfl
    | true => simp [henb, herr] at hc

/-! ## Control characters -/

theorem char_setChar_self (b : ControlBlock) (ch : ControlChar) (v : UInt8) :
    (b.setChar ch v).char ch = v := by
  simp [ControlBlock.char, ControlBlock.setChar]

theorem char_setChar_ne (b : ControlBlock) {ch ch' : ControlChar} (v : UInt8) (h : ch ≠ ch') :
    (b.setChar ch v).char ch' = b.char ch' := by
  have hne : (ch.index : Nat) ≠ ch'.index := by
    cases ch <;> cases ch' <;> first
      | exact absurd rfl h
      | decide
  simp [ControlBlock.char, ControlBlock.setChar, hne]

/-! ## The whole block -/

/-- The block that the Linux driver makes of an old block for a configuration. -/
def encoded (c : Configuration) (b : ControlBlock) : ControlBlock :=
  writeChecks CRTSCTS (c.parity.stickFlags CMSPAR) c
    (writeFraming (some CMSPAR) c (Linux.setBaud c.baud b))

theorem encode_valid {c : Configuration} (hc : c.validate = .ok ()) (b : ControlBlock) :
    (encode Linux.driver c).run.run b = (.ok (), encoded c b) := by
  have hp : c.parity.flags Linux.driver.stickParity? = .ok (c.parity.stickFlags CMSPAR) :=
    parity_flags_some CMSPAR c.parity
  simp only [encode, hc, hp]
  rfl

theorem encode_invalid {c : Configuration} {e : Error} (hc : c.validate = .error e)
    (b : ControlBlock) : (encode Linux.driver c).run.run b = (.error e, b) := by
  simp only [encode, hc]
  rfl

theorem encoded_control (c : Configuration) (b : ControlBlock) :
    (encoded c b).controlFlags &&& decodedControl =
      controlFields c.dataBits c.stopBits c.parity c.flowControl := by
  -- the edits in the order in which they are made: speed, framing, parity, hardware flow
  let speed := b.controlFlags.without speeds ||| Linux.baudCode c.baud
  let framed := speed.without (framing ||| CMSPAR) ||| (c.dataBits.flags ||| c.stopBits.flags)
  let checked := framed.without 0 ||| c.parity.stickFlags CMSPAR
  show (checked.without CRTSCTS ||| c.flowControl.hardwareFlags) &&& decodedControl = _
  have hrest : decodedControl &&& ~~~CRTSCTS = framing ||| CMSPAR := by decide
  have hframed : framed &&& (framing ||| CMSPAR) =
      (c.dataBits.flags ||| c.stopBits.flags) &&& (framing ||| CMSPAR) :=
    edit_replaces (by decide) speed _
  rw [edit_and, hrest, edit_adds (by decide), hframed]
  rfl

theorem encoded_input (c : Configuration) (b : ControlBlock) :
    (encoded c b).inputFlags &&& decodedInput =
      inputFields c.parity c.flowControl c.reportParityErrors c.reportBufferOverrun := by
  -- parity errors are cleared with the framing and set again with the checks
  let cleared := b.inputFlags.without Flags.parityInput ||| 0
  let checked := cleared.without 0 ||| c.parityInput
  let signalled := checked.without IMAXBEL ||| (if c.reportBufferOverrun then IMAXBEL else 0)
  show (signalled.without (softwareFlow ||| IXANY) |||
    (if c.flowControl = .software then softwareFlow else 0)) &&& decodedInput = _
  have hrest : decodedInput &&& ~~~(softwareFlow ||| IXANY) = PARMRK ||| IMAXBEL := by decide
  have hmark : (PARMRK ||| IMAXBEL) &&& ~~~IMAXBEL = PARMRK := by decide
  have hcleared : cleared &&& PARMRK = 0 &&& PARMRK := edit_replaces (by decide) _ _
  rw [edit_and, hrest, edit_and, hmark, edit_adds (by decide), hcleared, UInt32.zero_and,
    UInt32.zero_or]
  rfl

theorem flowControl_encoded (c : Configuration) (b : ControlBlock) :
    FlowControl.ofFlags (encoded c b).inputFlags (encoded c b).controlFlags = c.flowControl := by
  have hhard := meets_of_within CRTSCTS decodedControl (by decide)
    (encoded c b).controlFlags
  have hsoft := meets_of_within softwareFlow decodedInput (by decide)
    (encoded c b).inputFlags
  rw [encoded_control, hardware_controlFields] at hhard
  rw [encoded_input, software_inputFields] at hsoft
  simp only [FlowControl.ofFlags, ← hhard, ← hsoft]
  cases c.flowControl <;> rfl

/-- A valid configuration is read back from the block it was written into. -/
theorem decode_encoded {c : Configuration} (hc : c.validate = .ok ()) (b : ControlBlock) :
    decode Linux.driver (encoded c b) =
      .ok { c with baud := .ofRate c.baud.rate, stopBits := c.stopBits.programmed } := by
  have hdata : DataBits.ofFlags (encoded c b).controlFlags = c.dataBits := by
    rw [← dataBits_ofFlags_masked, encoded_control, dataBits_controlFields]
  have hstop : StopBits.ofFlags (encoded c b).controlFlags = c.stopBits.programmed := by
    rw [← stopBits_ofFlags_masked, encoded_control, stopBits_controlFields]
  have hparity : Parity.ofFlags (some CMSPAR) (encoded c b).controlFlags = c.parity := by
    rw [← parity_ofFlags_masked, encoded_control, parity_controlFields]
  have herrors : (encoded c b).inputFlags.meets PARMRK = c.reportParityErrors := by
    rw [← meets_of_within _ decodedInput (by decide), encoded_input,
      errors_inputFields, enabled_and_errors hc]
  have hoverrun : (encoded c b).inputFlags.meets IMAXBEL = c.reportBufferOverrun := by
    rw [← meets_of_within _ decodedInput (by decide), encoded_input, overrun_inputFields]
  have hstart : (encoded c b).char .vstart = c.xonChar := by
    simp [encoded, writeChecks, char_setChar_self, char_setChar_ne]
  have hstopChar : (encoded c b).char .vstop = c.xoffChar := by
    simp [encoded, writeChecks, char_setChar_self, char_setChar_ne]
  have hmin : (encoded c b).char .vmin = c.minReadLength := by
    simp [encoded, writeChecks, char_setChar_self, char_setChar_ne]
  show Except.ok (decodeFields (some CMSPAR) (.ofRate c.baud.rate) (encoded c b)) = _
  rw [decodeFields, hdata, hstop, hparity, flowControl_encoded, hstart, hstopChar, herrors,
    hoverrun, hmin]

/-- The round trip on Linux, from any block: encoding fails exactly as validation does and then
leaves the block as it is; otherwise the configuration is read back from the new block. -/
theorem decode_encode_linux (c : Configuration) (b : ControlBlock) :
    match c.validate with
    | .error e => (encode Linux.driver c).run.run b = (.error e, b)
    | .ok () => ∃ b', (encode Linux.driver c).run.run b = (.ok (), b') ∧
        decode Linux.driver b' =
          .ok { c with baud := .ofRate c.baud.rate, stopBits := c.stopBits.programmed } := by
  cases hc : c.validate with
  | error e => exact encode_invalid hc b
  | ok _ => exact ⟨encoded c b, encode_valid hc b, decode_encoded hc b⟩

end SerialLine
