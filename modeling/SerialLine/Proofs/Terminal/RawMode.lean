import Mathlib.Data.Bool.AllAny
import SerialLine.Proofs.Terminal.Reconfiguring

/-!
# SerialLine.Proofs.Terminal.RawMode — raw mode outlasts every change

A port is in raw mode from the moment it is opened, whatever stood in its block before and
whatever is changed later. The block splits in two. `Untouched` are the bits that `makeRaw` sets
or clears and that no change ever edits. `Checks` are parity errors and flow control, which every
full configuration writes anew; no bit of the block before is left in them, so they exclude each
other as the configuration says.
-/

namespace SerialLine

open Flags

/-! ## Words through a mask -/

namespace Flags

/-- A bit within a mask is set if it is set in what the mask shows. -/
theorem meets_of_masked {w mask shown flag : Flags} (h : w &&& mask = shown)
    (hwithin : mask &&& flag = flag) : w.meets flag = shown.meets flag := by
  rw [← meets_of_within flag mask hwithin, h]

/-- An edit that clears or sets every bit of a field determines it. -/
theorem edit_determines {off on mask : Flags} (h : mask &&& ~~~off &&& ~~~on = 0) (w : Flags) :
    (w.without off ||| on) &&& mask = on &&& mask := by
  apply UInt32.toBitVec_inj.1
  have hbits := congrArg UInt32.toBitVec h
  ext i hi
  have hbit := congrArg (·[i]) hbits
  simp only [without, UInt32.toBitVec_and, UInt32.toBitVec_or, UInt32.toBitVec_not,
    BitVec.getElem_and, BitVec.getElem_or, BitVec.getElem_not] at hbit ⊢
  cases hm : mask.toBitVec[i] <;> cases ho : off.toBitVec[i] <;> cases hn : on.toBitVec[i] <;>
    simp_all

/-- Bits that were cleared are not there. -/
theorem without_and_self (w mask : Flags) : w.without mask &&& mask = 0 := by
  have hnone := edit_replaces (not_within_self mask) w 0
  rwa [UInt32.or_zero, UInt32.zero_and] at hnone

/-- An edit outside of a mask leaves what the mask shows. -/
theorem edit_outside {off on mask : Flags} (hoff : mask &&& ~~~off = mask) (hon : on &&& mask = 0)
    (w : Flags) : (w.without off ||| on) &&& mask = w &&& mask := by
  rw [edit_adds hoff, hon, UInt32.or_zero]

end Flags

/-! ## Raw mode -/

/-- A terminal that hands on bytes as they are: nothing is echoed, translated or interpreted, the
receiver is on, and at most one thing is done about bad bytes and about full queues. -/
structure RawMode (b : ControlBlock) : Prop where
  output : ∀ flag ∈ [OPOST, ONLCR, OCRNL, ONOCR, ONLRET], b.outputFlags.meets flag = false
  line_editing : ∀ flag ∈ [ECHO, ECHOE, ECHOK, ECHONL, ECHOCTL, ECHOPRT, ECHOKE, ICANON, ISIG,
    IEXTEN], b.localFlags.meets flag = false
  breaks : b.inputFlags.meets IGNBRK = true
  input : ∀ flag ∈ [BRKINT, ISTRIP, INLCR, IGNCR, ICRNL, IUCLC, IXANY],
    b.inputFlags.meets flag = false
  control : ∀ flag ∈ [CREAD, CLOCAL, HUPCL], b.controlFlags.meets flag = true
  vtime : b.char .vtime = 0
  line : b.line = 0
  /-- Parity is checked where there is parity. -/
  checked : b.inputFlags.meets INPCK = b.controlFlags.meets PARENB
  /-- Bad bytes are not both marked and dropped. -/
  exclusive : (b.inputFlags.meets PARMRK && b.inputFlags.meets IGNPAR) = false
  /-- Bad bytes are marked or dropped where there is parity, and neither elsewhere. -/
  policy : (b.inputFlags.meets PARMRK ^^ b.inputFlags.meets IGNPAR) = b.controlFlags.meets PARENB
  /-- Software flow control works in both directions or in none. -/
  paired : b.inputFlags.meets IXON = b.inputFlags.meets IXOFF
  /-- There are not two kinds of flow control. -/
  single_flow : (b.controlFlags.meets CRTSCTS &&
    (b.inputFlags.meets IXON || b.inputFlags.meets IXOFF)) = false

/-! ## Bits that no change touches -/

/-- The input bits of raw mode that no change touches. -/
def untouchedInput : Flags := IGNBRK ||| BRKINT ||| ISTRIP ||| INLCR ||| IGNCR ||| ICRNL ||| IUCLC

/-- The control bits of raw mode that no change touches. -/
def untouchedControl : Flags := CREAD ||| CLOCAL ||| HUPCL

/-- The part of raw mode that no change touches. -/
structure Untouched (b : ControlBlock) : Prop where
  input : b.inputFlags &&& untouchedInput = IGNBRK
  output : b.outputFlags &&& rawOutputOff = 0
  control : b.controlFlags &&& untouchedControl = untouchedControl
  line_editing : b.localFlags &&& rawLocalOff = 0
  line : b.line = 0

theorem makeRaw_untouched (b : ControlBlock) : Untouched (makeRaw Linux.driver b) where
  input := by
    let raw := b.inputFlags.without rawInputOff ||| IGNBRK
    show (raw.without IUCLC ||| 0) &&& untouchedInput = _
    have hraw : raw &&& (untouchedInput &&& ~~~IUCLC) = IGNBRK :=
      edit_determines (by decide) b.inputFlags
    rw [edit_and, hraw]
    rfl
  output := without_and_self b.outputFlags rawOutputOff
  control := by
    show (b.controlFlags.without rawControlOff ||| rawControlOn) &&& untouchedControl = _
    rw [edit_determines (by decide)]
    rfl
  line_editing := without_and_self b.localFlags rawLocalOff
  line := rfl

/-- A speed is written into its own field. -/
theorem Linux.baudCode_and {mask : Flags} (hcodes : ∀ e ∈ Linux.speedCodes, e.2 &&& mask = 0)
    (hother : BOTHER &&& mask = 0) (baud : Baud) : Linux.baudCode baud &&& mask = 0 := by
  cases baud with
  | custom rate => exact hother
  | standard rate listed =>
    show (Linux.speedCodes.lookup rate).getD BOTHER &&& mask = 0
    cases hcode : Linux.speedCodes.lookup rate with
    | none => exact hother
    | some code =>
      rcases List.lookup_eq_some_iff.mp hcode with ⟨l₁, l₂, hsplit, -⟩
      have hmem : (rate, code) ∈ Linux.speedCodes := by
        rw [hsplit]
        simp
      exact hcodes _ hmem

/-- The edits of the control word, in the order in which they are made. -/
theorem encoded_controlFlags (c : Configuration) (b : ControlBlock) :
    (encoded c b).controlFlags =
      ((((b.controlFlags.without speeds ||| Linux.baudCode c.baud).without (framing ||| CMSPAR) |||
        (c.dataBits.flags ||| c.stopBits.flags)).without 0 |||
        c.parity.stickFlags CMSPAR).without CRTSCTS ||| c.flowControl.hardwareFlags) := rfl

/-- The input bits of software flow control. -/
def FlowControl.softwareFlags (f : FlowControl) : Flags :=
  if f = .software then softwareFlow else 0

/-- The edits of the input word, in the order in which they are made. -/
theorem encoded_inputFlags (c : Configuration) (b : ControlBlock) :
    (encoded c b).inputFlags =
      ((((b.inputFlags.without Flags.parityInput ||| 0).without 0 ||| c.parityInput).without
        IMAXBEL ||| (if c.reportBufferOverrun then IMAXBEL else 0)).without
        (softwareFlow ||| IXANY) ||| c.flowControl.softwareFlags) := rfl

theorem encoded_untouched {b : ControlBlock} (c : Configuration) (h : Untouched b) :
    Untouched (encoded c b) where
  input := by
    have herrors : c.parityInput &&& untouchedInput = 0 := by
      unfold Configuration.parityInput
      cases c.parity.enabled <;> cases c.reportParityErrors <;> rfl
    have hoverrun : (if c.reportBufferOverrun then IMAXBEL else 0) &&& untouchedInput = 0 := by
      cases c.reportBufferOverrun <;> rfl
    have hflow : c.flowControl.softwareFlags &&& untouchedInput = 0 := by
      cases c.flowControl <;> rfl
    rw [encoded_inputFlags, edit_outside (by decide) hflow, edit_outside (by decide) hoverrun,
      edit_outside (by decide) herrors, edit_outside (by decide) UInt32.zero_and, h.input]
  output := h.output
  control := by
    have hspeed : Linux.baudCode c.baud &&& untouchedControl = 0 :=
      Linux.baudCode_and (List.all_iff_forall_prop.mp rfl) (by decide) c.baud
    have hframe : (c.dataBits.flags ||| c.stopBits.flags) &&& untouchedControl = 0 := by
      cases c.dataBits <;> cases c.stopBits <;> rfl
    have hparity : c.parity.stickFlags CMSPAR &&& untouchedControl = 0 := by
      cases c.parity <;> rfl
    have hflow : c.flowControl.hardwareFlags &&& untouchedControl = 0 := by
      cases c.flowControl <;> rfl
    rw [encoded_controlFlags, edit_outside (by decide) hflow, edit_outside (by decide) hparity,
      edit_outside (by decide) hframe, edit_outside (by decide) hspeed, h.control]
  line_editing := h.line_editing
  line := h.line

/-! ## Bits that every configuration writes anew -/

/-- The input bits for parity errors and flow control. -/
def checkedInput : Flags := Flags.parityInput ||| softwareFlow ||| IXANY

/-- What stands in these bits. -/
def checkFields (p : Parity) (f : FlowControl) (errors : Bool) : Flags :=
  (if p.enabled then INPCK ||| (if errors then PARMRK else IGNPAR) else 0) |||
    f.softwareFlags

/-- Parity errors and flow control stand in a block as a configuration has them. -/
structure Checks (p : Parity) (f : FlowControl) (errors : Bool) (b : ControlBlock) : Prop where
  parity : b.controlFlags.meets PARENB = p.enabled
  hardware : b.controlFlags.meets CRTSCTS = decide (f = .hardware)
  input : b.inputFlags &&& checkedInput = checkFields p f errors
  vtime : b.char .vtime = 0

theorem enabled_controlFields (d : DataBits) (s : StopBits) (p : Parity) (f : FlowControl) :
    (controlFields d s p f).meets PARENB = p.enabled := by
  cases d <;> cases s <;> cases p <;> cases f <;> rfl

theorem encoded_checks (c : Configuration) (b : ControlBlock) :
    Checks c.parity c.flowControl c.reportParityErrors (encoded c b) where
  parity := by
    rw [meets_of_masked (encoded_control c b) (by decide), enabled_controlFields]
  hardware := by
    rw [meets_of_masked (encoded_control c b) (by decide), hardware_controlFields]
  input := by
    have hrest : checkedInput &&& ~~~(softwareFlow ||| IXANY) = Flags.parityInput := by decide
    have hoverrun : (if c.reportBufferOverrun then IMAXBEL else 0) &&& Flags.parityInput = 0 := by
      cases c.reportBufferOverrun <;> rfl
    have hcleared : (b.inputFlags.without Flags.parityInput ||| 0) &&& Flags.parityInput = 0 := by
      rw [edit_replaces (by decide), UInt32.zero_and]
    have herrors : c.parityInput &&& Flags.parityInput = c.parityInput := by
      unfold Configuration.parityInput
      cases c.parity.enabled <;> cases c.reportParityErrors <;> rfl
    have hflow : c.flowControl.softwareFlags &&& checkedInput = c.flowControl.softwareFlags := by
      cases c.flowControl <;> rfl
    rw [encoded_inputFlags, edit_and, hrest, edit_outside (by decide) hoverrun,
      edit_adds (by decide), hcleared, herrors, hflow, UInt32.zero_or]
    rfl
  vtime := char_setChar_self ..

/-! ## Every change -/

/-- The least length of a read stands in neither part. -/
theorem setChar_vmin_untouched {b : ControlBlock} (v : UInt8) (h : Untouched b) :
    Untouched (b.setChar .vmin v) :=
  { h with }

theorem setChar_vmin_checks {b : ControlBlock} {p : Parity} {f : FlowControl} {errors : Bool}
    (v : UInt8) (h : Checks p f errors b) : Checks p f errors (b.setChar .vmin v) where
  parity := h.parity
  hardware := h.hardware
  input := h.input
  vtime := by
    rw [char_setChar_ne _ _ (by decide), h.vtime]

/-- Raw mode is made of the bits that no change touches and those that every configuration writes
anew. -/
theorem Untouched.rawMode {b : ControlBlock} {p : Parity} {f : FlowControl} {errors : Bool}
    (h : Untouched b) (hchecks : Checks p f errors b) : RawMode b where
  output := by
    intro flag hflag
    -- decided along the list: there are too many words to go through
    have hwithin : ∀ flag ∈ [OPOST, ONLCR, OCRNL, ONOCR, ONLRET],
        rawOutputOff &&& flag = flag :=
      List.all_iff_forall_prop.mp rfl
    rw [meets_of_masked h.output (hwithin flag hflag)]
    simp [meets]
  line_editing := by
    intro flag hflag
    have hwithin : ∀ flag ∈ [ECHO, ECHOE, ECHOK, ECHONL, ECHOCTL, ECHOPRT, ECHOKE, ICANON, ISIG,
        IEXTEN], rawLocalOff &&& flag = flag :=
      List.all_iff_forall_prop.mp rfl
    rw [meets_of_masked h.line_editing (hwithin flag hflag)]
    simp [meets]
  breaks := by
    rw [meets_of_masked h.input (by decide)]
    rfl
  input := by
    intro flag hflag
    have hwithin : ∀ flag ∈ [BRKINT, ISTRIP, INLCR, IGNCR, ICRNL, IUCLC],
        untouchedInput &&& flag = flag ∧ IGNBRK.meets flag = false :=
      List.all_iff_forall_prop.mp rfl
    have hsplit : flag ∈ [BRKINT, ISTRIP, INLCR, IGNCR, ICRNL, IUCLC] ++ [IXANY] := hflag
    rcases List.mem_append.mp hsplit with hflag | hflag
    · rw [meets_of_masked h.input (hwithin flag hflag).1, (hwithin flag hflag).2]
    · obtain rfl := List.mem_singleton.mp hflag
      rw [meets_of_masked hchecks.input (by decide)]
      cases p <;> cases f <;> cases errors <;> rfl
  control := by
    intro flag hflag
    have hwithin : ∀ flag ∈ [CREAD, CLOCAL, HUPCL], untouchedControl &&& flag = flag ∧
        untouchedControl.meets flag = true :=
      List.all_iff_forall_prop.mp rfl
    rw [meets_of_masked h.control (hwithin flag hflag).1, (hwithin flag hflag).2]
  vtime := hchecks.vtime
  line := h.line
  checked := by
    rw [meets_of_masked hchecks.input (by decide), hchecks.parity]
    cases p <;> cases f <;> cases errors <;> rfl
  exclusive := by
    rw [meets_of_masked hchecks.input (by decide), meets_of_masked hchecks.input (by decide)]
    cases p <;> cases f <;> cases errors <;> rfl
  policy := by
    rw [meets_of_masked hchecks.input (by decide), meets_of_masked hchecks.input (by decide),
      hchecks.parity]
    cases p <;> cases f <;> cases errors <;> rfl
  paired := by
    rw [meets_of_masked hchecks.input (by decide), meets_of_masked hchecks.input (by decide)]
    cases p <;> cases f <;> cases errors <;> rfl
  single_flow := by
    rw [meets_of_masked hchecks.input (by decide), meets_of_masked hchecks.input (by decide),
      hchecks.hardware]
    cases p <;> cases f <;> cases errors <;> rfl

/-- A port whose terminal keeps its block stays in raw mode, whatever it is reconfigured to and
whichever calls fail. -/
theorem PortRun.raw_mode {σ : Type} {calls : TerminalCalls σ} {p : Port}
    {block : σ → ControlBlock} {log : List Reconfiguration} {s : σ}
    (hk : calls.KeepBlock p.fd block) (h : PortRun calls p block log s) : RawMode (block s) := by
  obtain ⟨huntouched, p, f, errors, hchecks⟩ :
      Untouched (block s) ∧ ∃ p f errors, Checks p f errors (block s) := by
    refine h.keeps hk (P := fun _ b => Untouched b ∧ ∃ p f errors, Checks p f errors b) ?_ ?_
    · intro c b _
      exact ⟨encoded_untouched c (makeRaw_untouched b), _, _, _, encoded_checks c _⟩
    · rintro (c | n) _ b _ ⟨huntouched, p, f, errors, hchecks⟩
      · exact ⟨encoded_untouched c huntouched, _, _, _, encoded_checks c b⟩
      · exact ⟨setChar_vmin_untouched _ huntouched, p, f, errors, setChar_vmin_checks _ hchecks⟩
  exact huntouched.rawMode hchecks

/-- A line with hardware flow control and parity errors that are marked. -/
def guardedLine : Configuration :=
  { parity := .even, flowControl := .hardware, reportParityErrors := true }

/-- The port is reconfigured twice; the second time the block cannot be stored. -/
theorem guardedLine_raw_mode : ∃ h,
    ((Reconfiguration.configure {}).perform (Host.lineCalls id) terminalPort h).1 =
      .error (.osCall "ioctl(TCSETS2)" .EIO) ∧
    RawMode (Host.lineBlock 3
      ((Reconfiguration.configure {}).perform (Host.lineCalls id) terminalPort h).2) := by
  let calls := Host.lineCalls id
  let guarded := ((Reconfiguration.configure guardedLine).perform calls terminalPort
    Host.withPort).2
  let faulty := guarded.addFaults [(.TCSETS2, .EIO)]
  have hguarded := PortRun.changed (.configure guardedLine) Host.withPort_run rfl
  have hfaulty : PortRun calls terminalPort (Host.lineBlock 3) _ faulty := hguarded.outside rfl
  have hrun := PortRun.failed (.configure {}) hfaulty rfl
  exact ⟨faulty, rfl, PortRun.raw_mode (Host.keepBlock 3) hrun⟩

end SerialLine
