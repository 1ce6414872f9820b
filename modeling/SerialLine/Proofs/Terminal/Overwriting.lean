import SerialLine.Proofs.Terminal.RawMode

/-!
# SerialLine.Proofs.Terminal.Overwriting — what a configuration writes, and what it leaves

The Linux driver writes a configuration with several edits of two flag words, some of which are
made only where the configuration asks for them. No edit clears what an earlier one has set, so
those of one word make a single edit: it clears the bits of a fixed mask, `writtenControl` or
`writtenInput`, and sets bits of that mask which depend on the configuration alone.

With the control characters and the speeds this splits the block. `ControlBlock.SameElsewhere`
is the part outside of all that is written, `ControlBlock.Written` the part inside; the two
together determine a block. Hence nothing is left of a configuration that was written before.
-/

namespace SerialLine

open Flags

namespace Flags

/-- The control bits that a configuration is written into. -/
def writtenControl : Flags :=
  CBAUD ||| CIBAUD ||| CSIZE ||| CSTOPB ||| PARENB ||| PARODD ||| CMSPAR ||| CRTSCTS

/-- The input bits that a configuration is written into. -/
def writtenInput : Flags := INPCK ||| IGNPAR ||| PARMRK ||| IMAXBEL ||| IXON ||| IXOFF ||| IXANY

/-- Two edits make one if the second clears nothing that the first sets. -/
theorem edit_edit {off on off' on' : Flags} (h : on &&& off' = 0) (w : Flags) :
    (w.without off ||| on).without off' ||| on' = w.without (off ||| off') ||| (on ||| on') := by
  apply UInt32.toBitVec_inj.1
  have hbits := congrArg UInt32.toBitVec h
  ext i hi
  have hbit := congrArg (·[i]) hbits
  simp only [without, UInt32.toBitVec_and, UInt32.toBitVec_or, UInt32.toBitVec_not,
    BitVec.getElem_and, BitVec.getElem_or, BitVec.getElem_not] at hbit ⊢
  cases hn : on.toBitVec[i] <;> cases ho : off'.toBitVec[i] <;> simp_all

/-- A word is what a mask shows of it and what the mask hides. -/
theorem ext_masked {w w' mask : Flags} (hshown : w &&& mask = w' &&& mask)
    (hhidden : w &&& ~~~mask = w' &&& ~~~mask) : w = w' := by
  have hsplit : ∀ x : Flags, x &&& mask ||| x &&& ~~~mask = x := by
    intro x
    apply UInt32.toBitVec_inj.1
    ext i hi
    simp only [UInt32.toBitVec_and, UInt32.toBitVec_or, UInt32.toBitVec_not, BitVec.getElem_and,
      BitVec.getElem_or, BitVec.getElem_not]
    cases mask.toBitVec[i] <;> simp
  rw [← hsplit w, ← hsplit w', hshown, hhidden]

/-- Two words that a mask does not show make one that it does not show. -/
theorem or_not_shown {w w' mask : Flags} (h : w &&& mask = 0) (h' : w' &&& mask = 0) :
    (w ||| w') &&& mask = 0 := by
  have hboth : (w ||| w') &&& mask = w &&& mask ||| w' &&& mask := by
    apply UInt32.toBitVec_inj.1
    simp only [UInt32.toBitVec_and, UInt32.toBitVec_or, BitVec.and_or_distrib_right]
  rw [hboth, h, h', UInt32.or_zero]

/-- Bits that lie within a mask are seen through it. -/
theorem and_of_hidden {w mask : Flags} (h : w &&& ~~~mask = 0) : w &&& mask = w := by
  have hshown : w &&& mask &&& mask = w &&& mask := by
    rw [UInt32.and_assoc, UInt32.and_self]
  have hhidden : w &&& mask &&& ~~~mask = w &&& ~~~mask := by
    rw [h, UInt32.and_assoc, not_within_self, UInt32.and_zero]
  exact ext_masked hshown hhidden

end Flags

/-! ## The words of a configuration -/

namespace Configuration

/-- What a configuration writes into the control word. -/
def controlWord (c : Configuration) : Flags :=
  Linux.baudCode c.baud ||| (c.dataBits.flags ||| c.stopBits.flags) |||
    c.parity.stickFlags CMSPAR ||| c.flowControl.hardwareFlags

/-- What a configuration writes into the input word. -/
def inputWord (c : Configuration) : Flags :=
  c.parityInput ||| (if c.reportBufferOverrun then IMAXBEL else 0) ||| c.flowControl.softwareFlags

end Configuration

theorem controlWord_within (c : Configuration) : c.controlWord &&& ~~~writtenControl = 0 := by
  have hspeed : Linux.baudCode c.baud &&& ~~~writtenControl = 0 :=
    Linux.baudCode_and (List.all_iff_forall_prop.mp rfl) (by decide) c.baud
  have hframe : (c.dataBits.flags ||| c.stopBits.flags) &&& ~~~writtenControl = 0 := by
    cases c.dataBits <;> cases c.stopBits <;> rfl
  have hparity : c.parity.stickFlags CMSPAR &&& ~~~writtenControl = 0 := by
    cases c.parity <;> rfl
  have hflow : c.flowControl.hardwareFlags &&& ~~~writtenControl = 0 := by
    cases c.flowControl <;> rfl
  exact or_not_shown (or_not_shown (or_not_shown hspeed hframe) hparity) hflow

theorem inputWord_within (c : Configuration) : c.inputWord &&& ~~~writtenInput = 0 := by
  unfold Configuration.inputWord Configuration.parityInput
  cases c.parity.enabled <;> cases c.reportParityErrors <;> cases c.reportBufferOverrun <;>
    cases c.flowControl <;> rfl

/-- All edits of the control word together. -/
theorem encoded_control_edit (c : Configuration) (b : ControlBlock) :
    (encoded c b).controlFlags = b.controlFlags.without writtenControl ||| c.controlWord := by
  -- no edit clears what an earlier one has set
  have hspeed : Linux.baudCode c.baud &&& (framing ||| CMSPAR) = 0 :=
    Linux.baudCode_and (List.all_iff_forall_prop.mp rfl) (by decide) c.baud
  have hflow : (Linux.baudCode c.baud ||| (c.dataBits.flags ||| c.stopBits.flags) |||
      c.parity.stickFlags CMSPAR) &&& CRTSCTS = 0 := by
    have hcode : Linux.baudCode c.baud &&& CRTSCTS = 0 :=
      Linux.baudCode_and (List.all_iff_forall_prop.mp rfl) (by decide) c.baud
    have hframe : (c.dataBits.flags ||| c.stopBits.flags) &&& CRTSCTS = 0 := by
      cases c.dataBits <;> cases c.stopBits <;> rfl
    have hparity : c.parity.stickFlags CMSPAR &&& CRTSCTS = 0 := by
      cases c.parity <;> rfl
    exact or_not_shown (or_not_shown hcode hframe) hparity
  rw [encoded_controlFlags, edit_edit hspeed, edit_edit UInt32.and_zero, edit_edit hflow]
  rfl

/-- All edits of the input word together. -/
theorem encoded_input_edit (c : Configuration) (b : ControlBlock) :
    (encoded c b).inputFlags = b.inputFlags.without writtenInput ||| c.inputWord := by
  have hoverrun : c.parityInput &&& IMAXBEL = 0 := by
    unfold Configuration.parityInput
    cases c.parity.enabled <;> cases c.reportParityErrors <;> rfl
  have hflow : (c.parityInput ||| (if c.reportBufferOverrun then IMAXBEL else 0)) &&&
      (softwareFlow ||| IXANY) = 0 := by
    unfold Configuration.parityInput
    cases c.parity.enabled <;> cases c.reportParityErrors <;> cases c.reportBufferOverrun <;> rfl
  rw [encoded_inputFlags, edit_edit UInt32.zero_and, UInt32.zero_or, edit_edit hoverrun,
    edit_edit hflow]
  rfl

/-! ## The block outside and inside -/

namespace ControlBlock

/-- Two blocks differ at most in what a configuration is written into. -/
structure SameElsewhere (b b' : ControlBlock) : Prop where
  output : b'.outputFlags = b.outputFlags
  line_editing : b'.localFlags = b.localFlags
  line : b'.line = b.line
  chars : ∀ i, (∀ ch : ControlChar, i ≠ ch.index) → b'.chars[i] = b.chars[i]
  control : b'.controlFlags &&& ~~~writtenControl = b.controlFlags &&& ~~~writtenControl
  input : b'.inputFlags &&& ~~~writtenInput = b.inputFlags &&& ~~~writtenInput

/-- What a configuration is written into holds what it says, and nothing of before. -/
structure Written (c : Configuration) (b : ControlBlock) : Prop where
  control : b.controlFlags &&& writtenControl = c.controlWord
  input : b.inputFlags &&& writtenInput = c.inputWord
  vstart : b.char .vstart = c.xonChar
  vstop : b.char .vstop = c.xoffChar
  vmin : b.char .vmin = c.minReadLength
  vtime : b.char .vtime = 0
  input_speed : b.inputSpeed = c.baud.rate
  output_speed : b.outputSpeed = c.baud.rate

theorem SameElsewhere.symm {b b' : ControlBlock} (h : SameElsewhere b b') :
    SameElsewhere b' b where
  output := h.output.symm
  line_editing := h.line_editing.symm
  line := h.line.symm
  chars i hi := (h.chars i hi).symm
  control := h.control.symm
  input := h.input.symm

theorem SameElsewhere.trans {b b' b'' : ControlBlock} (h : SameElsewhere b b')
    (h' : SameElsewhere b' b'') : SameElsewhere b b'' where
  output := h'.output.trans h.output
  line_editing := h'.line_editing.trans h.line_editing
  line := h'.line.trans h.line
  chars i hi := (h'.chars i hi).trans (h.chars i hi)
  control := h'.control.trans h.control
  input := h'.input.trans h.input

/-- A block is what is written into it, and what stood elsewhere. -/
theorem Written.unique {c : Configuration} {b b' : ControlBlock} (h : Written c b)
    (h' : Written c b') (hsame : SameElsewhere b b') : b' = b := by
  have hchar : ∀ ch : ControlChar, b'.char ch = b.char ch := by
    intro ch
    cases ch with
    | vtime => rw [h'.vtime, h.vtime]
    | vmin => rw [h'.vmin, h.vmin]
    | vstart => rw [h'.vstart, h.vstart]
    | vstop => rw [h'.vstop, h.vstop]
  have hchars : b'.chars = b.chars := by
    refine Vector.ext fun i hi => ?_
    by_cases hwritten : ∃ ch : ControlChar, (⟨i, hi⟩ : Fin controlCharCount) = ch.index
    · obtain ⟨ch, hch⟩ := hwritten
      have hvalue := hchar ch
      simp only [char, ← hch] at hvalue
      exact hvalue
    · exact hsame.chars ⟨i, hi⟩ fun ch hch => hwritten ⟨ch, hch⟩
  have hcontrol : b'.controlFlags = b.controlFlags :=
    ext_masked (by rw [h'.control, h.control]) hsame.control
  have hinput : b'.inputFlags = b.inputFlags :=
    ext_masked (by rw [h'.input, h.input]) hsame.input
  have hinspeed : b'.inputSpeed = b.inputSpeed := by rw [h'.input_speed, h.input_speed]
  have houtspeed : b'.outputSpeed = b.outputSpeed := by rw [h'.output_speed, h.output_speed]
  rcases b with ⟨input, output, control, locals, line, chars, inspeed, outspeed⟩
  rcases b' with ⟨input', output', control', locals', line', chars', inspeed', outspeed'⟩
  obtain rfl : output' = output := hsame.output
  obtain rfl : locals' = locals := hsame.line_editing
  obtain rfl : line' = line := hsame.line
  obtain rfl : control' = control := hcontrol
  obtain rfl : input' = input := hinput
  obtain rfl : chars' = chars := hchars
  obtain rfl : inspeed' = inspeed := hinspeed
  obtain rfl : outspeed' = outspeed := houtspeed
  rfl

end ControlBlock

open ControlBlock

theorem chars_setChar_ne (b : ControlBlock) (ch : ControlChar) (v : UInt8)
    {i : Fin controlCharCount} (h : i ≠ ch.index) : (b.setChar ch v).chars[i] = b.chars[i] := by
  have hne : (ch.index : Nat) ≠ i := fun heq => h (Fin.ext heq.symm)
  simp [ControlBlock.setChar, hne]

theorem encoded_sameElsewhere (c : Configuration) (b : ControlBlock) :
    SameElsewhere b (encoded c b) where
  output := rfl
  line_editing := rfl
  line := rfl
  chars i hi := by
    simp only [encoded, writeChecks, chars_setChar_ne _ _ _ (hi _)]
    rfl
  control := by
    rw [encoded_control_edit]
    exact edit_outside (by decide) (controlWord_within c) b.controlFlags
  input := by
    rw [encoded_input_edit]
    exact edit_outside (by decide) (inputWord_within c) b.inputFlags

theorem encoded_written (c : Configuration) (b : ControlBlock) : Written c (encoded c b) where
  control := by
    rw [encoded_control_edit, edit_replaces (by decide), and_of_hidden (controlWord_within c)]
  input := by
    rw [encoded_input_edit, edit_replaces (by decide), and_of_hidden (inputWord_within c)]
  vstart := by simp [encoded, writeChecks, char_setChar_self, char_setChar_ne]
  vstop := by simp [encoded, writeChecks, char_setChar_self, char_setChar_ne]
  vmin := by simp [encoded, writeChecks, char_setChar_self, char_setChar_ne]
  vtime := char_setChar_self ..
  input_speed := rfl
  output_speed := rfl

/-- Of two configurations written one after the other only the second is left. -/
theorem encoded_encoded (c earlier : Configuration) (b : ControlBlock) :
    encoded c (encoded earlier b) = encoded c b := by
  have htwice : SameElsewhere b (encoded c (encoded earlier b)) :=
    (encoded_sameElsewhere earlier b).trans (encoded_sameElsewhere c _)
  have honce : SameElsewhere (encoded c b) b := (encoded_sameElsewhere c b).symm
  exact (encoded_written c b).unique (encoded_written c _) (honce.trans htwice)

/-- A valid configuration is written whatever stands in the block: what it is written into holds
the configuration, everything else stays as it was, and one that was written before leaves no
trace. -/
theorem encode_overwrites {c : Configuration} (hc : c.validate = .ok ()) (b : ControlBlock) :
    ∃ b', (encode Linux.driver c).run.run b = (.ok (), b') ∧ SameElsewhere b b' ∧ Written c b' ∧
      ∀ earlier : Configuration, earlier.validate = .ok () →
        (do encode Linux.driver earlier; encode Linux.driver c).run.run b = (.ok (), b') := by
  refine ⟨encoded c b, encode_valid hc b, encoded_sameElsewhere c b, encoded_written c b, ?_⟩
  intro earlier hearlier
  have hfirst := encode_valid hearlier b
  have hsecond := encode_valid hc (encoded earlier b)
  rw [encoded_encoded] at hsecond
  rw [ExceptT.run_bind, StateT.run_bind, hfirst]
  exact hsecond

/-- A block in which every bit of every word is set. -/
def crowdedBlock : ControlBlock where
  inputFlags := ~~~0
  outputFlags := ~~~0
  controlFlags := ~~~0
  localFlags := ~~~0
  line := 9
  chars := Vector.replicate controlCharCount 0x7F

/-- Software flow control was on before, and every bit was set before that. -/
theorem guardedLine_overwrites : ∃ b',
    (do encode Linux.driver { flowControl := .software, minReadLength := 9 }
        encode Linux.driver guardedLine).run.run crowdedBlock = (.ok (), b') ∧
      SameElsewhere crowdedBlock b' ∧
      b'.controlFlags &&& writtenControl = 13 ||| CS8 ||| PARENB ||| CRTSCTS ∧
      b'.inputFlags &&& writtenInput = INPCK ||| PARMRK := by
  obtain ⟨b', -, hsame, hwritten, hafter⟩ :=
    encode_overwrites (c := guardedLine) rfl crowdedBlock
  refine ⟨b', hafter { flowControl := .software, minReadLength := 9 } rfl, hsame, ?_, ?_⟩
  · rw [hwritten.control]
    rfl
  · rw [hwritten.input]
    rfl

end SerialLine
