import SerialLine.Proofs.Terminal.Overwriting
import SerialLine.Terminal.Scripted

/-!
# SerialLine.Proofs.Terminal.HardwareFlow — flow control on any driver

A driver says which control bits turn hardware flow control on. The encoder asks it, for every
mask: afterwards the bits of the mask are all set or all clear, as the configuration says. The
decoder does not ask. It looks at `CRTSCTS`, which is a bit of the mask of every driver so far.
For such masks flow control is read back as it was written, `Driver.Fielded.decode_flow` says so;
for any other mask hardware flow control is not seen, and a bit that stood in the block before and
that nothing wrote is taken for it.
-/

namespace SerialLine

open Flags ControlBlock

namespace Flags

theorem apart_of_meets {w mask : Flags} (h : w.meets mask = false) : w &&& mask = 0 := by
  simpa [meets] using h

theorem without_of_apart {w mask : Flags} (h : w &&& mask = 0) : w &&& ~~~mask = w := by
  have hshown : w &&& ~~~mask &&& mask = w &&& mask := by
    rw [UInt32.and_assoc, UInt32.and_comm (~~~mask), ← UInt32.and_assoc, h, UInt32.zero_and]
  have hhidden : w &&& ~~~mask &&& ~~~mask = w &&& ~~~mask := by
    rw [UInt32.and_assoc, UInt32.and_self]
  exact ext_masked hshown hhidden

theorem not_shown_or (w mask mask' : Flags) :
    w &&& ~~~(mask ||| mask') = w &&& ~~~mask &&& ~~~mask' := by
  apply UInt32.toBitVec_inj.1
  simp only [UInt32.toBitVec_and, UInt32.toBitVec_or, UInt32.toBitVec_not, BitVec.not_or,
    BitVec.and_assoc]

/-- What lies within a mask is apart from what the mask is apart from. -/
theorem apart_of_within {w field mask : Flags} (h : w &&& ~~~mask = 0)
    (hfield : field &&& mask = 0) : w &&& field = 0 := by
  rw [← and_of_hidden h, UInt32.and_assoc, UInt32.and_comm mask, hfield, UInt32.and_zero]

/-- A single bit is in a mask or apart from it. -/
theorem crtscts_within {mask : Flags} (h : mask.meets CRTSCTS = true) :
    CRTSCTS &&& ~~~mask = 0 := by
  have hset : mask.toBitVec.getLsbD 31 = true := by
    by_contra hclear
    have hnone : mask &&& CRTSCTS = 0 := by
      apply UInt32.toBitVec_inj.1
      show mask.toBitVec &&& BitVec.twoPow 32 31 = 0#32
      rw [BitVec.and_twoPow, if_neg hclear]
    simp [meets, hnone] at h
  apply UInt32.toBitVec_inj.1
  show BitVec.twoPow 32 31 &&& ~~~mask.toBitVec = 0#32
  rw [BitVec.and_comm, BitVec.and_twoPow]
  simp [hset]

end Flags

/-! ## Drivers -/

namespace ControlBlock

/-- Two blocks hold the same speeds, given the control bits that are part of a speed. -/
structure SameSpeed (speed : Flags) (b b' : ControlBlock) : Prop where
  control : b'.controlFlags &&& speed = b.controlFlags &&& speed
  input_speed : b'.inputSpeed = b.inputSpeed
  output_speed : b'.outputSpeed = b.outputSpeed

/-- Two blocks differ at most in their speeds. -/
structure SameButSpeed (speed : Flags) (b b' : ControlBlock) : Prop where
  input : b'.inputFlags = b.inputFlags
  output : b'.outputFlags = b.outputFlags
  control : b'.controlFlags &&& ~~~speed = b.controlFlags &&& ~~~speed
  line_editing : b'.localFlags = b.localFlags
  line : b'.line = b.line
  chars : b'.chars = b.chars

end ControlBlock

/-- The control bits of framing on a driver, stick parity among them. -/
def Driver.framing (d : Driver) : Flags := Flags.framing ||| d.stickParity?.getD 0

/-- A driver that keeps speeds in fields of their own, in the control word within a mask. -/
structure Driver.Fielded (d : Driver) (speed : Flags) : Prop where
  framing_apart : speed &&& d.framing = 0
  hardware_apart : d.hardwareFlow &&& speed = 0
  /-- Writing a speed changes nothing but the speed. -/
  writes_speed : ∀ baud b, SameButSpeed speed b ((d.encodeBaud baud).run.run b).2
  /-- A speed that was written is recognized, whatever is changed elsewhere. -/
  recognizes : ∀ baud b b₁ b₂, (d.encodeBaud baud).run.run b = (.ok (), b₁) →
    SameSpeed speed b₁ b₂ → (d.decodeBaud b₂).isSome

/-! ## Encoding -/

theorem encode_ok {d : Driver} {c : Configuration} {b b' : ControlBlock}
    (h : (encode d c).run.run b = (.ok (), b')) :
    ∃ b₁ parity, (d.encodeBaud c.baud).run.run b = (.ok (), b₁) ∧
      c.parity.flags d.stickParity? = .ok parity ∧
      b' = writeChecks d.hardwareFlow parity c (writeFraming d.stickParity? c b₁) := by
  obtain ⟨_, b₀, hvalid, h⟩ := Call.bind_ok h
  obtain ⟨_, b₁, hbaud, h⟩ := Call.bind_ok h
  obtain ⟨_, b₂, hframing, h⟩ := Call.bind_ok h
  obtain ⟨parity, b₃, hparity, h⟩ := Call.bind_ok h
  rw [Call.lift_eq] at hvalid hparity
  obtain ⟨-, rfl⟩ := Prod.mk.inj hvalid
  obtain ⟨hflags, rfl⟩ := Prod.mk.inj hparity
  obtain rfl : writeFraming d.stickParity? c b₁ = b₂ := (Prod.mk.inj hframing).2
  exact ⟨b₁, parity, hbaud, hflags, (Prod.mk.inj h).2.symm⟩

/-- Parity stays within framing. -/
theorem parity_flags_within {d : Driver} {p : Parity} {parity : Flags}
    (h : p.flags d.stickParity? = .ok parity) : parity &&& ~~~d.framing = 0 := by
  have hshared : ∀ w : Flags, w &&& ~~~Flags.framing = 0 → w &&& ~~~d.framing = 0 := by
    intro w hw
    rw [Driver.framing, not_shown_or, hw, UInt32.zero_and]
  have hstick : ∀ stick, d.stickParity? = some stick → stick &&& ~~~d.framing = 0 := by
    intro stick hsome
    rw [Driver.framing, hsome, Option.getD_some, UInt32.or_comm, not_shown_or]
    rw [not_within_self, UInt32.zero_and]
  cases hd : d.stickParity? with
  | none =>
    rw [hd] at h
    cases p <;> cases h <;> exact hshared _ (by decide)
  | some stick =>
    rw [hd, parity_flags_some] at h
    cases h
    have hbit := hstick stick hd
    cases p with
    | none => exact hshared 0 (by decide)
    | odd => exact hshared (PARENB ||| PARODD) (by decide)
    | even => exact hshared PARENB (by decide)
    | mark => exact or_not_shown (hshared (PARENB ||| PARODD) (by decide)) hbit
    | space => exact or_not_shown (hshared PARENB (by decide)) hbit

section Encoded

variable (d : Driver) (c : Configuration) (parity : Flags) (b : ControlBlock)

/-- The edits of the control word after the speed, in the order in which they are made. -/
theorem checked_controlFlags :
    (writeChecks d.hardwareFlow parity c (writeFraming d.stickParity? c b)).controlFlags =
      (((b.controlFlags.without d.framing ||| (c.dataBits.flags ||| c.stopBits.flags)).without 0
        ||| parity).without d.hardwareFlow |||
        if c.flowControl = .hardware then d.hardwareFlow else 0) := rfl

/-- The encoder uses the mask of the driver. -/
theorem checked_hardware :
    (writeChecks d.hardwareFlow parity c (writeFraming d.stickParity? c b)).controlFlags &&&
      d.hardwareFlow = if c.flowControl = .hardware then d.hardwareFlow else 0 := by
  rw [checked_controlFlags, edit_replaces (not_within_self _)]
  split
  · exact UInt32.and_self
  · exact UInt32.zero_and

theorem checked_software :
    (writeChecks d.hardwareFlow parity c (writeFraming d.stickParity? c b)).inputFlags.meets
      softwareFlow = decide (c.flowControl = .software) := by
  show (Flags.without _ (softwareFlow ||| IXANY) ||| c.flowControl.softwareFlags).meets _ = _
  rw [meets, edit_replaces (by decide)]
  cases c.flowControl <;> rfl

end Encoded

theorem frame_within (d : Driver) (c : Configuration) :
    (c.dataBits.flags ||| c.stopBits.flags) &&& ~~~d.framing = 0 := by
  have hshared : (c.dataBits.flags ||| c.stopBits.flags) &&& ~~~Flags.framing = 0 := by
    cases c.dataBits <;> cases c.stopBits <;> rfl
  rw [Driver.framing, not_shown_or, hshared, UInt32.zero_and]

namespace Driver.Fielded

variable {d : Driver} {speed : Flags} {c : Configuration} {parity : Flags} {b : ControlBlock}

/-- A field apart from framing and from hardware flow control is left alone after the speed. -/
theorem checked_and {field : Flags} (hframing : field &&& d.framing = 0)
    (hhardware : d.hardwareFlow &&& field = 0) (hparity : parity &&& ~~~d.framing = 0) :
    (writeChecks d.hardwareFlow parity c (writeFraming d.stickParity? c b)).controlFlags &&&
      field = b.controlFlags &&& field := by
  have hflow : (if c.flowControl = .hardware then d.hardwareFlow else 0) &&& field = 0 := by
    split
    · exact hhardware
    · exact UInt32.zero_and
  rw [checked_controlFlags,
    edit_outside (without_of_apart (by rwa [UInt32.and_comm])) hflow,
    edit_outside (without_of_apart UInt32.and_zero) (apart_of_within hparity hframing),
    edit_outside (without_of_apart hframing) (apart_of_within (frame_within d c) hframing)]

/-- The decoder reads flow control back as the encoder wrote it if the mask of the driver has the
bit that the decoder looks at. For any other mask it reads hardware flow control off a bit that is
not written: it stands there after an encoding if it stood there before. -/
theorem decode_flow (h : d.Fielded speed) {b' : ControlBlock}
    (hencode : (encode d c).run.run b = (.ok (), b')) :
    b'.controlFlags &&& d.hardwareFlow =
        (if c.flowControl = .hardware then d.hardwareFlow else 0) ∧
      ∃ read, decode d b' = .ok read ∧
        (d.hardwareFlow.meets CRTSCTS = true → read.flowControl = c.flowControl) ∧
        (d.hardwareFlow.meets CRTSCTS = false →
          read.flowControl =
              (if b'.controlFlags.meets CRTSCTS then .hardware
              else if c.flowControl = .software then .software else .none) ∧
            (d.framing.meets CRTSCTS = false → speed.meets CRTSCTS = false →
              b'.controlFlags.meets CRTSCTS = b.controlFlags.meets CRTSCTS)) := by
  obtain ⟨b₁, parity, hbaud, hflags, rfl⟩ := encode_ok hencode
  have hparity := parity_flags_within hflags
  let b' := writeChecks d.hardwareFlow parity c (writeFraming d.stickParity? c b₁)
  have hspeed : SameSpeed speed b₁ b' :=
    ⟨checked_and h.framing_apart h.hardware_apart hparity, rfl, rfl⟩
  obtain ⟨baud, hread⟩ := Option.isSome_iff_exists.mp (h.recognizes _ _ _ _ hbaud hspeed)
  have hdecode : decode d b' = .ok (decodeFields d.stickParity? baud b') := by
    rw [decode, hread]
  have hflow : (decodeFields d.stickParity? baud b').flowControl =
      if b'.controlFlags.meets CRTSCTS then .hardware
      else if c.flowControl = .software then .software else .none := by
    show FlowControl.ofFlags b'.inputFlags b'.controlFlags = _
    simp only [FlowControl.ofFlags, b', checked_software, decide_eq_true_eq]
  refine ⟨checked_hardware d c parity b₁, _, hdecode, fun hmask => ?_, fun hmask => ⟨hflow, ?_⟩⟩
  · -- the bit that is looked at was written with the mask
    have hseen : b'.controlFlags.meets CRTSCTS = decide (c.flowControl = .hardware) := by
      have hwithin : d.hardwareFlow &&& CRTSCTS = CRTSCTS := by
        rw [UInt32.and_comm, and_of_hidden (crtscts_within hmask)]
      rw [meets_of_masked (checked_hardware d c parity b₁) hwithin]
      by_cases hhardware : c.flowControl = .hardware
      · rw [if_pos hhardware, hmask, decide_eq_true hhardware]
      · rw [if_neg hhardware, decide_eq_false hhardware]
        simp [meets]
    rw [hflow, hseen]
    cases c.flowControl <;> rfl
  · intro hframing hspeedBit
    have hchecked : b'.controlFlags &&& CRTSCTS = b₁.controlFlags &&& CRTSCTS := by
      have hapart : CRTSCTS &&& d.framing = 0 := by
        rw [UInt32.and_comm, apart_of_meets hframing]
      exact checked_and hapart (apart_of_meets hmask) hparity
    have hwritten : b₁.controlFlags &&& CRTSCTS = b.controlFlags &&& CRTSCTS := by
      have honly := h.writes_speed c.baud b
      rw [hbaud] at honly
      have hwithin : ~~~speed &&& CRTSCTS = CRTSCTS := by
        rw [UInt32.and_comm, without_of_apart]
        rw [UInt32.and_comm, apart_of_meets hspeedBit]
      rw [← and_of_within hwithin, honly.control, and_of_within hwithin]
    rw [meets, meets, hchecked, hwritten]

end Driver.Fielded

/-! ## A driver with another mask -/

namespace Scripted

theorem Platform.encodeBaud_run (p : Platform) (baud : Baud) (b : ControlBlock) :
    (p.driver.encodeBaud baud).run.run b =
      if p.programs baud.rate then
        (.ok (), { b with inputSpeed := baud.rate, outputSpeed := baud.rate })
      else (.error (.unsupported "custom baud rate"), b) := by
  unfold Platform.driver
  cases hrate : p.programs baud.rate <;> simp only [hrate] <;> rfl

/-- A described platform keeps speeds in the numeric fields alone. -/
theorem Platform.fielded (p : Platform) : p.driver.Fielded 0 where
  framing_apart := UInt32.zero_and
  hardware_apart := UInt32.and_zero
  writes_speed baud b := by
    rw [p.encodeBaud_run]
    split <;> exact ⟨rfl, rfl, rfl, rfl, rfl, rfl⟩
  recognizes baud b b₁ b₂ h hsame := by
    rw [p.encodeBaud_run] at h
    split at h
    · next hrate =>
      obtain rfl := (Prod.mk.inj h).2
      have hprograms : p.programs b₂.outputSpeed = true := by
        rw [hsame.output_speed]
        exact hrate
      simp only [Platform.driver, hprograms, if_true, Option.isSome_some]
    · cases h

/-- A platform that turns hardware flow control on with a bit of its own. -/
def ownFlowBit : Platform := { hardwareFlow := 0x4000 }

/-- No flow control is read off a bit that was never written. -/
theorem stale_decode_flow : ∃ b' read,
    (encode ownFlowBit.driver {}).run.run { controlFlags := CRTSCTS } = (.ok (), b') ∧
      decode ownFlowBit.driver b' = .ok read ∧ read.flowControl = .hardware := by
  have hencode : (encode ownFlowBit.driver {}).run.run { controlFlags := CRTSCTS } =
      (.ok (), ((encode ownFlowBit.driver {}).run.run { controlFlags := CRTSCTS }).2) := rfl
  obtain ⟨-, read, hread, -, hflow⟩ := ownFlowBit.fielded.decode_flow hencode
  obtain ⟨hvalue, hkept⟩ := hflow rfl
  rw [hkept rfl rfl] at hvalue
  exact ⟨_, read, hencode, hread, hvalue⟩

/-- Hardware flow control is written, and read back as none. -/
theorem ownFlowBit_misread :
    ownFlowBit.driver.Fielded 0 ∧ ownFlowBit.hardwareFlow ≠ 0 ∧
      ownFlowBit.hardwareFlow &&& ownFlowBit.driver.framing = 0 ∧
      ∃ b' read, (encode ownFlowBit.driver { flowControl := .hardware }).run.run {} = (.ok (), b') ∧
        decode ownFlowBit.driver b' = .ok read ∧ read.flowControl = .none :=
  ⟨ownFlowBit.fielded, by decide, by decide, _, _, rfl, rfl, rfl⟩

end Scripted

end SerialLine
