import SerialLine.Host.Pty
import SerialLine.Proofs.Terminal.HardwareFlow

/-!
# SerialLine.Proofs.Terminal.KernelSpeed — the speed that the kernel works out

A block names a speed twice, by a code in its control word and as a number. The kernel goes by the
code: it numbers the rates that it knows, the code holds that number, and only under one code of
its own the number in the block counts. `Kernel.rates` is this list. It is written down apart from
the table that the driver takes its codes from, so that a wrong row of either would show.

Both speeds that the kernel works out are the requested one, for every rate and whatever stood in
the block before: `Linux.encodeBaud_programs`.
-/

namespace SerialLine

open Flags ControlBlock

/-! ## What the kernel reads -/

namespace Kernel

/-- The rates that the kernel knows, in the order of their numbers. -/
def rates : List UInt32 :=
  [0, 50, 75, 110, 134, 150, 200, 300, 600, 1200, 1800, 2400, 4800, 9600, 19200, 38400, 57600,
   115200, 230400, 460800, 500000, 576000, 921600, 1000000, 1152000, 1500000, 2000000, 2500000,
   3000000, 3500000, 4000000]

/-- The number in a code: four bits, and one more bit that counts on from fifteen. -/
def numberOf (code : Flags) : Nat := (code &&& 0xF).toNat + if code.meets BOTHER then 15 else 0

/-- The rate of a code, given the number that stands in the block beside it. -/
def rateOf (code : Flags) (stated : UInt32) : UInt32 :=
  if code = BOTHER then stated else rates.getD (numberOf code) 0

/-- The output speed of a block. -/
def outputSpeed (b : ControlBlock) : UInt32 := rateOf (b.controlFlags &&& CBAUD) b.outputSpeed

/-- The input speed of a block: that of the output unless it has a code of its own. -/
def inputSpeed (b : ControlBlock) : UInt32 :=
  if b.controlFlags &&& CIBAUD = 0 then outputSpeed b
  else rateOf ((b.controlFlags &&& CIBAUD) >>> 16) b.inputSpeed

end Kernel

/-! ## Codes -/

/-- A code is a number of four bits, with the bit that counts on or without it. -/
theorem code_cases (w : Flags) :
    ∃ n < 16, w &&& CBAUD = .ofNat n ∨ w &&& CBAUD = BOTHER ||| .ofNat n := by
  have hsplit : w &&& CBAUD = w &&& BOTHER ||| w &&& 0xF := by
    apply UInt32.toBitVec_inj.1
    show w.toBitVec &&& (BOTHER ||| 0xF : Flags).toBitVec = _
    rw [UInt32.toBitVec_or, BitVec.and_or_distrib_left]
    rfl
  have hlow : w &&& 0xF = .ofNat (w.toNat % 16) := by
    apply UInt32.toNat_inj.1
    have hmod : w.toNat % 16 < 16 := Nat.mod_lt _ (by decide)
    rw [UInt32.toNat_and, UInt32.toNat_ofNat', Nat.mod_eq_of_lt (by omega)]
    exact Nat.and_two_pow_sub_one_eq_mod w.toNat 4
  have hhigh : w &&& BOTHER = 0 ∨ w &&& BOTHER = BOTHER := by
    have hbit : w.toBitVec &&& BitVec.twoPow 32 12 =
        if w.toBitVec.getLsbD 12 then BitVec.twoPow 32 12 else 0#32 := BitVec.and_twoPow ..
    split at hbit
    · exact .inr (UInt32.toBitVec_inj.1 hbit)
    · exact .inl (UInt32.toBitVec_inj.1 hbit)
  refine ⟨w.toNat % 16, Nat.mod_lt _ (by decide), ?_⟩
  rw [hsplit, hlow]
  rcases hhigh with hhigh | hhigh
  · exact .inl (by rw [hhigh, UInt32.zero_or])
  · exact .inr (by rw [hhigh])

namespace Pty

/-- A pseudo-terminal goes by the numbers of the kernel. -/
theorem rateOf_eq (w : Flags) (stated : UInt32) :
    rateOf (w &&& CBAUD) stated = Kernel.rateOf (w &&& CBAUD) stated := by
  have htable : ∀ n < 16,
      (Linux.codeRate? (.ofNat n)).getD 0 = Kernel.rates.getD (Kernel.numberOf (.ofNat n)) 0 ∧
      (BOTHER ||| UInt32.ofNat n ≠ BOTHER → (Linux.codeRate? (BOTHER ||| .ofNat n)).getD 0 =
        Kernel.rates.getD (Kernel.numberOf (BOTHER ||| .ofNat n)) 0) := by
    decide
  unfold rateOf Kernel.rateOf
  obtain ⟨n, hn, hcode | hcode⟩ := code_cases w
  · rw [hcode, (htable n hn).1]
  · rw [hcode]
    split
    · rfl
    · next hother => exact (htable n hn).2 hother

theorem outputSpeed_eq (b : ControlBlock) : outputSpeed b = Kernel.outputSpeed b :=
  rateOf_eq b.controlFlags b.outputSpeed

theorem inputSpeed_eq (b : ControlBlock) : inputSpeed b = Kernel.inputSpeed b := by
  have hshift : (b.controlFlags >>> inputSpeedShift) &&& CBAUD =
      (b.controlFlags &&& CIBAUD) >>> inputSpeedShift := by
    apply UInt32.toBitVec_inj.1
    show (b.controlFlags.toBitVec >>> 16) &&& (CIBAUD.toBitVec >>> 16) = _
    exact (BitVec.ushiftRight_and_distrib ..).symm
  -- the field has no bits that the shift would lose
  have hback : ((b.controlFlags &&& CIBAUD) >>> inputSpeedShift) <<< inputSpeedShift =
      b.controlFlags &&& CIBAUD := by
    apply UInt32.toBitVec_inj.1
    show (b.controlFlags.toBitVec &&& CIBAUD.toBitVec) >>> 16 <<< 16 = _
    rw [BitVec.shiftLeft_ushiftRight, BitVec.and_assoc]
    rfl
  have hzero : (b.controlFlags &&& CIBAUD) >>> inputSpeedShift = 0 ↔
      b.controlFlags &&& CIBAUD = 0 := by
    constructor
    · intro h
      rw [← hback, h]
      rfl
    · intro h
      rw [h]
      rfl
  have hcode : rateOf ((b.controlFlags &&& CIBAUD) >>> inputSpeedShift) b.inputSpeed =
      Kernel.rateOf ((b.controlFlags &&& CIBAUD) >>> inputSpeedShift) b.inputSpeed := by
    rw [← hshift]
    exact rateOf_eq (b.controlFlags >>> inputSpeedShift) b.inputSpeed
  unfold inputSpeed Kernel.inputSpeed
  simp only [hshift, hzero, hcode, outputSpeed_eq]
  rfl

end Pty

/-! ## What the driver writes -/

namespace ControlBlock

/-- A block is at a rate: the kernel works it out in both directions, and both numbers say it. -/
structure RunsAt (rate : UInt32) (b : ControlBlock) : Prop where
  kernel_output : Kernel.outputSpeed b = rate
  kernel_input : Kernel.inputSpeed b = rate
  output_speed : b.outputSpeed = rate
  input_speed : b.inputSpeed = rate

end ControlBlock

namespace Linux

/-- The code that a speed is written with is the one that the kernel reads its rate from. -/
theorem rateOf_baudCode (baud : Baud) : Kernel.rateOf (baudCode baud) baud.rate = baud.rate := by
  have htable : ∀ rate ∈ standardRates,
      Kernel.rateOf ((speedCode? rate).getD BOTHER) rate = rate :=
    List.all_iff_forall_prop.mp rfl
  cases baud with
  | standard rate listed => exact htable rate listed
  | custom rate => rfl

/-- The codes of both directions after a speed was written: nothing is left of those before. -/
theorem setBaud_speeds (baud : Baud) (b : ControlBlock) :
    (setBaud baud b).controlFlags &&& CBAUD = baudCode baud ∧
      (setBaud baud b).controlFlags &&& CIBAUD = 0 := by
  have hout : baudCode baud &&& ~~~CBAUD = 0 :=
    baudCode_and (List.all_iff_forall_prop.mp rfl) (by decide) baud
  have hin : baudCode baud &&& CIBAUD = 0 :=
    baudCode_and (List.all_iff_forall_prop.mp rfl) (by decide) baud
  constructor
  · show (b.controlFlags.without speeds ||| baudCode baud) &&& CBAUD = _
    rw [edit_replaces (by decide), and_of_hidden hout]
  · show (b.controlFlags.without speeds ||| baudCode baud) &&& CIBAUD = _
    rw [edit_replaces (by decide), hin]

theorem setBaud_runsAt (baud : Baud) (b : ControlBlock) : (setBaud baud b).RunsAt baud.rate := by
  obtain ⟨hcode, hnone⟩ := setBaud_speeds baud b
  have hout : Kernel.outputSpeed (setBaud baud b) = baud.rate := by
    rw [Kernel.outputSpeed, hcode]
    exact rateOf_baudCode baud
  have hin : Kernel.inputSpeed (setBaud baud b) = baud.rate := by
    rw [Kernel.inputSpeed, if_pos hnone, hout]
  exact ⟨hout, hin, rfl, rfl⟩

theorem setBaud_sameButSpeed (baud : Baud) (b : ControlBlock) :
    SameButSpeed speeds b (setBaud baud b) := by
  have hcode : baudCode baud &&& ~~~speeds = 0 :=
    baudCode_and (List.all_iff_forall_prop.mp rfl) (by decide) baud
  exact ⟨rfl, rfl, edit_outside (by decide) hcode b.controlFlags, rfl, rfl, rfl⟩

theorem setBaud_sameSpeed (baud : Baud) (b other : ControlBlock) :
    SameSpeed speeds (setBaud baud b) (setBaud baud other) := by
  refine ⟨?_, rfl, rfl⟩
  show (other.controlFlags.without speeds ||| _) &&& speeds =
    (b.controlFlags.without speeds ||| _) &&& speeds
  rw [edit_replaces (by decide), edit_replaces (by decide)]

/-- Whatever stood in a block, after a speed was written both speeds that the kernel works out and
both numbers are the requested rate, a custom one by its number. Of the old block no bit of a speed
is left and nothing else has changed, and the rate is read back. -/
theorem encodeBaud_programs (baud : Baud) (b : ControlBlock) :
    ∃ b', (driver.encodeBaud baud).run.run b = (.ok (), b') ∧ b'.RunsAt baud.rate ∧
      (baud.isCustom = true → b'.controlFlags &&& CBAUD = BOTHER) ∧
      (∀ other, SameSpeed speeds b' ((driver.encodeBaud baud).run.run other).2) ∧
      SameButSpeed speeds b b' ∧
      ∃ read, driver.decodeBaud b' = some read ∧ read.rate = baud.rate := by
  refine ⟨setBaud baud b, rfl, setBaud_runsAt baud b, ?_, setBaud_sameSpeed baud b,
    setBaud_sameButSpeed baud b, .ofRate baud.rate, rfl, Baud.rate_ofRate _⟩
  intro hcustom
  rw [(setBaud_speeds baud b).1]
  cases baud with
  | standard => cases hcustom
  | custom rate => rfl

/-- A rate without a code of its own, and one that has a code but is not to be taken by it. -/
example : (setBaud (.custom 9600) { controlFlags := 13 ||| CS8 }).controlFlags = BOTHER ||| CS8 ∧
    (setBaud (.ofRate 14400) { controlFlags := CIBAUD ||| CS8 }).controlFlags = BOTHER ||| CS8 :=
  ⟨rfl, rfl⟩

end Linux

end SerialLine
