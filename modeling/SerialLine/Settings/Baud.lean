import SerialLine.Error

/-!
# SerialLine.Settings.Baud — line speeds

A speed is either an entry of the table of standard rates or a rate that is programmed into
the clock of the device directly. Both carry a number of bits per second, and two speeds with
the same number are the same speed.
-/

namespace SerialLine

/-- The standard rates in bits per second, slowest first. -/
def standardRates : List UInt32 :=
  [0, 50, 75, 110, 134, 150, 200, 300, 600, 1200, 1800, 2400, 4800, 9600, 14400, 19200, 28800,
   38400, 56000, 57600, 115200, 128000, 153600, 230400, 256000, 460800, 500000, 576000, 921600,
   1000000, 1152000, 1500000, 2000000, 2500000, 3000000, 3500000, 4000000]

/-- A line speed. -/
inductive Baud where
  /-- An entry of the table. -/
  | standard (rate : UInt32) (listed : rate ∈ standardRates)
  /-- A rate for the clock of the device. -/
  | custom (rate : UInt32)
deriving DecidableEq

namespace Baud

/-- Bits per second. -/
def rate : Baud → UInt32
  | standard rate _ => rate
  | custom rate => rate

/-- Whether the rate goes to the clock of the device. -/
def isCustom : Baud → Bool
  | standard .. => false
  | custom _ => true

/-- The speed of a number, from the table where it is listed. -/
def ofRate (rate : UInt32) : Baud :=
  if listed : rate ∈ standardRates then standard rate listed else custom rate

/-- The standard rate of 9600 bits per second. -/
def b9600 : Baud := standard 9600 (by decide)

/-- The speed with the same number, from the table where it is listed. -/
def normalized (b : Baud) : Baud := ofRate b.rate

/-- Speeds are the same when their numbers are. -/
def same (a b : Baud) : Bool := a.rate == b.rate

/-- The speed as a structured value. -/
def structural : Baud → String
  | standard rate _ => Text.wrapped "Standard" s!"B{rate}"
  | custom rate => Text.wrapped "Custom" (toString rate)

@[simp] theorem rate_ofRate (n : UInt32) : (ofRate n).rate = n := by
  unfold ofRate
  split <;> rfl

@[simp] theorem rate_normalized (b : Baud) : b.normalized.rate = b.rate := rate_ofRate _

theorem same_iff {a b : Baud} : a.same b = true ↔ a.normalized = b.normalized := by
  unfold same normalized
  constructor
  · intro h; rw [eq_of_beq h]
  · intro h
    have := congrArg rate h
    simpa using this

end Baud

/-- The number of different speeds in a list. -/
def distinctSpeeds (bauds : List Baud) : Nat := (bauds.map Baud.rate).eraseDups.length

end SerialLine
