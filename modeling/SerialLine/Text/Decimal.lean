/-!
# SerialLine.Text.Decimal — digits and the size of decimal numbers

Digits, the numbers that lists of them write, and whether a decimal number with a fraction and
an exponent is too large for a double. The last is decided in exact arithmetic.
-/

namespace SerialLine.Decimal

/-- Whether a character is a decimal digit. -/
def isDigit (c : Char) : Bool := '0' ≤ c && c ≤ '9'

/-- The value of a hexadecimal digit, of either case. -/
def hexValue? (c : Char) : Option Nat :=
  if isDigit c then some (c.toNat - '0'.toNat)
  else if 'a' ≤ c && c ≤ 'f' then some (c.toNat - 'a'.toNat + 10)
  else if 'A' ≤ c && c ≤ 'F' then some (c.toNat - 'A'.toNat + 10)
  else none

/-- The number that a list of decimal digits writes. -/
def digitsValue (ds : List Char) : Nat :=
  ds.foldl (fun n d => 10 * n + (d.toNat - '0'.toNat)) 0

/-- The least number that rounds above every double: half a unit below `2 ^ 1024`. -/
def tooLarge : Nat := Nat.pow 2 1024 - Nat.pow 2 970

/-- Whether the number with these digits before and after the point, and this exponent with
its sign (`true` for a negative one), is too large for a double. -/
def exceedsDouble (whole fraction : List Char) (exponent : Option (Bool × List Char)) : Bool :=
  let digits := whole ++ fraction
  let mantissa := digitsValue digits
  let shift : Int := match exponent with
    | none => 0
    | some (true, ds) => -(digitsValue ds : Int)
    | some (false, ds) => digitsValue ds
  let power := shift - fraction.length
  if mantissa = 0 then false
  else if power > 400 then true
  else if power ≥ 0 then mantissa * Nat.pow 10 power.toNat ≥ tooLarge
  else if power < -(digits.length : Int) then false
  else mantissa ≥ tooLarge * Nat.pow 10 (-power).toNat

/-- The number that a text writes in decimal digits, a plus sign in front allowed, if it is at
most `bound`. -/
def boundedNatural? (bound : Nat) (text : String) : Option Nat :=
  let ds := match text.toList with
    | '+' :: ds => ds
    | ds => ds
  if ds.isEmpty || !ds.all isDigit then none
  else if digitsValue ds ≤ bound then some (digitsValue ds) else none

end SerialLine.Decimal
