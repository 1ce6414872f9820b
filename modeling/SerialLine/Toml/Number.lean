import SerialLine.Toml.Layout

/-!
# SerialLine.Toml.Number — integers and floats

An integer fits 64 bits with sign and is written in decimal, without leading zeros, or unsigned
behind `0x`, `0o` or `0b`. Underscores may stand between digits. A float has a fraction or an
exponent, or is one of the words; one too large for a double is refused.
-/

namespace SerialLine.Toml

open Decimal (isDigit digitsValue hexValue?)

namespace Number

/-- The digits after the first one, an underscore allowed before each; they come in reverse on
top of `got`. An underscore with no digit behind it is refused. -/
def moreDigits (digit : Char → Bool) (got : List Char) : Reader (List Char)
  | [] => some (got.reverse, [])
  | c :: cs =>
    if c = '_' then
      match cs with
      | d :: rest => if digit d then moreDigits digit (d :: got) rest else none
      | [] => none
    else if digit c then moreDigits digit (c :: got) cs
    else some (got.reverse, c :: cs)

/-- One or more digits, underscores between them left out. -/
def digits (digit : Char → Bool) : Reader (List Char)
  | c :: cs => if digit c then moreDigits digit [c] cs else none
  | [] => none

/-- Decimal digits without a leading zero. -/
def wholeDigits : Reader (List Char)
  | '0' :: rest => some (['0'], rest)
  | cs => digits isDigit cs

/-- A sign, if there is one: whether it is a minus. -/
def sign : List Char → Bool × List Char
  | '+' :: rest => (false, rest)
  | '-' :: rest => (true, rest)
  | cs => (false, cs)

/-- The least and the largest integer. -/
def least : Int := Int64.minValue.toInt
@[inherit_doc least] def largest : Int := Int64.maxValue.toInt

/-- An integer, if it is in range. -/
def inRange? (n : Int) : Option Int := if least ≤ n ∧ n ≤ largest then some n else none

/-- The number that digits write in a base. -/
def valueIn (base : Nat) (ds : List Char) : Nat :=
  ds.foldl (fun n d => base * n + (hexValue? d).getD 0) 0

/-- Whether a character is a digit in a base up to sixteen. -/
def isDigitIn (base : Nat) (c : Char) : Bool := (hexValue? c).any (· < base)

/-- An unsigned integer in a base, after its mark. -/
def inBase (base : Nat) : Reader Int := fun cs => do
  let (ds, rest) ← digits (isDigitIn base) cs
  return (← inRange? (valueIn base ds), rest)

/-- An integer. -/
def integer : Reader Int
  | '0' :: 'x' :: rest => inBase 16 rest
  | '0' :: 'o' :: rest => inBase 8 rest
  | '0' :: 'b' :: rest => inBase 2 rest
  | cs => do
    let (negative, cs) := sign cs
    let (ds, rest) ← wholeDigits cs
    let n : Int := digitsValue ds
    return (← inRange? (if negative then -n else n), rest)

/-- The digits of an exponent with its sign, if one comes here. -/
def exponent? : Reader (Option (Bool × List Char))
  | c :: cs =>
    if c = 'e' || c = 'E' then do
      let (negative, cs) := sign cs
      let (ds, rest) ← digits isDigit cs
      return (some (negative, ds), rest)
    else some (none, c :: cs)
  | [] => some (none, [])

/-- The digits of a fraction, if one comes here. -/
def fraction? : Reader (Option (List Char))
  | '.' :: cs => do
    let (ds, rest) ← digits isDigit cs
    return (some ds, rest)
  | cs => some (none, cs)

/-- Skips a float that is written in digits. Only one that rounds to positive infinity is
refused for its size. -/
def skipDigitFloat? (cs : List Char) : Option (List Char) := do
  let (negative, cs) := sign cs
  let (whole, cs) ← wholeDigits cs
  let (fraction, cs) ← fraction? cs
  let (exponent, rest) ← exponent? cs
  if fraction.isNone && exponent.isNone then none
  else if !negative && Decimal.exceedsDouble whole (fraction.getD []) exponent then none
  else some rest

/-- Skips a float that is written as a word. -/
def skipWordFloat? (cs : List Char) : Option (List Char) :=
  let cs := (sign cs).2
  after? ['i', 'n', 'f'] cs <|> after? ['n', 'a', 'n'] cs

/-- Skips a float. -/
def skipFloat? (cs : List Char) : Option (List Char) := skipDigitFloat? cs <|> skipWordFloat? cs

end Number

end SerialLine.Toml
