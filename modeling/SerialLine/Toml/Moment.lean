import SerialLine.Toml.Layout

/-!
# SerialLine.Toml.Moment — dates and times

A date is a day of the calendar; a time of day may have a fraction of a second; the two
together may name their distance from Greenwich. The library holds no moments, so they are only
skipped.
-/

namespace SerialLine.Toml.Moment

open Decimal (isDigit digitsValue)

/-- A number of exactly `width` digits. -/
def fixed (width : Nat) : Reader Nat := fun cs =>
  let ds := cs.take width
  if ds.length = width && ds.all isDigit then some (digitsValue ds, cs.drop width) else none

/-- A number of two digits between two bounds. -/
def pair (low high : Nat) : Reader Nat := fun cs => do
  let (n, rest) ← fixed 2 cs
  if low ≤ n && n ≤ high then some (n, rest) else none

/-- Whether a year has a leap day. -/
def isLeap (year : Nat) : Bool := year % 4 = 0 && (year % 100 ≠ 0 || year % 400 = 0)

/-- The number of days of a month. -/
def daysIn (year month : Nat) : Nat :=
  if month = 2 then if isLeap year then 29 else 28
  else if month = 4 || month = 6 || month = 9 || month = 11 then 30
  else 31

/-- Skips a date. -/
def skipDate? (cs : List Char) : Option (List Char) := do
  let (year, cs) ← fixed 4 cs
  let cs ← after? ['-'] cs
  let (month, cs) ← pair 1 12 cs
  let cs ← after? ['-'] cs
  let (_, rest) ← pair 1 (daysIn year month) cs
  return rest

/-- Skips a fraction of a second, if one comes here. -/
def skipFraction (cs : List Char) : List Char :=
  match cs with
  | '.' :: d :: rest => if isDigit d then rest.dropWhile isDigit else cs
  | _ => cs

/-- Skips a time of day. A minute may have a leap second. -/
def skipTime? (cs : List Char) : Option (List Char) := do
  let (_, cs) ← pair 0 23 cs
  let cs ← after? [':'] cs
  let (_, cs) ← pair 0 59 cs
  let cs ← after? [':'] cs
  let (_, rest) ← pair 0 60 cs
  return skipFraction rest

/-- Skips a distance from Greenwich. -/
def skipOffset? : List Char → Option (List Char)
  | c :: cs =>
    if c = 'Z' || c = 'z' then some cs
    else if c = '+' || c = '-' then do
      let (_, cs) ← pair 0 23 cs
      let cs ← after? [':'] cs
      let (_, rest) ← pair 0 59 cs
      return rest
    else none
  | [] => none

/-- Skips the time of day that may follow a date, with its distance from Greenwich. -/
def skipTimeAfterDate? : List Char → Option (List Char)
  | c :: cs =>
    if c = 'T' || c = 't' || c = ' ' then do
      let rest ← skipTime? cs
      return (skipOffset? rest).getD rest
    else none
  | [] => none

/-- Skips a date, a time of day or both. -/
def skip? (cs : List Char) : Option (List Char) :=
  match skipDate? cs with
  | some rest => some ((skipTimeAfterDate? rest).getD rest)
  | none => skipTime? cs

end SerialLine.Toml.Moment
