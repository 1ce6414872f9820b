/-!
# SerialLine.Text.Span — the text of a span of time

A span of whole milliseconds is written in the largest unit that it reaches, seconds or
milliseconds, with the digits behind the point that are needed; no time at all is written in
nanoseconds.
-/

namespace SerialLine.Text

/-- The digits of a fraction of three places, without the zeros at its end. -/
def fractionDigits (thousandths : Nat) : List Char :=
  let digits := [thousandths / 100, thousandths / 10 % 10, thousandths % 10].map Nat.digitChar
  (digits.reverse.dropWhile (· = '0')).reverse

/-- A span of milliseconds. -/
def span (milliseconds : Nat) : String :=
  if milliseconds = 0 then "0ns"
  else if milliseconds < 1000 then s!"{milliseconds}ms"
  else
    let fraction := fractionDigits (milliseconds % 1000)
    let point := if fraction.isEmpty then "" else "."
    s!"{milliseconds / 1000}" ++ point ++ String.ofList fraction ++ "s"

end SerialLine.Text
