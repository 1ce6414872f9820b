import SerialLine.Text.Decimal

/-!
# SerialLine.Toml.Layout — blanks, line ends and comments

A reader takes a value off the front of a text and gives it with what follows, or refuses the
text. What stands between values is read here: blanks and tabs, line ends (a line feed, alone
or after a carriage return), and comments, which run to the end of their line.
-/

namespace SerialLine.Toml

/-- Reads a value off the front of a text. -/
abbrev Reader (α : Type) := List Char → Option (α × List Char)

/-- Whether a character is a blank inside a line. -/
def isBlank (c : Char) : Bool := c = ' ' || c = '\t'

/-- Whether a character may stand in a comment: tabs and all that are no control characters. -/
def isPlain (c : Char) : Bool := c = '\t' || (0x20 ≤ c.toNat && c.toNat ≠ 0x7F)

/-- The text after its leading blanks. -/
def skipBlanks (cs : List Char) : List Char := cs.dropWhile isBlank

/-- The text after the line end that it starts with. -/
def lineEnd? : List Char → Option (List Char)
  | '\n' :: rest => some rest
  | '\r' :: '\n' :: rest => some rest
  | _ => none

/-- The text after the comment that it starts with, if it starts with one. -/
def skipComment : List Char → List Char
  | '#' :: rest => rest.dropWhile isPlain
  | cs => cs

/-- The text after the rest of a line: blanks, perhaps a comment, and the end of the line or of
the text. -/
def lineRest? (cs : List Char) : Option (List Char) :=
  match skipComment (skipBlanks cs) with
  | [] => some []
  | rest => lineEnd? rest

/-- The text after all blanks, comments and line ends; `fuel` bounds their number. -/
def skipLayoutUpTo : (fuel : Nat) → List Char → List Char
  | 0, cs => cs
  | fuel + 1, cs =>
    match skipComment (skipBlanks cs) with
    | [] => []
    | rest =>
      match lineEnd? rest with
      | some rest => skipLayoutUpTo fuel rest
      | none => rest

/-- The text after all blanks, comments and line ends. Every line takes a character. -/
def skipLayout (cs : List Char) : List Char := skipLayoutUpTo (cs.length + 1) cs

/-- The text after the letters `expected`. -/
def after? : (expected : List Char) → List Char → Option (List Char)
  | [], cs => some cs
  | _ :: _, [] => none
  | e :: es, c :: cs => if e = c then after? es cs else none

end SerialLine.Toml
