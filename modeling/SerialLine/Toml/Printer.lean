import SerialLine.Toml.Quoted
import SerialLine.Toml.Number

/-!
# SerialLine.Toml.Printer — writing documents

A document is written as sections with a blank line between them: a header, then one line for
each key and its value. Integers must fit 64 bits with sign.
-/

namespace SerialLine.Toml

/-- A value that stands behind a key. -/
inductive Scalar where
  | flag (b : Bool)
  | natural (n : Nat)
  | text (s : String)
deriving DecidableEq, Repr

/-- A section: its header and its keys in order. -/
structure Section where
  header : List String
  entries : List (String × Scalar)

/-- Whether a value can be written. -/
def Scalar.isWritable : Scalar → Bool
  | .natural n => (n : Int) ≤ Number.largest
  | _ => true

/-- The text of a value. -/
def Scalar.written : Scalar → List Char
  | .flag true => ['t', 'r', 'u', 'e']
  | .flag false => ['f', 'a', 'l', 's', 'e']
  | .natural n => Nat.toDigits 10 n
  | .text s => Quoted.written s

/-- One line: a key and its value. -/
def entryLine (e : String × Scalar) : List Char :=
  e.1.toList ++ [' ', '=', ' '] ++ e.2.written ++ ['\n']

/-- The names of a header with dots between them. -/
def headerNames (header : List String) : List Char :=
  (header.map String.toList).intersperse ['.'] |>.flatten

/-- The lines of a section. -/
def Section.lines (s : Section) : List Char :=
  '[' :: headerNames s.header ++ [']', '\n'] ++ s.entries.flatMap entryLine

/-- The text of a document; `none` if some value cannot be written. Names are bare. -/
def written? (sections : List Section) : Option String :=
  if sections.all fun s => s.entries.all (·.2.isWritable) then
    some (String.ofList ((sections.map Section.lines).intersperse ['\n']).flatten)
  else none

end SerialLine.Toml
