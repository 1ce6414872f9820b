import SerialLine.Toml.Quoted
import SerialLine.Toml.Number
import SerialLine.Toml.Moment
import SerialLine.Toml.Table

/-!
# SerialLine.Toml.Expression — keys and values

A key is a path of names with dots between them; a name is bare or quoted on one line. A value
is a text, a number, a truth value, a moment, an array or a table between braces. Arrays may
run over several lines, tables between braces only inside their values. `depth` bounds how far
arrays and tables nest, and the number of names in a key.
-/

namespace SerialLine.Toml

/-- How deep values may nest, and how many names a key may have. -/
def maxDepth : Nat := 79

/-- Whether a character may stand in a name without quotes. -/
def isBare (c : Char) : Bool :=
  ('a' ≤ c && c ≤ 'z') || ('A' ≤ c && c ≤ 'Z') || Decimal.isDigit c || c = '_' || c = '-'

/-- One name of a key. -/
def readName : Reader String
  | c :: cs =>
    if c = '"' || c = '\'' then Quoted.readLine (c :: cs)
    else if isBare c then
      some (String.ofList ((c :: cs).takeWhile isBare), (c :: cs).dropWhile isBare)
    else none
  | [] => none

/-- The names of a key with the blanks around them; `fuel` bounds their number. -/
def readNames : (fuel : Nat) → Reader (List String)
  | 0, _ => none
  | fuel + 1, cs => do
    let (name, cs) ← readName (skipBlanks cs)
    match skipBlanks cs with
    | '.' :: rest =>
      let (names, rest) ← readNames fuel rest
      return (name :: names, rest)
    | rest => return ([name], rest)

/-- A key: the names on the way, and the last name. -/
def readKey : Reader (List String × String) := fun cs => do
  let (names, rest) ← readNames maxDepth cs
  let last ← names.getLast?
  return ((names.dropLast, last), rest)

/-- A key and its value, with the blanks around both. -/
def readPair (value : Reader Value) : Reader ((List String × String) × Value) := fun cs => do
  let (key, cs) ← readKey cs
  let cs ← after? ['='] cs
  let (v, rest) ← value (skipBlanks cs)
  return ((key, v), rest)

/-- The items of an array after its opening bracket, or after a comma. -/
def readItems (value : Reader Value) : (fuel : Nat) → Reader (List Value)
  | 0, _ => none
  | fuel + 1, cs =>
    match skipLayout cs with
    | ']' :: rest => some ([], rest)
    | cs => do
      let (v, cs) ← value cs
      match skipLayout cs with
      | ',' :: rest =>
        let (vs, rest) ← readItems value fuel rest
        return (v :: vs, rest)
      | ']' :: rest => return ([v], rest)
      | _ => none

/-- The members of a table between braces, at least one of them. -/
def readMembers (value : Reader Value) : (fuel : Nat) → Members → Reader Members
  | 0, _, _ => none
  | fuel + 1, got, cs => do
    let (((path, name), v), cs) ← readPair value cs
    let got ← got.insertAt? path name v
    match skipBlanks cs with
    | ',' :: rest => readMembers value fuel got rest
    | '\x7d' :: rest => return (got, rest)
    | _ => none

/-- A table after its opening brace. -/
def readBraces (value : Reader Value) : Reader Value := fun cs =>
  match skipBlanks cs with
  | '\x7d' :: rest => some (.table .braces [], rest)
  | cs => do
    let (ms, rest) ← readMembers value (cs.length + 1) [] cs
    return (.table .braces (closedMembers ms), rest)

/-- A number or a moment. Moments come first, then floats: an integer is what is left. -/
def readNumber : Reader Value := fun cs =>
  match Moment.skip? cs with
  | some rest => some (.moment, rest)
  | none =>
    match Number.skipFloat? cs with
    | some rest => some (.float, rest)
    | none => do
      let (n, rest) ← Number.integer cs
      return (.integer n, rest)

/-- A truth value or one of the floats that are words. -/
def readWord : Reader Value := fun cs =>
  match after? ['t', 'r', 'u', 'e'] cs with
  | some rest => some (.boolean true, rest)
  | none =>
    match after? ['f', 'a', 'l', 's', 'e'] cs with
    | some rest => some (.boolean false, rest)
    | none => do
      let rest ← Number.skipWordFloat? cs
      return (.float, rest)

/-- A value that holds no other. -/
def readScalar : Reader Value
  | [] => none
  | c :: cs =>
    if c = '"' || c = '\'' then do
      let (s, rest) ← Quoted.read (c :: cs)
      return (.string s, rest)
    else if c = '+' || c = '-' || Decimal.isDigit c then readNumber (c :: cs)
    else readWord (c :: cs)

/-- A value inside of which others nest at most `depth` deep. -/
def readValue : (depth : Nat) → Reader Value
  | 0, cs =>
    match cs with
    | '[' :: _ | '\x7b' :: _ => none
    | cs => readScalar cs
  | depth + 1, cs =>
    match cs with
    | '[' :: rest => do
      let (vs, rest) ← readItems (readValue depth) (rest.length + 1) rest
      return (.array vs, rest)
    | '\x7b' :: rest => readBraces (readValue depth) rest
    | cs => readScalar cs

end SerialLine.Toml
