import SerialLine.Toml.Layout

/-!
# SerialLine.Toml.Quoted — the four ways to write a text

A text stands between double quotes, where a backslash starts an escape, or between single
quotes, where every character stands for itself. Tripled quotes let it run over several lines:
a line end right after the opening quotes is dropped, and up to two quotes may stand together
inside, also right before the closing ones.

`Quoted.read` reads any of the four. `Quoted.written` picks the plainest that holds the text,
so that what it writes reads back.
-/

namespace SerialLine.Toml.Quoted

open Decimal (hexValue?)

/-- How a text is delimited. -/
structure Style where
  /-- Between double quotes, with escapes. -/
  escapes : Bool
  /-- Between tripled quotes, perhaps over several lines. -/
  lines : Bool
deriving DecidableEq, Repr

/-- The quote of a style. -/
def Style.quote (s : Style) : Char := if s.escapes then '"' else '\''

/-- The delimiter of a style. -/
def Style.delimiter (s : Style) : List Char :=
  if s.lines then [s.quote, s.quote, s.quote] else [s.quote]

/-! ## Reading -/

/-- What the letter after a backslash stands for. -/
def escapeLetter? : Char → Option Char
  | 'b' => some '\x08'
  | 't' => some '\t'
  | 'n' => some '\n'
  | 'f' => some '\x0c'
  | 'r' => some '\r'
  | '"' => some '"'
  | '\\' => some '\\'
  | _ => none

/-- The character with a code point, unless no character has it. -/
def charOf? (n : Nat) : Option Char := if n.isValidChar then some (Char.ofNat n) else none

/-- Where a reader stands inside a quoted text. -/
inductive Mode where
  | plain
  /-- After a carriage return, which only a line feed may follow. -/
  | lineFeed
  /-- After a backslash. -/
  | escape
  /-- Inside the digits of a code point: how many are missing, and the number so far. -/
  | digits (missing value : Nat)
  /-- After a backslash and blanks, which only a line end may follow. -/
  | foldStart
  /-- Among the blanks and line ends that a backslash at the end of a line swallows. -/
  | folding
  /-- The same, after a carriage return. -/
  | foldLineFeed
deriving DecidableEq, Repr

/-- The end of a text in a style, if it comes here: how many quotes belong to the text still,
and what follows the closing ones. -/
def Style.closing? (s : Style) (cs : List Char) : Option (Nat × List Char) :=
  let run := (cs.takeWhile (· = s.quote)).length
  if s.lines then
    if 3 ≤ run then some (min run 5 - 3, cs.drop (min run 5)) else none
  else if 1 ≤ run then some (0, cs.drop 1) else none

/-- The mode after an ordinary character, and what it adds to the text. -/
def Style.plainStep (s : Style) (c : Char) : Option (Mode × List Char) :=
  if s.escapes && c = '\\' then some (.escape, [])
  else if s.lines && c = '\n' then some (.plain, ['\n'])
  else if s.lines && c = '\r' then some (.lineFeed, [])
  else if isPlain c then some (.plain, [c])
  else none

/-- The mode after a character that follows a backslash, and what it adds to the text. -/
def Style.escapeStep (s : Style) (c : Char) : Option (Mode × List Char) :=
  match escapeLetter? c with
  | some d => some (.plain, [d])
  | none =>
    if c = 'u' then some (.digits 4 0, [])
    else if c = 'U' then some (.digits 8 0, [])
    else if !s.lines then none
    else if c = '\n' then some (.folding, [])
    else if c = '\r' then some (.foldLineFeed, [])
    else if isBlank c then some (.foldStart, [])
    else none

/-- The mode after a character, and what it adds to the text. -/
def Style.step (s : Style) (mode : Mode) (c : Char) : Option (Mode × List Char) :=
  match mode with
  | .plain => s.plainStep c
  | .lineFeed => if c = '\n' then some (.plain, ['\n']) else none
  | .escape => s.escapeStep c
  | .digits missing value => do
    let d ← hexValue? c
    let value := 16 * value + d
    if missing ≤ 1 then
      let e ← charOf? value
      return (.plain, [e])
    else return (.digits (missing - 1) value, [])
  | .foldStart =>
    if c = '\n' then some (.folding, [])
    else if c = '\r' then some (.foldLineFeed, [])
    else if isBlank c then some (.foldStart, [])
    else none
  | .folding =>
    if c = '\n' || isBlank c then some (.folding, [])
    else if c = '\r' then some (.foldLineFeed, [])
    else s.plainStep c
  | .foldLineFeed => if c = '\n' then some (.folding, []) else none

/-- Whether the text may end in a mode. -/
def Mode.mayClose : Mode → Bool
  | .plain | .folding => true
  | _ => false

/-- Reads a quoted text after its opening; `got` holds the characters so far in reverse. -/
def Style.body (s : Style) (mode : Mode) (got : List Char) : Reader String
  | [] => none
  | c :: cs =>
    match if mode.mayClose then s.closing? (c :: cs) else none with
    | some (quotes, rest) =>
      some (String.ofList (got.reverse ++ List.replicate quotes s.quote), rest)
    | none =>
      match s.step mode c with
      | some (mode, chars) => s.body mode (chars ++ got) cs
      | none => none

/-- Reads a text in one style, its opening delimiter included. -/
def Style.read (s : Style) : Reader String := fun cs => do
  let cs ← after? s.delimiter cs
  let cs := if s.lines then (lineEnd? cs).getD cs else cs
  s.body .plain [] cs

/-- Reads a text on one line, as keys are written. -/
def readLine : Reader String
  | '"' :: cs => Style.read ⟨true, false⟩ ('"' :: cs)
  | '\'' :: cs => Style.read ⟨false, false⟩ ('\'' :: cs)
  | _ => none

/-- Reads a text in any style. -/
def read : Reader String := fun cs =>
  if cs.take 3 = ['"', '"', '"'] then Style.read ⟨true, true⟩ cs
  else if cs.take 3 = ['\'', '\'', '\''] then Style.read ⟨false, true⟩ cs
  else readLine cs

/-! ## Writing -/

/-- The length of the longest run of a character. -/
def longestRun (q : Char) (cs : List Char) : Nat :=
  (cs.foldl (fun (best, run) c => if c = q then (max best (run + 1), run + 1) else (best, 0))
    (0, 0)).1

/-- Whether a character must be escaped wherever escapes can be written. -/
def needsEscape (c : Char) : Bool := c ≠ '\t' && c ≠ '\n' && !isPlain c

/-- The style in which a text is written: the plainest that can hold it. -/
def styleFor (cs : List Char) : Style :=
  let control := cs.any needsEscape
  let backslash := cs.contains '\\'
  let newline := cs.contains '\n'
  let double := longestRun '"' cs
  let single := longestRun '\'' cs
  if !control && !backslash && double = 0 && !newline then ⟨true, false⟩
  else if !control && single = 0 && !newline then ⟨false, false⟩
  else if !control && !backslash && double ≤ 2 then ⟨true, true⟩
  else if !control && single ≤ 2 then ⟨false, true⟩
  else ⟨true, newline⟩

/-- A number below 65536 as four upper-case hexadecimal digits. -/
def fourDigits (n : Nat) : List Char :=
  [n / 4096 % 16, n / 256 % 16, n / 16 % 16, n % 16].map fun d => (Nat.digitChar d).toUpper

/-- A character behind a backslash, where that is how it is written. -/
def escaped? (lines : Bool) (c : Char) : Option (List Char) :=
  if c = '\\' then some ['\\', '\\']
  else if c = '\x08' then some ['\\', 'b']
  else if c = '\t' then some ['\\', 't']
  else if c = '\n' then if lines then none else some ['\\', 'n']
  else if c = '\x0c' then some ['\\', 'f']
  else if c = '\r' then some ['\\', 'r']
  else if isPlain c then none
  else some ('\\' :: 'u' :: fourDigits c.toNat)

/-- Characters between double quotes. At most `room` quotes may stand together; `run` have
just been written. -/
def escapedFrom (lines : Bool) (room : Nat) (run : Nat) : List Char → List Char
  | [] => []
  | c :: cs =>
    if c = '"' then
      if run < room then '"' :: escapedFrom lines room (run + 1) cs
      else '\\' :: '"' :: escapedFrom lines room 0 cs
    else (escaped? lines c).getD [c] ++ escapedFrom lines room 0 cs

/-- The characters of a text in a style, without its delimiters. -/
def Style.inner (s : Style) (cs : List Char) : List Char :=
  if s.escapes then escapedFrom s.lines (if s.lines then 2 else 0) 0 cs else cs

/-- A text between the delimiters of a style. A text that holds a line end starts on a line of
its own. -/
def Style.write (s : Style) (cs : List Char) : List Char :=
  s.delimiter ++ (if s.lines && cs.contains '\n' then ['\n'] else []) ++ s.inner cs ++ s.delimiter

/-- A text as it is written in a document. -/
def written (text : String) : List Char := (styleFor text.toList).write text.toList

end SerialLine.Toml.Quoted
