import SerialLine.Text.Decimal

/-!
# SerialLine.Json.Token — the tokens of a JSON text

A text is cut into tokens without deciding yet whether they stand where they may. A number or
a string is read in two ways at once: for its value, and only to be skipped. The second way
asks for less: a string that is skipped may hold half of a surrogate pair, and a number that
is skipped may be of any size. A token that cannot even be skipped is the last one.
-/

namespace SerialLine.Json

open Decimal (isDigit digitsValue hexValue?)

/-- Why a text was refused. -/
inductive Fault where
  /-- The text is not JSON. -/
  | malformed
  /-- The text is JSON so far, but not the value that was asked for. -/
  | mismatch
  /-- The text ends too early. -/
  | truncated
deriving DecidableEq, Repr

/-- What the kind of refusal is called. -/
def Fault.label : Fault → String
  | .malformed => "Syntax"
  | .mismatch => "Data"
  | .truncated => "Eof"

/-- A number: a natural number below `2 ^ 64`, a negative integer from `-2 ^ 63`, or any other. -/
inductive Number where
  | natural (n : Nat)
  | negative (n : Nat)
  | other
deriving DecidableEq, Repr

/-- One of the three words. -/
inductive Word where
  | null | true | false
deriving DecidableEq, Repr

/-- A token. -/
inductive Token where
  | openBrace | closeBrace | openBracket | closeBracket | colon | comma
  /-- Something that starts with the first letter of a word. -/
  | word (read : Except Fault Word)
  /-- Something that starts as a number does. -/
  | number (read : Except Fault Number) (skip : Except Fault Unit)
  /-- Something that starts with a quote. -/
  | string (read : Except Fault String) (skip : Except Fault Unit)
  /-- A character that starts no token. -/
  | alien

/-! ## Words and numbers -/

/-- The rest of a text after the letters `expected`. -/
def afterLetters : (expected : List Char) → List Char → Except Fault (List Char)
  | [], cs => .ok cs
  | _ :: _, [] => .error .truncated
  | e :: es, c :: cs => if e = c then afterLetters es cs else .error .malformed

/-- The parts of a number as far as they could be read, and the text after them. -/
structure NumberParts where
  negative : Bool
  whole : List Char
  fraction : Option (List Char)
  exponent : Option (Bool × List Char)
  rest : List Char

/-- What can stop a number: a wrong character, or the end of the text. -/
def badDigit : List Char → Fault
  | [] => .truncated
  | _ :: _ => .malformed

/-- The exponent of a number, if one follows. -/
def readExponent (cs : List Char) : Except Fault (Option (Bool × List Char) × List Char) :=
  match cs with
  | c :: after =>
    if c = 'e' || c = 'E' then
      let (down, after) := match after with
        | '+' :: r => (false, r)
        | '-' :: r => (true, r)
        | r => (false, r)
      let ds := after.takeWhile isDigit
      let rest := after.dropWhile isDigit
      if ds.isEmpty then .error (badDigit rest) else .ok (some (down, ds), rest)
    else .ok (none, cs)
  | [] => .ok (none, [])

/-- The fraction of a number, if one follows. -/
def readFraction (cs : List Char) : Except Fault (Option (List Char) × List Char) :=
  match cs with
  | '.' :: after =>
    let ds := after.takeWhile isDigit
    let rest := after.dropWhile isDigit
    if ds.isEmpty then .error (badDigit rest) else .ok (some ds, rest)
  | _ => .ok (none, cs)

/-- The digits before the point. A leading zero stands alone. -/
def readWhole (cs : List Char) : Except Fault (List Char × List Char) :=
  match cs with
  | [] => .error .truncated
  | '0' :: rest =>
    if (rest.head?.map isDigit).getD false then .error .malformed else .ok (['0'], rest)
  | c :: _ =>
    if isDigit c then .ok (cs.takeWhile isDigit, cs.dropWhile isDigit) else .error .malformed

/-- A number after its sign. -/
def readNumber (negative : Bool) (cs : List Char) : Except Fault NumberParts := do
  let (whole, cs) ← readWhole cs
  let (fraction, cs) ← readFraction cs
  let (exponent, rest) ← readExponent cs
  return { negative, whole, fraction, exponent, rest }

/-- Whether a number is too large for a double. -/
def NumberParts.exceedsDouble (p : NumberParts) : Bool :=
  Decimal.exceedsDouble p.whole (p.fraction.getD []) p.exponent

/-- The number that the parts write. -/
def NumberParts.value (p : NumberParts) : Except Fault Number :=
  if p.exceedsDouble then .error .malformed
  else if p.fraction.isSome || p.exponent.isSome then .ok .other
  else
    let n := digitsValue p.whole
    if p.negative then
      .ok (if n = 0 || 2 * n > UInt64.size then .other else .negative n)
    else
      .ok (if n < UInt64.size then .natural n else .other)

/-! ## Strings -/

/-- Four hexadecimal digits. A text with fewer than four bytes left ends too early, whatever
they are. -/
def readFour (cs : List Char) : Except Fault (Nat × List Char) :=
  match cs with
  | a :: b :: c :: d :: rest =>
    match hexValue? a, hexValue? b, hexValue? c, hexValue? d with
    | some a, some b, some c, some d => .ok (4096 * a + 256 * b + 16 * c + d, rest)
    | _, _, _, _ => .error .malformed
  | _ => if (String.ofList cs).utf8ByteSize < 4 then .error .truncated else .error .malformed

theorem readFour_length {cs : List Char} {n : Nat} {rest : List Char}
    (h : readFour cs = .ok (n, rest)) : rest.length < cs.length := by
  unfold readFour at h
  split at h
  · split at h
    · cases h; simp; omega
    · cases h
  · split at h <;> cases h

/-- The letters that may follow a backslash alone, with what they stand for. -/
def escapeLetter? : Char → Option Char
  | '"' => some '"'
  | '\\' => some '\\'
  | '/' => some '/'
  | 'b' => some '\x08'
  | 'f' => some '\x0c'
  | 'n' => some '\n'
  | 'r' => some '\r'
  | 't' => some '\t'
  | _ => none

/-- Skips a string after its opening quote. -/
def skipString (cs : List Char) : Except Fault (List Char) :=
  match cs with
  | [] => .error .truncated
  | '"' :: rest => .ok rest
  | '\\' :: 'u' :: after =>
    match h : readFour after with
    | .error f => .error f
    | .ok (_, rest) =>
      have := readFour_length h
      skipString rest
  | '\\' :: c :: rest => if (escapeLetter? c).isSome then skipString rest else .error .malformed
  | ['\\'] => .error .truncated
  | c :: rest => if c.toNat < 0x20 then .error .malformed else skipString rest
termination_by cs.length

/-- The low half of a surrogate pair whose high half was just read. -/
def readLowHalf (high : Nat) (cs : List Char) : Except Fault (Char × List Char) :=
  match cs with
  | [] => .error .truncated
  | '\\' :: [] => .error .truncated
  | '\\' :: 'u' :: after => do
    let (low, rest) ← readFour after
    if 0xDC00 ≤ low && low ≤ 0xDFFF then
      .ok (Char.ofNat ((high - 0xD800) * 1024 + (low - 0xDC00) + 0x10000), rest)
    else .error .malformed
  | _ => .error .malformed

/-- The character of a `\u` escape: halves of a surrogate pair only come together. -/
def readCodePoint (cs : List Char) : Except Fault (Char × List Char) := do
  let (n, rest) ← readFour cs
  if 0xDC00 ≤ n && n ≤ 0xDFFF then .error .malformed
  else if 0xD800 ≤ n && n ≤ 0xDBFF then readLowHalf n rest
  else .ok (Char.ofNat n, rest)

theorem readCodePoint_length {cs : List Char} {c : Char} {rest : List Char}
    (h : readCodePoint cs = .ok (c, rest)) : rest.length < cs.length := by
  unfold readCodePoint at h
  cases h4 : readFour cs with
  | error f => rw [h4] at h; cases h
  | ok p =>
    obtain ⟨n, r⟩ := p
    have h1 := readFour_length h4
    rw [h4] at h
    simp only [bind, Except.bind] at h
    split at h
    · cases h
    · split at h
      · unfold readLowHalf at h
        split at h
        · cases h
        · cases h
        · rename_i after
          cases h5 : readFour after with
          | error f => rw [h5] at h; cases h
          | ok q =>
            obtain ⟨low, r'⟩ := q
            have h2 := readFour_length h5
            rw [h5] at h
            simp only [bind, Except.bind] at h
            split at h
            · simp only [Except.ok.injEq, Prod.mk.injEq] at h
              obtain ⟨-, rfl⟩ := h
              simp only [List.length_cons] at h1
              omega
            · cases h
        · cases h
      · cases h; exact h1

/-- Reads a string after its opening quote; the characters read so far come in reverse. -/
def readString (got : List Char) (cs : List Char) : Except Fault (String × List Char) :=
  match cs with
  | [] => .error .truncated
  | '"' :: rest => .ok (String.ofList got.reverse, rest)
  | '\\' :: 'u' :: after =>
    match h : readCodePoint after with
    | .error f => .error f
    | .ok (c, rest) =>
      have := readCodePoint_length h
      readString (c :: got) rest
  | '\\' :: c :: rest =>
    match escapeLetter? c with
    | some c => readString (c :: got) rest
    | none => .error .malformed
  | ['\\'] => .error .truncated
  | c :: rest => if c.toNat < 0x20 then .error .malformed else readString (c :: got) rest
termination_by cs.length

/-! ## Tokens -/

/-- Whether a character separates tokens. -/
def isSpace (c : Char) : Bool := c = ' ' || c = '\n' || c = '\t' || c = '\r'

/-- The faults of a number that is only skipped: the end of the text is as wrong as any other
character. -/
def skipFault : Fault → Fault
  | .truncated => .malformed
  | f => f

/-- The token that starts with the letter `c` of a word. -/
def wordToken (w : Word) (letters : List Char) (cs : List Char) :
    Token × Option (List Char) :=
  match afterLetters letters cs with
  | .ok rest => (.word (.ok w), some rest)
  | .error f => (.word (.error f), none)

/-- The token of a number after its sign. -/
def numberToken (negative : Bool) (cs : List Char) : Token × Option (List Char) :=
  match readNumber negative cs with
  | .ok parts => (.number parts.value (.ok ()), some parts.rest)
  | .error f => (.number (.error f) (.error (skipFault f)), none)

/-- The token of a string after its opening quote. -/
def stringToken (cs : List Char) : Token × Option (List Char) :=
  let read := (readString [] cs).map (·.1)
  match skipString cs with
  | .ok rest => (.string read (.ok ()), some rest)
  | .error f => (.string read (.error f), none)

/-- The token that starts with `c`, and the text after it unless nothing can be read on. -/
def token (c : Char) (cs : List Char) : Token × Option (List Char) :=
  match c with
  | '\x7b' => (.openBrace, some cs)
  | '\x7d' => (.closeBrace, some cs)
  | '[' => (.openBracket, some cs)
  | ']' => (.closeBracket, some cs)
  | ':' => (.colon, some cs)
  | ',' => (.comma, some cs)
  | 'n' => wordToken .null ['u', 'l', 'l'] cs
  | 't' => wordToken .true ['r', 'u', 'e'] cs
  | 'f' => wordToken .false ['a', 'l', 's', 'e'] cs
  | '"' => stringToken cs
  | '-' => numberToken true cs
  | c => if isDigit c then numberToken false (c :: cs) else (.alien, none)

/-- Tokens of a text, at most `fuel` of them. -/
def tokensUpTo : (fuel : Nat) → List Char → List Token
  | 0, _ => []
  | fuel + 1, cs =>
    match cs.dropWhile isSpace with
    | [] => []
    | c :: rest =>
      match token c rest with
      | (t, some rest) => t :: tokensUpTo fuel rest
      | (t, none) => [t]

/-- The tokens of a text, up to the first that cannot be skipped. A text has no more tokens
than characters. -/
def tokens (text : String) : List Token := tokensUpTo text.length text.toList

end SerialLine.Json
