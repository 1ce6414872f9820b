import SerialLine.Text.Bytes

/-!
# SerialLine.Text.Utf8 — reading bytes as UTF-8

Bytes are cut into *pieces*: a well-formed encoding of one character, or a malformed run. A
malformed run is as long as the input still looked like the start of some character, so one
replacement character stands for each such run. `decode?` refuses malformed input and
`decodeLossy` replaces it.
-/

namespace SerialLine.Utf8

/-- The range that the second byte of a character must lie in, given its first byte, and how
many bytes follow the first; `none` for a byte that starts no character. -/
def lead? (b : UInt8) : Option (Nat × UInt8 × UInt8) :=
  if b < 0x80 then some (0, 0x80, 0xBF)
  else if b < 0xC2 then none
  else if b < 0xE0 then some (1, 0x80, 0xBF)
  else if b = 0xE0 then some (2, 0xA0, 0xBF)
  else if b = 0xED then some (2, 0x80, 0x9F)
  else if b < 0xF0 then some (2, 0x80, 0xBF)
  else if b = 0xF0 then some (3, 0x90, 0xBF)
  else if b < 0xF4 then some (3, 0x80, 0xBF)
  else if b = 0xF4 then some (3, 0x80, 0x8F)
  else none

/-- The bits that a first byte contributes when `n` bytes follow it. -/
def leadBits (b : UInt8) : Nat → Nat
  | 0 => b.toNat
  | 1 => b.toNat % 32
  | 2 => b.toNat % 16
  | _ => b.toNat % 8

/-- One piece of a byte string. -/
inductive Piece where
  | char (c : Char)
  | malformed
deriving DecidableEq, Repr

/-- Reads up to `n` continuation bytes, the first of them between `lo` and `hi`, onto the
bits read so far. Gives the character, or `malformed` where a byte does not fit, with the
bytes that come after. -/
def continuation (acc : Nat) (lo hi : UInt8) : Nat → Bytes → Piece × Bytes
  | 0, rest => (.char (Char.ofNat acc), rest)
  | _ + 1, [] => (.malformed, [])
  | n + 1, b :: rest =>
    if lo ≤ b ∧ b ≤ hi then continuation (acc * 64 + b.toNat % 64) 0x80 0xBF n rest
    else (.malformed, b :: rest)

theorem continuation_length_le (acc : Nat) (lo hi : UInt8) (n : Nat) (bs : Bytes) :
    (continuation acc lo hi n bs).2.length ≤ bs.length := by
  induction n generalizing acc lo hi bs with
  | zero => simp [continuation]
  | succ n ih =>
    cases bs with
    | nil => simp [continuation]
    | cons b rest =>
      unfold continuation
      split
      · exact Nat.le_succ_of_le (ih _ _ _ _)
      · exact Nat.le_refl _

/-- The first piece of a byte string that starts with `b`, and what comes after it. -/
def piece (b : UInt8) (rest : Bytes) : Piece × Bytes :=
  match lead? b with
  | none => (.malformed, rest)
  | some (n, lo, hi) => continuation (leadBits b n) lo hi n rest

theorem piece_length_le (b : UInt8) (rest : Bytes) : (piece b rest).2.length ≤ rest.length := by
  unfold piece
  split
  · exact Nat.le_refl _
  · exact continuation_length_le ..

/-- A byte string cut into pieces. -/
def pieces : Bytes → List Piece
  | [] => []
  | b :: rest => (piece b rest).1 :: pieces (piece b rest).2
termination_by bs => bs.length
decreasing_by exact Nat.lt_succ_of_le (piece_length_le b rest)

/-- The character of a piece, if it is well formed. -/
def Piece.char? : Piece → Option Char
  | .char c => some c
  | .malformed => none

/-- The character of a piece, with the replacement character for a malformed run. -/
def Piece.charOrReplacement : Piece → Char
  | .char c => c
  | .malformed => '\uFFFD'

/-- The text that bytes encode, `none` if some run is malformed. -/
def decode? (bs : Bytes) : Option String :=
  ((pieces bs).mapM Piece.char?).map String.ofList

/-- The text that bytes encode, a replacement character standing for each malformed run. -/
def decodeLossy (bs : Bytes) : String :=
  String.ofList ((pieces bs).map Piece.charOrReplacement)

end SerialLine.Utf8
