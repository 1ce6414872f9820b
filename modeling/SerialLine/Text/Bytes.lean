import SerialLine.Text.Decimal

/-!
# SerialLine.Text.Bytes — byte strings and their written forms

What travels over a line is a list of bytes. This module holds the two written forms that
the rest of the library needs: lower-case hexadecimal, and the UTF-8 bytes of a text.
-/

namespace SerialLine

/-- A finite byte stream, first byte first. -/
abbrev Bytes := List UInt8

namespace Bytes

/-- The bytes of a text in UTF-8. -/
def ofText (s : String) : Bytes := s.toUTF8.data.toList

/-- The lower-case hexadecimal digit of a number below sixteen. -/
def hexDigit (n : Nat) : Char := Nat.digitChar n

/-- Two lower-case hexadecimal digits, high half first. -/
def hexByte (b : UInt8) : List Char :=
  [hexDigit (b.toNat / 16), hexDigit (b.toNat % 16)]

/-- Lower-case hexadecimal, two digits a byte. -/
def toHex (bs : Bytes) : String := String.ofList (bs.flatMap hexByte)

/-- Reads pairs of hexadecimal digits; an odd or foreign character is refused. -/
def ofHexChars? : List Char → Option Bytes
  | [] => some []
  | [_] => none
  | hi :: lo :: rest => do
    let h ← Decimal.hexValue? hi
    let l ← Decimal.hexValue? lo
    let tail ← ofHexChars? rest
    return UInt8.ofNat (16 * h + l) :: tail

/-- Reads a hexadecimal text. -/
def ofHex? (s : String) : Option Bytes := ofHexChars? s.toList

end Bytes

end SerialLine
