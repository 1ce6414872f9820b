import SerialLine.Terminal.Flags
import SerialLine.Text.Structural

/-!
# SerialLine.Terminal.ControlBlock — what the system stores about a terminal

A control block holds four flag words, the line discipline, the control characters and both
speeds as numbers. The library changes a block that it got from the system, so that whatever it
does not know of stays as it was.
-/

namespace SerialLine

/-- The number of control characters in a block. -/
abbrev controlCharCount : Nat := 19

/-- The control characters that the library reads or writes. -/
inductive ControlChar where
  /-- The time that a read waits. -/
  | vtime
  /-- The least length of a read. -/
  | vmin
  /-- The character that resumes a sender. -/
  | vstart
  /-- The character that holds a sender back. -/
  | vstop
deriving DecidableEq, Repr

/-- The place of a control character in the block. -/
def ControlChar.index : ControlChar → Fin controlCharCount
  | .vtime => 5 | .vmin => 6 | .vstart => 8 | .vstop => 9

/-- The settings of a terminal as the system stores them. -/
structure ControlBlock where
  inputFlags : Flags := 0
  outputFlags : Flags := 0
  controlFlags : Flags := 0
  localFlags : Flags := 0
  /-- The line discipline. -/
  line : UInt8 := 0
  /-- The control characters. -/
  chars : Vector UInt8 controlCharCount := Vector.replicate controlCharCount 0
  /-- The input speed as a number. -/
  inputSpeed : UInt32 := 0
  /-- The output speed as a number. -/
  outputSpeed : UInt32 := 0
deriving DecidableEq

namespace ControlBlock

/-- A control character of the block. -/
def char (b : ControlBlock) (c : ControlChar) : UInt8 := b.chars[c.index]

/-- The block with one control character replaced. -/
def setChar (b : ControlBlock) (c : ControlChar) (value : UInt8) : ControlBlock :=
  { b with chars := b.chars.set c.index value }

/-- Clears, then sets bits of the input word. -/
def editInput (b : ControlBlock) (off on : Flags) : ControlBlock :=
  { b with inputFlags := b.inputFlags.without off ||| on }

/-- Clears bits of the output word. -/
def editOutput (b : ControlBlock) (off : Flags) : ControlBlock :=
  { b with outputFlags := b.outputFlags.without off }

/-- Clears, then sets bits of the control word. -/
def editControl (b : ControlBlock) (off on : Flags) : ControlBlock :=
  { b with controlFlags := b.controlFlags.without off ||| on }

/-- Clears bits of the local word. -/
def editLocal (b : ControlBlock) (off : Flags) : ControlBlock :=
  { b with localFlags := b.localFlags.without off }

/-- A flag word in octal. -/
def octal (w : Flags) : String := "0o" ++ String.ofList (Nat.toDigits 8 w.toNat)

/-- The block as a structured value. -/
def structural (b : ControlBlock) : String :=
  Text.record "ControlBlock"
    [("iflag", octal b.inputFlags), ("oflag", octal b.outputFlags),
     ("cflag", octal b.controlFlags), ("lflag", octal b.localFlags),
     ("cc", Text.listed (b.chars.toList.map toString))]

end ControlBlock

end SerialLine
