import SerialLine.Terminal.Linux
import SerialLine.Text.Bytes

/-!
# SerialLine.Host.Pty — pseudo-terminals

A pseudo-terminal is a terminal whose far end is held by another program. It stores the control
block that it is given, except that its characters always have eight bits without parity and
its receiver is always on. What the far end writes waits in an input queue; what is written to
the terminal reaches the far end at once.
-/

namespace SerialLine

/-- A pseudo-terminal. -/
structure Pty where
  block : ControlBlock
  /-- Bytes from the far end that have not been read. -/
  input : Bytes := []
  /-- Bytes that the far end has not read. -/
  output : Bytes := []
  /-- Whether the terminal is claimed for one owner. -/
  exclusive : Bool := false
deriving DecidableEq

namespace Pty

/-- The control characters of a new terminal. -/
def freshChars : Vector UInt8 controlCharCount :=
  #v[0x03, 0x1c, 0x7f, 0x15, 0x04, 0x00, 0x01, 0x00, 0x11, 0x13, 0x1a, 0x00, 0x12, 0x0f, 0x17,
     0x16, 0x00, 0x00, 0x00]

/-- The control block of a new terminal. -/
def freshBlock : ControlBlock where
  inputFlags := 1280
  outputFlags := 5
  controlFlags := 191
  localFlags := 35387
  chars := freshChars
  inputSpeed := 38400
  outputSpeed := 38400

/-- A new terminal. -/
def fresh : Pty where
  block := freshBlock

/-- The number of bits by which the code of the input speed is shifted. -/
def inputSpeedShift : UInt32 := 16

/-- The rate that the kernel works out for a speed code: the number that stands in the block
for `BOTHER`, and zero for a code that it does not know. -/
def rateOf (code : Flags) (number : UInt32) : UInt32 :=
  if code = Flags.BOTHER then number else (Linux.codeRate? code).getD 0

/-- The output speed that the kernel works out for a block. -/
def outputSpeed (b : ControlBlock) : UInt32 :=
  rateOf (b.controlFlags &&& Flags.CBAUD) b.outputSpeed

/-- The input speed that the kernel works out for a block: without a code of its own it is the
output speed. -/
def inputSpeed (b : ControlBlock) : UInt32 :=
  let code := (b.controlFlags >>> inputSpeedShift) &&& Flags.CBAUD
  if code = 0 then outputSpeed b else rateOf code b.inputSpeed

/-- The block that the terminal keeps when it is given one. -/
def kept (b : ControlBlock) : ControlBlock :=
  { b.editControl (Flags.CSIZE ||| Flags.PARENB) (Flags.CS8 ||| Flags.CREAD) with
    inputSpeed := inputSpeed b, outputSpeed := outputSpeed b }

/-- Stores a control block. -/
def setBlock (b : ControlBlock) (t : Pty) : Pty := { t with block := kept b }

/-- What becomes of one byte from the far end. Software flow control takes its two characters
out of the stream, and where bad bytes are marked a byte of all ones is doubled. -/
def incoming (b : ControlBlock) (byte : UInt8) : Bytes :=
  if b.inputFlags.meets Flags.IXON && (byte == b.char .vstart || byte == b.char .vstop) then []
  else if b.inputFlags.meets Flags.PARMRK && byte == 0xFF then [byte, byte]
  else [byte]

/-- The far end writes. -/
def receive (bytes : Bytes) (t : Pty) : Pty :=
  { t with input := t.input ++ bytes.flatMap (incoming t.block) }

/-- Discards the selected queues. -/
def flush (queue : QueueSelector) (t : Pty) : Pty :=
  if queue = .output then t else { t with input := [] }

end Pty

end SerialLine
