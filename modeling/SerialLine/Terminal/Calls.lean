import SerialLine.Terminal.Codec
import SerialLine.Transfer.Basic

/-!
# SerialLine.Terminal.Calls — everything that is asked of a terminal

The calls on an open descriptor, over any state of the system, and the operations that are made
of a short fixed sequence of them. Each call can fail on its own, and the operations pass the
first failure on.
-/

namespace SerialLine

/-- The word of modem lines. -/
abbrev ModemWord := UInt32

namespace ModemWord

def DTR : ModemWord := 0x2
def RTS : ModemWord := 0x4
def CTS : ModemWord := 0x20
def CD : ModemWord := 0x40
def RI : ModemWord := 0x80
def DSR : ModemWord := 0x100

/-- Which lines a word asserts. -/
def lines (w : ModemWord) : LineStatus where
  cts := Flags.meets w CTS
  dsr := Flags.meets w DSR
  carrierDetect := Flags.meets w CD
  ring := Flags.meets w RI
  rts := Flags.meets w RTS
  dtr := Flags.meets w DTR

/-- The bit of a line that the host drives. -/
def bit : ModemLine → ModemWord
  | .rts => RTS
  | .dtr => DTR

/-- The word with one line asserted or not. -/
def drive (w : ModemWord) (line : ModemLine) (asserted : Bool) : ModemWord :=
  if asserted then w ||| bit line else Flags.without w (bit line)

end ModemWord

/-- The calls on a terminal. -/
structure TerminalCalls (σ : Type) extends BlockCalls σ where
  /-- Makes the descriptor return at once where it would block. -/
  setNonBlocking : Fd → Call σ Unit
  /-- Claims the terminal for this owner. -/
  claim : Fd → Call σ Unit
  /-- Gives the claim back. -/
  release : Fd → Call σ Unit
  modemBits : Fd → Call σ ModemWord
  setModemBits : Fd → ModemWord → Call σ Unit
  /-- The length of the input queue, which may come out negative. -/
  inputQueue : Fd → Call σ Int
  /-- The length of the output queue, which may come out negative. -/
  outputQueue : Fd → Call σ Int
  startBreak : Fd → Call σ Unit
  endBreak : Fd → Call σ Unit
  interruptCounts : Fd → Call σ InterruptCounts
  close : Fd → Call σ Unit
  /-- The descriptor as a device that moves bytes. -/
  device : Fd → Device σ

/-- The failure to count interrupts on a platform that does not. -/
def noInterruptCounts : Error := .unsupported "interrupt counters"

namespace TerminalCalls

variable {σ : Type} (calls : TerminalCalls σ)

/-- Waits until everything written has left. -/
def drain (fd : Fd) : Call σ Unit := fun s => (calls.device fd).drain s

/-- Which modem lines are asserted. -/
def lineStatus (fd : Fd) : Call σ LineStatus := do
  return (← calls.modemBits fd).lines

/-- Drives one modem line: the word is fetched, changed and stored. -/
def setModemLine (fd : Fd) (line : ModemLine) (asserted : Bool) : Call σ Unit := do
  let bits ← calls.modemBits fd
  calls.setModemBits fd (bits.drive line asserted)

/-- How many bytes wait in both queues. -/
def byteCounts (fd : Fd) : Call σ ByteCounts := do
  let input ← calls.inputQueue fd
  let output ← calls.outputQueue fd
  return { input := input.toNat, output := output.toNat }

/-- Holds the line in the break condition and lets it go again. -/
def sendBreak (fd : Fd) : Call σ Unit := do
  calls.startBreak fd
  calls.endBreak fd

end TerminalCalls

end SerialLine
