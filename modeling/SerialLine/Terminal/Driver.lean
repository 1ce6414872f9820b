import SerialLine.Settings.Lines
import SerialLine.Terminal.ControlBlock

/-!
# SerialLine.Terminal.Driver — what differs between platforms

A driver says how a platform writes speeds, stick parity and hardware flow control into a
control block, and which extra bits its raw mode needs. These parts only touch the block. The
calls on a descriptor are kept apart in `BlockCalls`, over any state of the system: each call
either succeeds or fails, and either way leaves a state behind.
-/

namespace SerialLine

/-- The family of operating systems that a driver is for. -/
inductive Family where
  | linux | bsd | solaris
deriving DecidableEq, Repr

/-- The name of a family. -/
def Family.label : Family → String
  | .linux => "Linux" | .bsd => "Bsd" | .solaris => "Solaris"

/-- The optional features of a driver. -/
structure Capabilities where
  /-- Rates outside the table can be programmed. -/
  customBaud : Bool := false
  /-- Mark and space parity. -/
  stickParity : Bool := false
  /-- A terminal can be claimed for one owner. -/
  exclusiveOpen : Bool := false
  /-- Interrupts are counted. -/
  interruptCounts : Bool := false
deriving DecidableEq, Repr

/-- An edit of a control block that may be refused; the changes made before the refusal
stay. -/
abbrev Edit := ExceptT Error (StateM ControlBlock)

/-- The parts of a driver that only touch the control block. -/
structure Driver where
  family : Family
  capabilities : Capabilities
  /-- Writes a speed into the block; a speed that the platform cannot express is refused. -/
  encodeBaud : Baud → Edit Unit
  /-- The output speed that stands in the block, if the platform recognizes it. -/
  decodeBaud : ControlBlock → Option Baud
  /-- The control bit that selects mark and space parity, if there is one. -/
  stickParity? : Option Flags
  /-- The control bits that together turn hardware flow control on. -/
  hardwareFlow : Flags := Flags.CRTSCTS
  /-- What raw mode needs beyond the bits that all platforms share. -/
  prepareRaw : ControlBlock → ControlBlock := id

/-- A descriptor, a number by which the system knows an open file. -/
abbrev Fd := Int

/-- A call on a system with state `σ`. A call that fails may still leave a changed state. -/
abbrev Call (σ α : Type) := ExceptT Error (StateM σ) α

/-- The calls by which the control block of a descriptor is fetched and stored. -/
structure BlockCalls (σ : Type) where
  getBlock : Fd → Call σ ControlBlock
  setBlock : Fd → ControlBlock → Call σ Unit
  /-- Runs after the block was stored, for platforms that program rates through a call of
  their own. -/
  commitBaud : Fd → Baud → Call σ Unit
  /-- Discards what is queued. -/
  flush : Fd → QueueSelector → Call σ Unit

end SerialLine
