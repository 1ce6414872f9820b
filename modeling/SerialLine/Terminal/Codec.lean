import SerialLine.Terminal.Driver

/-!
# SerialLine.Terminal.Codec — configurations in control blocks

`makeRaw` switches a block to raw mode, `encode` writes a configuration into a block and
`decode` reads one back. `apply` and `read` do the same to the terminal behind a descriptor.
A change always starts from the block that the system returned.
-/

namespace SerialLine

open Flags

/-! ## Raw mode -/

/-- A block in raw mode: no echo, no lines, no signals, output as it is, eight data bits, the
receiver on, modem lines ignored, hang-up on the last close, and reads that return after one
byte. -/
def makeRaw (d : Driver) (b : ControlBlock) : ControlBlock :=
  let b := b.editControl rawControlOff rawControlOn
  let b := b.editInput rawInputOff IGNBRK
  let b := b.editOutput rawOutputOff
  let b := b.editLocal rawLocalOff
  d.prepareRaw ((b.setChar .vmin 1).setChar .vtime 0)

/-! ## Encoding -/

/-- The field of the control word for a number of data bits. -/
def DataBits.flags : DataBits → Flags
  | .five => CS5 | .six => CS6 | .seven => CS7 | .eight => CS8

/-- The control bit for more than one stop bit. -/
def StopBits.flags : StopBits → Flags
  | .one => 0
  | .onePointFive | .two => CSTOPB

/-- The control bits of a parity; mark and space parity need a stick bit. -/
def Parity.flags (stick? : Option Flags) : Parity → Outcome Flags
  | .none => .ok 0
  | .odd => .ok (PARENB ||| PARODD)
  | .even => .ok PARENB
  | .mark => match stick? with
    | some stick => .ok (PARENB ||| PARODD ||| stick)
    | Option.none => .error (.unsupported "mark parity")
  | .space => match stick? with
    | some stick => .ok (PARENB ||| stick)
    | Option.none => .error (.unsupported "space parity")

/-- The input bits for parity errors: bad bytes are either marked in the stream or dropped,
never both. -/
def Configuration.parityInput (c : Configuration) : Flags :=
  if c.parity.enabled then INPCK ||| (if c.reportParityErrors then PARMRK else IGNPAR) else 0

/-- Writes how characters are framed, but for their parity. -/
def writeFraming (stick? : Option Flags) (c : Configuration) (b : ControlBlock) :
    ControlBlock :=
  (b.editControl (framing ||| stick?.getD 0) (c.dataBits.flags ||| c.stopBits.flags)).editInput
    Flags.parityInput 0

/-- Writes the rest of a configuration: parity with its errors, overrun, the one flow control
that is on, and the control characters. -/
def writeChecks (hardware parity : Flags) (c : Configuration) (b : ControlBlock) :
    ControlBlock :=
  let b := (b.editControl 0 parity).editInput 0 c.parityInput
  let b := b.editInput IMAXBEL (if c.reportBufferOverrun then IMAXBEL else 0)
  let b := b.editControl hardware (if c.flowControl = .hardware then hardware else 0)
  let b := b.editInput (softwareFlow ||| IXANY)
    (if c.flowControl = .software then softwareFlow else 0)
  (((b.setChar .vstart c.xonChar).setChar .vstop c.xoffChar).setChar .vmin c.minReadLength)
    |>.setChar .vtime 0

/-- Writes a configuration into the block. -/
def encode (d : Driver) (c : Configuration) : Edit Unit := do
  liftM c.validate
  d.encodeBaud c.baud
  modify (writeFraming d.stickParity? c)
  let parity ← liftM (c.parity.flags d.stickParity?)
  modify (writeChecks d.hardwareFlow parity c)

/-! ## Decoding -/

/-- The data bits of a control word. -/
def DataBits.ofFlags (control : Flags) : DataBits :=
  let size := control &&& CSIZE
  if size = CS5 then .five else if size = CS6 then .six else if size = CS7 then .seven
  else .eight

/-- The stop bits of a control word. -/
def StopBits.ofFlags (control : Flags) : StopBits :=
  if control.meets CSTOPB then .two else .one

/-- The parity of a control word. -/
def Parity.ofFlags (stick? : Option Flags) (control : Flags) : Parity :=
  if !control.meets PARENB then .none
  else
    match (stick?.map control.meets).getD false, control.meets PARODD with
    | true, true => .mark
    | true, false => .space
    | false, true => .odd
    | false, false => .even

/-- The flow control of an input and a control word. -/
def FlowControl.ofFlags (input control : Flags) : FlowControl :=
  if control.meets CRTSCTS then .hardware
  else if input.meets softwareFlow then .software
  else .none

/-- The configuration that stands in a block, given its speed. -/
def decodeFields (stick? : Option Flags) (baud : Baud) (b : ControlBlock) : Configuration where
  baud
  dataBits := .ofFlags b.controlFlags
  stopBits := .ofFlags b.controlFlags
  parity := .ofFlags stick? b.controlFlags
  flowControl := .ofFlags b.inputFlags b.controlFlags
  xonChar := b.char .vstart
  xoffChar := b.char .vstop
  reportParityErrors := b.inputFlags.meets PARMRK
  reportBufferOverrun := b.inputFlags.meets IMAXBEL
  minReadLength := b.char .vmin

/-- The failure to recognize the speed that stands in a block. -/
def unknownSpeed : Error := .unsupported "decoding the current baud rate"

/-- Reads a configuration out of a block. -/
def decode (d : Driver) (b : ControlBlock) : Outcome Configuration :=
  match d.decodeBaud b with
  | some baud => .ok (decodeFields d.stickParity? baud b)
  | none => .error unknownSpeed

/-! ## Terminals -/

/-- The control block of a terminal as it was fetched, with its speed. -/
structure Snapshot where
  block : ControlBlock
  /-- The output speed, if the driver recognized it. -/
  baud? : Option Baud
  stickParity? : Option Flags

/-- The configuration that a snapshot shows. -/
def Snapshot.configuration (s : Snapshot) : Outcome Configuration :=
  match s.baud? with
  | some baud => .ok (decodeFields s.stickParity? baud s.block)
  | none => .error unknownSpeed

/-- The snapshot of a block. -/
def Driver.snapshot (d : Driver) (b : ControlBlock) : Snapshot where
  block := b
  baud? := d.decodeBaud b
  stickParity? := d.stickParity?

/-- Applies an edit to a copy of a block. -/
def Edit.on (e : Edit Unit) (b : ControlBlock) : Outcome ControlBlock :=
  match e.run.run b with
  | (.ok (), b) => .ok b
  | (.error err, _) => .error err

namespace Terminal

variable {σ : Type}

/-- Configures the terminal behind a descriptor, then discards what was queued under the
settings before. Nothing is called for an invalid configuration. -/
def apply (d : Driver) (calls : BlockCalls σ) (fd : Fd) (c : Configuration) : Call σ Unit := do
  liftM c.validate
  let b ← calls.getBlock fd
  let b ← liftM ((encode d c).on b)
  calls.setBlock fd b
  calls.commitBaud fd c.baud
  calls.flush fd .both

/-- Fetches the control block of the terminal behind a descriptor. -/
def read (d : Driver) (calls : BlockCalls σ) (fd : Fd) : Call σ Snapshot := do
  return d.snapshot (← calls.getBlock fd)

end Terminal

end SerialLine
