import SerialLine.Terminal.Codec

/-!
# SerialLine.Terminal.Scripted — a driver and a terminal to order

A driver whose platform is described by a few values, and a terminal that keeps one control
block for every descriptor, logs the calls made on it, and fails the calls that it is told to
fail. A call that fails is logged and changes nothing.
-/

namespace SerialLine.Scripted

/-- A platform described by a few values. -/
structure Platform where
  /-- The control bit for stick parity. -/
  stickParity? : Option Flags := none
  hardwareFlow : Flags := Flags.CRTSCTS
  /-- The rates that can be programmed; any rate if there is no list. -/
  rates? : Option (List UInt32) := none
  /-- The output bits that raw mode clears beyond the shared ones. -/
  rawClear : Flags := 0

/-- Whether a platform can program a rate. -/
def Platform.programs (p : Platform) (rate : UInt32) : Bool :=
  match p.rates? with
  | none => true
  | some rates => rates.contains rate

/-- The driver of a described platform. It keeps speeds in the numeric fields alone. -/
def Platform.driver (p : Platform) : Driver where
  family := .bsd
  capabilities := { customBaud := p.rates?.isNone, stickParity := p.stickParity?.isSome }
  encodeBaud baud :=
    if p.programs baud.rate then
      modify fun b => { b with inputSpeed := baud.rate, outputSpeed := baud.rate }
    else throw (.unsupported "custom baud rate")
  decodeBaud b := if p.programs b.outputSpeed then some (.ofRate b.outputSpeed) else none
  stickParity? := p.stickParity?
  hardwareFlow := p.hardwareFlow
  prepareRaw b := b.editOutput p.rawClear

/-- A call on the terminal. -/
inductive Request where
  | get (fd : Fd)
  | set (fd : Fd) (block : ControlBlock)
  | commit (fd : Fd) (baud : Baud)
  | flush (fd : Fd) (queue : QueueSelector)

/-- The name of a call. -/
def Request.name : Request → String
  | .get _ => "get"
  | .set .. => "set"
  | .commit .. => "commit"
  | .flush .. => "flush"

/-- A terminal with one control block. -/
structure Terminal where
  block : ControlBlock
  /-- The calls that fail, with the number that they fail with. -/
  failing : List (String × Errno) := []
  /-- The calls made so far, first call first. -/
  log : List Request := []

/-- Logs a call, and fails it if it is one that fails. -/
def Terminal.request (r : Request) : Call Terminal Unit := do
  modify fun t => { t with log := t.log ++ [r] }
  match (← get).failing.lookup r.name with
  | some code => throw (.osCall r.name code)
  | none => return ()

/-- The calls on the terminal. -/
def Terminal.calls : BlockCalls Terminal where
  getBlock fd := do
    Terminal.request (.get fd)
    return (← get).block
  setBlock fd block := do
    Terminal.request (.set fd block)
    modify fun t => { t with block }
  commitBaud fd baud := Terminal.request (.commit fd baud)
  flush fd queue := Terminal.request (.flush fd queue)

end SerialLine.Scripted
