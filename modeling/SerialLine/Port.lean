import SerialLine.Terminal.Calls
import SerialLine.Terminal.Linux

/-!
# SerialLine.Port — an open serial port

A port is a descriptor that was brought into raw mode with a configuration applied. Its
operations are stated over the calls of any system. Reconfiguration holds the port's gate alone,
reads hold it together with other reads.
-/

namespace SerialLine

/-- A lock that many may hold together or one alone. -/
structure Gate where
  readers : Nat := 0
  writer : Bool := false
deriving DecidableEq, Repr

namespace Gate

/-- Whether one more reader may hold the gate. -/
def admitsReader (g : Gate) : Bool := !g.writer

/-- Whether a writer may hold the gate. -/
def admitsWriter (g : Gate) : Bool := !g.writer && g.readers == 0

end Gate

/-- How to open a port. -/
structure OpenOptions where
  read : Bool := true
  write : Bool := true
  /-- Whether to claim the terminal for this owner. -/
  exclusive : Bool := true
  /-- The configuration applied right after the switch to raw mode. -/
  config : Configuration := {}

/-- Options are alike when their configurations agree and they are equal elsewhere. -/
def OpenOptions.agrees (a b : OpenOptions) : Bool :=
  a.read == b.read && a.write == b.write && a.exclusive == b.exclusive && a.config.agrees b.config

/-- An open port. -/
structure Port where
  fd : Fd
  /-- The path that was opened, or a label. -/
  path : String
  exclusive : Bool

namespace Port

variable {σ : Type} (d : Driver) (calls : TerminalCalls σ)

/-- Brings a descriptor into raw mode with a configuration applied, and discards what was
queued before. -/
def init (fd : Fd) (path : String) (options : OpenOptions) : Call σ Port := do
  if options.exclusive then calls.claim fd
  let b ← calls.getBlock fd
  let b ← liftM ((encode d options.config).on (makeRaw d b))
  calls.setBlock fd b
  calls.commitBaud fd options.config.baud
  calls.flush fd .both
  return { fd, path, exclusive := options.exclusive }

/-- Adopts a descriptor that is open already. -/
def adopt (fd : Fd) (label : String) (options : OpenOptions) : Call σ Port := do
  calls.setNonBlocking fd
  init d calls fd label options

/-- Waits for pending output, gives a claim back and closes. A failure to wait does not stop
the close. -/
def close (p : Port) : Call σ Unit := do
  tryCatch (calls.drain p.fd) fun _ => return ()
  if p.exclusive then calls.release p.fd
  calls.close p.fd

/-- Applies a full configuration. -/
def configure (p : Port) (c : Configuration) : Call σ Unit :=
  Terminal.apply d calls.toBlockCalls p.fd c

/-- The control block as the system has it now. -/
def snapshot (p : Port) : Call σ Snapshot := Terminal.read d calls.toBlockCalls p.fd

/-- The configuration in effect. -/
def configuration (p : Port) : Call σ Configuration := do
  let s ← snapshot d calls p
  liftM s.configuration

/-- The largest value of a control character. -/
def maxMinRead : Nat := 255

/-- Sets the least number of bytes that a read waits for. -/
def setMinReadLength (p : Port) (n : Nat) : Call σ Unit := do
  if n > maxMinRead then throw (.invalidSetting "min_read_length" s!"{n} exceeds 255")
  let b ← calls.getBlock p.fd
  calls.setBlock p.fd (b.setChar .vmin (UInt8.ofNat n))

/-- Drives the request-to-send line. -/
def setRts (p : Port) (asserted : Bool) : Call σ Unit := calls.setModemLine p.fd .rts asserted

/-- Drives the terminal-ready line. -/
def setDtr (p : Port) (asserted : Bool) : Call σ Unit := calls.setModemLine p.fd .dtr asserted

/-- Discards the selected queues; selecting neither does nothing. -/
def clearBuffers (p : Port) (input output : Bool) : Call σ Unit :=
  match QueueSelector.ofWishes? input output with
  | some queue => calls.flush p.fd queue
  | none => return ()

/-- Reads up to `max` pending bytes, with at most `bound` calls. -/
def readAvailable (p : Port) (bound max : Nat) (s : σ) : Option (Outcome Bytes) × σ :=
  Transfer.readAvailable (calls.device p.fd) bound max s

/-- Writes every byte and waits until all have left, with at most `bound` calls. -/
def writeAll (p : Port) (bound : Nat) (bytes : Bytes) (s : σ) : Option (Outcome Unit) × σ :=
  Transfer.writeAll (calls.device p.fd) bound bytes s

end Port

end SerialLine
