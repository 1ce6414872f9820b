import SerialLine.Transfer.Fault
import SerialLine.Text.Bytes

/-!
# SerialLine.Transfer.Basic — moving bytes through a device

A device offers four primitive calls, each of which may be interrupted or done in part. Three
operations are built on them. `readAvailable` gathers what is pending, `readOnce` makes a single
read, and `writeAll` writes every byte and waits until all have left the device.

Each operation is a small machine: what it is about to do, and how the outcome of that call
moves it on (`Gathering.next`, `Sending.afterWrite`, …). Running it against a device takes a
bound on the number of calls, since a device may interrupt for ever; `none` says that the bound
was reached before the operation returned.
-/

namespace SerialLine

/-- The outcome of a primitive call. -/
abbrev CallOutcome (α : Type) := Except CallFault α

/-- The primitive calls on a device with state `σ`. -/
structure Device (σ : Type) where
  /-- Reads at most this many bytes. -/
  read : Nat → σ → CallOutcome Bytes × σ
  /-- Offers bytes and tells how many were taken. -/
  write : Bytes → σ → CallOutcome Nat × σ
  /-- Waits until everything written has left. -/
  drain : σ → Outcome Unit × σ
  /-- Waits until more bytes can be taken. -/
  waitWritable : σ → CallOutcome Unit × σ

/-- The largest number of bytes that one read operation hands back. -/
def readLimit : Nat := 3 * 1024

/-- What the outcome of a call leads to: going on, or the end of the operation. -/
inductive Turn (α β : Type) where
  | next (state : α)
  | done (result : β)

namespace Transfer

variable {σ : Type}

/-! ## Reading -/

/-- Reading what is pending: the bytes got so far and the room that is left. -/
structure Gathering where
  got : Bytes
  room : Nat

/-- How the outcome of a read moves the gathering on. No bytes and would-block end it, an
interruption does not. A failure after some bytes hands those bytes back. -/
def Gathering.next (g : Gathering) : CallOutcome Bytes → Turn Gathering (Outcome Bytes)
  | .ok [] => .done (.ok g.got)
  | .ok bytes => .next ⟨g.got ++ bytes, g.room - bytes.length⟩
  | .error f =>
    if f.isInterruption then .next g
    else if f.isWouldBlock || !g.got.isEmpty then .done (.ok g.got)
    else .done (.error (f.toError "read"))

/-- Gathers with at most `calls` reads. -/
def gather (dev : Device σ) (calls : Nat) (g : Gathering) (s : σ) :
    Option (Outcome Bytes) × σ :=
  if g.room = 0 then (some (.ok g.got), s)
  else
    match calls with
    | 0 => (none, s)
    | calls + 1 =>
      let (outcome, s) := dev.read g.room s
      match g.next outcome with
      | .next g => gather dev calls g s
      | .done result => (some result, s)

/-- Reads whatever is pending, up to `max` bytes and the limit. -/
def readAvailable (dev : Device σ) (calls max : Nat) (s : σ) : Option (Outcome Bytes) × σ :=
  gather dev calls ⟨[], min max readLimit⟩ s

/-- How the outcome of a single read ends the operation; only an interruption asks for
another. -/
def afterSingle : CallOutcome Bytes → Turn Unit (Outcome Bytes)
  | .ok bytes => .done (.ok bytes)
  | .error f =>
    if f.isInterruption then .next ()
    else if f.isWouldBlock then .done (.ok [])
    else .done (.error (f.toError "read"))

/-- Makes a single read of up to `max` bytes and the limit. -/
def readOnce (dev : Device σ) : (calls : Nat) → (max : Nat) → σ → Option (Outcome Bytes) × σ
  | 0, _, s => (none, s)
  | calls + 1, max, s =>
    let (outcome, s) := dev.read (min max readLimit) s
    match afterSingle outcome with
    | .next () => readOnce dev calls max s
    | .done result => (some result, s)

/-! ## Writing -/

/-- Writing all of some bytes: what is to be done next. -/
inductive Sending where
  /-- Offer the bytes that are left. -/
  | writing (rest : Bytes)
  /-- Wait until the device takes more. -/
  | waiting (rest : Bytes)
  /-- Wait until everything has left. -/
  | draining

/-- What is to be done while these bytes are left. -/
def Sending.ofRest : Bytes → Sending
  | [] => .draining
  | rest => .writing rest

/-- How the outcome of a write moves the sending on. -/
def Sending.afterWrite (rest : Bytes) : CallOutcome Nat → Turn Sending (Outcome Unit)
  | .ok 0 => .next (.waiting rest)
  | .ok n => .next (.ofRest (rest.drop n))
  | .error f =>
    if f.isInterruption then .next (.writing rest)
    else if f.isWouldBlock then .next (.waiting rest)
    else .done (.error (f.toError "write"))

/-- How the outcome of a wait moves the sending on. -/
def Sending.afterWait (rest : Bytes) : CallOutcome Unit → Turn Sending (Outcome Unit)
  | .ok () => .next (.writing rest)
  | .error f => .done (.error (f.toError "poll"))

/-- The next call of a sending, and what it leads to. -/
def Sending.turn (dev : Device σ) (sending : Sending) (s : σ) :
    Turn Sending (Outcome Unit) × σ :=
  match sending with
  | .writing rest =>
    let (outcome, s) := dev.write rest s
    (Sending.afterWrite rest outcome, s)
  | .waiting rest =>
    let (outcome, s) := dev.waitWritable s
    (Sending.afterWait rest outcome, s)
  | .draining =>
    let (outcome, s) := dev.drain s
    (.done outcome, s)

/-- Sends with at most `calls` calls. -/
def send (dev : Device σ) : (calls : Nat) → Sending → σ → Option (Outcome Unit) × σ
  | 0, _, s => (none, s)
  | calls + 1, sending, s =>
    match sending.turn dev s with
    | (.next sending, s) => send dev calls sending s
    | (.done result, s) => (some result, s)

/-- Writes every byte, then waits until all have left. -/
def writeAll (dev : Device σ) (calls : Nat) (bytes : Bytes) (s : σ) :
    Option (Outcome Unit) × σ :=
  send dev calls (.ofRest bytes) s

end Transfer

end SerialLine
