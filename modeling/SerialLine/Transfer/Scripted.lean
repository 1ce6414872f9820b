import SerialLine.Transfer.Basic
import SerialLine.Settings.Lines

/-!
# SerialLine.Transfer.Scripted — a device that plays back scripts

Reads, writes, waits and samples of the modem lines are answered from scripts, so that
interruptions, partial transfers and failures come at exact points. Where a script has run out,
reads would block, writes take everything, waits succeed and the lines stay as they were.
-/

namespace SerialLine

/-- The scripted outcome of a read. -/
inductive ReadStep where
  /-- Hands these bytes over; what does not fit into the buffer stays in the script. -/
  | data (bytes : Bytes)
  | endOfStream
  | fault (f : CallFault)
deriving DecidableEq

/-- The scripted outcome of a write. -/
inductive WriteStep where
  /-- Takes at most this many bytes. -/
  | accept (limit : Nat)
  | fault (f : CallFault)
deriving DecidableEq

/-- A scripted device. -/
structure ScriptedDevice where
  reads : List ReadStep := []
  writes : List WriteStep := []
  /-- Outcomes of waits; `none` is a wait that the device answers itself. -/
  waits : List (Option CallFault) := []
  /-- Every byte taken so far. -/
  written : Bytes := []
  drainCalls : Nat := 0
  /-- The number of waits that the device answered itself. -/
  ownWaits : Nat := 0
  drainError? : Option Errno := none
  samples : List (Outcome LineStatus) := []
  lines : LineStatus := {}
  lineReads : Nat := 0

namespace ScriptedDevice

/-- Answers a read into a buffer of `room` bytes. -/
def read (room : Nat) (d : ScriptedDevice) : CallOutcome Bytes × ScriptedDevice :=
  match d.reads with
  | [] => (.error .wouldBlock, d)
  | .fault f :: rest => (.error f, { d with reads := rest })
  | .endOfStream :: rest => (.ok [], { d with reads := rest })
  | .data bytes :: rest =>
    (.ok (bytes.take room),
      { d with reads := if room < bytes.length then .data (bytes.drop room) :: rest else rest })

/-- Takes bytes. -/
def accept (bytes : Bytes) (rest : List WriteStep) (d : ScriptedDevice) :
    CallOutcome Nat × ScriptedDevice :=
  (.ok bytes.length, { d with writes := rest, written := d.written ++ bytes })

/-- Answers a write. -/
def write (bytes : Bytes) (d : ScriptedDevice) : CallOutcome Nat × ScriptedDevice :=
  match d.writes with
  | [] => d.accept bytes []
  | .accept limit :: rest => d.accept (bytes.take limit) rest
  | .fault f :: rest => (.error f, { d with writes := rest })

/-- Answers a wait for everything to leave; a failure to order happens once. -/
def drain (d : ScriptedDevice) : Outcome Unit × ScriptedDevice :=
  let counted := { d with drainCalls := d.drainCalls + 1, drainError? := none }
  match d.drainError? with
  | some code => (.error (.osCall "tcdrain" code), counted)
  | none => (.ok (), counted)

/-- Answers a wait for room. -/
def waitWritable (d : ScriptedDevice) : CallOutcome Unit × ScriptedDevice :=
  match d.waits with
  | some f :: rest => (.error f, { d with waits := rest })
  | none :: rest => (.ok (), { d with waits := rest, ownWaits := d.ownWaits + 1 })
  | [] => (.ok (), { d with ownWaits := d.ownWaits + 1 })

/-- Samples the modem lines; the last good sample repeats. -/
def sampleLines (d : ScriptedDevice) : Outcome LineStatus × ScriptedDevice :=
  let d := { d with lineReads := d.lineReads + 1 }
  match d.samples with
  | [] => (.ok d.lines, d)
  | .ok lines :: rest => (.ok lines, { d with samples := rest, lines })
  | .error e :: rest => (.error e, { d with samples := rest })

/-- The primitive calls of a scripted device. -/
def device : Device ScriptedDevice where
  read := read
  write := write
  drain := drain
  waitWritable := waitWritable

/-- The calls that a read needs at most: each takes a step off the script, but for the last. -/
def readBound (d : ScriptedDevice) : Nat := d.reads.length + 1

/-- The calls that a write needs at most: each write takes a step off the script but for the
last, each wait follows one of those, and one call drains. -/
def writeBound (d : ScriptedDevice) : Nat := 2 * d.writes.length + 2

/-- Reads whatever is pending, up to `max` bytes. -/
def readAvailable (max : Nat) (d : ScriptedDevice) : Option (Outcome Bytes) × ScriptedDevice :=
  Transfer.readAvailable device d.readBound max d

/-- Makes a single read of up to `max` bytes. -/
def readOnce (max : Nat) (d : ScriptedDevice) : Option (Outcome Bytes) × ScriptedDevice :=
  Transfer.readOnce device d.readBound max d

/-- Writes every byte, then waits until all have left. -/
def writeAll (bytes : Bytes) (d : ScriptedDevice) : Option (Outcome Unit) × ScriptedDevice :=
  Transfer.writeAll device d.writeBound bytes d

end ScriptedDevice

end SerialLine
