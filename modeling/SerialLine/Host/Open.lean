import SerialLine.Host.Calls
import SerialLine.Port

/-!
# SerialLine.Host.Open — opening ports by path

Opening walks the file tree. A path with a zero byte, and options that ask for neither reading
nor writing, are refused without a call and so without a number.
-/

namespace SerialLine.Host

/-- The first descriptor that is handed out; the numbers below it are in use. -/
def firstFd : Fd := 3

/-- A descriptor that is not in use. -/
def freshFd (h : Host) : Fd := h.descriptors.foldl (fun n d => max n (d.1 + 1)) firstFd

/-- What opening an entry for reading or writing stands for. -/
def endpointOf (write : Bool) : Entry → Except Errno Endpoint
  | .terminal n => .ok (.terminal n)
  | .null => .ok .null
  | .file _ => .ok .file
  | .directory => if write then .error .EISDIR else .ok .file
  | .link _ => .error .ELOOP

/-- Opens the device at a path. -/
def openDevice (p : Path) (read write : Bool) : Call Host Fd := fun h =>
  let refuse (code? : Option Errno) : Outcome Fd × Host := (.error (.ofOs "open" code?), h)
  if p.bytes.contains 0 || (!read && !write) then refuse none
  else
    match (h.files.find h.cwd p).bind fun found => endpointOf write found.2 with
    | .error code => refuse (some code)
    | .ok endpoint =>
      let fd := h.freshFd
      (.ok fd, { h with descriptors := assign fd endpoint h.descriptors })

/-- Closes a descriptor when the operation that was to own it fails. -/
def closingOnError {α : Type} (fd : Fd) (act : Call Host α) : Call Host α := fun h =>
  match act.run.run h with
  | (.ok value, h) => (.ok value, h)
  | (.error e, h) => (.error e, h.close fd)

/-- Opens the port at a path. -/
def openPort (p : Path) (options : OpenOptions) : Call Host Port := do
  let fd ← openDevice p options.read options.write
  closingOnError fd (Port.init Linux.driver terminalCalls fd p.display options)

end SerialLine.Host
