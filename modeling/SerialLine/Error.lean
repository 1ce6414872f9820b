import SerialLine.Text.Structural
import SerialLine.Errno

/-!
# SerialLine.Error — why an operation on a port failed

Failures of system calls carry the number that the operating system gave and the name of the
call. Failures of capacity and of lifecycle are found before any call is made.
-/

namespace SerialLine

/-- Why an operation failed. -/
inductive Error where
  /-- A system call failed; a failure without a number has code `-1`. -/
  | osCall (operation : String) (code : Errno)
  /-- The platform has no equivalent of what was asked for. -/
  | unsupported (operation : String)
  /-- A bounded table is full. -/
  | capacityExceeded (capacity : Nat)
  /-- The key has a listener or a watcher already. -/
  | alreadyRegistered (key : String)
  /-- The key has no listener or watcher. -/
  | notRegistered (key : String)
  /-- A background thread could not be spawned, started, stopped or joined. -/
  | lifecycle (operation : String)
  /-- Parity errors are to be reported on a line without parity. -/
  | parityNotEnabled
  /-- A setting lies outside its domain. -/
  | invalidSetting (field reason : String)
deriving DecidableEq, Repr

namespace Error

/-- What the failure is called. -/
def label : Error → String
  | osCall .. => "OsCallFailed"
  | unsupported _ => "UnsupportedOnPlatform"
  | capacityExceeded _ => "CapacityExceeded"
  | alreadyRegistered _ => "AlreadyRegistered"
  | notRegistered _ => "NotRegistered"
  | lifecycle _ => "ThreadLifecycleFailed"
  | parityNotEnabled => "ParityNotEnabled"
  | invalidSetting .. => "InvalidConfiguration"

/-- The failure in words. -/
def message : Error → String
  | osCall operation code => s!"{operation} failed with OS error {code}"
  | unsupported operation => s!"{operation} is not supported on this platform"
  | capacityExceeded capacity => s!"capacity of {capacity} entries exceeded"
  | alreadyRegistered key => s!"a listener is already registered for {key}"
  | notRegistered key => s!"no listener registered for {key}"
  | lifecycle operation => s!"thread lifecycle operation '{operation}' failed"
  | parityNotEnabled => "parity error reporting requires parity to be enabled"
  | invalidSetting field reason => s!"invalid value for '{field}': {reason}"

/-- The number the operating system gave, if a system call failed. -/
def osCode? : Error → Option Errno
  | osCall _ code => some code
  | _ => none

/-- The failure with its parts, as a structured value. -/
def structural (e : Error) : String :=
  Text.record e.label <| match e with
    | osCall operation code => [("operation", Text.quoted operation), ("code", toString code)]
    | unsupported operation => [("operation", Text.quoted operation)]
    | capacityExceeded capacity => [("capacity", toString capacity)]
    | alreadyRegistered key => [("key", Text.quoted key)]
    | notRegistered key => [("key", Text.quoted key)]
    | lifecycle operation => [("operation", Text.quoted operation)]
    | parityNotEnabled => []
    | invalidSetting field reason =>
      [("field", Text.quoted field), ("reason", Text.quoted reason)]

/-- The code recorded for a failure that has no number. -/
def unnumbered : Errno := -1

/-- A failure of `operation` with the number `code?`, if it has one. -/
def ofOs (operation : String) (code? : Option Errno) : Error :=
  .osCall operation (code?.getD unnumbered)

end Error

/-- The result of an operation on a port. -/
abbrev Outcome (α : Type) := Except Error α

end SerialLine
