import SerialLine.Error

/-!
# SerialLine.Transfer.Fault — failures of a single read or write

A primitive call fails with a number from the operating system, or with a kind alone. The loops
that move bytes tell two kinds apart from real failures: an interruption and would-block.
-/

namespace SerialLine

namespace Errno

/-- The kinds that the numbers fall into, with their names. -/
def kinds : List (Errno × String) :=
  [(1, "PermissionDenied"), (2, "NotFound"), (4, "Interrupted"), (5, "InputOutputError"),
   (7, "ArgumentListTooLong"), (11, "WouldBlock"), (12, "OutOfMemory"),
   (13, "PermissionDenied"), (16, "ResourceBusy"), (17, "AlreadyExists"),
   (18, "CrossesDevices"), (20, "NotADirectory"), (21, "IsADirectory"), (22, "InvalidInput"),
   (26, "ExecutableFileBusy"), (27, "FileTooLarge"), (28, "StorageFull"), (29, "NotSeekable"),
   (30, "ReadOnlyFilesystem"), (31, "TooManyLinks"), (32, "BrokenPipe"), (35, "Deadlock"),
   (36, "InvalidFilename"), (38, "Unsupported"), (39, "DirectoryNotEmpty"),
   (40, "FilesystemLoop"), (95, "Unsupported"), (98, "AddrInUse"), (99, "AddrNotAvailable"),
   (100, "NetworkDown"), (101, "NetworkUnreachable"), (103, "ConnectionAborted"),
   (104, "ConnectionReset"), (107, "NotConnected"), (110, "TimedOut"),
   (111, "ConnectionRefused"), (113, "HostUnreachable"), (115, "InProgress"),
   (116, "StaleNetworkFileHandle"), (122, "QuotaExceeded")]

/-- The name of the kind that a number falls into. -/
def kindName (code : Errno) : String := (kinds.lookup code).getD "Uncategorized"

end Errno

/-- Why a primitive call failed. -/
inductive CallFault where
  /-- With a number from the operating system. -/
  | errno (code : Errno)
  /-- As interrupted, without a number. -/
  | interrupted
  /-- As would-block, without a number. -/
  | wouldBlock
  /-- For another reason without a number. -/
  | unnumbered
deriving DecidableEq, Repr

namespace CallFault

/-- Whether the call was interrupted and asks to be made again. -/
def isInterruption : CallFault → Bool
  | errno code => code == Errno.EINTR
  | interrupted => true
  | _ => false

/-- Whether nothing can be done at this moment. -/
def isWouldBlock : CallFault → Bool
  | errno code => code == Errno.EAGAIN
  | wouldBlock => true
  | _ => false

/-- The number of the failure, if it has one. -/
def code? : CallFault → Option Errno
  | errno code => some code
  | _ => none

/-- The name of the kind of failure. -/
def kindName : CallFault → String
  | errno code => code.kindName
  | interrupted => "Interrupted"
  | wouldBlock => "WouldBlock"
  | unnumbered => "Other"

/-- The failure of the operation that made the call. -/
def toError (operation : String) (f : CallFault) : Error := .ofOs operation f.code?

end CallFault

end SerialLine
