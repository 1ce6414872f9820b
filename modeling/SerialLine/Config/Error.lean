import SerialLine.Host.Path
import SerialLine.Errno
import SerialLine.Text.Structural

/-!
# SerialLine.Config.Error — why a configuration was refused

A configuration can fail to be read, understood, accepted or written. What a fault of a file
says is the operating system's text, except for faults that never reach the system.
-/

namespace SerialLine

/-- What went wrong with a file. -/
inductive FileFault where
  | system (code : Errno)
  /-- The contents are not UTF-8. -/
  | notText
  /-- The path holds a zero byte. -/
  | zeroInPath
  /-- Anything else, by its text. -/
  | other (text : String)
deriving DecidableEq, Repr

/-- What a fault says. -/
def FileFault.message : FileFault → String
  | .system code => code.message
  | .notText => "stream did not contain valid UTF-8"
  | .zeroInPath => "file name contained an unexpected NUL byte"
  | .other text => text

/-- Why a configuration was refused. -/
inductive ConfigError where
  /-- The file could not be read. -/
  | unreadable (path : Path) (fault : FileFault)
  /-- The file is not a document with the keys of a configuration. -/
  | malformed
  /-- Some value cannot be written. -/
  | unencodable
  /-- The file could not be written. -/
  | unwritable (path : Path) (fault : FileFault)
  /-- A value is out of range; the key is its dotted path. -/
  | invalid (key message : String)
  /-- A variable of the environment that should replace a value cannot be read as one. -/
  | badOverride (name message : String)
  /-- There is no file to do this with. -/
  | noPath (action : String)
deriving DecidableEq

namespace ConfigError

/-- The name of the kind of error. -/
def label : ConfigError → String
  | unreadable .. => "Read"
  | malformed => "Parse"
  | unencodable => "Serialize"
  | unwritable .. => "Write"
  | invalid .. => "Invalid"
  | badOverride .. => "Env"
  | noPath .. => "NoPath"

/-- What the error says; the errors of the document format have a text of their own. -/
def message? : ConfigError → Option String
  | unreadable path fault => some s!"cannot read config {path.display}: {fault.message}"
  | malformed => none
  | unencodable => none
  | unwritable path fault => some s!"cannot write config {path.display}: {fault.message}"
  | invalid key message => some s!"{key}: {message}"
  | badOverride name message => some s!"{name}: {message}"
  | noPath action => some s!"no config file path to {action}"

/-- The file that an error is about. -/
def path? : ConfigError → Option Path
  | unreadable path _ | unwritable path _ => some path
  | _ => none

/-- The error with its parts, as a structured value. Errors with a cause show their name alone. -/
def structural (e : ConfigError) : String :=
  match e with
  | invalid key message =>
    Text.record e.label [("key", Text.quoted key), ("message", Text.quoted message)]
  | badOverride name message =>
    Text.record e.label [("var", Text.quoted name), ("message", Text.quoted message)]
  | noPath action => Text.wrapped e.label (Text.quoted action)
  | unreadable .. | malformed | unencodable | unwritable .. => e.label

/-- Whether the error was caused by another one. -/
def hasCause : ConfigError → Bool
  | unreadable .. | malformed | unencodable | unwritable .. => true
  | _ => false

end ConfigError

end SerialLine
