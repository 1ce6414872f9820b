import SerialLine.Settings.Configuration

/-!
# SerialLine.Config.Basic — the configuration of the library

Five sections with a default for every key: limits of the listener registry, how listeners work,
how the presence monitor works, how ports are opened, and logging. `Config.validate` refuses
what no component can run with and names the first such key.
-/

namespace SerialLine

/-- The capacity of a registry or a monitor when none is given. -/
def defaultCapacity : UInt64 := 1024

/-- How log lines are written. -/
inductive LogFormat where
  | json | pretty | compact
deriving DecidableEq, Repr

namespace LogFormat

/-- All formats. -/
def all : List LogFormat := [json, pretty, compact]

/-- The word for a format. -/
def word : LogFormat → String
  | json => "json" | pretty => "pretty" | compact => "compact"

/-- The refusal of a word that names no format. -/
def unknown (lowered : String) : String := s!"unknown log format '{lowered}'"

/-- The format that a text names; the case of ASCII letters does not matter. -/
def ofText (text : String) : Except String LogFormat :=
  let lowered := String.ofList (text.toList.map Char.toLower)
  match all.find? (·.word == lowered) with
  | some f => .ok f
  | none => .error (unknown lowered)

end LogFormat

/-- Limits of the listener registry. -/
structure RegistryConfig where
  /-- The largest number of descriptors with listeners at one time. -/
  capacity : UInt64 := defaultCapacity
deriving DecidableEq, Repr

/-- How listeners work. -/
structure ListenerConfig where
  /-- The number of bytes that a data listener takes at most each time it wakes. -/
  readChunkSize : UInt64 := 1024
  /-- The milliseconds between two looks of an event listener at its lines. -/
  linePollIntervalMs : UInt64 := 50
deriving DecidableEq, Repr

/-- How the presence monitor works. -/
structure MonitorConfig where
  /-- The milliseconds between two looks at a watched path. -/
  pollIntervalMs : UInt64 := 250
  /-- The largest number of watched paths. -/
  capacity : UInt64 := defaultCapacity
deriving DecidableEq, Repr

/-- How ports are opened. -/
structure DefaultsConfig where
  /-- Whether a port is claimed for its holder alone. -/
  exclusive : Bool := true
  port : Configuration := {}
deriving DecidableEq

/-- Logging. -/
structure LoggingConfig where
  level : String := "info"
  format : LogFormat := .pretty
deriving DecidableEq, Repr

/-- The configuration of the library. -/
structure Config where
  registry : RegistryConfig := {}
  listener : ListenerConfig := {}
  monitor : MonitorConfig := {}
  defaults : DefaultsConfig := {}
  logging : LoggingConfig := {}
deriving DecidableEq

namespace Config

/-- The number keys that must not be zero, with their values, in the order of checking. -/
def positiveKeys (c : Config) : List (String × UInt64) :=
  [("registry.capacity", c.registry.capacity),
   ("listener.read_chunk_size", c.listener.readChunkSize),
   ("listener.line_poll_interval_ms", c.listener.linePollIntervalMs),
   ("monitor.capacity", c.monitor.capacity),
   ("monitor.poll_interval_ms", c.monitor.pollIntervalMs)]

/-- The key that cannot stay as it is, with the reason; the first of them if there are several. -/
def invalidKey? (c : Config) : Option (String × String) :=
  match c.positiveKeys.find? (·.2 == 0) with
  | some (key, _) => some (key, "must be at least 1")
  | none =>
    match c.defaults.port.validate with
    | .ok () => none
    | .error e => some ("defaults.port", e.message)

/-- The configuration with its speed as a standard one where it is in the table. -/
def normalized (c : Config) : Config :=
  { c with defaults.port := c.defaults.port.normalized }

/-- Whether two configurations say the same; a speed does not depend on how it was given. -/
def agrees (a b : Config) : Bool := a.normalized == b.normalized

end Config

end SerialLine
