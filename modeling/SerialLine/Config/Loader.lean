import SerialLine.Config.Error
import SerialLine.Config.Toml
import SerialLine.Host.Basic
import SerialLine.Text.Blank
import SerialLine.Text.Decimal

/-!
# SerialLine.Config.Loader — finding, overriding, loading and saving

A configuration comes from a file, or from the defaults where there is none. Variables of the
environment replace single values of it, and the result is validated. The file is the one that
the environment names, else one in the working directory, else one in the user's configuration
directory.
-/

namespace SerialLine

/-- The variables that replace values start with this. -/
def variablePrefix : String := "SERIAL_CORE_"

/-- The name of a configuration file. -/
def configFileName : String := "serial-core.toml"

/-- A variable that replaces one value: the end of its name, what it should hold, and the
update that a text makes, if it can be read. -/
structure Override where
  name : String
  what : String
  apply : String → Config → Option Config

namespace Override

/-- A replacement of a number up to a bound. -/
def natural (name what : String) (bound : Nat) (set : Nat → Config → Config) : Override where
  name := name
  what := what
  apply text c := (Decimal.boundedNatural? bound text).map (set · c)

/-- A replacement of a truth value. -/
def flag (name what : String) (set : Bool → Config → Config) : Override where
  name := name
  what := what
  apply text c :=
    if text = "true" then some (set true c) else if text = "false" then some (set false c) else none

/-- The replacements that must be read from their text, in the order in which they are made. -/
def typed : List Override :=
  [.natural "REGISTRY_CAPACITY" "capacity" Config.maxCount fun n c =>
     { c with registry.capacity := UInt64.ofNat n },
   .natural "LISTENER_READ_CHUNK_SIZE" "chunk size" Config.maxCount fun n c =>
     { c with listener.readChunkSize := UInt64.ofNat n },
   .natural "LISTENER_LINE_POLL_INTERVAL_MS" "interval" Config.maxCount fun n c =>
     { c with listener.linePollIntervalMs := UInt64.ofNat n },
   .natural "MONITOR_POLL_INTERVAL_MS" "interval" Config.maxCount fun n c =>
     { c with monitor.pollIntervalMs := UInt64.ofNat n },
   .natural "MONITOR_CAPACITY" "capacity" Config.maxCount fun n c =>
     { c with monitor.capacity := UInt64.ofNat n },
   .natural "DEFAULTS_BAUD" "baud rate" (UInt32.size - 1) fun n c =>
     { c with defaults.port.baud := .ofRate (UInt32.ofNat n) },
   .flag "DEFAULTS_EXCLUSIVE" "boolean" fun b c => { c with defaults.exclusive := b },
   { name := "LOGGING_FORMAT", what := "log format"
     apply := fun text c =>
       (LogFormat.ofText text).toOption.map fun f => { c with logging.format := f } }]

/-- Makes one replacement if its variable is set. Blanks around the value do not matter. -/
def run (lookup : String → Option String) (c : Config) (o : Override) :
    Except ConfigError Config :=
  match lookup (variablePrefix ++ o.name) with
  | none => .ok c
  | some text =>
    match o.apply (Text.trim text) c with
    | some c => .ok c
    | none => .error (.badOverride (variablePrefix ++ o.name) ("invalid " ++ o.what))

end Override

namespace Config

/-- Replaces what the environment replaces; stops at the first variable that cannot be read.
The logging level is taken as it stands. -/
def overridden (lookup : String → Option String) (c : Config) : Except ConfigError Config := do
  let c ← Override.typed.foldlM (Override.run lookup) c
  match lookup (variablePrefix ++ "LOGGING_LEVEL") with
  | some level => return { c with logging.level := level }
  | none => return c

/-- Refuses a configuration that no component can run with. -/
def validate (c : Config) : Except ConfigError Unit :=
  match c.invalidKey? with
  | some (key, message) => .error (.invalid key message)
  | none => .ok ()

/-- Replaces what the environment replaces, and validates the result. -/
def settled (lookup : String → Option String) (c : Config) : Except ConfigError Config := do
  let c ← c.overridden lookup
  c.validate
  return c

end Config

namespace Host

/-- A variable of the environment, as text. One that is not UTF-8 counts as unset. -/
def lookupVariable (h : Host) (name : String) : Option String :=
  (h.environment.lookup name).bind Utf8.decode?

/-- The contents of a file as text. -/
def readText (h : Host) (p : Path) : Except FileFault String :=
  if p.bytes.contains 0 then .error .zeroInPath
  else
    match h.files.readFile h.cwd p with
    | .error code => .error (.system code)
    | .ok bytes =>
      match Utf8.decode? bytes with
      | some text => .ok text
      | none => .error .notText

/-- Whether a path leads to something. -/
def leadsSomewhere (h : Host) (p : Path) : Bool := h.files.present h.cwd p

/-- The directory of the user: the one that the environment names, else the account's. -/
def home (h : Host) : Path :=
  match h.environment.lookup "HOME" with
  | some bytes => if bytes.isEmpty then h.accountHome else ⟨bytes⟩
  | none => h.accountHome

/-- The user's configuration directory for this library. -/
def configDirectory (h : Host) : Path :=
  let base : Path := match h.environment.lookup "XDG_CONFIG_HOME" with
    | some bytes =>
      if Path.isAbsolute ⟨bytes⟩ then ⟨bytes⟩ else h.home.join (.ofText ".config")
    | none => h.home.join (.ofText ".config")
  base.join (.ofText "serial-core")

/-- The user's configuration file. -/
def configFile (h : Host) : Path := h.configDirectory.join (.ofText configFileName)

/-- The configuration file to load, if there is one. -/
def resolveConfig (h : Host) : Option Path :=
  let named := (h.lookupVariable (variablePrefix ++ "CONFIG")).map Path.ofText
  (named.toList ++ [.ofText configFileName, h.configFile]).find? h.leadsSomewhere

/-- The configuration that a file holds. -/
def readConfig (h : Host) (p : Path) : Except ConfigError Config :=
  match h.readText p with
  | .error fault => .error (.unreadable p fault)
  | .ok text =>
    match Config.ofToml? text with
    | some c => .ok c
    | none => .error .malformed

/-- Makes the directory that a path lies in, where it is missing. Gives the files after the
attempt, also where it failed half way. -/
def makeDirectoryAbove (h : Host) (p : Path) : Except FileFault Unit × FileTree :=
  match p.parent? with
  | none => (.ok (), h.files)
  | some above =>
    if above.bytes.contains 0 then (.error .zeroInPath, h.files)
    else
      let (made, files) := h.files.makeDirectories h.cwd above.bytes.length above
      (made.mapError .system, files)

/-- The files after a text was written to a file. -/
def writeText (h : Host) (p : Path) (text : String) : Except FileFault FileTree :=
  if p.bytes.contains 0 then .error .zeroInPath
  else (h.files.writeFile h.cwd p (Bytes.ofText text)).mapError .system

/-- Writes a configuration to a file, whose directory is made first, whatever comes of the rest. -/
def writeConfig (h : Host) (c : Config) (p : Path) : Except ConfigError Unit × Host :=
  let (made, files) := h.makeDirectoryAbove p
  let h := { h with files }
  match made with
  | .error fault => (.error (.unwritable p fault), h)
  | .ok () =>
    match c.toToml? with
    | none => (.error .unencodable, h)
    | some text =>
      match h.writeText p text with
      | .error fault => (.error (.unwritable p fault), h)
      | .ok files => (.ok (), { h with files })

end Host

/-- A configuration with the file that it came from. -/
structure ConfigLoader where
  path? : Option Path
  config : Config

namespace ConfigLoader

/-- Loads a file. -/
def loadFrom (h : Host) (p : Path) : Except ConfigError ConfigLoader := do
  let config ← h.readConfig p
  let config ← config.overridden h.lookupVariable
  config.validate
  return { path? := some p, config }

/-- Loads the file that is found, or the defaults. -/
def load (h : Host) : Except ConfigError ConfigLoader := do
  let path? := h.resolveConfig
  let config ← match path? with
    | some p => h.readConfig p
    | none => pure {}
  let config ← config.overridden h.lookupVariable
  config.validate
  return { path?, config }

/-- The defaults, with what the environment replaces unless that cannot be done. -/
def withDefaults (h : Host) : ConfigLoader where
  path? := none
  config := ((Config.settled h.lookupVariable {}).toOption).getD {}

/-- Writes the configuration to a file, which need not be the one it came from. -/
def saveTo (l : ConfigLoader) (h : Host) (p : Path) : Except ConfigError Unit × Host :=
  h.writeConfig l.config p

/-- Writes the configuration to its file. -/
def save (l : ConfigLoader) (h : Host) : Except ConfigError Unit × Host :=
  match l.path? with
  | some p => l.saveTo h p
  | none => (.error (.noPath "save"), h)

/-- Loads the file again, if there is one, and puts what it holds in place of the configuration.
What was changed before an error would stay changed. -/
def reloading (h : Host) : ExceptT ConfigError (StateM ConfigLoader) Unit := do
  if let some p := (← get).path? then
    let config ← h.readConfig p
    let config ← config.overridden h.lookupVariable
    config.validate
    modify ({ · with config })

/-- A loader after it has loaded its file again, and whether that succeeded. -/
def reload (l : ConfigLoader) (h : Host) : Except ConfigError Unit × ConfigLoader :=
  (reloading h).run.run l

end ConfigLoader

end SerialLine
