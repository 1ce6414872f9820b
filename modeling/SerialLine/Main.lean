import SerialLine.Command.Session

/-!
# SerialLine.Main — the program

The outer layer: it takes a picture of the machine, lets the command run on it, and prints what
comes of it. Nothing here can talk to a terminal. A device that is found at a path is taken for
one that answers no terminal call, so ports can be looked for and watched, not driven.
-/

namespace SerialLine.Main

/-- The names of the variables that the program looks at. -/
def variableNames : List String :=
  ["HOME", "XDG_CONFIG_HOME", variablePrefix ++ "CONFIG", variablePrefix ++ "LOGGING_LEVEL"] ++
    Override.typed.map fun o => variablePrefix ++ o.name

/-- The variables that are set. -/
def readEnvironment : IO (List (String × Bytes)) :=
  variableNames.filterMapM fun name => do
    return (← IO.getEnv name).map fun value => (name, Bytes.ofText value)

/-- What is found at a path, if there is anything. -/
def readEntry? (path : Path) : IO (Option Entry) := do
  let place := (← IO.currentDir) / path.display
  try
    match (← place.metadata).type with
    | .dir => return some .directory
    | .file => return some (.file (← IO.FS.readBinFile place).toList)
    | _ => return some .null
  catch _ => return none

/-- The files at some paths. -/
def readEntries (paths : List Path) : IO (List (Path × Entry)) :=
  paths.filterMapM fun path => do return (← readEntry? path).map (path, ·)

/-- The machine, as far as the words of a command and the configuration ask for it. -/
def readHost (words : List String) : IO Host := do
  let environment ← readEnvironment
  let here := Path.ofText (← IO.currentDir).toString
  let bare : Host := { environment }
  let named := (bare.lookupVariable (variablePrefix ++ "CONFIG")).toList
  let paths := (named ++ words ++ [configFileName]).map Path.ofText ++ [bare.configFile]
  return { Host.inDirectory here (← readEntries paths) with environment }

/-- The terminals that a driver serves, as far as the system lists them. -/
def readDevices : IO (List DeviceInfo) := do
  let listing := (← IO.currentDir) / "/sys/class/tty"
  unless ← listing.isDir do return []
  let served ← (← listing.readDir).toList.filterM fun e => (e.path / "device" / "driver").pathExists
  return served.map fun e => .bare ("/dev/" ++ e.fileName)

/-- Prints what a command that goes on reports, for as long as the program runs. -/
partial def attend (words : List String) (s : Command.Session) (before : Nat) : IO Unit := do
  let output := s.output
  IO.print (output.drop before)
  (← IO.getStdout).flush
  IO.sleep 50
  let now ← readHost words
  attend words (s.mapHost fun h => { h with files := now.files }).settle output.length

end SerialLine.Main

open SerialLine in
/-- Runs the command that the words make. -/
def main (words : List String) : IO UInt32 := do
  match Command.Invocation.ofWords words with
  | .error h =>
    match h with
    | .help => IO.print Command.helpText
    | .version => IO.print Command.versionText
    | .misuse => IO.eprint Command.helpText
    return h.exitCode
  | .ok i =>
    let s := (Command.Session.begin (.ok (← Main.readDevices)) i (← Main.readHost words)).settle
    match s with
    | .ended r =>
      IO.print r.output
      if let some failure := r.failure? then IO.eprintln s!"Error: {failure.structural}"
      return r.exitCode
    | _ =>
      Main.attend words s 0
      return 0
