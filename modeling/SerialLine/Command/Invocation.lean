import SerialLine.Command.Words
import SerialLine.Host.Path
import SerialLine.Text.Decimal

/-!
# SerialLine.Command.Invocation — the commands

One command is given by its name, with its own switches and operands behind it. The switch for
the configuration file may stand before or behind the name; the one behind it counts.
-/

namespace SerialLine.Command

/-- What to do. -/
inductive Action where
  /-- List the serial devices that the system knows. -/
  | ports
  /-- Print the configuration in effect. -/
  | config
  /-- Show the settings and the lines of a port. -/
  | status (path : Path)
  /-- Write to a port. -/
  | send (path : Path) (data : String) (rate? : Option UInt32) (newline : Bool)
  /-- Print what arrives at a port and how its lines change. -/
  | listen (path : Path) (rate? : Option UInt32)
  /-- Report when a device comes and goes. -/
  | monitor (path : Path)
deriving DecidableEq

/-- A command with the configuration file that it was given. -/
structure Invocation where
  config? : Option Path
  action : Action
deriving DecidableEq

/-- The arguments of any command. -/
structure Arguments where
  config? : Option Path := none
  path : Path := .ofText ""
  data : String := ""
  rate? : Option UInt32 := none
  newline : Bool := false

namespace Arguments

/-- Reads a path, which must not be empty. -/
def readPath (set : Path → Arguments → Arguments) (text : String) :
    Option (Arguments → Arguments) :=
  if text.isEmpty then none else some (set (.ofText text))

/-- The speed that a text writes; a minus sign may stand before a zero. -/
def readRate (text : String) : Option UInt32 :=
  match text.toList with
  | '-' :: ds =>
    if !ds.isEmpty && ds.all (· = '0') then some 0 else none
  | _ => (Decimal.boundedNatural? (UInt32.size - 1) text).map UInt32.ofNat

/-! ## Switches and operands -/

/-- The switch for the configuration file. -/
def configSwitch : Switch Arguments where
  letter := 'c'
  name := "config"
  effect := .value (readPath fun p a => { a with config? := some p })

/-- The switch for help. -/
def helpSwitch : Switch Arguments where
  letter := 'h'
  name := "help"
  effect := .halt .help

/-- The switch for the version. -/
def versionSwitch : Switch Arguments where
  letter := 'V'
  name := "version"
  effect := .halt .version

/-- The switch for the speed of a port. -/
def rateSwitch : Switch Arguments where
  letter := 'b'
  name := "baud"
  effect := .value fun text => (readRate text).map fun n a => { a with rate? := some n }

/-- The switch for a newline behind the data. -/
def newlineSwitch : Switch Arguments where
  letter := 'n'
  name := "newline"
  effect := .mark fun a => { a with newline := true }

/-- The path of a device. -/
def pathOperand : String → Option (Arguments → Arguments) :=
  readPath fun p a => { a with path := p }

/-- The data to send, which may be empty. -/
def dataOperand (text : String) : Option (Arguments → Arguments) :=
  some fun a => { a with data := text }

/-- What stands before the name of a command. -/
def general : Form Arguments where
  switches := [configSwitch, helpSwitch, versionSwitch]

/-- What stands behind the name of a command, given the switches and operands of its own. -/
def form (switches : List (Switch Arguments))
    (operands : List (String → Option (Arguments → Arguments))) : Form Arguments where
  switches := configSwitch :: helpSwitch :: switches
  operands := operands

end Arguments

/-- A command: its name, what it is for, what stands behind the name, and what it is to do. -/
structure Entry where
  name : String
  purpose : String
  form : Form Arguments
  action : Arguments → Action

open Arguments in
/-- The commands. -/
def entries : List Entry :=
  [{ name := "ports", purpose := "List serial devices known to the system"
     form := form [] [], action := fun _ => .ports },
   { name := "config", purpose := "Print the effective configuration as TOML"
     form := form [] [], action := fun _ => .config },
   { name := "status", purpose := "Show the decoded line settings and modem lines of a port"
     form := form [] [pathOperand], action := fun a => .status a.path },
   { name := "send", purpose := "Write bytes to a port"
     form := form [rateSwitch, newlineSwitch] [pathOperand, dataOperand]
     action := fun a => .send a.path a.data a.rate? a.newline },
   { name := "listen", purpose := "Print incoming data and modem line changes until Ctrl-C"
     form := form [rateSwitch] [pathOperand], action := fun a => .listen a.path a.rate? },
   { name := "monitor", purpose := "Report when a device appears or disappears until Ctrl-C"
     form := form [] [pathOperand], action := fun a => .monitor a.path }]

/-- The commands with what they are for. -/
def helpText : String :=
  "Commands:\n" ++ String.join (entries.map fun e => s!"  {e.name}: {e.purpose}\n")

/-- The command that explains the others. -/
def helpName : String := "help"

/-- Whether a word names a command. -/
def isCommand (word : String) : Bool := word == helpName || entries.any (·.name == word)

/-- What the command for help comes to: it explains one command at most. -/
def helpOn : List String → Halt
  | [] => .help
  | [word] => if isCommand word then .help else .misuse
  | _ => .misuse

/-- The command that words make, or why they make none. -/
def Invocation.ofWords (words : List String) : Except Halt Invocation := do
  let (r, command?) ← Arguments.general.readUpTo isCommand words (Arguments.general.start {})
  match command? with
  | none => throw .misuse
  | some (name, rest) =>
    match entries.find? (·.name == name) with
    | none => throw (helpOn rest)
    | some entry =>
      let arguments ← entry.form.readAll rest {}
      let outer ← r.finish
      return { config? := arguments.config? <|> outer.config?, action := entry.action arguments }

end SerialLine.Command
