import SerialLine.Command.Invocation
import SerialLine.Config.Loader
import SerialLine.Config.Json
import SerialLine.Devices
import SerialLine.Host.Open
import SerialLine.Listener.Call
import SerialLine.Monitor.Call
import SerialLine.Settings.Json

/-!
# SerialLine.Command.Session — what the commands do

Most commands come to an end by themselves. Two of them go on until they are stopped: one
prints what a port's listeners hand over, the other what a presence watcher reports, each report
on a line of its own.
-/

namespace SerialLine.Command

/-- The name and version of the program. -/
def versionText : String := "serial_core 0.4.0\n"

/-- Why a command failed. -/
inductive Failure where
  | port (e : Error)
  | config (e : ConfigError)
  /-- The configuration holds a number that a document cannot. -/
  | outOfRange

/-- The failure as a structured value. -/
def Failure.structural : Failure → String
  | port e => e.structural
  | config e => e.structural
  | outOfRange => "OutOfRange"

/-- What a command has come to. -/
structure Report where
  host : Host
  output : String := ""
  failure? : Option Failure := none

/-- The number that the program ends with. -/
def Report.exitCode (r : Report) : UInt32 := if r.failure?.isSome then 1 else 0

/-- The number that the program ends with when there is no command to run. -/
def Halt.exitCode : Halt → UInt32
  | .help | .version => 0
  | .misuse => 2

/-- A command under way. -/
inductive Session where
  | ended (r : Report)
  | listening (port : Port) (w : Listening)
  | monitoring (path : Path) (w : Watching)

/-! ## Commands that end -/

/-- Opens a port as the configuration says, at a speed of its own if one is given. -/
def openPort (c : Config) (path : Path) (rate? : Option UInt32) : Call Host Port :=
  let port := c.defaults.port
  Host.openPort path
    { exclusive := c.defaults.exclusive
      config := { port with baud := (rate?.map Baud.ofRate).getD port.baud } }

/-- The settings, the lines and the queues of a port. -/
def describe (port : Port) : Call Host Json.Value := do
  let configuration ← port.configuration Linux.driver Host.terminalCalls
  let lines ← Host.terminalCalls.lineStatus port.fd
  let queued ← Host.terminalCalls.byteCounts port.fd
  return .sorted <| .object
    [("path", .string port.path), ("configuration", configuration.toJson),
     ("lines", lines.toJson), ("queued", queued.toJson)]

/-- Opens a port and describes it. -/
def status (c : Config) (path : Path) : Call Host (Port × Json.Value) := do
  let port ← openPort c path none
  return (port, ← describe port)

/-- Writes everything to a port. A host takes it with the calls that it needs at most. -/
def writeAll (port : Port) (bytes : Bytes) : Call Host Unit := fun h =>
  let (outcome?, h) := port.writeAll Host.terminalCalls (Host.writeBound bytes) bytes h
  (outcome?.getD (.ok ()), h)

/-- Opens a port, writes to it and closes it. -/
def send (c : Config) (path : Path) (bytes : Bytes) (rate? : Option UInt32) : Call Host Unit := do
  let port ← openPort c path rate?
  writeAll port bytes
  port.close Host.terminalCalls

/-- What the calls of a command came to, after the output that it made before. -/
def Report.ofCall (output : String) (act : Call Host Unit) (h : Host) : Report :=
  match act.run.run h with
  | (.ok (), host) => { host, output }
  | (.error e, host) => { host, output, failure? := some (.port e) }

/-- What a command without calls came to. -/
def Report.ofText (h : Host) : Except Failure String → Report
  | .ok output => { host := h, output }
  | .error e => { host := h, failure? := some e }

/-! ## Commands that go on -/

/-- Opens a port and starts both listeners on it. -/
def listen (c : Config) (path : Path) (rate? : Option UInt32) (h : Host) : Session :=
  match (openPort c path rate?).run.run h with
  | (.error e, host) => .ended { host, failure? := some (.port e) }
  | (.ok port, host) =>
    let w : Listening := { crew := { host }, registry := .ofConfig c }
    let failed (e : Error) (w : Listening) : Session :=
      .ended { host := w.shutdown.crew.host, failure? := some (.port e) }
    let (p, w) := w.drive (.registering port.fd (.data {} true))
    match p.result? with
    | some (.ok slot) =>
      let (p, w) := w.drive (.starting slot (.event {} {}))
      match p.result? with
      | some (.error e) => failed e w
      | _ => .listening port w
    | some (.error e) => failed e w
    | none => .listening port w

/-- Starts a presence watcher. -/
def monitor (c : Config) (path : Path) (h : Host) : Session :=
  let w : Watching := { crew := { host := h }, monitor := .ofConfig c }
  let (p, w) := w.drive (.reserving path (-1) {} false)
  match p.result? with
  | some (.error e) => .ended { host := w.crew.host, failure? := some (.port e) }
  | _ => .monitoring path w

/-- Begins a command, given what the system knows of serial devices. -/
def Session.begin (devices : Outcome (List DeviceInfo)) (i : Invocation) (h : Host) : Session :=
  let loaded := match i.config? with
    | some path => ConfigLoader.loadFrom h path
    | none => ConfigLoader.load h
  match loaded with
  | .error e => .ended (.ofText h (.error (.config e)))
  | .ok loader =>
    let c := loader.config
    match i.action with
    | .ports =>
      let text := (listDevices devices).map fun ds =>
        (Json.Value.array (ds.map DeviceInfo.toJson)).pretty ++ "\n"
      .ended (.ofText h (text.mapError Failure.port))
    | .config =>
      .ended <| .ofText h <| match c.toToml? with
        | some text => .ok text
        | none => .error .outOfRange
    | .status path =>
      match (status c path).run.run h with
      | (.ok (port, description), h) =>
        .ended (.ofCall (description.pretty ++ "\n") (port.close Host.terminalCalls) h)
      | (.error e, host) => .ended { host, failure? := some (.port e) }
    | .send path data rate? newline =>
      let bytes := Bytes.ofText (if newline then data ++ "\n" else data)
      .ended (.ofCall "" (send c path bytes rate?) h)
    | .listen path rate? => listen c path rate? h
    | .monitor path => monitor c path h

namespace Session

/-- Changes the host. -/
def mapHost (f : Host → Host) : Session → Session
  | ended r => ended { r with host := f r.host }
  | listening port w => listening port (w.mapCrew (·.mapHost f))
  | monitoring path w => monitoring path (w.mapCrew (·.mapHost f))

/-- Lets the threads go on until all are at rest, intervals included. -/
def settle : Session → Session
  | ended r => ended r
  | listening port w => listening port (w.settle w.registry.settings.intervalMs)
  | monitoring path w => monitoring path (w.settle w.monitor.intervalMs)

/-- The line that a callback's call prints. -/
def line (path : String) : Item → String
  | .bytes bs => Utf8.decodeLossy bs ++ "\n"
  | .lines s => s.toJson.compact ++ "\n"
  | .presence true => path ++ " attached\n"
  | .presence false => path ++ " removed\n"

/-- What the calls of callbacks have printed. -/
def printed (path : String) (c : Crew) : String :=
  String.join ((c.deliveredSince 0).map fun e => line path e.2)

/-- What the command has printed so far. -/
def output : Session → String
  | ended r => r.output
  | listening port w => printed port.path w.crew
  | monitoring path w => printed path.display w.crew

/-- Stops a command that goes on. What its threads report while they stop is not printed. -/
def stop (s : Session) : Report :=
  match s with
  | ended r => r
  | listening port w =>
    .ofCall s.output (port.close Host.terminalCalls) w.shutdown.crew.host
  | monitoring _ w => { host := w.shutdown.crew.host, output := s.output }

end Session

end SerialLine.Command
