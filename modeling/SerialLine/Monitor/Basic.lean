import SerialLine.Host.Path
import SerialLine.Listener.Registry

/-!
# SerialLine.Monitor.Basic — the table of watched paths

A monitor keeps at most one entry for each path, and at most `capacity` of them. Paths are told
apart by their components, so different spellings of one path share an entry. An entry is a
placeholder while its watcher is being started.

Each function here is one critical section: it is done in one go, whatever other clients do.
-/

namespace SerialLine

/-- A watcher: the descriptor that its path was registered with, and its thread. -/
structure Watcher where
  descriptor : Fd
  thread : ThreadId
deriving DecidableEq, Repr

/-- A monitor. -/
structure Monitor where
  capacity : Nat
  intervalMs : Nat
  /-- The watched paths, without a watcher while it is being started. -/
  entries : List (Path × Option Watcher) := []

namespace Monitor

/-- The monitor of the default configuration. -/
def standard : Monitor where
  capacity := ({} : MonitorConfig).capacity.toNat
  intervalMs := ({} : MonitorConfig).pollIntervalMs.toNat

/-- A monitor with the limits that a configuration gives. -/
def ofConfig (c : Config) : Monitor where
  capacity := c.monitor.capacity.toNat
  intervalMs := c.monitor.pollIntervalMs.toNat

/-- The entry of a path. -/
def entry? (m : Monitor) (p : Path) : Option (Option Watcher) :=
  (m.entries.find? (·.1.same p)).map (·.2)

/-- Whether a path is watched, or about to be. -/
def isMonitoring (m : Monitor) (p : Path) : Bool := (m.entry? p).isSome

/-- The descriptor that a watched path was registered with. -/
def descriptor? (m : Monitor) (p : Path) : Option Fd :=
  ((m.entry? p).bind id).map (·.descriptor)

/-- The monitor as a structured value. -/
def structural (m : Monitor) : String :=
  Text.record "PortMonitor"
    [("capacity", toString m.capacity), ("interval", Text.span m.intervalMs),
     ("watching", toString m.entries.length)]

/-! ## Critical sections -/

/-- The entries without that of a path. -/
def without (m : Monitor) (p : Path) : List (Path × Option Watcher) :=
  m.entries.filter fun e => !e.1.same p

/-- Puts a placeholder for a path, unless it has an entry or there is no room. -/
def reserve (p : Path) (m : Monitor) : Outcome Monitor :=
  if m.isMonitoring p then .error (.alreadyRegistered p.display)
  else if m.capacity ≤ m.entries.length then .error (.capacityExceeded m.capacity)
  else .ok { m with entries := m.entries ++ [(p, none)] }

/-- Writes the watcher of a path down. -/
def record (p : Path) (watcher : Watcher) (m : Monitor) : Monitor :=
  { m with entries := m.without p ++ [(p, some watcher)] }

/-- Takes the entry of a path away. -/
def forget (p : Path) (m : Monitor) : Monitor := { m with entries := m.without p }

/-- Takes a watcher out of the table in order to stop it. A placeholder stays. -/
def take (p : Path) (m : Monitor) : Outcome Watcher × Monitor :=
  match m.entry? p with
  | some (some watcher) => (.ok watcher, m.forget p)
  | some none => (.error (.lifecycle "stop"), m)
  | none => (.error (.notRegistered p.display), m)

/-- Takes all watchers out of the table. Placeholders stay. -/
def takeAll (m : Monitor) : List Watcher × Monitor :=
  (m.entries.filterMap (·.2), { m with entries := m.entries.filter (·.2.isNone) })

end Monitor

end SerialLine
