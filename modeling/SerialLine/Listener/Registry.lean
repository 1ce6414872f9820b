import SerialLine.Listener.Kind
import SerialLine.Config.Basic
import SerialLine.Text.Span
import SerialLine.Text.Structural

/-!
# SerialLine.Listener.Registry — the table of listener slots

A registry keeps at most one slot for each descriptor, and at most `capacity` of them. A slot
keeps its data listener and its event listener apart. A slot that has left the table is never
put back: a descriptor that comes again gets a new slot, so who still holds the old one holds
nothing.

Each function here is one critical section: it is done in one go, whatever other clients do.
-/

namespace SerialLine

/-- A listener thread, by number. -/
abbrev ThreadId := Nat

/-- A slot, by number: slots are numbered in the order in which they are made. -/
abbrev SlotId := Nat

/-- What all listeners of a registry share. -/
structure ListenerSettings where
  /-- The number of bytes that a data callback gets at most. -/
  chunk : Nat := 1024
  /-- The milliseconds between two samples of an event listener. -/
  intervalMs : Nat := 50
deriving DecidableEq, Repr

/-- The settings that a configuration gives. -/
def ListenerSettings.ofConfig (c : ListenerConfig) : ListenerSettings where
  chunk := c.readChunkSize.toNat
  intervalMs := c.linePollIntervalMs.toNat

/-- The settings as a structured value. -/
def ListenerSettings.structural (s : ListenerSettings) : String :=
  Text.record "ListenerSettings"
    [("read_chunk_size", toString s.chunk), ("line_poll_interval", Text.span s.intervalMs)]

/-- What a slot has of one kind. -/
inductive Seat where
  /-- No listener. -/
  | idle
  /-- A listener that is being started. -/
  | starting
  /-- A listener with its thread, which may have ended on its own. -/
  | running (thread : ThreadId)
  /-- A listener that is being stopped. -/
  | stopping
deriving DecidableEq, Repr

/-- A slot. -/
structure Slot where
  fd : Fd
  data : Seat := .idle
  event : Seat := .idle
deriving DecidableEq, Repr

namespace Slot

/-- The seat of a kind. -/
def seat (s : Slot) : ListenerKind → Seat
  | .data => s.data
  | .event => s.event

/-- Replaces the seat of a kind. -/
def setSeat (s : Slot) (k : ListenerKind) (seat : Seat) : Slot :=
  match k with
  | .data => { s with data := seat }
  | .event => { s with event := seat }

/-- Whether neither seat is taken. -/
def isIdle (s : Slot) : Bool := s.data == .idle && s.event == .idle

end Slot

/-- A registry. -/
structure Registry where
  capacity : Nat
  settings : ListenerSettings := {}
  /-- The slots in use, by descriptor. -/
  table : List (Fd × SlotId) := []
  /-- Every slot that was ever made. -/
  slots : List Slot := []
deriving DecidableEq

namespace Registry

/-- A registry with the limits of the default configuration. -/
def standard : Registry where
  capacity := ({} : RegistryConfig).capacity.toNat

/-- A registry with the limits that a configuration gives. -/
def ofConfig (c : Config) : Registry where
  capacity := c.registry.capacity.toNat
  settings := .ofConfig c.listener

/-! ## Looking -/

/-- The slot of a descriptor. -/
def slotOf? (r : Registry) (fd : Fd) : Option SlotId := r.table.lookup fd

/-- The seat of a kind on a slot. -/
def seat (r : Registry) (s : SlotId) (k : ListenerKind) : Seat :=
  match r.slots[s]? with
  | some slot => slot.seat k
  | none => .idle

/-- Whether a slot has a listener of a kind, running or not yet given up. -/
def isActive (r : Registry) (s : SlotId) (k : ListenerKind) : Bool := r.seat s k != .idle

/-- Whether the table still has a slot. -/
def isCurrent (r : Registry) (s : SlotId) : Bool :=
  match r.slots[s]? with
  | some slot => r.slotOf? slot.fd == some s
  | none => false

/-- The descriptor of a slot. -/
def fdOf (r : Registry) (s : SlotId) : Fd :=
  match r.slots[s]? with
  | some slot => slot.fd
  | none => 0

/-- The registry as a structured value. -/
def structural (r : Registry) : String :=
  Text.record "ThreadRegistry"
    [("capacity", toString r.capacity), ("used", toString r.table.length),
     ("settings", r.settings.structural)]

/-! ## Critical sections -/

/-- Replaces the seat of a kind on a slot. -/
def setSeat (s : SlotId) (k : ListenerKind) (seat : Seat) (r : Registry) : Registry :=
  match r.slots[s]? with
  | some slot => { r with slots := r.slots.set s (slot.setSeat k seat) }
  | none => r

/-- The slot of a descriptor, made if there is none and room for it. -/
def acquire (fd : Fd) (r : Registry) : Outcome SlotId × Registry :=
  match r.slotOf? fd with
  | some s => (.ok s, r)
  | none =>
    if r.capacity ≤ r.table.length then (.error (.capacityExceeded r.capacity), r)
    else
      (.ok r.slots.length,
        { r with table := (fd, r.slots.length) :: r.table, slots := r.slots ++ [{ fd }] })

/-- Takes a slot out of the table, if it is there and neither of its seats is taken. -/
def release (s : SlotId) (r : Registry) : Registry :=
  match r.slots[s]? with
  | some slot =>
    if r.isCurrent s && slot.isIdle then { r with table := r.table.filter (·.1 ≠ slot.fd) } else r
  | none => r

/-- Takes the seat of a kind for a start; a seat that is taken is refused. -/
def reserve (s : SlotId) (k : ListenerKind) (r : Registry) : Outcome Registry :=
  if r.seat s k = .idle then .ok (r.setSeat s k .starting)
  else .error (.alreadyRegistered (k.key (r.fdOf s)))

/-- Takes a seat on a slot that the table still has. -/
def reserveOn (s : SlotId) (k : ListenerKind) (r : Registry) : Outcome Registry :=
  if r.isCurrent s then r.reserve s k else .error (.notRegistered s!"slot for fd {r.fdOf s}")

/-- How a seat for a descriptor was asked for. -/
inductive Reservation where
  /-- The seat was taken on this slot. -/
  | taken (s : SlotId)
  /-- The slot is there, but its seat was not free. -/
  | occupied (s : SlotId) (e : Error)
  /-- There is no room for a slot. -/
  | full (e : Error)

/-- Takes the seat of a kind on the slot that was found for a descriptor, or made for it. -/
def seatOn (s : SlotId) (k : ListenerKind) (r : Registry) : Reservation × Registry :=
  match r.reserve s k with
  | .ok r => (.taken s, r)
  | .error e => (.occupied s e, r)

/-- Takes a seat for a descriptor, on a slot that is made if there is none. Nobody comes between
the slot and its seat, so this looks the slot up and makes it by itself. -/
def reserveFor (fd : Fd) (k : ListenerKind) (r : Registry) : Reservation × Registry :=
  match r.slotOf? fd with
  | some s => r.seatOn s k
  | none =>
    if r.table.length ≥ r.capacity then (.full (.capacityExceeded r.capacity), r)
    else
      let s := r.slots.length
      seatOn s k { r with table := (fd, s) :: r.table, slots := r.slots ++ [{ fd }] }

/-- Begins to stop the listener of a kind: takes its thread off the seat. -/
def beginStop (s : SlotId) (k : ListenerKind) (r : Registry) : Outcome ThreadId × Registry :=
  match r.seat s k with
  | .running t => (.ok t, r.setSeat s k .stopping)
  | .idle => (.error (.notRegistered (k.key (r.fdOf s))), r)
  | .starting | .stopping => (.error (.lifecycle "stop"), r)

/-- The listeners that a shutdown goes through: both kinds of every slot in the table. -/
def listeners (r : Registry) : List (SlotId × ListenerKind) :=
  r.table.flatMap fun e => ListenerKind.all.map fun k => (e.2, k)

end Registry

end SerialLine
