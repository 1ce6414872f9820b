import SerialLine.Terminal.Driver

/-!
# SerialLine.Listener.Kind — the two kinds of listeners and their lifecycle

A descriptor may have a data listener, which hands over what arrives, and an event listener,
which reports changes of the modem lines. Each of them runs on a thread of its own.
-/

namespace SerialLine

/-- The kinds of listeners. -/
inductive ListenerKind where
  | data | event
deriving DecidableEq, Repr

namespace ListenerKind

/-- Both kinds. -/
def all : List ListenerKind := [data, event]

/-- The word for a kind. -/
def word : ListenerKind → String
  | data => "data" | event => "event"

/-- How errors name a listener. -/
def key (k : ListenerKind) (fd : Fd) : String := s!"{k.word} listener on fd {fd}"

end ListenerKind

/-- The life of a listener's thread. -/
inductive Lifecycle where
  | starting | running | stopping | stopped
deriving DecidableEq, Repr

namespace Lifecycle

/-- All stages in order. -/
def all : List Lifecycle := [starting, running, stopping, stopped]

/-- The name of a stage. -/
def label : Lifecycle → String
  | starting => "Starting" | running => "Running" | stopping => "Stopping" | stopped => "Stopped"

/-- The number of a stage. -/
def code : Lifecycle → Nat
  | starting => 0 | running => 1 | stopping => 2 | stopped => 3

end Lifecycle

end SerialLine
