import SerialLine.Listener.Call

/-!
# SerialLine.Listener.Traffic — several calls under way

Clients share a registry. Each of their calls stands at a position of its own, and any of them,
or any thread, may take the next step. `Traffic.settle` is one such order: it lets everything go
on until no thread and no call can.
-/

namespace SerialLine

/-- A registry with its threads, and the calls that were ever begun on it. -/
structure Traffic where
  listening : Listening
  calls : List Call.Position := []

namespace Traffic

/-- Changes the registry and its threads. -/
def mapListening (f : Listening → Listening) (t : Traffic) : Traffic :=
  { t with listening := f t.listening }

/-- Begins a call and lets it go as far as it gets; gives its number. -/
def begin (p : Call.Position) (t : Traffic) : Nat × Traffic :=
  let (p, listening) := t.listening.drive p
  (t.calls.length, { listening, calls := t.calls ++ [p] })

/-- Lets a call go on as far as it gets. -/
def resume (t : Traffic) (call : Nat) : Traffic :=
  match t.calls[call]? with
  | some p =>
    let (p, listening) := t.listening.drive p
    { listening, calls := t.calls.set call p }
  | none => t

/-- The answer of a call, once it is finished. -/
def result? (t : Traffic) (call : Nat) : Option (Outcome SlotId) :=
  t.calls[call]?.bind (·.result?)

/-- Lets threads and calls go on until all are at rest. Intervals longer than `patience` do not
pass. -/
def settle (patience : Nat) (t : Traffic) : Traffic :=
  let t := t.mapListening (·.settle patience)
  let t := (List.range t.calls.length).foldl resume t
  t.mapListening (·.settle patience)

end Traffic

end SerialLine
