/-!
# SerialLine.Toml.Table — values and the tables they stand in

A document is a table of named values. A table is opened by a header, by a header of a table
inside it, by a dotted key, or written out between braces; how it was opened decides whether
more may be put into it later. The rules are in `descend` and `openTable`: a dotted key may go
on only in tables that no header has opened and no braces have closed, and a header may open
each table once.
-/

namespace SerialLine.Toml

/-- How a table was opened. -/
inductive Origin where
  /-- By its own header. -/
  | header
  /-- By the header of a table inside it. -/
  | implied
  /-- By a dotted key. -/
  | dotted
  /-- Between braces. -/
  | braces
deriving DecidableEq, Repr

/-- A value. Floats and moments keep nothing: the library has no use for what they say. -/
inductive Value where
  | string (s : String)
  | integer (n : Int)
  | float
  | boolean (b : Bool)
  | moment
  | array (items : List Value)
  /-- The tables that one doubly bracketed header opens, one at each time it stands. -/
  | tables (items : List (List (String × Value)))
  | table (origin : Origin) (members : List (String × Value))
deriving Inhabited

mutual

/-- A value inside closed braces: the tables that dotted keys opened there are closed too. -/
def Value.closed : Value → Value
  | .table .dotted members => .table .braces (closedMembers members)
  | v => v

@[inherit_doc Value.closed]
def closedMembers : List (String × Value) → List (String × Value)
  | [] => []
  | (name, v) :: rest => (name, v.closed) :: closedMembers rest

end

/-- The named values of a table, in the order in which they came in. -/
abbrev Members := List (String × Value)

namespace Members

/-- The value with a name. -/
def get? (name : String) (ms : Members) : Option Value := ms.lookup name

/-- Puts a value under a name: in place of the value that had it, or at the end. -/
def put (name : String) (v : Value) : Members → Members
  | [] => [(name, v)]
  | (n, w) :: rest => if n = name then (n, v) :: rest else (n, w) :: put name v rest

/-- Takes the value with a name away. -/
def erase (name : String) (ms : Members) : Members := ms.filter (·.1 ≠ name)

/-- Puts a new name at the end; a name that is there already is refused. -/
def add? (name : String) (v : Value) (ms : Members) : Option Members :=
  if (ms.get? name).isSome then none else some (ms ++ [(name, v)])

end Members

/-- Changes the last entry of a list that has one. -/
def changeLast? {α : Type} (change : α → Option α) : List α → Option (List α)
  | [] => none
  | [a] => (change a).map ([·])
  | a :: rest => (changeLast? change rest).map (a :: ·)

/-- Changes the table at the end of a path from a table whose origin is `origin`. Tables that
are missing on the way are opened. A path of keys (`dotted`) goes on only through tables that
no header has opened; the path of a header goes on through the last of several tables. Nothing
goes on through a value that is not such a table. -/
def descend (dotted : Bool) (change : Origin → Members → Option Members) :
    (path : List String) → Origin → Members → Option Members
  | [], origin, ms => change origin ms
  | name :: path, _, ms =>
    match ms.get? name with
    | none => do
      let origin : Origin := if dotted then .dotted else .implied
      let inner ← descend dotted change path origin []
      return ms ++ [(name, .table origin inner)]
    | some (.table origin inner) =>
      if origin = .braces || (dotted && origin = .header) then none
      else do
        let inner ← descend dotted change path origin inner
        return ms.put name (.table origin inner)
    | some (.tables items) => do
      let items ← changeLast? (descend dotted change path .header) items
      return ms.put name (.tables items)
    | some _ => none

/-- Puts the value of a dotted key into a table. The last table on the way must have been
opened by dotted keys alone. -/
def Members.insertAt? (path : List String) (name : String) (v : Value) (ms : Members) :
    Option Members :=
  descend true (fun origin inner =>
    if decide (origin = .dotted) == path.isEmpty then none else inner.add? name v) path .header ms

/-- Opens a table by its header: a table that is new, or was only implied so far. -/
def Members.openTable? (path : List String) (name : String) (ms : Members) : Option Members :=
  descend false (fun _ inner =>
    match inner.get? name with
    | none => some (inner ++ [(name, .table .header [])])
    | some (.table .implied members) =>
      some (inner.erase name ++ [(name, .table .header members)])
    | some _ => none) path .header ms

/-- Opens one more of several tables by its header. -/
def Members.openNext? (path : List String) (name : String) (ms : Members) : Option Members :=
  descend false (fun _ inner =>
    match inner.get? name with
    | none => some (inner ++ [(name, .tables [[]])])
    | some (.tables items) => some (inner.put name (.tables (items ++ [[]])))
    | some _ => none) path .header ms

/-- Puts the value of a dotted key into the table that a header opened last. -/
def Members.insertUnder? (header : List String) (path : List String) (name : String) (v : Value)
    (ms : Members) : Option Members :=
  descend false (fun _ inner => inner.insertAt? path name v) header .header ms

end SerialLine.Toml
