import SerialLine.Toml.Table

/-!
# SerialLine.Toml.Record — records as values

A record is read from a table, whose unknown names are passed over, or from an array that holds
its fields in order; fields that are missing keep what they have, and so do all of them when a
moment stands for the record. One of several words may also be the name of the first member of
a table, if that member is empty.
-/

namespace SerialLine.Toml

/-- A field of a record: its name, and the update that a value makes. -/
structure FieldReader (σ : Type) where
  name : String
  read : Value → σ → Option σ

variable {σ : Type}

/-- Updates a record by a named value, unless it has no such field. -/
def readMember (fields : List (FieldReader σ)) (s : σ) (m : String × Value) : Option σ :=
  match fields.find? (·.name == m.1) with
  | some f => f.read m.2 s
  | none => some s

/-- Updates a record by a value that stands for all of it. -/
def readRecord (fields : List (FieldReader σ)) (v : Value) (s : σ) : Option σ :=
  match v with
  | .table _ members => members.foldlM (readMember fields) s
  | .array items => (fields.zip items).foldlM (fun s p => p.1.read p.2 s) s
  | .tables items =>
    (fields.zip items).foldlM (fun s p => p.1.read (.table .header p.2) s) s
  | .moment => some s
  | _ => none

/-- Whether a value holds nothing. -/
def Value.isVoid : Value → Bool
  | .array items => items.isEmpty
  | .table _ members => members.isEmpty
  | _ => false

/-- The word that a value names. -/
def Value.word? : Value → Option String
  | .string w => some w
  | .table origin ((w, v) :: others) =>
    if v.isVoid && (origin ≠ .braces || others.isEmpty) then some w else none
  | _ => none

namespace FieldReader

/-- A truth value. -/
def flag (name : String) (set : Bool → σ → σ) : FieldReader σ where
  name := name
  read
    | .boolean b, s => some (set b s)
    | _, _ => none

/-- A natural number up to a bound. -/
def natural (name : String) (bound : Nat) (set : Nat → σ → σ) : FieldReader σ where
  name := name
  read
    | .integer n, s => if 0 ≤ n ∧ n ≤ bound then some (set n.toNat s) else none
    | _, _ => none

/-- A text. -/
def text (name : String) (set : String → σ → σ) : FieldReader σ where
  name := name
  read
    | .string t, s => some (set t s)
    | _, _ => none

/-- One of several values that each have a word. -/
def choice {α : Type} (name : String) (all : List α) (word : α → String) (set : α → σ → σ) :
    FieldReader σ where
  name := name
  read v s := do
    let w ← v.word?
    let a ← all.find? (word · == w)
    return set a s

/-- A record inside the record. -/
def record (name : String) (fields : List (FieldReader σ)) : FieldReader σ where
  name := name
  read := readRecord fields

end FieldReader

end SerialLine.Toml
