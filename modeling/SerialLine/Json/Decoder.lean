import SerialLine.Json.Token

/-!
# SerialLine.Json.Decoder — reading a record from JSON

A record is read from an object whose members may come in any order, or from an array that
holds its fields in order. Members that the record does not know are skipped. Reading is a
fold of `step` over the tokens, so a text is refused at the first token that does not fit, and
what stops the reading there decides how the refusal is classed.
-/

namespace SerialLine.Json

/-- What the value of a field may be, with the update that a value makes. -/
inductive Kind (σ : Type) where
  /-- A truth value. -/
  | flag (set : Bool → σ → σ)
  /-- A natural number up to a bound. -/
  | natural (bound : Nat) (set : Nat → σ → σ)
  /-- One of several words. -/
  | choice (set? : String → Option (σ → σ))

/-- A field of a record. -/
structure FieldReader (σ : Type) where
  name : String
  kind : Kind σ
  /-- Whether the field must be there. -/
  required : Bool := false

/-- Where the value that is read belongs. -/
inductive Place where
  /-- The value of an object's member. -/
  | member
  /-- The item of an array at this position. -/
  | item (position : Nat)

/-- The brackets that a skipped value is inside of. -/
inductive Frame where
  | inArray | inObject
deriving DecidableEq

/-- What comes next inside a value that is skipped. -/
inductive Skipping where
  | value | afterValue | firstItem | firstKey | key | colon

/-- What comes next. -/
inductive Mode (σ : Type) where
  | start
  | firstKey
  | key
  /-- The colon after the name of a member, known or not. -/
  | colon (field? : Option (FieldReader σ))
  /-- The value of a field. -/
  | value (place : Place) (field : FieldReader σ)
  /-- The word of a choice that is written as an object. -/
  | choiceKey (place : Place) (set? : String → Option (σ → σ))
  | choiceColon (place : Place) (update : σ → σ)
  | choiceNull (place : Place) (update : σ → σ)
  | choiceClose (place : Place) (update : σ → σ)
  | skipping (what : Skipping) (frames : List Frame)
  | afterMember
  | firstItem
  | afterItem (next : Nat)
  | item (position : Nat)
  /-- A comma after the last field of an array. -/
  | overfull
  | finished

/-- The state of reading a record. -/
structure Reading (σ : Type) where
  mode : Mode σ
  /-- The names of the members read so far. -/
  seen : List String
  record : σ

/-- The fault of a scalar, or of any other token, where none of its kind was asked for. -/
def unexpected : Token → Fault
  | .word (.error f) => f
  | .number (.error f) _ => f
  | .string (.error f) _ => f
  | .word (.ok _) | .number (.ok _) _ | .string (.ok _) _ => .mismatch
  | .openBrace | .openBracket => .mismatch
  | .closeBrace | .closeBracket | .colon | .comma | .alien => .malformed

variable {σ : Type}

/-- Where reading goes on after a value. -/
def Place.next : Place → Mode σ
  | .member => .afterMember
  | .item position => .afterItem (position + 1)

/-- Reads the value of a field, or its first token. -/
def readValue (place : Place) (kind : Kind σ) (r : Reading σ) (t : Token) :
    Except Fault (Reading σ) :=
  let done (update : σ → σ) : Except Fault (Reading σ) :=
    .ok { r with mode := place.next, record := update r.record }
  match kind, t with
  | .flag set, .word (.ok .true) => done (set true)
  | .flag set, .word (.ok .false) => done (set false)
  | .natural bound set, .number (.ok (.natural n)) _ =>
    if n ≤ bound then done (set n) else .error .mismatch
  | .choice set?, .string (.ok word) _ =>
    match set? word with
    | some update => done update
    | none => .error .mismatch
  | .choice set?, .openBrace => .ok { r with mode := .choiceKey place set? }
  | .choice _, .string (.error f) _ => .error f
  | .choice _, _ => .error .malformed
  | _, t => .error (unexpected t)

/-- Where reading goes on after a skipped value. -/
def afterSkipped (r : Reading σ) : List Frame → Reading σ
  | [] => { r with mode := .afterMember }
  | frames => { r with mode := .skipping .afterValue frames }

/-- Skips one token of a value. -/
def skipToken (what : Skipping) (frames : List Frame) (r : Reading σ) (t : Token) :
    Except Fault (Reading σ) :=
  let go (what : Skipping) (frames : List Frame) : Except Fault (Reading σ) :=
    .ok { r with mode := .skipping what frames }
  let startValue : Except Fault (Reading σ) :=
    match t with
    | .openBrace => go .firstKey (.inObject :: frames)
    | .openBracket => go .firstItem (.inArray :: frames)
    | .word (.ok _) => .ok (afterSkipped r frames)
    | .word (.error f) => .error f
    | .number _ skip | .string _ skip => skip.map fun _ => afterSkipped r frames
    | _ => .error .malformed
  match what, t with
  | .value, _ => startValue
  | .firstItem, .closeBracket => .ok (afterSkipped r frames.tail)
  | .firstItem, _ => startValue
  | .firstKey, .closeBrace => .ok (afterSkipped r frames.tail)
  | .firstKey, .string _ skip | .key, .string _ skip => do
    let _ ← skip
    go .colon frames
  | .colon, .colon => go .value frames
  | .afterValue, .comma =>
    match frames with
    | .inArray :: _ => go .value frames
    | _ => go .key frames
  | .afterValue, .closeBracket =>
    if frames.head? = some .inArray then .ok (afterSkipped r frames.tail) else .error .malformed
  | .afterValue, .closeBrace =>
    if frames.head? = some .inObject then .ok (afterSkipped r frames.tail) else .error .malformed
  | _, _ => .error .malformed

/-- The end of an object: every required field has been read. -/
def finishObject (fields : List (FieldReader σ)) (r : Reading σ) : Except Fault (Reading σ) :=
  if fields.all fun f => !f.required || r.seen.contains f.name then
    .ok { r with mode := .finished }
  else .error .mismatch

/-- The end of an array that holds the first `count` fields. -/
def finishArray (fields : List (FieldReader σ)) (count : Nat) (r : Reading σ) :
    Except Fault (Reading σ) :=
  if (fields.drop count).all fun f => !f.required then .ok { r with mode := .finished }
  else .error .mismatch

/-- The item of an array at a position. -/
def readItem (fields : List (FieldReader σ)) (position : Nat) (r : Reading σ) (t : Token) :
    Except Fault (Reading σ) :=
  match fields[position]? with
  | some field => readValue (.item position) field.kind r t
  | none => .error .malformed

/-- The name of a member. A known one may come once. -/
def readKey (fields : List (FieldReader σ)) (r : Reading σ) (t : Token) :
    Except Fault (Reading σ) :=
  match t with
  | .string (.ok name) _ =>
    match fields.find? (·.name == name) with
    | none => .ok { r with mode := .colon none }
    | some field =>
      if r.seen.contains name then .error .mismatch
      else .ok { r with mode := .colon (some field), seen := name :: r.seen }
  | .string (.error f) _ => .error f
  | _ => .error .malformed

/-- Reads one token. -/
def step (fields : List (FieldReader σ)) (r : Reading σ) (t : Token) : Except Fault (Reading σ) :=
  match r.mode, t with
  | .start, .openBrace => .ok { r with mode := .firstKey }
  | .start, .openBracket => .ok { r with mode := .firstItem }
  | .start, t => .error (unexpected t)
  | .firstKey, .closeBrace => finishObject fields r
  | .firstKey, t => readKey fields r t
  | .key, t => readKey fields r t
  | .colon (some field), .colon => .ok { r with mode := .value .member field }
  | .colon none, .colon => .ok { r with mode := .skipping .value [] }
  | .colon _, _ => .error .malformed
  | .value place field, t => readValue place field.kind r t
  | .choiceKey place set?, .string (.ok word) _ =>
    match set? word with
    | some update => .ok { r with mode := .choiceColon place update }
    | none => .error .mismatch
  | .choiceKey .., t => .error (unexpected t)
  | .choiceColon place update, .colon => .ok { r with mode := .choiceNull place update }
  | .choiceColon .., _ => .error .malformed
  | .choiceNull place update, .word (.ok .null) =>
    .ok { r with mode := .choiceClose place update }
  | .choiceNull .., t => .error (unexpected t)
  | .choiceClose place update, .closeBrace =>
    .ok { r with mode := place.next, record := update r.record }
  | .choiceClose .., _ => .error .malformed
  | .skipping what frames, t => skipToken what frames r t
  | .afterMember, .comma => .ok { r with mode := .key }
  | .afterMember, .closeBrace => finishObject fields r
  | .afterMember, _ => .error .malformed
  | .firstItem, .closeBracket => finishArray fields 0 r
  | .firstItem, t => readItem fields 0 r t
  | .afterItem next, .closeBracket => finishArray fields next r
  | .afterItem next, .comma =>
    .ok { r with mode := if next < fields.length then .item next else .overfull }
  | .afterItem _, _ => .error .malformed
  | .item _, .closeBracket => .error .malformed
  | .item position, t => readItem fields position r t
  | .overfull, _ => .error .malformed
  | .finished, _ => .error .malformed

/-- The end of the text. -/
def Reading.atEnd (r : Reading σ) : Except Fault σ :=
  match r.mode with
  | .finished => .ok r.record
  | .overfull => .error .malformed
  | _ => .error .truncated

/-- Reads a record from a text, starting from the value `initial` for the fields that do not
occur. -/
def decode (fields : List (FieldReader σ)) (initial : σ) (text : String) : Except Fault σ := do
  let r ← (tokens text).foldlM (step fields) { mode := .start, seen := [], record := initial }
  r.atEnd

end SerialLine.Json
