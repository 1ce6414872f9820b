/-!
# SerialLine.Command.Words — switches and operands

A command line is a list of words. Words that start with a hyphen set switches: two hyphens
stand before the name of one switch, a single hyphen before the letters of several. All other
words are operands, and so is every word after one that is two hyphens alone.

A switch that takes a value finds it behind an equals sign, or right behind its letter, or in
the next word, which must not itself look like a switch. A switch is set once at most. A value
that stood in a word of its own is looked at only when the next switch or operand comes, or at
the end.
-/

namespace SerialLine.Command

/-- Why there is no command to run. -/
inductive Halt where
  /-- Help was asked for. -/
  | help
  /-- The version was asked for. -/
  | version
  /-- The words make no command. -/
  | misuse
deriving DecidableEq, Repr

/-- What a switch does to the arguments of a command. -/
inductive Effect (σ : Type) where
  | halt (h : Halt)
  | mark (set : σ → σ)
  | value (read : String → Option (σ → σ))

/-- A switch. -/
structure Switch (σ : Type) where
  letter : Char
  name : String
  effect : Effect σ

/-- The switches and the operands of a command; every operand must be given. -/
structure Form (σ : Type) where
  switches : List (Switch σ)
  operands : List (String → Option (σ → σ)) := []

/-- The words of a command, as far as they have been read. -/
structure Reading (σ : Type) where
  arguments : σ
  /-- The letters of the switches that were set. -/
  given : List Char := []
  /-- A switch whose value is the next word. -/
  awaiting? : Option (Switch σ) := none
  /-- A switch with the word that is its value, not yet looked at. -/
  held? : Option (Switch σ × String) := none
  /-- The operands still to come. -/
  operands : List (String → Option (σ → σ))
  /-- Whether all further words are operands. -/
  literal : Bool := false

variable {σ : Type}

namespace Reading

/-- Sets a switch. -/
def accept (s : Switch σ) (set : σ → σ) (r : Reading σ) : Except Halt (Reading σ) :=
  if r.given.contains s.letter then .error .misuse
  else .ok { r with arguments := set r.arguments, given := s.letter :: r.given }

/-- Sets a switch to a value. -/
def acceptValue (s : Switch σ) (text : String) (r : Reading σ) : Except Halt (Reading σ) :=
  match s.effect with
  | .value read =>
    match read text with
    | some set => r.accept s set
    | none => .error .misuse
  | _ => .error .misuse

/-- Looks at the value that is held. A value that is still to come makes no sense here. -/
def flush (r : Reading σ) : Except Halt (Reading σ) :=
  if r.awaiting?.isSome then .error .misuse
  else
    match r.held? with
    | some (s, text) => acceptValue s text { r with held? := none }
    | none => .ok r

/-- Meets a switch, with the value that is attached to it. -/
def meet (s : Switch σ) (attached? : Option String) (r : Reading σ) : Except Halt (Reading σ) :=
  match s.effect, attached? with
  | .value _, some text => do acceptValue s text (← r.flush)
  | .value _, none => do return { ← r.flush with awaiting? := some s }
  | _, some _ => .error .misuse
  | .halt h, none => do
    let _ ← r.flush
    throw h
  | .mark set, none => do accept s set (← r.flush)

/-- Meets an operand. -/
def operand (word : String) (r : Reading σ) : Except Halt (Reading σ) := do
  let r ← r.flush
  match r.operands with
  | [] => throw .misuse
  | read :: operands =>
    match read word with
    | some set => return { r with arguments := set r.arguments, operands }
    | none => throw .misuse

/-- The arguments, once all words have been read. -/
def finish (r : Reading σ) : Except Halt σ := do
  let r ← r.flush
  if r.operands.isEmpty then return r.arguments else throw .misuse

end Reading

namespace Form

/-- The start of reading. -/
def start (f : Form σ) (arguments : σ) : Reading σ := { arguments, operands := f.operands }

/-- Reads what follows two hyphens. -/
def readName (f : Form σ) (text : List Char) (r : Reading σ) : Except Halt (Reading σ) :=
  let name := text.takeWhile (· ≠ '=')
  let attached? := match text.dropWhile (· ≠ '=') with
    | [] => none
    | _ :: value => some (String.ofList value)
  match f.switches.find? (·.name.toList = name) with
  | some s => r.meet s attached?
  | none => .error .misuse

/-- A value right behind a letter; an equals sign may stand between them. -/
def attachedTo : List Char → Option String
  | [] => none
  | '=' :: value => some (String.ofList value)
  | value => some (String.ofList value)

/-- Reads what follows a single hyphen. -/
def readLetters (f : Form σ) : List Char → Reading σ → Except Halt (Reading σ)
  | [], r => .ok r
  | letter :: rest, r =>
    match f.switches.find? (·.letter = letter) with
    | none => .error .misuse
    | some s =>
      match s.effect with
      | .value _ => r.meet s (attachedTo rest)
      | _ => do readLetters f rest (← r.meet s none)

/-- Reads one word. -/
def readWord (f : Form σ) (word : String) (r : Reading σ) : Except Halt (Reading σ) :=
  if r.literal then r.operand word
  else
    match word.toList with
    | ['-', '-'] => if r.awaiting?.isSome then .error .misuse else .ok { r with literal := true }
    | '-' :: '-' :: text => f.readName text r
    | '-' :: letter :: rest => f.readLetters (letter :: rest) r
    | _ =>
      match r.awaiting? with
      | some s => .ok { r with awaiting? := none, held? := some (s, word) }
      | none => r.operand word

/-- Reads words up to the first that names a command, where a switch does not take it as its
value; gives that word and those after it as well. -/
def readUpTo (f : Form σ) (isCommand : String → Bool) :
    List String → Reading σ → Except Halt (Reading σ × Option (String × List String))
  | [], r => .ok (r, none)
  | word :: rest, r =>
    if !r.literal && r.awaiting?.isNone && isCommand word then .ok (r, some (word, rest))
    else do readUpTo f isCommand rest (← f.readWord word r)

/-- Reads all words. -/
def readAll (f : Form σ) (words : List String) (arguments : σ) : Except Halt σ := do
  let (r, _) ← f.readUpTo (fun _ => false) words (f.start arguments)
  r.finish

end Form

end SerialLine.Command
