import SerialLine.Toml.Expression

/-!
# SerialLine.Toml.Document — documents

A document is a sequence of entries, each on lines of its own: a header that opens a table, a
doubly bracketed header that opens one more of several, or a key with its value, which goes
into the table that was opened last.
-/

namespace SerialLine.Toml

/-- A document as far as it was read. -/
structure Document where
  members : Members := []
  /-- The path of the table that was opened last. -/
  header : List String := []

namespace Document

/-- Opens the table of a header. -/
def opened (d : Document) (next : Bool) (path : List String) (name : String) : Option Document := do
  let members ← if next then d.members.openNext? path name else d.members.openTable? path name
  return { members, header := path ++ [name] }

/-- Takes one entry off the front of a text and puts it into the document. -/
def readEntry (d : Document) : List Char → Option (Document × List Char)
  | '[' :: '[' :: rest => do
    let ((path, name), rest) ← readKey rest
    let rest ← after? [']', ']'] rest
    return (← d.opened true path name, ← lineRest? rest)
  | '[' :: rest => do
    let ((path, name), rest) ← readKey rest
    let rest ← after? [']'] rest
    return (← d.opened false path name, ← lineRest? rest)
  | cs => do
    let (((path, name), v), rest) ← readPair (readValue maxDepth) cs
    let members ← d.members.insertUnder? d.header path name v
    return ({ d with members }, ← lineRest? rest)

/-- Reads the entries of a text; `fuel` bounds their number. -/
def readEntries : (fuel : Nat) → Document → List Char → Option Document
  | 0, _, _ => none
  | fuel + 1, d, cs =>
    match skipLayout cs with
    | [] => some d
    | cs => do
      let (d, rest) ← d.readEntry cs
      readEntries fuel d rest

/-- Reads a document. A byte order mark in front is skipped; every entry takes a character. -/
def read? (text : String) : Option Members := do
  let cs := match text.toList with
    | '\uFEFF' :: cs => cs
    | cs => cs
  let d ← readEntries (cs.length + 1) {} cs
  return d.members

end Document

end SerialLine.Toml
