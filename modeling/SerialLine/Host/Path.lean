import SerialLine.Text.Utf8

/-!
# SerialLine.Host.Path — paths

A path is a text of bytes whose components are separated by slashes. Repeated slashes and
components of one dot change nothing, except for a dot at the start, which keeps a path apart
from the one without it.
-/

namespace SerialLine

/-- The name of a directory entry. -/
abbrev FileName := Bytes

/-- A path as it was written. -/
structure Path where
  bytes : Bytes
deriving DecidableEq, Repr

namespace Path

/-- The byte that separates components. -/
def slash : UInt8 := 0x2F

/-- The component that stands for the directory itself. -/
def dot : FileName := [0x2E]

/-- The component that stands for the directory above. -/
def dotDot : FileName := [0x2E, 0x2E]

/-- The step that a slash at the end of a path asks for: to stay where one is, which must be a
directory. No component has this name. -/
def stay : FileName := []

/-- A path from a text. -/
def ofText (s : String) : Path := ⟨Bytes.ofText s⟩

/-- The path as a text, with replacement characters for what is not UTF-8. -/
def display (p : Path) : String := Utf8.decodeLossy p.bytes

/-- Whether the path starts at the root. -/
def isAbsolute (p : Path) : Bool := p.bytes.head? == some slash

/-- The stretches between slashes, empty ones included. -/
def splitSlashes (bs : Bytes) : List FileName :=
  bs.foldr
    (fun b parts =>
      if b = slash then [] :: parts
      else
        match parts with
        | part :: rest => (b :: part) :: rest
        | [] => [[b]])
    [[]]

/-- The steps of a lookup: the components, and one more for a slash at the end. -/
def steps (p : Path) : List FileName :=
  let names := (splitSlashes p.bytes).filter (!·.isEmpty)
  if p.bytes.getLast? = some slash then names ++ [stay] else names

/-- The components by which two paths are compared: a dot counts only at the start of a path
that does not start at the root. -/
def components (p : Path) : List FileName :=
  let names := (splitSlashes p.bytes).filter (!·.isEmpty)
  match names with
  | first :: rest =>
    let rest := rest.filter (· ≠ dot)
    if first = dot && p.isAbsolute then rest else first :: rest
  | [] => []

/-- Paths are the same when they start alike and have the same components. -/
def same (a b : Path) : Bool :=
  a.isAbsolute == b.isAbsolute && a.components == b.components

/-- The path with one more component, or the second path where that starts at the root. -/
def join (base child : Path) : Path :=
  if child.isAbsolute then child
  else if base.bytes.isEmpty then child
  else if base.bytes.getLast? = some slash then ⟨base.bytes ++ child.bytes⟩
  else ⟨base.bytes ++ slash :: child.bytes⟩

/-- The path made of components. -/
def ofComponents (absolute : Bool) (names : List FileName) : Path :=
  ⟨(if absolute then [slash] else []) ++ [slash].intercalate names⟩

/-- The path without its last component; the root and the empty path have none. -/
def parent? (p : Path) : Option Path :=
  match p.components with
  | [] => none
  | names => some (ofComponents p.isAbsolute names.dropLast)

end Path

end SerialLine
