import SerialLine.Host.Path
import SerialLine.Errno

/-!
# SerialLine.Host.FileTree — files, directories and links

A file tree maps places, written as the names on the way from the root, to entries. A lookup
walks the components of a path, follows symbolic links, and fails as the operating system
would.

Permissions are left out: whoever asks may read and write. A regular file keeps what is written to
it, a device does not.
-/

namespace SerialLine

/-- A place in the tree: the names on the way from the root. -/
abbrev Place := List FileName

/-- What is found at a place. -/
inductive Entry where
  | file (contents : Bytes)
  | directory
  /-- A symbolic link. -/
  | link (target : Path)
  /-- A device that swallows what is written and is always at its end. -/
  | null
  /-- A terminal device, by number. -/
  | terminal (number : Nat)
deriving DecidableEq

/-- The entries of a file system. The root is always a directory. -/
structure FileTree where
  entries : List (Place × Entry)

namespace FileTree

/-- The entry at a place. -/
def entry? (t : FileTree) (place : Place) : Option Entry :=
  if place.isEmpty then some .directory else t.entries.lookup place

/-- Whether a place is a directory. -/
def isDirectory (t : FileTree) (place : Place) : Bool := t.entry? place == some .directory

/-- Puts an entry at a place. -/
def put (t : FileTree) (place : Place) (e : Entry) : FileTree :=
  ⟨(place, e) :: t.entries.filter (·.1 ≠ place)⟩

/-- Whether a place lies at or below another. -/
def within (top place : Place) : Bool := top.isPrefixOf place

/-- Removes a place and everything below it. -/
def remove (t : FileTree) (place : Place) : FileTree :=
  ⟨t.entries.filter fun e => !within place e.1⟩

/-- Moves a place and everything below it. -/
def move (t : FileTree) (source target : Place) : FileTree :=
  let moved := t.entries.filterMap fun e =>
    if within source e.1 then some (target ++ e.1.drop source.length, e.2) else none
  ⟨moved ++ ((t.remove source).remove target).entries⟩

/-- Makes the missing directories on the way to a place. -/
def putParents (t : FileTree) (place : Place) : FileTree :=
  (List.range place.length).foldl
    (fun t n => if (t.entry? (place.take n)).isNone then t.put (place.take n) .directory else t)
    t

/-- The files that every host has: the null device. -/
def standard : FileTree :=
  ⟨[([Bytes.ofText "dev"], .directory), ([Bytes.ofText "dev", Bytes.ofText "null"], .null),
    ([Bytes.ofText "tmp"], .directory)]⟩

/-! ## Looking paths up -/

/-- What a path is looked up for. -/
inductive Purpose where
  /-- For what it leads to. -/
  | reach
  /-- To write a file, which is made where its name is free. -/
  | writeFile
  /-- To make a directory. A link at the end is not followed. -/
  | makeDirectory
deriving DecidableEq

/-- Where a path leads. -/
inductive Target where
  /-- To an entry. -/
  | found (place : Place) (e : Entry)
  /-- To a name that a directory does not have. -/
  | free (place : Place)

/-- The longest name that a directory entry may have. -/
def maxName : Nat := 255

/-- The longest path that a call takes. -/
def maxPath : Nat := 4095

/-- The number of links that one lookup follows. -/
def maxLinks : Nat := 40

/-- Walks steps from a place. At most `links` links are followed. A slash behind the last name
asks for a directory, so no file can be written there, whatever the name leads to. -/
def walk (t : FileTree) (purpose : Purpose) (links : Nat) (at_ : Place) :
    List FileName → Except Errno Target
  | [] =>
    match t.entry? at_ with
    | some e => .ok (.found at_ e)
    | none => .error .ENOENT
  | name :: rest =>
    let isLast := rest.all (· = Path.stay)
    if !t.isDirectory at_ then .error .ENOTDIR
    else if name = Path.stay || name = Path.dot then t.walk purpose links at_ rest
    else if name = Path.dotDot then t.walk purpose links at_.dropLast rest
    else if purpose = .writeFile && isLast && !rest.isEmpty then .error .EISDIR
    else if name.length > maxName then .error .ENAMETOOLONG
    else
      let next := at_ ++ [name]
      match t.entry? next with
      | none => if isLast then .ok (.free next) else .error .ENOENT
      | some (.link target) =>
        if isLast && purpose = .makeDirectory then .ok (.found next (.link target))
        else
          match links with
          | 0 => .error .ELOOP
          | links + 1 =>
            let start := if target.isAbsolute then [] else at_
            t.walk purpose links start (target.steps ++ rest)
      | some _ => t.walk purpose links next rest
termination_by names => (links, names.length)

/-- Looks a path up from a working directory. -/
def lookup (t : FileTree) (cwd : Place) (purpose : Purpose) (p : Path) : Except Errno Target :=
  if p.bytes.isEmpty then .error .ENOENT
  else if p.bytes.length > maxPath then .error .ENAMETOOLONG
  else t.walk purpose maxLinks (if p.isAbsolute then [] else cwd) p.steps

/-- The entry that a path leads to. -/
def find (t : FileTree) (cwd : Place) (p : Path) : Except Errno (Place × Entry) := do
  match ← t.lookup cwd .reach p with
  | .found place e => return (place, e)
  | .free _ => throw .ENOENT

/-- Whether a path with no zero byte leads to an entry. -/
def present (t : FileTree) (cwd : Place) (p : Path) : Bool :=
  !p.bytes.contains 0 && (t.find cwd p).isOk

/-! ## Reading and writing -/

/-- The contents of the file at a path. -/
def readFile (t : FileTree) (cwd : Place) (p : Path) : Except Errno Bytes := do
  match (← t.find cwd p).2 with
  | .file contents => return contents
  | .directory => throw .EISDIR
  | _ => return []

/-- Writes a file, which is made if its name is free. -/
def writeFile (t : FileTree) (cwd : Place) (p : Path) (contents : Bytes) :
    Except Errno FileTree := do
  match ← t.lookup cwd .writeFile p with
  | .found _ .directory => throw .EISDIR
  | .found _ (.link _) => throw .ELOOP
  | .found place (.file _) => return t.put place (.file contents)
  | .found _ _ => return t
  | .free place => return t.put place (.file contents)

/-- Makes one directory. -/
def makeDirectory (t : FileTree) (cwd : Place) (p : Path) : Except Errno FileTree := do
  match ← t.lookup cwd .makeDirectory p with
  | .found .. => throw .EEXIST
  | .free place => return t.put place .directory

/-- Whether a path leads to a directory. -/
def leadsToDirectory (t : FileTree) (cwd : Place) (p : Path) : Bool :=
  match t.find cwd p with
  | .ok (_, .directory) => true
  | _ => false

/-- Makes a directory, unless the path leads to one already. -/
def ensureDirectory (t : FileTree) (cwd : Place) (p : Path) : Except Errno FileTree :=
  match t.makeDirectory cwd p with
  | .ok t => .ok t
  | .error code => if t.leadsToDirectory cwd p then .ok t else .error code

/-- The tree with one directory made. The empty path is the working directory. -/
def ensured (t : FileTree) (cwd : Place) (p : Path) : Except Errno Unit × FileTree :=
  if p.bytes.isEmpty then (.ok (), t)
  else
    match t.ensureDirectory cwd p with
    | .ok t => (.ok (), t)
    | .error code => (.error code, t)

/-- Makes a directory and up to `depth` missing ones above it. Those that were made stay where
a later one fails. -/
def makeDirectories (t : FileTree) (cwd : Place) :
    (depth : Nat) → Path → Except Errno Unit × FileTree
  | 0, p => t.ensured cwd p
  | depth + 1, p =>
    match t.makeDirectory cwd p, p.parent? with
    | .error .ENOENT, some above =>
      match t.makeDirectories cwd depth above with
      | (.ok (), t) => t.ensured cwd p
      | failed => failed
    | _, _ => t.ensured cwd p

end FileTree

end SerialLine
