import TileComposite.Failure

/-! Files, and the paths that lead to them from a directory. A path is followed step
by step, so of several faults the leftmost is met. No directory but the current one
and those above it is known. -/
namespace TileComposite

/-- What is known about files: the text at a path, or why it cannot be read. -/
abbrev Files := String → Except Failure String

/-- A directory: some levels above the current one, or the root of all. -/
inductive Directory where
  | above (levels : Nat)
  | root
  deriving DecidableEq

def Directory.parent : Directory → Directory
  | above levels => above (levels + 1)
  | root => root

/-- A path: where it starts, the names on the way, and whether it ends in a slash. -/
structure Path where
  start : Directory
  names : List String
  slashed : Bool

namespace Path

/-- Longest path and longest name, in bytes. -/
def maxBytes : Nat := 4095

def maxNameBytes : Nat := 255

/-- Splits a path at its slashes. Slashes in a row count as one. -/
def read (text : String) : Path where
  start := if text.toList.head? = some '/' then .root else .above 0
  names := (text.splitOn "/").filter (· ≠ "")
  slashed := text.toList.getLast? = some '/'

/-- The names before the last one. -/
def way (p : Path) : List String := p.names.dropLast

end Path

/-- The files known so far, by directory and name. -/
structure Folder where
  files : List ((Directory × String) × String) := []

namespace Folder

/-- The directory at the end of a way. -/
def follow (f : Folder) (d : Directory) : List String → Except FileFault Directory
  | [] => .ok d
  | name :: names =>
    if name = "." then follow f d names
    else if name = ".." then follow f d.parent names
    else if Path.maxNameBytes < name.utf8ByteSize then .error .nameTooLong
    else if (f.files.lookup (d, name)).isSome then .error .notDirectory
    else .error .missing

/-- The directory and the name that a path leads to; a path to a directory has no
name. -/
def locate (f : Folder) (text : String) : Except FileFault (Directory × Option String) := do
  let p := Path.read text
  if text.isEmpty then throw .missing
  if Path.maxBytes < text.utf8ByteSize then throw .nameTooLong
  let d ← f.follow p.start p.way
  match p.names.getLast? with
  | none | some "." | some ".." => return (d, none)
  | some name => return (d, some name)

def checkName (name : String) : Except FileFault Unit :=
  if Path.maxNameBytes < name.utf8ByteSize then .error .nameTooLong else .ok ()

/-- A path to nowhere. -/
def failWith (path : String) (r : Except FileFault α) : Except Failure α :=
  if path.toList.contains '\x00' then .error .nulInPath
  else r.mapError (.unreadableFile · path)

/-- Writes a file by its path. A name before a slash could be a directory's only. -/
def write (f : Folder) (path text : String) : Except Failure Folder :=
  failWith path do
    match ← f.locate path with
    | (_, none) => throw .directory
    | (d, some name) =>
      if (Path.read path).slashed then throw .directory
      checkName name
      return ⟨((d, name), text) :: f.files.filter (·.1 ≠ (d, name))⟩

/-- Reads a file by its path. -/
def read (f : Folder) (path : String) : Except Failure String :=
  failWith path do
    match ← f.locate path with
    | (_, none) => throw .directory
    | (d, some name) =>
      checkName name
      match f.files.lookup (d, name) with
      | none => throw .missing
      | some text => if (Path.read path).slashed then throw .notDirectory else return text

end Folder
end TileComposite
