/-
Files held in memory, in directories that hold one another.

* `Entry.add`: puts something at a path and makes the directories on the way.
* `Entry.read`: reads a file by its name, step by step from the working directory or from the root.
-/
import LineRepl.File

namespace LineRepl

/-- A file or a directory. -/
inductive Entry where
  | file (bytes : List UInt8)
  | directory (entries : List (String × Entry))
  deriving Repr

namespace Entry

/-- The directory that holds nothing. -/
def empty : Entry := .directory []

/-- What a file or directory holds by names. -/
def entries : Entry → List (String × Entry)
  | .file _ => []
  | .directory entries => entries

/-- Changes what is under a name, where nothing is there yet taken as the empty directory. -/
def changeUnder (here : Entry) (name : String) (change : Entry → Entry) : Entry :=
  let below := (here.entries.lookup name).getD empty
  .directory ((name, change below) :: here.entries.filter (·.1 != name))

/-- Puts something at a path, in place of what was there; directories on the way are made. -/
def add (here : Entry) (path : List String) (leaf : Entry) : Entry :=
  match path with
  | [] => leaf
  | name :: path => here.changeUnder name (·.add path leaf)

/-- Makes the directory of a path, if there is none. -/
def addDirectory (here : Entry) (path : List String) : Entry :=
  match path with
  | [] => .directory here.entries
  | name :: path => here.changeUnder name (·.addDirectory path)

/-- A place in a tree: what is there and what is above, the root last. -/
structure Place where
  here : Entry
  above : List Entry

/-- One step from a place: nothing or a point stays, two points go up, and any other name goes down.
The root is above itself. -/
def Place.step (p : Place) (name : String) : Except FileError Place :=
  match p.here with
  | .file _ => .error .notDirectory
  | .directory entries =>
    if name = "" ∨ name = "." then .ok p
    else if name = ".." then
      match p.above with
      | [] => .ok p
      | up :: above => .ok ⟨up, above⟩
    else
      match entries.lookup name with
      | none => .error .missing
      | some below => .ok ⟨below, p.here :: p.above⟩

/-- Several steps, the first error ends them. -/
def Place.walk (p : Place) (names : List String) : Except FileError Place :=
  names.foldlM Place.step p

/-- The names in a path, which slashes separate. -/
def pathNames (path : String) : List String := path.splitOn "/"

/-- Reads a file by its path, from the root if the path starts with a slash and from the working
directory if not. -/
def read (root : Entry) (workingDirectory : List String) : Files := fun path => do
  if path.isEmpty then throw .missing
  let start ← if path.toList.head? = some '/' then pure ⟨root, []⟩
    else Place.walk ⟨root, []⟩ workingDirectory
  match (← start.walk (pathNames path)).here with
  | .file bytes => pure bytes
  | .directory _ => throw .isDirectory

end Entry

end LineRepl
