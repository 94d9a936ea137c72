import LocalCluster.Container.Fault
import LocalCluster.Files.Path

/-!
# Trees of files

A small model of a file system: directories, and files that are private to their owner or shared.
Paths with a leading slash begin at the root, all others in the working directory.

* `Tree.makeDirs`: makes a directory and those above it that are missing.
* `Tree.write`: puts bytes into a file; a new file is shared, and an old one keeps who may read it.
* `Tree.restrict`: makes a file private.
* `Tree.contents`: what lies in the working directory.
-/

namespace LocalCluster.Files

open LocalCluster.Container LocalCluster.Text

/-- What stands at a place of a tree. -/
inductive Item where
  | directory
  | file (isPrivate : Bool) (contents : Bytes)
  deriving DecidableEq, Repr

/-- A place in a tree: the names on the way to it. -/
abbrev Place := List String

/-- The place of the working directory. -/
def workPlace : Place := ["work"]

/-- The items below the root, each with its place. -/
structure Tree where
  items : List (Place × Item) := [(workPlace, .directory)]
  deriving DecidableEq, Repr

namespace Tree

/-- What stands at a place; the root is a directory. -/
def find? (t : Tree) (place : Place) : Option Item :=
  if place.isEmpty then some .directory else t.items.lookup place

/-- The item at a place put there or replaced. -/
def put (t : Tree) (place : Place) (item : Item) : Tree :=
  if t.items.any (·.1 == place) then
    ⟨t.items.map fun e => if e.1 == place then (place, item) else e⟩
  else ⟨t.items ++ [(place, item)]⟩

/-! ## Finding places -/

/-- One step of a walk: the place that `name` leads to from a directory. -/
def step (place : Place) (name : String) : Place :=
  if name = "." ∨ name = "" then place
  else if name = ".." then place.dropLast
  else place ++ [name]

/-- A walk along names, each of which must lead on from a directory. -/
def walk (t : Tree) (place : Place) : List String → Except IoFault Place
  | [] => .ok place
  | name :: rest =>
    match t.find? place with
    | some .directory => walk t (step place name) rest
    | some (.file ..) => .error .notADirectory
    | none => .error .notFound

/-- The names in a path, without the empty ones. -/
def names (path : String) : List String :=
  ((path.toList.splitOn '/').map String.ofList).filter (· ≠ "")

/-- The place at which a path begins. -/
def origin (path : String) : Place := if path.toList.head? = some '/' then [] else workPlace

/-- What is wrong with the characters of a path: there must be some, and none of them zero. -/
def spellingFault? (path : String) : Option IoFault :=
  if path = "" then some .notFound
  else if path.toList.contains '\x00' then some .zeroInPath
  else none

/-- The directory that holds the last name of a path. -/
def home (t : Tree) (path : String) : Except IoFault Place :=
  match spellingFault? path with
  | some fault => .error fault
  | none =>
    match t.walk (origin path) (names path).dropLast with
    | .error fault => .error fault
    | .ok place =>
      match t.find? place with
      | some .directory => .ok place
      | some (.file ..) => .error .notADirectory
      | none => .error .notFound

/-- The place that a path leads to, and what stands there. -/
def resolve (t : Tree) (path : String) : Except IoFault (Place × Item) :=
  match spellingFault? path with
  | some fault => .error fault
  | none =>
    match t.walk (origin path) (names path) with
    | .error fault => .error fault
    | .ok place =>
      match t.find? place with
      | some item => .ok (place, item)
      | none => .error .notFound

/-- The path leads to a directory. -/
def isDirectory (t : Tree) (path : String) : Bool :=
  match t.resolve path with
  | .ok (_, .directory) => true
  | _ => false

/-! ## Changes -/

/-- Makes one directory in a directory that is there. -/
def makeDir (t : Tree) (path : String) : Except IoFault Tree :=
  match t.home path with
  | .error fault => .error fault
  | .ok place =>
    let here := step place ((names path).getLastD ".")
    match t.find? here with
    | some _ => .error .alreadyExists
    | none => .ok (t.put here .directory)

/-- Makes a directory and those above it that are missing, going up at most `depth` times. -/
def makeDirsUp : Nat → Tree → String → Tree × Except IoFault Unit
  | 0, t, _ => (t, .error .notFound)
  | depth + 1, t, path =>
    if path = "" then (t, .ok ())
    else match t.makeDir path with
      | .ok made => (made, .ok ())
      | .error .notFound =>
        match parentPath? path with
        | none => (t, .error (.other "failed to create whole tree"))
        | some parent =>
          match makeDirsUp depth t parent with
          | (t, .error fault) => (t, .error fault)
          | (t, .ok ()) => settle t path (t.makeDir path)
      | .error fault => settle t path (.error fault)
where
  /-- A directory that is there already need not be made. -/
  settle (t : Tree) (path : String) : Except IoFault Tree → Tree × Except IoFault Unit
    | .ok made => (made, .ok ())
    | .error fault => (t, if t.isDirectory path then .ok () else .error fault)

/-- Makes a directory and those above it that are missing. -/
def makeDirs (t : Tree) (path : String) : Tree × Except IoFault Unit :=
  makeDirsUp (path.length + 1) t path

/-- The path says that it leads to a directory. -/
def namesDirectory (path : String) : Bool :=
  path.toList.getLast? = some '/' || (names path).getLast? = some "." ||
    (names path).getLast? = some ".."

/-- Puts bytes into a file. -/
def write (t : Tree) (path : String) (contents : Bytes) : Tree × Except IoFault Unit :=
  match t.home path with
  | .error fault => (t, .error fault)
  | .ok place =>
    if namesDirectory path then (t, .error .isADirectory)
    else
      let here := step place ((names path).getLastD ".")
      match t.find? here with
      | some .directory => (t, .error .isADirectory)
      | some (.file isPrivate _) => (t.put here (.file isPrivate contents), .ok ())
      | none => (t.put here (.file false contents), .ok ())

/-- Makes a file private to its owner. -/
def restrict (t : Tree) (path : String) : Tree × Except IoFault Unit :=
  match t.resolve path with
  | .error fault => (t, .error fault)
  | .ok (place, .file _ contents) => (t.put place (.file true contents), .ok ())
  | .ok (_, .directory) => (t, .ok ())

/-- The text of a place; directories end in a slash. -/
def display (place : Place) : Item → String
  | .directory => join "/" place ++ "/"
  | .file .. => join "/" place

/-- What lies in the working directory, each item under its path from there. -/
def contents (t : Tree) : List (String × Item) :=
  t.items.filterMap fun (place, item) =>
    match stripPrefix workPlace place with
    | some [] | none => none
    | some rest => some (display rest item, item)

end Tree

end LocalCluster.Files
