import BuiltinLink.Files.System

/-!
The files and directories below a working directory, and what a path leads to. All paths are
relative to the working directory; a path that leaves it finds nothing there.
-/

namespace BuiltinLink

open Text

/-- A file with its contents, or a directory. -/
inductive Node where
  | file (contents : Bytes)
  | directory
deriving DecidableEq, Repr

/-- Files and directories by the names that lead to them; the working directory itself is always
there. -/
structure FileTree where
  nodes : List (List Bytes × Node) := []
deriving DecidableEq, Repr

/-- A place that a path may lead to. -/
inductive Place where
  /-- Reached from the working directory by these names. -/
  | inside (names : List Bytes)
  /-- A directory beyond the working directory. -/
  | beyond
deriving DecidableEq, Repr

namespace FileTree

def maxName : Nat := 255

def maxPath : Nat := 4095

/-- What stands at a place. -/
def node? (t : FileTree) : Place → Option Node
  | .inside [] | .beyond => some .directory
  | .inside names => t.nodes.lookup names

/-- Puts a node at a place, instead of what stood there. -/
def put (t : FileTree) (names : List Bytes) (n : Node) : FileTree :=
  ⟨(names, n) :: t.nodes.filter fun e => e.1 ≠ names⟩

/-- Takes away what stands at a place. -/
def remove (t : FileTree) (names : List Bytes) : FileTree :=
  ⟨t.nodes.filter fun e => e.1 ≠ names⟩

/-- The place of a name within a place, whether or not anything stands there. -/
def placeOf (p : Place) (name : Bytes) : Place :=
  if name = Path.dot then p
  else
    match p with
    | .beyond => .beyond
    | .inside names =>
      if name = Path.dotdot then if names = [] then .beyond else .inside names.dropLast
      else .inside (names ++ [name])

/-- Steps from a directory to something in it. -/
def enter (t : FileTree) (p : Place) (name : Bytes) : Except SystemError Place :=
  if t.node? p ≠ some .directory then .error .notDirectory
  else if name = Path.dot ∨ name = Path.dotdot then .ok (placeOf p name)
  else if maxName < name.length then .error .nameTooLong
  else
    match p with
    | .beyond => .error .noEntry
    | .inside _ => if t.node? (placeOf p name) = none then .error .noEntry else .ok (placeOf p name)

/-- Follows names from a place. -/
def follow (t : FileTree) (p : Place) (names : List Bytes) : Except SystemError Place :=
  names.foldlM t.enter p

/-- Where a path starts. -/
def start (p : Path) : Place :=
  if p.isAbsolute then .beyond else .inside []

/-- Refuses paths that no system call takes. -/
def checkPath (p : Path) : Except FileError Unit :=
  if p.bytes.contains 0 then .error .zeroInPath
  else if p.bytes = [] then .error (.system .noEntry)
  else if maxPath < p.bytes.length then .error (.system .nameTooLong)
  else .ok ()

/-- The place a path leads to; behind a slash at its end there must be a directory. -/
def locate (t : FileTree) (p : Path) : Except FileError Place := do
  checkPath p
  let place ← (t.follow (start p) p.names).mapError .system
  if p.endsInSlash ∧ t.node? place ≠ some .directory then throw (.system .notDirectory)
  return place

/-- Whether a path leads to a directory. -/
def isDirectory (t : FileTree) (p : Path) : Bool :=
  match t.locate p with
  | .ok place => t.node? place = some .directory
  | .error _ => false

def read (t : FileTree) (p : Path) : Except FileError Bytes := do
  match t.node? (← t.locate p) with
  | some (.file contents) => return contents
  | some .directory => throw (.system .isDirectory)
  | none => throw (.system .noEntry)

instance : FileSystem FileTree where
  read := read

/-- The directory that the last name of a path is looked up in, and that name; `none` if the path
ends in a dot or two, or is the root. -/
def parent (t : FileTree) (p : Path) : Except FileError (Option (Place × Bytes)) := do
  checkPath p
  match p.names.getLast? with
  | none => return none
  | some name =>
    let dir ← (t.follow (start p) p.names.dropLast).mapError .system
    if t.node? dir ≠ some .directory then throw (.system .notDirectory)
    if name = Path.dot ∨ name = Path.dotdot then return none
    if maxName < name.length then throw (.system .nameTooLong)
    return some (dir, name)

/-- Writes a file, and creates it if need be. -/
def write (t : FileTree) (p : Path) (contents : Bytes) : Except FileError FileTree := do
  match ← t.parent p with
  | none => throw (.system .isDirectory)
  | some (dir, name) =>
    if p.endsInSlash then throw (.system .isDirectory)
    match placeOf dir name with
    | .beyond => throw (.system .denied)
    | .inside names =>
      if t.nodes.lookup names = some .directory then throw (.system .isDirectory)
      return t.put names (.file contents)

def delete (t : FileTree) (p : Path) : Except FileError FileTree := do
  match ← t.parent p with
  | none => throw (.system .isDirectory)
  | some (dir, name) =>
    match placeOf dir name with
    | .beyond => throw (.system .noEntry)
    | .inside names =>
      match t.nodes.lookup names with
      | none => throw (.system .noEntry)
      | some .directory => throw (.system .isDirectory)
      | some (.file _) =>
        if p.endsInSlash then throw (.system .notDirectory)
        return t.remove names

def makeDirectory (t : FileTree) (p : Path) : Except FileError FileTree := do
  match ← t.parent p with
  | none => throw (.system .fileExists)
  | some (dir, name) =>
    match placeOf dir name with
    | .beyond => throw (.system .denied)
    | .inside names =>
      if t.nodes.lookup names ≠ none then throw (.system .fileExists)
      return t.put names .directory

/-- The outcome of making directories: those made before a failure stay. -/
abbrev Made := FileTree × Except FileError Unit

/-- Creates a directory; if its parent is missing, `above` makes the parent first. A failure does
not count if the directory is there. After its parent was missing, a directory on the way to another
counts as there whatever bears its name. -/
def makeBelow (t : FileTree) (p : Path) (onTheWay : Bool) (above : FileTree → Made) : Made :=
  match t.makeDirectory p with
  | .ok t' => (t', .ok ())
  | .error e =>
    if e = .system .noEntry then
      match above t with
      | (t', .error e') => (t', .error e')
      | (t', .ok ()) =>
        match t'.makeDirectory p with
        | .ok t'' => (t'', .ok ())
        | .error e' =>
          (t', if onTheWay ∧ e' = .system .fileExists ∨ t'.isDirectory p then .ok ()
            else .error e')
    else (t, if t.isDirectory p then .ok () else .error e)

/-- Makes the directory at the first `n` of some steps, and what is missing of the way there. -/
def makeFirst (cs : List Path.Component) : Nat → FileTree → Made
  | 0, t => (t, .ok ())
  | n + 1, t => t.makeBelow (.ofComponents (cs.take (n + 1))) true (makeFirst cs n)

/-- Makes a directory and what is missing of the way there. The empty path asks for nothing. -/
def makeAll (t : FileTree) (p : Path) : Made :=
  if p.components = [] then (t, .ok ())
  else t.makeBelow p false (makeFirst p.components (p.components.length - 1))

end FileTree

end BuiltinLink
