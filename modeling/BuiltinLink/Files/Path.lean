import BuiltinLink.Text.Utf8

/-!
Paths. A path is a sequence of bytes that need not be a text. Paths name the same place on any
system when their components agree: repeated and trailing slashes and inner dots do not count.
-/

namespace BuiltinLink

open Text

/-- A path of a file or directory. -/
structure Path where
  bytes : Bytes
deriving DecidableEq, Repr

namespace Path

/-- The separator of names, `/`. -/
def slash : UInt8 := 47

/-- The name of a directory within itself. -/
def dot : Bytes := [46]

/-- The name of the parent within a directory. -/
def dotdot : Bytes := [46, 46]

/-- The path spelt by a text. -/
def ofString (s : String) : Path :=
  ⟨encode s.toList⟩

/-- The path as a text, if it is one. -/
def text? (p : Path) : Option String :=
  (decode? p.bytes).map String.ofList

/-- The path for people to read. -/
def display (p : Path) : String :=
  String.ofList (decodeLossy p.bytes)

/-- The stretches between slashes, empty ones included. -/
def stretches : Bytes → List Bytes
  | [] => [[]]
  | b :: r =>
    if b = slash then [] :: stretches r
    else
      match stretches r with
      | [] => [[b]]
      | p :: ps => (b :: p) :: ps

/-- The names along the path, dots included. -/
def names (p : Path) : List Bytes :=
  (stretches p.bytes).filter (· ≠ [])

/-- Whether the path starts at the root of all directories. -/
def isAbsolute (p : Path) : Bool :=
  p.bytes.head? == some slash

/-- Whether the path ends in a slash. -/
def endsInSlash (p : Path) : Bool :=
  p.bytes.getLast? == some slash

/-- A step along a path. -/
inductive Component where
  | root
  | here
  | up
  | name (bs : Bytes)
deriving DecidableEq, Repr

/-- The component that a name stands for; a dot stands for none. -/
def component? (name : Bytes) : Option Component :=
  if name = dot then none
  else if name = dotdot then some .up
  else some (.name name)

/-- The steps along the path. A dot counts only at the beginning of a relative path. -/
def components (p : Path) : List Component :=
  (if p.isAbsolute then [.root] else if p.names.head? = some dot then [.here] else []) ++
    p.names.filterMap component?

/-- The bytes of a component. -/
def Component.bytes : Component → Bytes
  | root => []
  | here => dot
  | up => dotdot
  | name bs => bs

/-- A path with the given steps. -/
def ofComponents : List Component → Path
  | [.root] => ⟨[slash]⟩
  | cs => ⟨[slash].intercalate (cs.map Component.bytes)⟩

/-- The path of a name within a directory: a slash comes between them unless the directory is empty
or ends in one. -/
def join (dir : Path) (name : Bytes) : Path :=
  ⟨dir.bytes ++ (if dir.bytes = [] ∨ dir.endsInSlash then [] else [slash]) ++ name⟩

end Path

end BuiltinLink
