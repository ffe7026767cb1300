import BuiltinLink.Toml.Value

/-!
How the lines of a TOML document build its tables. A key, plain or dotted, is given a value once; a
table gets a header of its own once; what was written between braces or brackets is closed.
-/

namespace BuiltinLink.Toml

/-- A path of keys and the value given to it. -/
structure Assignment where
  path : List String
  key : String
  value : Value

namespace Entries

/-- Gives a key another value, in its place. -/
def replace (es : Entries) (k : String) (v : Value) : Entries :=
  es.map fun e => if e.1 = k then (k, v) else e

def erase (es : Entries) (k : String) : Entries :=
  es.filter fun e => e.1 ≠ k

/-- Changes the table at the end of a path that starts in a table of the given kind. Tables that the
path is the first to name come to be as kind `fresh`; `enters` says which tables it may pass. A path
passes through the last member of an array of tables. -/
def alter (fresh : TableKind) (enters : TableKind → Bool)
    (change : TableKind → Entries → Option Entries) :
    List String → TableKind → Entries → Option Entries
  | [], kind, es => change kind es
  | k :: ks, _, es =>
    match es.lookup k with
    | none => do
      let sub ← alter fresh enters change ks fresh []
      return es ++ [(k, .table fresh sub)]
    | some (.table kind sub) =>
      if enters kind then do
        let sub ← alter fresh enters change ks kind sub
        return es.replace k (.table kind sub)
      else none
    | some (.array .headed items) =>
      match items.getLast? with
      | some (.table kind sub) => do
        let sub ← alter fresh enters change ks kind sub
        return es.replace k (.array .headed (items.dropLast ++ [.table kind sub]))
      | _ => none
    | some _ => none

/-- Whether a dotted key may pass a table: no header and no braces have closed it. -/
def dottedEnters : TableKind → Bool
  | .implied | .dotted => true
  | .headed | .inline => false

/-- Whether the path of a header may pass a table. -/
def headerEnters : TableKind → Bool
  | .inline => false
  | _ => true

/-- Adds an assignment to a table of the given kind. The table that receives the value must be the
table itself, for a plain key, and one that dotted keys made, for a dotted key. -/
def assign (kind : TableKind) (es : Entries) (a : Assignment) : Option Entries :=
  alter .dotted dottedEnters
    (fun kind es =>
      if (kind = .dotted) = (a.path ≠ []) ∧ es.lookup a.key = none then
        some (es ++ [(a.key, a.value)])
      else none)
    a.path kind es

def assignAll (kind : TableKind) (es : Entries) (l : List Assignment) : Option Entries :=
  l.foldlM (assign kind) es

end Entries

/-- The table between braces. -/
def inlineTable? (l : List Assignment) : Option Value :=
  (Entries.assignAll .inline [] l).map (.table .inline)

/-- A header: the path of its table, and whether it begins a new member of an array of tables. -/
structure Header where
  path : List String
  key : String
  member : Bool

/-- A header with the assignments below it. -/
structure Section where
  header : Header
  body : List Assignment

/-- Adds a section to the root. A table that was only implied so far keeps its entries and moves to
the place of its header. -/
def Section.addTo (root : Entries) (s : Section) : Option Entries :=
  let k := s.header.key
  Entries.alter .implied Entries.headerEnters
    (fun _ es =>
      if s.header.member then
        match es.lookup k with
        | none => do
          let t ← Entries.assignAll .headed [] s.body
          return es ++ [(k, .array .headed [.table .headed t])]
        | some (.array .headed items) => do
          let t ← Entries.assignAll .headed [] s.body
          return es.replace k (.array .headed (items ++ [.table .headed t]))
        | some _ => none
      else
        match es.lookup k with
        | none => do
          let t ← Entries.assignAll .headed [] s.body
          return es ++ [(k, .table .headed t)]
        | some (.table .implied sub) => do
          let t ← Entries.assignAll .headed sub s.body
          return es.erase k ++ [(k, .table .headed t)]
        | some _ => none)
    s.header.path .headed root

/-- A document as it is written: assignments at the root, then sections. -/
structure Document where
  root : List Assignment
  sections : List Section

/-- The root table of a document, unless the document defines something twice. -/
def Document.entries? (d : Document) : Option Entries := do
  let root ← Entries.assignAll .headed [] d.root
  d.sections.foldlM Section.addTo root

end BuiltinLink.Toml
