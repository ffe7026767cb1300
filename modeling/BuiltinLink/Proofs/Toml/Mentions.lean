import BuiltinLink.Toml.Table

/-!
What the lines of a document define. A line mentions places: those that its key or header passes and
the one where it ends. Whether it may mention a place is a matter of how earlier lines have
mentioned that place, and the root of a document is the table that all mentions together say. No
table is built line by line here, and no rule looks into one.

There are two sets of rules. Those of the language let nothing be defined twice: a header defines
its table, and a dotted key defines the tables that it makes. Those of the reader differ from them
for dotted keys in two points: they may pass the last member of an array of tables, and they may not
put a value right into a table that only longer headers have named.
-/

namespace BuiltinLink.Toml.Grammar

/-! ### Mentions -/

/-- A way down from a table or from an array of tables. -/
inductive Branch where
  | key (k : String)
  | member (i : Nat)
deriving DecidableEq

/-- The way from some table to a place below it. -/
abbrev Place := List Branch

/-- What a line does with a place that it mentions. -/
inductive Use where
  /-- A value is assigned to it. -/
  | value (v : Value)
  /-- A dotted key passes it. -/
  | through
  /-- A dotted key puts a value right into it. -/
  | into
  /-- A longer header passes it. -/
  | above
  /-- It gets a header: its own, or one that began it as a member. -/
  | header
  /-- It gets a further member. -/
  | member

structure Mention where
  place : Place
  use : Use

/-- The mentions behind a branch, seen from there. -/
def behind (s : Branch) (ms : List Mention) : List Mention :=
  ms.filterMap fun m =>
    match m.place with
    | [] => none
    | t :: p => if t = s then some ⟨p, m.use⟩ else none

/-- The mentions at and below a place, seen from there. -/
def view : Place → List Mention → List Mention
  | [], ms => ms
  | s :: p, ms => view p (behind s ms)

/-- The uses of the place from which mentions are seen. -/
def uses (ms : List Mention) : List Use :=
  ms.filterMap fun m =>
    match m.place with
    | [] => some m.use
    | _ :: _ => none

/-! ### Rules -/

/-- The rules of the language: what a line may do with a place, after what was done with it. There
is no rule behind the assignment of a value. -/
inductive Standard : List Use → Use → Prop
  | first {u : Use} (h : u ≠ .into) : Standard [] u
  /-- An array of tables grows by headers in double brackets. -/
  | member {us : List Use} : Standard (.member :: us) .member
  /-- A table that only longer headers have named may get a header, once. -/
  | header {us : List Use} (h : .header ∉ us) : Standard (.above :: us) .header
  /-- Longer headers pass whatever is a table or an array of tables. -/
  | above {u : Use} {us : List Use} (h : ∀ v, u ≠ .value v) : Standard (u :: us) .above
  /-- Dotted keys add to the tables that dotted keys have made. -/
  | dotted {us : List Use} {u : Use} (hu : u = .through ∨ u = .into) : Standard (.through :: us) u
  /-- They also add to tables that only longer headers have named, as long as these have no header
  of their own. -/
  | implied {us : List Use} {u : Use} (hu : u = .through ∨ u = .into) (h : .header ∉ us) :
      Standard (.above :: us) u

/-- The rules of the reader. -/
def Accepted (us : List Use) (u : Use) : Prop :=
  (Standard us u ∧ ¬ (u = .into ∧ us.head? = some .above)) ∨
    (u = .through ∧ us.head? = some .member)

/-- Each of the later mentions obeys the rules, given those before it. -/
def Allowed (rules : List Use → Use → Prop) : (earlier later : List Mention) → Prop
  | _, [] => True
  | ms, m :: l => rules (uses (view m.place ms)) m.use ∧ Allowed rules (ms ++ [m]) l

/-! ### What mentions say -/

/-- How a table came to be, by its uses. -/
inductive KindOf : List Use → TableKind → Prop
  | headed {us : List Use} : KindOf (.header :: us) .headed
  | late {us : List Use} (h : .header ∈ us) : KindOf (.above :: us) .headed
  | implied {us : List Use} (h : .header ∉ us) : KindOf (.above :: us) .implied
  | dotted {us : List Use} : KindOf (.through :: us) .dotted

/-- Keys of a table in order, with one more mention. A key stands where it is mentioned first, but a
header of its own moves it to the end. -/
def orderKey (ks : List String) (m : Mention) : List String :=
  match m.place, m.use with
  | [.key k], .header => ks.filter (· ≠ k) ++ [k]
  | .key k :: _, _ => if k ∈ ks then ks else ks ++ [k]
  | _, _ => ks

def keyOrder (ms : List Mention) : List String :=
  ms.foldl orderKey []

def Use.isMember : Use → Bool
  | .member => true
  | _ => false

/-- How many members an array of tables has got. -/
def members (ms : List Mention) : Nat :=
  (uses ms).countP Use.isMember

/-- Values that can be assigned: other tables and arrays are made by headers and dotted keys. -/
def Written : Value → Prop
  | .array kind _ => kind = .inline
  | .table kind _ => kind = .inline
  | _ => True

/-- The value that mentions of a place and of the places below it say is there. -/
inductive Says : List Mention → Value → Prop
  | value {v : Value} (hv : Written v) : Says [⟨[], .value v⟩] v
  | array {ms : List Mention} {tables : List Entries} (huses : (uses ms).head? = some .member)
      (hlength : tables.length = members ms)
      (htables : ∀ i es, tables[i]? = some es → Says (behind (.member i) ms) (.table .headed es))
      (hrest : ∀ i, tables.length ≤ i → behind (.member i) ms = []) :
      Says ms (.array .headed (tables.map (.table .headed)))
  | table {ms : List Mention} {kind : TableKind} {es : Entries} (hkind : KindOf (uses ms) kind)
      (hkeys : es.map Prod.fst = keyOrder ms)
      (hentries : ∀ e ∈ es, Says (behind (.key e.1) ms) e.2) : Says ms (.table kind es)

/-! ### Lines -/

/-- What is mentioned, given what was mentioned before; all seen from one place. -/
abbrev Script := List Mention → List Mention

namespace Script

def say (m : Mention) : Script :=
  fun _ => [m]

def andThen (f g : Script) : Script :=
  fun ms => f ms ++ g (ms ++ f ms)

/-- One after the other. -/
def all : List Script → Script
  | [] => fun _ => []
  | f :: l => f.andThen (all l)

/-- Where a path goes on behind a key: in the last member if there is an array of tables. -/
def enter (k : String) (ms : List Mention) : Place :=
  .key k :: match (uses (behind (.key k) ms)).head? with
    | some .member => [.member (members (behind (.key k) ms) - 1)]
    | _ => []

/-- What is mentioned below a key. -/
def within (k : String) (f : Script) : Script :=
  fun ms => (f (view (enter k ms) ms)).map fun m => ⟨enter k ms ++ m.place, m.use⟩

/-- What is mentioned on the way along a path, and at its end. -/
def along (u : Use) (f : Script) : List String → Script
  | [] => f
  | k :: ks => (say ⟨[.key k], u⟩).andThen (within k (along u f ks))

end Script

open Script

/-- A dotted key passes the tables of its path, and puts the value into the last of them. -/
def assignmentScript (a : Assignment) : Script :=
  let put := say ⟨[.key a.key], .value a.value⟩
  if a.path = [] then put else along .through ((say ⟨[], .into⟩).andThen put) a.path

/-- What the last key of a header mentions: a table, or an array and its new member. -/
def openScript (h : Header) : Script :=
  if h.member then
    (say ⟨[.key h.key], .member⟩).andThen (within h.key (say ⟨[], .header⟩))
  else say ⟨[.key h.key], .header⟩

/-- The header passes the tables of its path; the assignments are seen from its own. -/
def sectionScript (s : Section) : Script :=
  along .above
    ((openScript s.header).andThen (within s.header.key (all (s.body.map assignmentScript))))
    s.header.path

def documentScript (d : Document) : Script :=
  (all (d.root.map assignmentScript)).andThen (all (d.sections.map sectionScript))

def assignments (d : Document) : List Assignment :=
  d.root ++ d.sections.flatMap Section.body

/-- The root counts as a table with a header. -/
def rootMention : Mention :=
  ⟨[], .header⟩

/-- The entries of a table that the assignments and sections of a document define, in accordance
with some rules. -/
structure Defines (rules : List Use → Use → Prop) (d : Document) (es : Entries) : Prop where
  written : ∀ a ∈ assignments d, Written a.value
  allowed : Allowed rules [rootMention] (documentScript d [rootMention])
  root : Says (rootMention :: documentScript d [rootMention]) (.table .headed es)

end BuiltinLink.Toml.Grammar
