import BuiltinLink.Log.Pattern.Set

/-!
The reading of patterns. Only what can stand in the value of a field is read: it holds no comma,
equals sign or closing brace, so an opening brace never begins a repetition.
-/

namespace BuiltinLink.Pattern

/-- Where the reader of a group is. -/
structure Progress where
  /-- Whether a parenthesis closes the group; else it is the whole pattern. -/
  inner : Bool := false
  spaced : Bool := false
  /-- The names of groups so far. -/
  names : List (List Char) := []
  /-- The alternatives that are complete, the last one first. -/
  branches : List Pattern := []
  /-- What the current alternative consists of, the last piece first. -/
  items : List Pattern := []

namespace Progress

def add (p : Progress) (q : Pattern) : Progress :=
  { p with items := q :: p.items }

/-- The current alternative. -/
def branch (p : Progress) : Pattern :=
  ofList p.items.reverse

/-- All that was read. -/
def done (p : Progress) : Pattern :=
  if p.branches = [] then p.branch else .choice (p.branches.reverse ++ [p.branch])

/-- Repeats the last piece, if there is one to repeat. -/
def again? (p : Progress) : Option Progress :=
  match p.items with
  | [] | .flags _ :: _ => none
  | q :: items => some { p with items := .repeated q :: items }

/-- Notes the name of a group, which must be new. -/
def name? (p : Progress) : Option (List Char) → Option (List (List Char))
  | none => some p.names
  | some n => if p.names.contains n then none else some (n :: p.names)

end Progress

/-- The rest of a group, with the names of all groups and what follows. Fuel is as for sets. -/
def readGroup? : Nat → Progress → List Char → Option (Pattern × List (List Char) × List Char)
  | 0, _, _ => none
  | fuel + 1, p, s =>
    match skipSpace p.spaced s with
    | [] => if p.inner then none else some (p.done, p.names, [])
    | '(' :: r => do
      match ← opening? (skipSpace p.spaced r) with
      | (.flags f, r) =>
        readGroup? fuel { p.add (.flags f) with spaced := f.spaced.getD p.spaced } r
      | (.group f name, r) =>
        let names ← p.name? name
        let within := ⟨true, f.spaced.getD p.spaced, names, [], []⟩
        let (q, names, r) ← readGroup? fuel within r
        readGroup? fuel { p.add (.group f q) with names } r
    | ')' :: r => if p.inner then some (p.done, p.names, r) else none
    | '|' :: r => readGroup? fuel { p with branches := p.branch :: p.branches, items := [] } r
    | '[' :: r => do
      let (negated, r) := negation p.spaced r
      let (q, r) ← readSet? p.spaced (r.length + 1) {} r
      readGroup? fuel (p.add (.set negated q)) r
    | '*' :: r | '+' :: r | '?' :: r => do
      let p ← p.again?
      readGroup? fuel p (match r with
        | '?' :: r => r
        | r => r)
    | '\x7b' :: _ => none
    | '.' :: r => readGroup? fuel (p.add .any) r
    | '^' :: r => readGroup? fuel (p.add (.look .lineStart)) r
    | '$' :: r => readGroup? fuel (p.add (.look .lineEnd)) r
    | r => do
      match ← atom? p.spaced r with
      | (.char l, r) => readGroup? fuel (p.add (.char l)) r
      | (.look l, r) => readGroup? fuel (p.add (.look l)) r
      | (.category c, r) => readGroup? fuel (p.add (.category c)) r

/-- The greatest height of a pattern. -/
def maxHeight : Nat := 250

/-- Reads a pattern. -/
def read? (s : List Char) : Option Pattern :=
  match readGroup? (s.length + 1) {} s with
  | some (p, _, _) => if p.height ≤ maxHeight then some p else none
  | none => none

end BuiltinLink.Pattern
