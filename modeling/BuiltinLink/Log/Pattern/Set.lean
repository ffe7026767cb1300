import BuiltinLink.Log.Pattern.Lexeme

/-!
Sets of characters between brackets.
-/

namespace BuiltinLink.Pattern

def setNames : List String :=
  ["alnum", "alpha", "ascii", "blank", "cntrl", "digit", "graph", "lower", "print", "punct",
    "space", "upper", "word", "xdigit"]

/-- A set given by name, such as `[:alpha:]`, read behind its opening bracket. -/
def named? : List Char → Option (CharSet × List Char)
  | ':' :: r =>
    let (negated, r) := match r with
      | '^' :: r => (true, r)
      | r => (false, r)
    let name := r.takeWhile (· ≠ ':')
    match r.drop name.length with
    | ':' :: ']' :: r =>
      if setNames.contains (String.ofList name) then
        some (.named negated (String.ofList name), r)
      else none
    | _ => none
  | _ => none

/-- Whether the set behind an opening bracket is negated, and what follows the sign of that. -/
def negation (spaced : Bool) (s : List Char) : Bool × List Char :=
  match skipSpace spaced s with
  | '^' :: r => (true, r)
  | r => (false, r)

/-- A character of a set, or an escape. -/
def atom? (spaced : Bool) : List Char → Option (Atom × List Char)
  | '\\' :: r => escape? spaced r
  | c :: r => some (.char ⟨c, false⟩, r)
  | [] => none

/-- A member that is no range. -/
def single? : Atom → Option CharSet
  | .char l => some (.char l)
  | .category c => some (.category c)
  | .look _ => none

/-- A member of a set. A hyphen makes a range unless a bracket or another hyphen follows. -/
def member? (spaced : Bool) (s : List Char) : Option (CharSet × List Char) := do
  let (a, r) ← atom? spaced s
  match skipSpace spaced r with
  | '-' :: r' =>
    if ahead spaced r' = some ']' ∨ ahead spaced r' = some '-' then
      return (← single? a, '-' :: r')
    else
      let (b, r) ← atom? spaced (skipSpace spaced r')
      match a, b with
      | .char a, .char b => if a.char ≤ b.char then return (.range a b, r) else none
      | _, _ => none
  | r => return (← single? a, r)

def operation? : List Char → Option (SetOperation × List Char)
  | '&' :: '&' :: r => some (.intersection, r)
  | '-' :: '-' :: r => some (.difference, r)
  | '~' :: '~' :: r => some (.symmetricDifference, r)
  | _ => none

/-- Where the reader of a set is. -/
structure SetProgress where
  /-- The set and the operation before the members, if there is one. -/
  left : Option (SetOperation × CharSet) := none
  /-- The members since then, the last one first. -/
  members : List CharSet := []
  /-- Whether nothing but hyphens has come so far. -/
  fresh : Bool := true

/-- Another member. -/
def SetProgress.add (p : SetProgress) (s : CharSet) : SetProgress :=
  { p with members := s :: p.members, fresh := false }

/-- All that was read. -/
def SetProgress.done (p : SetProgress) : CharSet :=
  let s := CharSet.ofList p.members.reverse
  match p.left with
  | some (o, a) => .operation o a s
  | none => s

/-- The rest of a set to its closing bracket. A closing bracket that comes first is a member, and so
are the hyphens at the beginning. Each step reads a character or more, so the length of the text is
fuel enough. -/
def readSet? (spaced : Bool) : Nat → SetProgress → List Char → Option (CharSet × List Char)
  | 0, _, _ => none
  | fuel + 1, p, s =>
    match p.fresh, skipSpace spaced s with
    | _, [] => none
    | true, '-' :: r =>
      readSet? spaced fuel { p with members := .char ⟨'-', false⟩ :: p.members } r
    | fresh, ']' :: r =>
      if fresh ∧ p.members.isEmpty then readSet? spaced fuel (p.add (.char ⟨']', false⟩)) r
      else some (p.done, r)
    | _, '[' :: r =>
      match named? r with
      | some (s, r) => readSet? spaced fuel (p.add s) r
      | none => do
        let (negated, r) := negation spaced r
        let (s, r) ← readSet? spaced fuel {} r
        readSet? spaced fuel (p.add (.bracketed negated s)) r
    | _, r =>
      match operation? r with
      | some (o, r) => readSet? spaced fuel ⟨some (o, p.done), [], false⟩ r
      | none => do
        let (s, r) ← member? spaced r
        readSet? spaced fuel (p.add s) r

end BuiltinLink.Pattern
