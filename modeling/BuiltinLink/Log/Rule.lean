import BuiltinLink.Log.Level
import BuiltinLink.Log.Pattern.Support
import BuiltinLink.Text.Blank
import BuiltinLink.Text.Utf8

/-!
Rules for what is logged. A rule gives a level to everything, to a part of the program, or to spans
of a name or with a field:

    part[span{field=value}]=level

Blanks around an entry are no part of its rule, but the pieces of the rule are cut out of the entry
as if there were none before it. So a level behind such blanks is not found.
-/

namespace BuiltinLink

open Text

/-- A field that a span must have, and what its value must be. -/
structure LogField where
  name : List Char
  value : Option (List Char)
deriving DecidableEq, Repr

namespace LogField

/-- Decimal digits that may be followed by an exponent. -/
def isExponent : List Char → Bool
  | [] => true
  | c :: r =>
    let digits := match r with
      | '+' :: r | '-' :: r => r
      | r => r
    (c == 'e' || c == 'E') && digits != [] && digits.all Char.isDigit

/-- A decimal number without sign, not a number, or the infinite. -/
def isMagnitude (s : List Char) : Bool :=
  ["nan", "inf", "infinity"].contains (String.ofList (s.map Char.toLower)) ||
    match s.dropWhile Char.isDigit with
    | '.' :: r => (s.head?.any Char.isDigit || r.head?.any Char.isDigit) &&
        isExponent (r.dropWhile Char.isDigit)
    | r => s.head?.any Char.isDigit && isExponent r

/-- Whether a text may be the value of a field: a pattern, which almost every number is, or a number
with a plus sign. -/
def isValue : List Char → Bool
  | '+' :: r => isMagnitude r
  | s => Pattern.isPattern s

/-- A field with its value behind an equals sign. Whatever follows a second one is ignored. -/
def read? (s : List Char) : Option LogField :=
  let name := s.takeWhile (· ≠ '=')
  match s.drop name.length with
  | [] => if name = [] then none else some ⟨name, none⟩
  | _ :: r =>
    let value := r.takeWhile (· ≠ '=')
    if isValue value then some ⟨name, some value⟩ else none

end LogField

/-- A level, and what it is for; a rule without a level asks for everything. -/
structure LogRule where
  part : Option (List Char) := none
  span : Option (List Char) := none
  field : Option LogField := none
  level : LogLevel := .trace
deriving DecidableEq, Repr

namespace LogRule

/-- The text of `n` bytes behind the first `k` of an entry, if they encode one. -/
def cut? (entry : List Char) (k n : Nat) : Option (List Char) :=
  decode? (((encode entry).drop k).take n)

/-- The level that stands behind the first `k` bytes of an entry. -/
def levelBehind? (entry : List Char) (k : Nat) : Option LogLevel :=
  match cut? entry k (byteLength entry) with
  | some [] => some .trace
  | some s => LogLevel.ofChars? s
  | none => none

/-- Whether the name of a part of the program may begin so. -/
def beginsPart (c : Char) : Bool :=
  c == '-' || c == ':' || c == '_' || isAlphanumeric c

/-- Completes a rule whose pieces before the level take `k` bytes, with what is left of it. -/
def finish? (entry : List Char) (k : Nat) (rule : LogRule) : List Char → Option LogRule
  | [] => some rule
  | '=' :: _ => (levelBehind? entry (k + 1)).map fun level => { rule with level }
  | _ => none

/-- Reads the span of a rule behind its bracket, which stands behind `k` bytes. -/
def readSpan? (entry : List Char) (k : Nat) (part : Option (List Char)) (r : List Char) :
    Option LogRule := do
  let name := r.takeWhile fun c => c ≠ ']' ∧ c ≠ '\x7b'
  let span ← cut? entry (k + 1) (byteLength name)
  let k := k + 1 + byteLength name
  match r.drop name.length with
  | ']' :: r => finish? entry (k + 1) { part, span } r
  | _ :: r =>
    let inner := r.takeWhile (· ≠ '\x7d')
    let field ← (cut? entry (k + 1) (byteLength inner)).bind LogField.read?
    match r.drop inner.length with
    | '\x7d' :: ']' :: r => finish? entry (k + 1 + byteLength inner + 2) { part, span, field } r
    | _ => none
  | [] => none

/-- The rule of an entry. -/
def read? (entry : List Char) : Option LogRule :=
  let s := trim entry
  let part := s.takeWhile fun c => c ≠ '=' ∧ c ≠ '['
  match s.drop part.length with
  | [] =>
    if part.head?.any beginsPart then
      match LogLevel.ofChars? entry with
      | some level => some { level }
      | none => some { part := entry }
    else none
  | '[' :: r =>
    if part = [] then readSpan? entry 0 none r
    else if part.head?.any beginsPart then do
      let name ← cut? entry 0 (byteLength part)
      readSpan? entry (byteLength part) name r
    else none
  | r =>
    if part.head?.any beginsPart then do
      let name ← cut? entry 0 (byteLength part)
      finish? entry (byteLength part) { part := name } r
    else none

/-- The level that rules ask for together. Where the value of a field decides nothing can be left
out beforehand. -/
def levelOf (rules : List LogRule) : LogLevel :=
  if rules.any fun r => r.field.any fun f => f.value.isSome then .trace
  else rules.foldl (fun l r => l.max r.level) .off

end LogRule

end BuiltinLink
