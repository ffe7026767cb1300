import BuiltinLink.Vocabulary

/-!
Levels of the log.
-/

namespace BuiltinLink

/-- Levels of the log, from nothing to everything. -/
inductive LogLevel where
  | off
  | error
  | warn
  | info
  | debug
  | trace
deriving DecidableEq, Repr

namespace LogLevel

instance : Vocabulary LogLevel where
  members := [off, error, warn, info, debug, trace]
  name
    | off => "off"
    | error => "error"
    | warn => "warn"
    | info => "info"
    | debug => "debug"
    | trace => "trace"
  mem_members a := by cases a <;> decide
  name_injective a b := by cases a <;> cases b <;> decide

/-- A number in decimal digits, which may have a plus sign before them. -/
def number? (s : List Char) : Option Nat :=
  let digits := match s with
    | '+' :: r => r
    | r => r
  if digits ≠ [] ∧ digits.all Char.isDigit then
    some (digits.foldl (fun n c => n * 10 + (c.toNat - 48)) 0)
  else none

/-- A level by its number, or by its name in any case. -/
def ofChars? (s : List Char) : Option LogLevel :=
  match number? s with
  | some n => Vocabulary.members[n]?
  | none => Vocabulary.ofName? (String.ofList (s.map Char.toLower))

/-- The level that logs more. -/
def max (a b : LogLevel) : LogLevel :=
  if Vocabulary.rank a < Vocabulary.rank b then b else a

end LogLevel

end BuiltinLink
