import BuiltinLink.Log.Rule

/-!
How much is logged. A variable of the environment may say so by rules between commas; else the
caller chooses between two levels. The level is set once.
-/

namespace BuiltinLink

namespace LogLevel

/-- The entries of a variable. -/
def entries (s : List Char) : List (List Char) :=
  (s.splitOn ',').filter (· ≠ [])

/-- The level that a variable asks for, if each of its entries is a rule. -/
def ofVariable? (s : String) : Option LogLevel :=
  ((entries s.toList).mapM LogRule.read?).map LogRule.levelOf

/-- The level for a variable, which may be unset, and the choice of the caller. -/
def choose (setting : Option String) (verbose : Bool) : LogLevel :=
  (setting.bind ofVariable?).getD (if verbose then debug else info)

end LogLevel

/-- The log of a process, and its level once it is set. -/
structure Log where
  level : Option LogLevel := none
deriving DecidableEq, Repr

/-- Sets the level unless it is set, and tells whether it was not. -/
def Log.install (l : Log) (setting : Option String) (verbose : Bool) : Log × Bool :=
  match l.level with
  | some _ => (l, false)
  | none => (⟨some (LogLevel.choose setting verbose)⟩, true)

end BuiltinLink
