/-!
How a library is linked.
-/

namespace BuiltinLink

/-- How a library is linked. -/
structure LinkMode where
  /-- Whether every function of the library is declared first, so that all of them are linked. -/
  declaresAll : Bool := false
  /-- What definitions are renamed with. -/
  suffix : Option String := none
deriving DecidableEq, Repr

namespace LinkMode

/-- The mode for the standard library and the builtins. -/
def library : LinkMode := {}

/-- The mode for dispatch stubs. -/
def dispatch : LinkMode := { declaresAll := true }

/-- Renames definitions with a suffix, in place of any suffix given before. -/
def withSuffix (m : LinkMode) (s : String) : LinkMode :=
  { m with suffix := some s }

end LinkMode

end BuiltinLink
