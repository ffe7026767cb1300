import BuiltinLink.Link.Destination

/-!
What a library adds to a module, and which of it may be hidden there again.
-/

namespace BuiltinLink

/-- What a library brought into a module. -/
structure Contribution where
  library : String
  /-- Functions that it defines. -/
  functions : List String
  /-- Global variables that it defines. -/
  globals : List String
deriving DecidableEq, Repr

namespace Contribution

def all (c : Contribution) : List String :=
  c.functions ++ c.globals

/-- Whether the library defines a name. -/
def contains (c : Contribution) (name : String) : Bool :=
  c.all.contains name

def length (c : Contribution) : Nat :=
  c.all.length

def isEmpty (c : Contribution) : Bool :=
  c.functions.isEmpty && c.globals.isEmpty

/-- The names whose definitions may be made internal: all but the reserved ones. -/
def candidates (names : List String) : List String :=
  names.filter fun name => !SymbolName.isReserved name

/-- Carries out an action for each name in turn and adds up the answers to `n`. -/
def tally {m : Type → Type} [Monad m] (action : String → m Nat) (n : Nat) (names : List String) :
    m Nat :=
  names.foldlM (fun n name => return n + (← action name)) n

/-- Makes the candidates internal that a module defines and shows, functions first. The answer is
the number of changes. -/
def hide {m : Type → Type} [Monad m] (c : Contribution) (dest : Destination m) : m Nat := do
  let n ← tally dest.hideFunction 0 (candidates c.functions)
  tally dest.hideGlobal n (candidates c.globals)

/-- The number of definitions that are made internal, where it can be told without a look at the
module. -/
def internalized? (c : Contribution) : Option Nat :=
  c.hide Destination.refusing

end Contribution

end BuiltinLink
