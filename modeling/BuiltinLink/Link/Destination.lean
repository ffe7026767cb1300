import BuiltinLink.Link.SymbolName

/-!
The module that libraries are linked into, as far as definitions are hidden in it. The module itself
is left open: whatever is asked of it, or done to it, is an action in a monad `m`.
-/

namespace BuiltinLink

open Text

/-- How a symbol is bound. -/
inductive Linkage where
  | internal
  /-- Internal, and not even listed among the symbols of the object. -/
  | unlisted
  /-- An array that is joined with the arrays of the same name. -/
  | appending
  /-- Any other way: by its name, across modules. -/
  | named
deriving DecidableEq, Repr

/-- Whether a symbol is invisible outside its module. -/
def Linkage.isLocal : Linkage → Bool
  | internal | unlisted => true
  | appending | named => false

/-- What is asked of a module and done to it when definitions are hidden. Functions and globals are
reached by their names alone. -/
structure Destination (m : Type → Type) where
  Function : Type
  Global : Type
  function? : String → m (Option Function)
  global? : String → m (Option Global)
  /-- The number of blocks of a function; one without any is only declared. -/
  blockCount : Function → m Nat
  functionLinkage : Function → m Linkage
  setFunctionLinkage : Function → Linkage → m Unit
  isDeclaration : Global → m Bool
  globalLinkage : Global → m Linkage
  /-- The name of a global as it is stored. -/
  globalName : Global → m Bytes
  setGlobalLinkage : Global → Linkage → m Unit

namespace Destination

/-- A module that answers nothing. -/
def refusing : Destination Option where
  Function := Unit
  Global := Unit
  function? _ := none
  global? _ := none
  blockCount _ := none
  functionLinkage _ := none
  setFunctionLinkage _ _ := none
  isDeclaration _ := none
  globalLinkage _ := none
  globalName _ := none
  setGlobalLinkage _ _ := none

variable {m : Type → Type} [Monad m] (dest : Destination m)

/-- Whether a global is linked by its name, which neither appending arrays nor intrinsics are. -/
def isNamed (g : dest.Global) : m Bool := do
  if (← dest.globalLinkage g) = .appending then
    return false
  else
    return !(SymbolName.ofBytes? (← dest.globalName g)).any SymbolName.isIntrinsic

/-- Makes a function internal if it is defined and visible. The answer is the number of changes. -/
def internalizeFunction (f : dest.Function) : m Nat := do
  if (← dest.blockCount f) = 0 then
    return 0
  else if (← dest.functionLinkage f).isLocal then
    return 0
  else
    dest.setFunctionLinkage f .internal
    return 1

/-- Makes a global internal if it is defined, visible and linked by its name. The answer is the
number of changes. -/
def internalizeGlobal (g : dest.Global) : m Nat := do
  if ← dest.isDeclaration g then
    return 0
  else if (← dest.globalLinkage g).isLocal then
    return 0
  else if ← dest.isNamed g then
    dest.setGlobalLinkage g .internal
    return 1
  else
    return 0

/-- Makes internal what goes by a name, if anything does. The answer is the number of changes. -/
def hideBy {α : Type} (find? : String → m (Option α)) (internalize : α → m Nat) (name : String) :
    m Nat := do
  match ← find? name with
  | none => return 0
  | some x => internalize x

def hideFunction : String → m Nat :=
  hideBy dest.function? dest.internalizeFunction

def hideGlobal : String → m Nat :=
  hideBy dest.global? dest.internalizeGlobal

end Destination

end BuiltinLink
