import BuiltinLink.Link.Mode
import BuiltinLink.Link.SymbolName
import BuiltinLink.Target.Isa

/-!
The names under which a library is linked. Where code for several instruction sets ends up in one
object, the copy of a function for each of them gets an ending of its own; intrinsics keep their
names.
-/

namespace BuiltinLink

/-- The name of the copy of a function for an instruction set. -/
def SymbolName.forIsa (isa : Isa) (name : String) : String :=
  name ++ isa.symbolSuffix

namespace LinkMode

/-- The mode for one instruction set of several. -/
def forIsa (isa : Isa) : LinkMode :=
  library.withSuffix isa.symbolSuffix

/-- The name under which a function that a library defines is linked. -/
def nameOf (m : LinkMode) (name : String) : String :=
  match m.suffix with
  | some s => if SymbolName.isIntrinsic name then name else name ++ s
  | none => name

end LinkMode

end BuiltinLink
