import BuiltinLink.Target.Isa
import BuiltinLink.Types.Table

/-!
What a low-level type means for a gang of a given size.
-/

namespace BuiltinLink

/-- The shape of values that have a lane for each program instance. -/
structure GangMapper where
  gangSize : Nat
  mask : Mask
deriving DecidableEq, Repr

/-- Low-level types other than scalars, vectors and pointers. -/
inductive OpaqueType where
  | void
  | struct
  | array
  | function
deriving DecidableEq, Repr

namespace GangMapper

def ofIsa (isa : Isa) : GangMapper :=
  ⟨isa.gangSize, isa.mask⟩

/-- The instruction sets that have this mapper. -/
def isas (m : GangMapper) : List Isa :=
  (Vocabulary.members : List Isa).filter fun isa => ofIsa isa = m

/-- The class of a type, whatever the gang; structures, arrays and functions have none. -/
def classify (_ : GangMapper) : OpaqueType → Option TypeKey
  | .void => some .void
  | .struct | .array | .function => none

def map? (m : GangMapper) (t : OpaqueType) (unsigned : Bool) : Option SourceType :=
  (m.classify t).bind fun k => TypeTable.lookup k unsigned

end GangMapper

end BuiltinLink
