import BuiltinLink.Types.Key

/-!
The table of low-level types that have an equivalent in the source language.
-/

namespace BuiltinLink

/-- The kinds of integers that a scalar may stand for: signed and unsigned. Scalars without sign
stand for one kind. -/
def Scalar.kinds : Scalar → AtomicKind × AtomicKind
  | i1 => (.bool, .bool)
  | i8 => (.int8, .uint8)
  | i16 => (.int16, .uint16)
  | i32 => (.int32, .uint32)
  | i64 => (.int64, .uint64)
  | f16 => (.float16, .float16)
  | f32 => (.float, .float)
  | f64 => (.double, .double)

/-- The source types of one key. -/
inductive TypeEntry where
  | fixed (t : SourceType)
  | integer (signed unsigned : SourceType)
deriving DecidableEq, Repr

namespace TypeEntry

/-- The type for a hint on the sign of integers. -/
def select (unsigned : Bool) : TypeEntry → SourceType
  | fixed t => t
  | integer s u => if unsigned then u else s

/-- The entry for a scalar; `wrap` makes the type from that of the scalar. -/
def ofScalar (s : Scalar) (v : Variability) (wrap : SourceType → SourceType) : TypeEntry :=
  let k := s.kinds
  if k.1 = k.2 then fixed (wrap (.atomic k.1 v))
  else integer (wrap (.atomic k.1 v)) (wrap (.atomic k.2 v))

end TypeEntry

namespace TypeTable

/-- The rows of a scalar: the scalar itself, and a uniform pointer to it. No source type is a
pointer to truth values or to a mask. -/
def rows (s : Scalar) (v : Variability) : List (TypeKey × TypeEntry) :=
  (.value s v 0, .ofScalar s v id) ::
    if s = .i1 then [] else [(.value s v 1, .ofScalar s v fun t => .pointer t .uniform)]

def entries : List (TypeKey × TypeEntry) :=
  (.void, .fixed .void) ::
    (Vocabulary.members : List Scalar).flatMap fun s =>
      (Vocabulary.members : List Variability).flatMap fun v => rows s v

/-- The source type of a key for a hint on the sign of integers. -/
def lookup (k : TypeKey) (unsigned : Bool) : Option SourceType :=
  (entries.lookup k).map (TypeEntry.select unsigned)

end TypeTable

end BuiltinLink
