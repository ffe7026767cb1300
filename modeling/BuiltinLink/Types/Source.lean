import BuiltinLink.Vocabulary

/-!
Types of the source language, as far as foreign functions need them: scalars, pointers and
signatures.
-/

namespace BuiltinLink

/-- Whether a gang of program instances shares one value or each instance has its own. -/
inductive Variability where
  | uniform
  | varying
deriving DecidableEq, Repr

instance : Vocabulary Variability where
  members := [.uniform, .varying]
  name
    | .uniform => "uniform"
    | .varying => "varying"
  mem_members a := by cases a <;> decide
  name_injective a b := by cases a <;> cases b <;> decide

inductive AtomicKind where
  | void
  | bool
  | int8
  | uint8
  | int16
  | uint16
  | int32
  | uint32
  | int64
  | uint64
  | float16
  | float
  | double
deriving DecidableEq, Repr

namespace AtomicKind

instance : Vocabulary AtomicKind where
  members := [void, bool, int8, uint8, int16, uint16, int32, uint32, int64, uint64, float16, float,
    double]
  name
    | void => "void"
    | bool => "bool"
    | int8 => "int8"
    | uint8 => "uint8"
    | int16 => "int16"
    | uint16 => "uint16"
    | int32 => "int32"
    | uint32 => "uint32"
    | int64 => "int64"
    | uint64 => "uint64"
    | float16 => "float16"
    | float => "float"
    | double => "double"
  mem_members a := by cases a <;> decide
  name_injective a b := by cases a <;> cases b <;> decide

/-- Whether the kind is an integer without sign. -/
def isUnsigned : AtomicKind → Bool
  | uint8 | uint16 | uint32 | uint64 => true
  | _ => false

def isInteger : AtomicKind → Bool
  | int8 | int16 | int32 | int64 => true
  | k => k.isUnsigned

end AtomicKind

inductive SourceType where
  | atomic (kind : AtomicKind) (variability : Variability)
  /-- A pointer; the variability is that of the pointer itself. -/
  | pointer (pointee : SourceType) (variability : Variability)
deriving DecidableEq, Repr

namespace SourceType

/-- The type of no value. -/
def void : SourceType :=
  atomic .void .uniform

/-- The variability of the outermost part of a type. -/
def variability : SourceType → Variability
  | atomic _ v | pointer _ v => v

def isVoid : SourceType → Bool
  | atomic .void _ => true
  | _ => false

def isPointer : SourceType → Bool
  | atomic _ _ => false
  | pointer _ _ => true

/-- The number of pointers around the scalar. -/
def pointerDepth : SourceType → Nat
  | atomic _ _ => 0
  | pointer t _ => t.pointerDepth + 1

/-- Wraps pointers around a type, the first one innermost. -/
def wrap (t : SourceType) (l : List Variability) : SourceType :=
  l.foldl pointer t

@[simp] theorem pointerDepth_wrap (t : SourceType) (l : List Variability) :
    (t.wrap l).pointerDepth = t.pointerDepth + l.length := by
  induction l generalizing t with
  | nil => rfl
  | cons v l ih =>
    rw [wrap, List.foldl_cons, ← wrap, ih, pointerDepth, List.length_cons]
    omega

/-- A type as it is written. The variability of void does not show. -/
def text : SourceType → String
  | atomic .void _ => Vocabulary.name AtomicKind.void
  | atomic k v => Vocabulary.name v ++ " " ++ Vocabulary.name k
  | pointer t v => t.text ++ " * " ++ Vocabulary.name v

end SourceType

structure Signature where
  result : SourceType
  params : List SourceType
deriving DecidableEq, Repr

namespace Signature

def arity (f : Signature) : Nat :=
  f.params.length

def text (f : Signature) : String :=
  f.result.text ++ "(" ++ ", ".intercalate (f.params.map SourceType.text) ++ ")"

end Signature

end BuiltinLink
