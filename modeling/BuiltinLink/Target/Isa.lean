import BuiltinLink.Vocabulary

/-!
Instruction sets and processor architectures. The instruction set fixes the gang size, the lane type
of the execution mask and the architectures it exists on.
-/

namespace BuiltinLink

inductive Arch where
  | x86
  | x8664
  | arm
  | aarch64
deriving DecidableEq, Repr

namespace Arch

instance : Vocabulary Arch where
  members := [x86, x8664, arm, aarch64]
  name
    | x86 => "x86"
    | x8664 => "x86-64"
    | arm => "arm"
    | aarch64 => "aarch64"
  mem_members a := by cases a <;> decide
  name_injective a b := by cases a <;> cases b <;> decide

/-- The architecture that a folded text spells. -/
def ofFolded? : String → Option Arch
  | "x86" | "i686" => some x86
  | "x86-64" | "x86_64" | "amd64" => some x8664
  | "arm" | "armv7" => some arm
  | "aarch64" | "arm64" => some aarch64
  | _ => none

/-- The namespace of the architecture's own intrinsics. -/
def intrinsicNamespace : Arch → String
  | x86 | x8664 => "llvm.x86."
  | arm => "llvm.arm."
  | aarch64 => "llvm.aarch64."

end Arch

/-- The lane type of an execution mask. -/
inductive Mask where
  | i1
  | i32
deriving DecidableEq, Repr

namespace Mask

instance : Vocabulary Mask where
  members := [i1, i32]
  name
    | i1 => "i1"
    | i32 => "i32"
  mem_members a := by cases a <;> decide
  name_injective a b := by cases a <;> cases b <;> decide

/-- The width of one lane. -/
def laneBits : Mask → Nat
  | i1 => 1
  | i32 => 32

end Mask

/-- Instruction sets for which programs are compiled. -/
inductive Isa where
  | sse2I32x4
  | sse41I32x4
  | avx2I32x8
  | avx2I32x16
  | avx512skxX16
  | neonI32x4
deriving DecidableEq, Repr

namespace Isa

instance : Vocabulary Isa where
  members := [sse2I32x4, sse41I32x4, avx2I32x8, avx2I32x16, avx512skxX16, neonI32x4]
  name
    | sse2I32x4 => "sse2-i32x4"
    | sse41I32x4 => "sse4.1-i32x4"
    | avx2I32x8 => "avx2-i32x8"
    | avx2I32x16 => "avx2-i32x16"
    | avx512skxX16 => "avx512skx-x16"
    | neonI32x4 => "neon-i32x4"
  mem_members a := by cases a <;> decide
  name_injective a b := by cases a <;> cases b <;> decide

/-- The number of program instances in a gang. -/
def gangSize : Isa → Nat
  | sse2I32x4 | sse41I32x4 | neonI32x4 => 4
  | avx2I32x8 => 8
  | avx2I32x16 | avx512skxX16 => 16

/-- Only instruction sets with mask registers have one-bit mask lanes. -/
def mask : Isa → Mask
  | avx512skxX16 => .i1
  | _ => .i32

/-- The architectures that have the instruction set. -/
def archs : Isa → List Arch
  | neonI32x4 => [.arm, .aarch64]
  | _ => [.x86, .x8664]

/-- An instruction set can be compiled for the architectures that have it. -/
def Supports (isa : Isa) (arch : Arch) : Prop :=
  arch ∈ isa.archs

instance (isa : Isa) (arch : Arch) : Decidable (isa.Supports arch) :=
  inferInstanceAs (Decidable (arch ∈ isa.archs))

/-- The ending that tells copies of one function for several instruction sets apart: an underscore
and the name, with an underscore for each character no identifier may hold. -/
def symbolSuffix (isa : Isa) : String :=
  String.ofList ('_' :: (Vocabulary.name isa).toList.map fun c => if c.isAlphanum then c else '_')

end Isa

end BuiltinLink
