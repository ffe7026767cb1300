import BuiltinLink.Target.Basic

/-!
The parts of a target as documents name them. Documents have a table of names of their own, kept
apart from the canonical spellings and from what the lenient readers take: nothing here refers to
either of them.
-/

namespace BuiltinLink

/-- A closed set as it stands in documents. -/
class DocumentNames (α : Type) where
  /-- Every member once, as they are declared. -/
  variants : List α
  documentName : α → String

namespace DocumentNames

variable {α : Type} [DocumentNames α]

/-- The names that documents may use, as the members are declared. -/
def names (α : Type) [DocumentNames α] : List String :=
  (variants : List α).map documentName

/-- The member that documents call exactly `s`. -/
def find? (s : String) : Option α :=
  variants.find? fun a => documentName a = s

end DocumentNames

instance : DocumentNames Isa where
  variants := [.sse2I32x4, .sse41I32x4, .avx2I32x8, .avx2I32x16, .avx512skxX16, .neonI32x4]
  documentName
    | .sse2I32x4 => "sse2-i32x4"
    | .sse41I32x4 => "sse4.1-i32x4"
    | .avx2I32x8 => "avx2-i32x8"
    | .avx2I32x16 => "avx2-i32x16"
    | .avx512skxX16 => "avx512skx-x16"
    | .neonI32x4 => "neon-i32x4"

/-- What a system is called where it is declared. -/
def Os.identifier : Os → String
  | linux => "Linux"
  | windows => "Windows"
  | macos => "Macos"
  | freebsd => "Freebsd"
  | android => "Android"

/-- Documents have no table for systems: their names are the identifiers with capitals lowered. -/
instance : DocumentNames Os where
  variants := [.linux, .windows, .macos, .freebsd, .android]
  documentName os := String.ofList (os.identifier.toList.map Char.toLower)

instance : DocumentNames Arch where
  variants := [.x86, .x8664, .arm, .aarch64]
  documentName
    | .x86 => "x86"
    | .x8664 => "x86-64"
    | .arm => "arm"
    | .aarch64 => "aarch64"

end BuiltinLink
