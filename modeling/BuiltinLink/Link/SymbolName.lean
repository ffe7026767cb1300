import BuiltinLink.Text.Utf8

/-!
Names of library symbols. Names of intrinsics and the hooks of the runtime are reserved: their
definitions stay visible outside the module.
-/

namespace BuiltinLink

open Text

namespace SymbolName

/-- What the name of an intrinsic begins with. -/
def intrinsicMark : List Char := ['l', 'l', 'v', 'm', '.']

/-- Whether a name is that of an intrinsic. -/
def isIntrinsic (name : String) : Bool :=
  intrinsicMark.isPrefixOf name.toList

/-- Functions by which the builtins reach the runtime for tasks and printing. -/
def runtimeHooks : List String := ["__do_print", "__num_cores"]

/-- Whether a definition with this name stays visible outside the module. -/
def isReserved (name : String) : Bool :=
  isIntrinsic name || runtimeHooks.contains name

/-- Globals that are made internal in any case. -/
def forcedInternal : List String := ["__fast_masked_vload", "__math_lib", "__memory_alignment"]

/-- The array that protects what it refers to. -/
def compilerUsed : String := "llvm.compiler.used"

/-- The section of that array. -/
def metadataSection : String := "llvm.metadata"

/-- The name stored in bytes up to the first zero; bytes that are no text show as replacement
characters. Bytes without a zero hold no name. -/
def ofBytes? (bs : Bytes) : Option String :=
  if bs.contains 0 then some (String.ofList (decodeLossy (bs.takeWhile (· ≠ 0)))) else none

end SymbolName

end BuiltinLink
