/-!
The numbered causes of a diagnostic.
-/

namespace BuiltinLink

/-- What a diagnostic is about. Binding errors are numbered from 501, library errors from 510,
intrinsic errors from 520, problems of debug output from 530. -/
inductive Code where
  | unrepresentableReturnType
  | unrepresentableParamType
  | unknownIntrinsic
  | overloadedIntrinsic
  | missingLibrary
  | linkConflict
  | malformedLibrary
  | libraryIo
  | intrinsicSignatureMismatch
  | intrinsicIdUnresolved
  | dumpFailed
deriving DecidableEq, Repr

namespace Code

def all : List Code :=
  [unrepresentableReturnType, unrepresentableParamType, unknownIntrinsic, overloadedIntrinsic,
    missingLibrary, linkConflict, malformedLibrary, libraryIo, intrinsicSignatureMismatch,
    intrinsicIdUnresolved, dumpFailed]

/-- The number of a code; it has three digits. -/
def number : Code → Nat
  | unrepresentableReturnType => 501
  | unrepresentableParamType => 502
  | unknownIntrinsic => 503
  | overloadedIntrinsic => 504
  | missingLibrary => 510
  | linkConflict => 511
  | malformedLibrary => 512
  | libraryIo => 513
  | intrinsicSignatureMismatch => 520
  | intrinsicIdUnresolved => 521
  | dumpFailed => 530

def ofNumber? (n : Nat) : Option Code :=
  all.find? fun c => c.number = n

/-- The code as it is shown: `E` and four digits. -/
def text (c : Code) : String :=
  "E0" ++ toString c.number

/-- The cause in a few words. -/
def description : Code → String
  | unrepresentableReturnType => "return type not representable"
  | unrepresentableParamType => "parameter type not representable"
  | unknownIntrinsic => "unknown intrinsic"
  | overloadedIntrinsic => "overloaded intrinsic"
  | missingLibrary => "builtin library not available for target"
  | linkConflict => "builtin library failed to link"
  | malformedLibrary => "builtin library is malformed"
  | libraryIo => "builtin library could not be read"
  | intrinsicSignatureMismatch => "intrinsic signature mismatch"
  | intrinsicIdUnresolved => "intrinsic is not found"
  | dumpFailed => "IR dump could not be written"

/-- How the problem may be solved, where that is known. -/
def help : Code → Option String
  | unrepresentableReturnType | unrepresentableParamType =>
    some "the function cannot be called from SPMD source"
  | missingLibrary => some "the target is not supported by the installed builtin libraries"
  | linkConflict | malformedLibrary =>
    some "the precompiled builtin libraries are inconsistent; rebuild them"
  | intrinsicSignatureMismatch | intrinsicIdUnresolved =>
    some "the builtin library was built against a different LLVM version"
  | unknownIntrinsic | overloadedIntrinsic | libraryIo | dumpFailed => none

end Code

end BuiltinLink
