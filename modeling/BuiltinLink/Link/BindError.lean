import BuiltinLink.Diagnostic.Basic

/-!
Why a foreign function has no signature in the source language. Such a function cannot be called,
but nothing else is lost.
-/

namespace BuiltinLink

/-- The reason that a function is not bound. -/
inductive BindCause where
  | returnType (llvmType : String)
  | paramType (index : Nat) (llvmType : String)
  | unknownIntrinsic
  | overloadedIntrinsic
deriving DecidableEq, Repr

/-- A function that is not bound, and the reason. -/
structure BindError where
  function : String
  cause : BindCause
deriving DecidableEq, Repr

namespace BindError

def message (e : BindError) : String :=
  match e.cause with
  | .returnType _ => "return type not representable for intrinsic `" ++ e.function ++ "`"
  | .paramType index _ =>
    "type of parameter " ++ toString index ++ " not representable for intrinsic `" ++
      e.function ++ "`"
  | .unknownIntrinsic => "intrinsic `" ++ e.function ++ "` is not found"
  | .overloadedIntrinsic =>
    "intrinsic `" ++ e.function ++ "` is overloaded and cannot be declared without type arguments"

def code (e : BindError) : Code :=
  match e.cause with
  | .returnType _ => .unrepresentableReturnType
  | .paramType _ _ => .unrepresentableParamType
  | .unknownIntrinsic => .unknownIntrinsic
  | .overloadedIntrinsic => .overloadedIntrinsic

/-- The type that cannot be represented. -/
def llvmType? (e : BindError) : Option String :=
  match e.cause with
  | .returnType t | .paramType _ t => some t
  | .unknownIntrinsic | .overloadedIntrinsic => none

/-- The diagnostic that reports the error. -/
def diagnostic (e : BindError) : Diagnostic :=
  let d := ((Diagnostic.error e.message).withCode e.code).withSubject e.function
  match e.llvmType? with
  | some t => d.withNote ("LLVM type is `" ++ t ++ "`")
  | none => d

end BindError

end BuiltinLink
