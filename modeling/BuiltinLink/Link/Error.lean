import BuiltinLink.Diagnostic.Basic
import BuiltinLink.Files.Failure
import BuiltinLink.Files.Path
import BuiltinLink.Link.Stage

/-!
Why libraries cannot be linked. An error has a cause and may be attributed to stages; attribution
says where the cause was met and changes nothing about it.
-/

namespace BuiltinLink

/-- The cause of a failure to link. -/
inductive LinkCause where
  | missingLibrary (key : LibraryKey)
  | malformedLibrary (library message : String)
  | libraryIo (library : String) (path : Path) (failure : FileError)
  | linkConflict (library message : String)
  | signatureMismatch (name declared expected : String)
  | unresolvedIntrinsic (name : String)
deriving DecidableEq, Repr

namespace LinkCause

def message : LinkCause → String
  | missingLibrary key => "no builtin library registered for " ++ key.describe
  | malformedLibrary library m => "builtin library `" ++ library ++ "` is malformed: " ++ m
  | libraryIo library path _ =>
    "failed to read builtin library `" ++ library ++ "` from " ++ path.display
  | linkConflict library m => "error linking builtin library `" ++ library ++ "`: " ++ m
  | signatureMismatch name declared expected =>
    "intrinsic `" ++ name ++ "` is declared as `" ++ declared ++ "` but LLVM defines it as `" ++
      expected ++ "`"
  | unresolvedIntrinsic name => "intrinsic `" ++ name ++ "` is not found"

def code : LinkCause → Code
  | missingLibrary _ => .missingLibrary
  | malformedLibrary _ _ => .malformedLibrary
  | libraryIo _ _ _ => .libraryIo
  | linkConflict _ _ => .linkConflict
  | signatureMismatch _ _ _ => .intrinsicSignatureMismatch
  | unresolvedIntrinsic _ => .intrinsicIdUnresolved

/-- What a cause is about: a library or an intrinsic. -/
def subject : LinkCause → String
  | missingLibrary key => key.describe
  | malformedLibrary library _ | libraryIo library _ _ | linkConflict library _ => library
  | signatureMismatch name _ _ | unresolvedIntrinsic name => name

/-- The failure of a file behind a cause. -/
def failure? : LinkCause → Option FileError
  | libraryIo _ _ failure => some failure
  | _ => none

end LinkCause

/-- A cause, possibly attributed to stages; the outermost stage comes first. -/
inductive LinkError where
  | cause (c : LinkCause)
  | staged (stage : Stage) (source : LinkError)
deriving DecidableEq, Repr

namespace LinkError

/-- Attributes an error to a stage, unless it is attributed to one already. -/
def inStage (e : LinkError) (s : Stage) : LinkError :=
  match e with
  | cause c => staged s (cause c)
  | staged _ _ => e

@[simp] theorem inStage_inStage (e : LinkError) (s s' : Stage) :
    (e.inStage s).inStage s' = e.inStage s := by
  cases e <;> rfl

/-- The stage an error is attributed to. -/
def stage? : LinkError → Option Stage
  | cause _ => none
  | staged s _ => some s

/-- The cause below all attributions. -/
def rootCause : LinkError → LinkCause
  | cause c => c
  | staged _ e => e.rootCause

@[simp] theorem rootCause_inStage (e : LinkError) (s : Stage) :
    (e.inStage s).rootCause = e.rootCause := by
  cases e <;> rfl

/-- The wording of an error; each attribution stands in front. -/
def message : LinkError → String
  | cause c => c.message
  | staged s e => Vocabulary.name s ++ " failed: " ++ e.message

def code (e : LinkError) : Code :=
  e.rootCause.code

/-- What the error rests on, outermost first: the attributed errors, and at last the failure of a
file. -/
def sources : LinkError → List String
  | cause c => (c.failure?.map FileError.message).toList
  | staged _ e => e.message :: e.sources

/-- The diagnostic that reports an error. -/
def diagnostic (e : LinkError) : Diagnostic :=
  let d := ((Diagnostic.error e.message).withCode e.code).withSubject e.rootCause.subject
  match e.rootCause.failure? with
  | some failure => d.withNote failure.message
  | none => d

end LinkError

end BuiltinLink
