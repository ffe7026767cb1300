import BuiltinLink.Library.Key

/-!
The stages of linking builtin libraries into a module.
-/

namespace BuiltinLink

/-- A stage of the link pipeline, or the separate link of a dispatcher. -/
inductive Stage where
  | linkStdlib
  | linkCommonBuiltins
  | linkTargetBuiltins
  | finalizeLinkage
  | linkDispatch
deriving DecidableEq, Repr

instance : Vocabulary Stage where
  members :=
    [.linkStdlib, .linkCommonBuiltins, .linkTargetBuiltins, .finalizeLinkage, .linkDispatch]
  name
    | .linkStdlib => "LinkStdlib"
    | .linkCommonBuiltins => "LinkCommonBuiltins"
    | .linkTargetBuiltins => "LinkTargetBuiltins"
    | .finalizeLinkage => "FinalizeLinkage"
    | .linkDispatch => "LinkDispatch"
  mem_members a := by cases a <;> decide
  name_injective a b := by cases a <;> cases b <;> decide

/-- The stage in which the library of a role is linked. -/
def Stage.ofRole : Role → Stage
  | .stdlib => linkStdlib
  | .commonBuiltins => linkCommonBuiltins
  | .targetBuiltins => linkTargetBuiltins
  | .dispatch => linkDispatch

end BuiltinLink
