import BuiltinLink.Diagnostic.Basic
import BuiltinLink.Keep.Roots
import BuiltinLink.Link.Stage

/-!
What a link run did.
-/

namespace BuiltinLink

/-- The number of functions around a stage. -/
structure StageCount where
  stage : Stage
  before : Nat
  after : Nat
deriving DecidableEq, Repr

/-- The record of a link run. -/
structure RunRecord where
  stages : List StageCount := []
  /-- The names protected at the end. -/
  roots : Roots := {}
  /-- Problems that did not end the run. -/
  warnings : List Diagnostic := []
deriving DecidableEq, Repr

/-- The numbers for a stage, if it was run. -/
def RunRecord.stage? (r : RunRecord) (s : Stage) : Option StageCount :=
  r.stages.find? fun x => x.stage = s

end BuiltinLink
