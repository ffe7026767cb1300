import BuiltinLink.Files.Path
import BuiltinLink.Settings.StageSet
import BuiltinLink.Target.Basic

/-!
The settings under which libraries are linked into one module, and the changes that build them up.
-/

namespace BuiltinLink

/-- The settings of one link. -/
structure LinkSettings where
  target : Target
  /-- Whether the standard library is linked, ahead of the builtins. -/
  includeStdlib : Bool := true
  /-- Whether code for several instruction sets ends up in one object. -/
  multiTarget : Bool := false
  /-- Checkpoints that are dumped. -/
  debugStages : StageSet := ∅
  /-- Checkpoints that are never dumped, even if they are listed as dumped. -/
  disabledStages : StageSet := ∅
  /-- Where dumps go; to standard output without it. -/
  dumpDir : Option Path := none
deriving DecidableEq, Repr

namespace LinkSettings

/-- A change of the settings. Lists of checkpoints add to those named before. -/
inductive Change where
  | stdlib (included : Bool)
  | multiTarget (several : Bool)
  | debugStages (l : List UInt32)
  | disabledStages (l : List UInt32)
  | dumpDir (dir : Path)
deriving DecidableEq, Repr

def change (s : LinkSettings) : Change → LinkSettings
  | .stdlib included => { s with includeStdlib := included }
  | .multiTarget several => { s with multiTarget := several }
  | .debugStages l => { s with debugStages := s.debugStages.insertAll l }
  | .disabledStages l => { s with disabledStages := s.disabledStages.insertAll l }
  | .dumpDir dir => { s with dumpDir := some dir }

def changes (s : LinkSettings) (l : List Change) : LinkSettings :=
  l.foldl change s

def dumps (s : LinkSettings) (n : UInt32) : Bool :=
  n ∈ s.debugStages ∧ n ∉ s.disabledStages

/-- Whether two settings ask for the same. Directories are the same if their components are. -/
def same (a b : LinkSettings) : Bool :=
  a.target = b.target ∧ a.includeStdlib = b.includeStdlib ∧ a.multiTarget = b.multiTarget ∧
    a.debugStages = b.debugStages ∧ a.disabledStages = b.disabledStages ∧
    a.dumpDir.map Path.components = b.dumpDir.map Path.components

end LinkSettings

end BuiltinLink
