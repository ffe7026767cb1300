import BuiltinLink.Diagnostic.Basic
import BuiltinLink.Files.Tree
import BuiltinLink.Link.Stage
import BuiltinLink.Settings.Basic

/-!
Dumps of the module at checkpoints of the pipeline. Each checkpoint has an index and is dumped only
where the settings ask for it, to a file named after the checkpoint. A dump that cannot be made is
worth a warning and no more.
-/

namespace BuiltinLink

/-- The settings that matter for dumps. -/
structure DumpRule where
  debugStages : StageSet
  disabledStages : StageSet
  dir : Option Path
  /-- The instruction set that file names end in, where several share a directory. -/
  isa : Option Isa
deriving DecidableEq, Repr

/-- What happens at a checkpoint. -/
inductive Checkpoint where
  /-- Nothing. -/
  | skipped
  /-- A dump to a file, or to standard output. -/
  | dump (file : Option Path)
  /-- The dump cannot be made. -/
  | failed (warning : Diagnostic)
deriving DecidableEq, Repr

namespace DumpRule

/-- The part of the settings that matters for dumps. -/
def ofSettings (s : LinkSettings) : DumpRule where
  debugStages := s.debugStages
  disabledStages := s.disabledStages
  dir := s.dumpDir
  isa := if s.multiTarget then some s.target.isa else none

def isEnabled (r : DumpRule) (n : UInt32) : Bool :=
  n ∈ r.debugStages ∧ n ∉ r.disabledStages

/-- Whether two rules ask for the same. Directories are the same if their components are. -/
def same (a b : DumpRule) : Bool :=
  a.debugStages = b.debugStages ∧ a.disabledStages = b.disabledStages ∧
    a.dir.map Path.components = b.dir.map Path.components ∧ a.isa = b.isa

/-- The name of the file that a checkpoint is dumped to. -/
def fileName (r : DumpRule) (n : UInt32) (stage : Stage) : String :=
  "pre_" ++ toString n.toNat ++ "_" ++ Vocabulary.name stage ++ ".ll" ++
    match r.isa with
    | some isa => "_" ++ Vocabulary.name isa
    | none => ""

/-- The file that a checkpoint is dumped to. -/
def file (r : DumpRule) (dir : Path) (n : UInt32) (stage : Stage) : Path :=
  dir.join (Text.encode (r.fileName n stage).toList)

/-- The warning that a checkpoint cannot be dumped to a file. -/
def warning (stage : Stage) (file : Path) (problem : String) : Diagnostic :=
  ((Diagnostic.warning ("could not dump IR for " ++ Vocabulary.name stage ++ ": " ++
    problem)).withCode .dumpFailed).withSubject file.display

/-- The warning that the directory for a dump cannot be made. -/
def cannotCreate (r : DumpRule) (dir : Path) (n : UInt32) (stage : Stage) (e : FileError) :
    Diagnostic :=
  warning stage (r.file dir n stage) ("cannot create " ++ dir.display ++ ": " ++ e.message)

/-- What happens at a checkpoint, and the state of the files afterwards, where directories are made
by `makeAll`: the directory of a dump is made first. -/
def checkpointBy {σ : Type} (makeAll : σ → Path → σ × Except FileError Unit) (r : DumpRule)
    (n : UInt32) (stage : Stage) (files : σ) : σ × Checkpoint :=
  if r.isEnabled n then
    match r.dir with
    | none => (files, .dump none)
    | some dir =>
      match makeAll files dir with
      | (files', .ok ()) => (files', .dump (some (r.file dir n stage)))
      | (files', .error e) => (files', .failed (r.cannotCreate dir n stage e))
  else (files, .skipped)

/-- What happens at a checkpoint, and the files afterwards. -/
def checkpoint (r : DumpRule) (n : UInt32) (stage : Stage) (files : FileTree) :
    FileTree × Checkpoint :=
  r.checkpointBy FileTree.makeAll n stage files

end DumpRule

/-- What dumps ask of a system, on the states `σ` of its files and its output. -/
structure DumpSystem (σ : Type) where
  /-- Makes a directory and what is missing of the way there. -/
  makeAll : σ → Path → σ × Except FileError Unit
  /-- Writes the module to a file. A failure is told in words. -/
  write : σ → Path → σ × Except String Unit
  /-- Prints the module under a heading. -/
  print : σ → String → σ

/-- Carries a checkpoint through. Nothing that fails does more than leave a warning. -/
def DumpRule.carryOut {σ : Type} (sys : DumpSystem σ) (r : DumpRule) (n : UInt32) (stage : Stage)
    (state : σ) : σ × Option Diagnostic :=
  match r.checkpointBy sys.makeAll n stage state with
  | (state', .skipped) => (state', none)
  | (state', .failed w) => (state', some w)
  | (state', .dump none) => (sys.print state' (r.fileName n stage), none)
  | (state', .dump (some file)) =>
    match sys.write state' file with
    | (state'', .ok ()) => (state'', none)
    | (state'', .error problem) => (state'', some (warning stage file problem))

end BuiltinLink
