import BuiltinLink.Settings.Basic
import BuiltinLink.Target.Document
import BuiltinLink.Toml.Writer

/-!
Link settings written as a TOML document.
-/

namespace BuiltinLink

open Toml

/-- Why settings cannot be written. -/
inductive WriteError where
  /-- The directory for dumps is not a text. -/
  | directoryNotText
deriving DecidableEq, Repr

def WriteError.message : WriteError → String
  | directoryNotText => "path contains invalid UTF-8 characters"

namespace LinkSettings

/-- The table of the target. -/
def targetTable (t : Target) : PlainTable :=
  ⟨"target", [("isa", .string (DocumentNames.documentName t.isa)),
    ("os", .string (DocumentNames.documentName t.os)),
    ("arch", .string (DocumentNames.documentName t.arch))]⟩

/-- The set as an array of integers. -/
def stageArray (s : StageSet) : Plain :=
  .naturals (s.toList.map UInt32.toNat)

/-- The table of the other settings; an absent directory is left out. -/
def linkTable (s : LinkSettings) (dir : Option String) : PlainTable :=
  ⟨"link", [("include-stdlib", .boolean s.includeStdlib), ("multi-target", .boolean s.multiTarget),
    ("debug-stages", stageArray s.debugStages), ("disabled-stages", stageArray s.disabledStages)] ++
      dir.toList.map fun d => ("dump-dir", .string d)⟩

/-- The tables of a document. -/
def toTables (s : LinkSettings) : Except WriteError (List PlainTable) :=
  match s.dumpDir with
  | none => .ok [targetTable s.target, s.linkTable none]
  | some dir =>
    match dir.text? with
    | some d => .ok [targetTable s.target, s.linkTable (some d)]
    | none => .error .directoryNotText

/-- The text of a document. -/
def toText (s : LinkSettings) : Except WriteError String :=
  s.toTables.map fun l => String.ofList (writeTables l)

end LinkSettings

end BuiltinLink
