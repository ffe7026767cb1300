import BuiltinLink.Files.System
import BuiltinLink.Settings.Basic
import BuiltinLink.Settings.Shape
import BuiltinLink.Target.Document
import BuiltinLink.Toml.Reader

/-!
Link settings as a TOML document. The table `target` names the parts of the target, the table `link`
holds the other settings; either may also be written as an array of its fields in order.

A document is read in the order of its entries and refused at the first place that does not fit: an
unknown key or an unfit value where it stands, a missing field behind the last entry of its table.
-/

namespace BuiltinLink

open Toml

/-- Why link settings cannot be read. -/
inductive SettingsError where
  /-- The file cannot be read. -/
  | unreadable (cause : FileError)
  /-- The text is not a TOML document. -/
  | notToml
  /-- The document does not describe link settings. -/
  | shape (fault : ShapeFault)
  /-- No such target exists. -/
  | target (cause : TargetError)
deriving DecidableEq, Repr

def SettingsError.message : SettingsError → String
  | unreadable cause => "failed to read link configuration: " ++ cause.message
  | notToml => "not a TOML document"
  | shape fault => fault.message
  | target cause => "invalid target: " ++ cause.message

namespace Settings

/-- A value, or the first fault met in reading it. -/
abbrev Reading := Except ShapeFault

/-- The member of a closed set that documents call exactly so. -/
def named (α : Type) [DocumentNames α] (s : String) : Reading α :=
  match DocumentNames.find? s with
  | some a => .ok a
  | none => .error (.unknownVariant s (DocumentNames.names α))

/-- What is wrong with the value below the name of a variant, which should be empty. -/
def payloadFault? : Value → Option Payload
  | .array .inline [] | .array .headed [] | .table _ [] => none
  | .array .headed _ => some .tables
  | .array .inline _ | .table _ _ => some .entries
  | .integer _ => some .integer
  | .float _ => some .float
  | .boolean _ => some .boolean
  | .string _ => some .string
  | .datetime => some .datetime

/-- A member of a closed set: its name, or a table that holds an empty value under its name. -/
def variant (α : Type) [DocumentNames α] : Value → Reading α
  | .string s => named α s
  | .table _ [] => .error .noVariant
  | .table _ [(k, v)] => do
    let a ← named α k
    match payloadFault? v with
    | none => return a
    | some fault => throw (.payload fault)
  | .table _ _ => .error .manyVariants
  | _ => .error .notVariant

def boolean : Value → Reading Bool
  | .boolean b => .ok b
  | v => .error (.wrongType (.ofValue v) .boolean)

def index : Value → Reading UInt32
  | .integer n =>
    if 0 ≤ n ∧ n < 0x100000000 then .ok (UInt32.ofNat n.toNat) else .error (.outOfRange n)
  | v => .error (.wrongType (.ofValue v) .index)

def stages : Value → Reading StageSet
  | .array _ items => return .ofList (← items.mapM index)
  | v => .error (.wrongType (.ofValue v) .sequence)

def path : Value → Reading Path
  | .string s => .ok (.ofString s)
  | v => .error (.wrongType (.ofValue v) .path)

/-- The key under which a date or time is seen where a table is expected. -/
def datetimeKey : String := "$__toml_private_datetime"

/-- What has been read of a target. -/
structure TargetDraft where
  isa : Option Isa := none
  os : Option Os := none
  arch : Option Arch := none
deriving DecidableEq, Repr

/-- The parts of a target, which need not fit together. -/
structure TargetParts where
  isa : Isa
  os : Os
  arch : Arch
deriving DecidableEq, Repr

namespace TargetDraft

def fields : List String := ["isa", "os", "arch"]

def enter (d : TargetDraft) : String × Value → Reading TargetDraft
  | ("isa", v) => return { d with isa := some (← variant Isa v) }
  | ("os", v) => return { d with os := some (← variant Os v) }
  | ("arch", v) => return { d with arch := some (← variant Arch v) }
  | (k, _) => .error (.unknownField k fields)

/-- What is left when every entry has been read: nothing may be missing. -/
def finish : TargetDraft → Reading TargetParts
  | ⟨some isa, some os, some arch⟩ => .ok ⟨isa, os, arch⟩
  | ⟨none, _, _⟩ => .error (.missingField "isa")
  | ⟨_, none, _⟩ => .error (.missingField "os")
  | ⟨_, _, none⟩ => .error (.missingField "arch")

end TargetDraft

/-- The parts of a target: a table of them, or an array of them in order, where elements behind the
last do not count. -/
def targetParts : Value → Reading TargetParts
  | .table _ es => do (← es.foldlM TargetDraft.enter {}).finish
  | .array _ items => do
    let d ← (TargetDraft.fields.zip items).foldlM TargetDraft.enter {}
    if items.length < TargetDraft.fields.length then throw (.tooShort items.length)
    d.finish
  | .datetime => .error (.unknownField datetimeKey TargetDraft.fields)
  | v => .error (.wrongType (.ofValue v) .target)

/-- The settings beside the target. -/
structure LinkSection where
  includeStdlib : Bool := true
  multiTarget : Bool := false
  debugStages : StageSet := ∅
  disabledStages : StageSet := ∅
  dumpDir : Option Path := none
deriving DecidableEq, Repr

namespace LinkSection

def fields : List String :=
  ["include-stdlib", "multi-target", "debug-stages", "disabled-stages", "dump-dir"]

def enter (s : LinkSection) : String × Value → Reading LinkSection
  | ("include-stdlib", v) => return { s with includeStdlib := ← boolean v }
  | ("multi-target", v) => return { s with multiTarget := ← boolean v }
  | ("debug-stages", v) => return { s with debugStages := ← stages v }
  | ("disabled-stages", v) => return { s with disabledStages := ← stages v }
  | ("dump-dir", v) => return { s with dumpDir := some (← path v) }
  | (k, _) => .error (.unknownField k fields)

end LinkSection

/-- The settings beside the target: a table of them, or an array of them in order, of which a part
at the end may be missing; elements behind the last do not count. -/
def linkSection : Value → Reading LinkSection
  | .table _ es => es.foldlM LinkSection.enter {}
  | .array _ items => (LinkSection.fields.zip items).foldlM LinkSection.enter {}
  | .datetime => .error (.unknownField datetimeKey LinkSection.fields)
  | v => .error (.wrongType (.ofValue v) .link)

/-- What has been read of a document. -/
structure Draft where
  target : Option TargetParts := none
  link : LinkSection := {}
deriving DecidableEq, Repr

namespace Draft

def fields : List String := ["target", "link"]

def enter (d : Draft) : String × Value → Reading Draft
  | ("target", v) => return { d with target := some (← targetParts v) }
  | ("link", v) => return { d with link := ← linkSection v }
  | (k, _) => .error (.unknownField k fields)

/-- What is left when every entry has been read: the target may not be missing. -/
def finish (d : Draft) : Reading (TargetParts × LinkSection) :=
  match d.target with
  | some parts => .ok (parts, d.link)
  | none => .error (.missingField "target")

end Draft

/-- The contents of a document. -/
def ofEntries (es : Entries) : Reading (TargetParts × LinkSection) := do
  (← es.foldlM Draft.enter {}).finish

end Settings

namespace LinkSettings

/-- The settings with these contents, unless their target does not exist. -/
def ofContents (parts : Settings.TargetParts) (link : Settings.LinkSection) :
    Except TargetError LinkSettings := do
  let target ← Target.ofParts parts.isa parts.os parts.arch
  return ⟨target, link.includeStdlib, link.multiTarget, link.debugStages, link.disabledStages,
    link.dumpDir⟩

/-- The settings that a text describes. -/
def ofText (s : String) : Except SettingsError LinkSettings := do
  let some es := parse? s.toList | throw .notToml
  let (parts, link) ← (Settings.ofEntries es).mapError .shape
  (ofContents parts link).mapError .target

/-- The settings that a file describes. -/
def ofFile {σ : Type} [FileSystem σ] (files : σ) (p : Path) :
    Except SettingsError LinkSettings := do
  let s ← (FileSystem.readText files p).mapError .unreadable
  ofText s

end LinkSettings

end BuiltinLink
