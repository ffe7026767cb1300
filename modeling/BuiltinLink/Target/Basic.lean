import BuiltinLink.Target.Isa
import BuiltinLink.Text.Blank

/-!
Compilation targets: an instruction set, an operating system and an architecture that has the
instruction set. Names are read leniently (blanks at the ends and the case of Latin letters do not
count, common other spellings are known) and written in one way.
-/

namespace BuiltinLink

inductive Os where
  | linux
  | windows
  | macos
  | freebsd
  | android
deriving DecidableEq, Repr

namespace Os

instance : Vocabulary Os where
  members := [linux, windows, macos, freebsd, android]
  name
    | linux => "linux"
    | windows => "windows"
    | macos => "macos"
    | freebsd => "freebsd"
    | android => "android"
  mem_members a := by cases a <;> decide
  name_injective a b := by cases a <;> cases b <;> decide

/-- The system that a folded text spells. -/
def ofFolded? : String → Option Os
  | "linux" => some linux
  | "windows" | "win" => some windows
  | "macos" | "darwin" => some macos
  | "freebsd" => some freebsd
  | "android" => some android
  | _ => none

end Os

/-- Why a description of a target is refused. -/
inductive TargetError where
  | unknownIsa (text : String)
  | unknownOs (text : String)
  | unknownArch (text : String)
  | mismatch (isa : Isa) (arch : Arch)
deriving DecidableEq, Repr

/-- The wording of a refusal; an unknown name is quoted as it was given. -/
def TargetError.message : TargetError → String
  | unknownIsa text => "unknown target ISA `" ++ text ++ "`"
  | unknownOs text => "unknown target OS `" ++ text ++ "`"
  | unknownArch text => "unknown target architecture `" ++ text ++ "`"
  | mismatch isa arch =>
    "ISA `" ++ Vocabulary.name isa ++ "` cannot be compiled for architecture `" ++
      Vocabulary.name arch ++ "`"

def Isa.read (s : String) : Except TargetError Isa :=
  match Vocabulary.ofName? (Text.fold s) with
  | some isa => .ok isa
  | none => .error (.unknownIsa s)

def Os.read (s : String) : Except TargetError Os :=
  match ofFolded? (Text.fold s) with
  | some os => .ok os
  | none => .error (.unknownOs s)

def Arch.read (s : String) : Except TargetError Arch :=
  match ofFolded? (Text.fold s) with
  | some arch => .ok arch
  | none => .error (.unknownArch s)

structure Target where
  isa : Isa
  os : Os
  arch : Arch
  supported : isa.Supports arch
deriving DecidableEq, Repr

namespace Target

/-- The target with these parts, unless the architecture lacks the instruction set. -/
def ofParts (isa : Isa) (os : Os) (arch : Arch) : Except TargetError Target :=
  if h : isa.Supports arch then .ok ⟨isa, os, arch, h⟩ else .error (.mismatch isa arch)

/-- Reads the three names in order and combines them. -/
def read (isa os arch : String) : Except TargetError Target := do
  let isa ← Isa.read isa
  let os ← Os.read os
  let arch ← Arch.read arch
  ofParts isa os arch

/-- The three names with slashes between them. -/
def describe (t : Target) : String :=
  Vocabulary.name t.isa ++ "/" ++ Vocabulary.name t.os ++ "/" ++ Vocabulary.name t.arch

end Target

end BuiltinLink
