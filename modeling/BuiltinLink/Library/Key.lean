import BuiltinLink.Target.Basic

/-!
The keys under which precompiled libraries are registered. A key holds the role of the library and
those parts of the target that matter for the role.
-/

namespace BuiltinLink

/-- What a library provides. -/
inductive Role where
  /-- The portable standard library. -/
  | stdlib
  /-- Portable helpers: printing, glue to the task runtime. -/
  | commonBuiltins
  /-- Helpers for one instruction set. -/
  | targetBuiltins
  /-- Stubs that choose among the variants of a function at run time. -/
  | dispatch
deriving DecidableEq, Repr

instance : Vocabulary Role where
  members := [.stdlib, .commonBuiltins, .targetBuiltins, .dispatch]
  name
    | .stdlib => "stdlib"
    | .commonBuiltins => "common-builtins"
    | .targetBuiltins => "target-builtins"
    | .dispatch => "dispatch"
  mem_members a := by cases a <;> decide
  name_injective a b := by cases a <;> cases b <;> decide

/-- The key of a library; absent parts do not matter for its role. -/
structure LibraryKey where
  role : Role
  isa : Option Isa
  os : Os
  arch : Option Arch
deriving DecidableEq, Repr

namespace LibraryKey

/-- The key of the dispatch stubs, which depend on the operating system alone. -/
def dispatch (os : Os) : LibraryKey :=
  ⟨.dispatch, none, os, none⟩

/-- The key under which the library for a role and a target is looked up. -/
def ofTarget (role : Role) (t : Target) : LibraryKey :=
  match role with
  | .dispatch => dispatch t.os
  | .commonBuiltins => ⟨role, none, t.os, some t.arch⟩
  | .stdlib | .targetBuiltins => ⟨role, some t.isa, t.os, some t.arch⟩

/-- A name made of the parts with hyphens between them. -/
def libraryName (k : LibraryKey) : String :=
  Vocabulary.name k.role ++
    (match k.isa with | some isa => "-" ++ Vocabulary.name isa | none => "") ++
    "-" ++ Vocabulary.name k.os ++
    (match k.arch with | some arch => "-" ++ Vocabulary.name arch | none => "")

/-- The role, and in parentheses the other parts with their kinds. -/
def describe (k : LibraryKey) : String :=
  Vocabulary.name k.role ++ " (" ++
    (match k.isa with | some isa => "isa " ++ Vocabulary.name isa ++ ", " | none => "") ++
    "os " ++ Vocabulary.name k.os ++
    (match k.arch with | some arch => ", arch " ++ Vocabulary.name arch | none => "") ++ ")"

end LibraryKey

end BuiltinLink
