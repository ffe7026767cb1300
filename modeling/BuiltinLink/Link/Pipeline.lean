import BuiltinLink.Library.Registry
import BuiltinLink.Link.Record
import BuiltinLink.Settings.Basic

/-!
Link runs. Every library that a run needs is resolved, in the order in which the libraries will be
linked, before anything is linked; the first that cannot be had ends the run in its stage. What
linking then does to the module is left open.
-/

namespace BuiltinLink

variable {σ : Type} [FileSystem σ]

namespace Registry

/-- Resolves a key for a stage. -/
def resolveFor (files : σ) (stage : Stage) (key : LibraryKey) (r : Registry) :
    Registry × Except LinkError Resolved :=
  match resolve files r key with
  | (r', .ok l) => (r', .ok l)
  | (r', .error e) => (r', .error (e.inStage stage))

/-- Resolves the libraries of a target for some roles in order, up to the first that cannot be had.
-/
def resolveRoles (files : σ) (t : Target) :
    List Role → Registry → Registry × Except LinkError (List Resolved)
  | [], r => (r, .ok [])
  | role :: roles, r =>
    match r.resolveFor files (Stage.ofRole role) (.ofTarget role t) with
    | (r', .error e) => (r', .error e)
    | (r', .ok l) =>
      match resolveRoles files t roles r' with
      | (r'', .ok ls) => (r'', .ok (l :: ls))
      | (r'', .error e) => (r'', .error e)

end Registry

/-- A link run after its libraries were asked for. -/
structure Run where
  registry : Registry
  /-- The index of the next checkpoint. -/
  checkpoint : UInt32
  /-- The libraries to be linked. -/
  libraries : Except LinkError (List Resolved)

namespace Run

/-- The roles of the libraries that a run links, in order. -/
def roles (s : LinkSettings) : List Role :=
  (if s.includeStdlib then [.stdlib] else []) ++ [.commonBuiltins, .targetBuiltins]

/-- Begins a run. No checkpoint comes before the first library is linked. -/
def start (s : LinkSettings) (checkpoint : UInt32) (files : σ) (r : Registry) : Run :=
  let resolved := r.resolveRoles files s.target (roles s)
  ⟨resolved.1, checkpoint, resolved.2⟩

/-- Begins the link of a dispatcher, which needs the stubs of its operating system alone. -/
def startDispatch (t : Target) (files : σ) (r : Registry) : Run :=
  let resolved := r.resolveRoles files t [.dispatch]
  ⟨resolved.1, 0, resolved.2⟩

end Run

/-- What a run works on. -/
structure Workpiece (μ σ : Type) where
  module : μ
  /-- The index of the next checkpoint. -/
  checkpoint : UInt32
  /-- The files, among them the dumps. -/
  files : σ

/-- What linking some libraries does, whatever modules and files are. -/
abbrev Linking (μ σ : Type) :=
  LinkSettings → List Library → Workpiece μ σ → Workpiece μ σ × Except LinkError RunRecord

/-- A run from its beginning to its end. -/
def Run.perform {μ : Type} (link : Linking μ σ) (s : LinkSettings) (w : Workpiece μ σ)
    (r : Registry) : Registry × Workpiece μ σ × Except LinkError RunRecord :=
  let run := start s w.checkpoint w.files r
  let w := { w with checkpoint := run.checkpoint }
  match run.libraries with
  | .error e => (run.registry, w, .error e)
  | .ok ls => (run.registry, link s (ls.map Resolved.library) w)

end BuiltinLink
