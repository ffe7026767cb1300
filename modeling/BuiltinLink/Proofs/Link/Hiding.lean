import BuiltinLink.Link.Contribution

/-!
What is looked at when definitions are hidden. The module may be any, and so may be what its actions
do: each candidate is looked up once, whatever the answers are, functions before globals. So a module
is left alone exactly if all names are reserved.
-/

namespace BuiltinLink

/-- A look at a module. There are no other ways to reach what it holds. -/
inductive Look where
  | function (name : String)
  | global (name : String)
deriving DecidableEq, Repr

variable {m : Type → Type} [Monad m]

namespace Destination

/-- A module that keeps a log of the looks at it. -/
def logged (dest : Destination m) : Destination (StateT (List Look) m) where
  Function := dest.Function
  Global := dest.Global
  function? name := do
    modify (· ++ [.function name])
    dest.function? name
  global? name := do
    modify (· ++ [.global name])
    dest.global? name
  blockCount f := dest.blockCount f
  functionLinkage f := dest.functionLinkage f
  setFunctionLinkage f l := dest.setFunctionLinkage f l
  isDeclaration g := dest.isDeclaration g
  globalLinkage g := dest.globalLinkage g
  globalName g := dest.globalName g
  setGlobalLinkage g l := dest.setGlobalLinkage g l

variable [LawfulMonad m] (dest : Destination m)

theorem internalizeFunction_logged (f : dest.Function) :
    dest.logged.internalizeFunction f = liftM (dest.internalizeFunction f) := by
  simp only [internalizeFunction, liftM_bind, liftM_pure, apply_ite liftM]
  rfl

theorem internalizeGlobal_logged (g : dest.Global) :
    dest.logged.internalizeGlobal g = liftM (dest.internalizeGlobal g) := by
  simp only [internalizeGlobal, isNamed, liftM_bind, liftM_pure, apply_ite liftM]
  rfl

/-- A name is looked up once, whatever is found. -/
theorem run_hideBy {α : Type} {find? : String → m (Option α)} {internalize : α → m Nat}
    {find?' : String → StateT (List Look) m (Option α)} {internalize' : α → StateT (List Look) m Nat}
    {entry : String → Look}
    (hfind : ∀ name log, (find?' name).run log =
      (fun found => (found, log ++ [entry name])) <$> find? name)
    (hinternalize : ∀ x, internalize' x = liftM (internalize x)) (name : String)
    (log : List Look) :
    (hideBy find?' internalize' name).run log =
      (fun n => (n, log ++ [entry name])) <$> hideBy find? internalize name := by
  rw [hideBy, StateT.run_bind, hfind, bind_map_left, hideBy, map_bind]
  refine bind_congr fun found => ?_
  cases found with
  | none => simp
  | some x => simp [hinternalize]

theorem run_hideFunction_logged (name : String) (log : List Look) :
    (dest.logged.hideFunction name).run log =
      (fun n => (n, log ++ [.function name])) <$> dest.hideFunction name :=
  run_hideBy (fun name log => by simp [logged]) dest.internalizeFunction_logged name log

theorem run_hideGlobal_logged (name : String) (log : List Look) :
    (dest.logged.hideGlobal name).run log =
      (fun n => (n, log ++ [.global name])) <$> dest.hideGlobal name :=
  run_hideBy (fun name log => by simp [logged]) dest.internalizeGlobal_logged name log

end Destination

namespace Contribution

open SymbolName

/-- The looks at a module while definitions are hidden in it. -/
def looks (c : Contribution) : List Look :=
  (candidates c.functions).map .function ++ (candidates c.globals).map .global

variable [LawfulMonad m]

/-- If each action adds its entry to the log, so do all, in order. -/
theorem run_tally {action : String → m Nat} {action' : String → StateT (List Look) m Nat}
    {entry : String → Look}
    (step : ∀ name log, (action' name).run log =
      (fun k => (k, log ++ [entry name])) <$> action name)
    (n : Nat) (names : List String) (log : List Look) :
    (tally action' n names).run log =
      (fun k => (k, log ++ names.map entry)) <$> tally action n names := by
  induction names generalizing n log with
  | nil => simp [tally]
  | cons name names ih =>
    unfold tally at ih ⊢
    simp only [List.foldlM_cons, StateT.run_bind, bind_assoc, pure_bind, map_bind, step,
      bind_map_left, ih, List.map_cons, List.append_assoc, List.singleton_append]

/-- Whatever the module is, and whatever its actions do: a log changes nothing, and in the end it
holds one look for each candidate. -/
theorem run_hide_logged (c : Contribution) (dest : Destination m) (log : List Look) :
    (c.hide dest.logged).run log = (fun n => (n, log ++ c.looks)) <$> c.hide dest := by
  rw [hide, StateT.run_bind, run_tally dest.run_hideFunction_logged, hide, bind_map_left, map_bind]
  refine bind_congr fun n => ?_
  rw [run_tally dest.run_hideGlobal_logged, looks, List.append_assoc]

theorem looks_eq_nil_iff {c : Contribution} :
    c.looks = [] ↔ candidates c.functions = [] ∧ candidates c.globals = [] := by
  simp [looks]

/-- Whether all names that a library brought are reserved. -/
def AllReserved (c : Contribution) : Prop :=
  ∀ name ∈ c.functions ++ c.globals, isReserved name = true

theorem looks_eq_nil_iff_allReserved {c : Contribution} : c.looks = [] ↔ c.AllReserved := by
  rw [looks_eq_nil_iff, AllReserved, List.forall_mem_append]
  simp [candidates]

theorem hide_of_looks_eq_nil {c : Contribution} (h : c.looks = []) (dest : Destination m) :
    c.hide dest = pure 0 := by
  obtain ⟨hfunctions, hglobals⟩ := looks_eq_nil_iff.1 h
  rw [hide, hfunctions, hglobals]
  exact pure_bind 0 _

/-- Of a module that answers nothing, nothing can be told as soon as one name has to be looked up. -/
theorem internalized?_eq_some_iff {c : Contribution} :
    c.internalized? = some 0 ↔ c.AllReserved := by
  rw [← looks_eq_nil_iff_allReserved]
  refine ⟨fun h => looks_eq_nil_iff.2 ?_, fun h => hide_of_looks_eq_nil h _⟩
  rw [internalized?, hide] at h
  cases hfunctions : candidates c.functions with
  | cons name names =>
    rw [hfunctions] at h
    cases h
  | nil =>
    rw [hfunctions] at h
    cases hglobals : candidates c.globals with
    | cons name names =>
      rw [hglobals] at h
      cases h
    | nil => exact ⟨rfl, rfl⟩

/-- On modules with a state: nothing is looked at, nothing changes and nothing is counted exactly if
all names are reserved. -/
theorem run_hide_logged_eq_iff {σ : Type} {c : Contribution} {dest : Destination (StateM σ)}
    {state : σ} :
    ((c.hide dest.logged).run []).run state = ((0, []), state) ↔ c.AllReserved := by
  rw [run_hide_logged, List.nil_append, ← looks_eq_nil_iff_allReserved]
  constructor
  · exact fun h => congrArg (fun r => r.1.2) h
  · intro h
    rw [hide_of_looks_eq_nil h, h]
    rfl

end Contribution

end BuiltinLink
