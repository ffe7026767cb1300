import BuiltinLink.Link.Error
import Mathlib.Data.List.Infix

/-!
What attribution leaves as it is. An error is one cause under the stages that it is attributed to.
All that is told about the error is told by its cause, except that its wording names the stages in
front, and attributing it again changes nothing.
-/

namespace BuiltinLink

open LinkError

/-- A cause under stages, the outermost first. -/
def LinkCause.under (c : LinkCause) : List Stage → LinkError
  | [] => cause c
  | s :: ss => staged s (c.under ss)

theorem LinkCause.failure?_eq_some_iff {c : LinkCause} {failure : FileError} :
    c.failure? = some failure ↔ ∃ library path, c = .libraryIo library path failure := by
  cases c <;> simp [failure?]

namespace LinkError

/-- The stages of an error, the outermost first. -/
def stages : LinkError → List Stage
  | cause _ => []
  | staged s e => s :: e.stages

/-- The error below all attributions. -/
def root : LinkError → LinkError
  | cause c => cause c
  | staged _ e => e.root

/-- What is told of an error by its outermost part: `told` of a cause, `other` of an attribution. -/
def tell {α : Type} (told : LinkCause → α) (other : Stage → LinkError → α) : LinkError → α
  | cause c => told c
  | staged s e => other s e

theorem root_eq (e : LinkError) : e.root = cause e.rootCause := by
  induction e with
  | cause c => rfl
  | staged s e ih => exact ih

/-- Nothing is ever told of the root as of an attribution. -/
theorem tell_root {α : Type} (told : LinkCause → α) (other : Stage → LinkError → α)
    (e : LinkError) : e.root.tell told other = told e.rootCause := by
  rw [root_eq]
  rfl

/-! ### Causes under stages -/

theorem under_rootCause_stages (e : LinkError) : e.rootCause.under e.stages = e := by
  induction e with
  | cause c => rfl
  | staged s e ih => exact congrArg (staged s) ih

section

variable (c : LinkCause) (ss : List Stage)

@[simp] theorem rootCause_under : (c.under ss).rootCause = c := by
  induction ss with
  | nil => rfl
  | cons s ss ih => exact ih

@[simp] theorem stages_under : (c.under ss).stages = ss := by
  induction ss with
  | nil => rfl
  | cons s ss ih => exact congrArg (s :: ·) ih

@[simp] theorem root_under : (c.under ss).root = cause c := by
  rw [root_eq, rootCause_under]

theorem stage?_under : (c.under ss).stage? = ss.head? := by
  cases ss <;> rfl

theorem message_under :
    (c.under ss).message =
      String.join (ss.map fun s => Vocabulary.name s ++ " failed: ") ++ c.message := by
  induction ss with
  | nil => simp [LinkCause.under, message]
  | cons s ss ih => simp only [LinkCause.under, message, ih, List.map_cons, String.join_cons,
      String.append_assoc]

/-- An error rests on the same cause under ever fewer stages, and at last on what failed behind the
cause. -/
theorem sources_under :
    (c.under ss).sources = (ss.tails.tail.map fun inner => (c.under inner).message) ++
      (c.failure?.map FileError.message).toList := by
  induction ss with
  | nil => rfl
  | cons s ss ih =>
    have htails : ss.tails = ss :: ss.tails.tail := by cases ss <;> rfl
    rw [LinkCause.under, sources, ih, List.tails_cons, List.tail_cons, htails]
    rfl

end

theorem existsUnique_under (e : LinkError) :
    ∃! p : LinkCause × List Stage, p.1.under p.2 = e := by
  refine ⟨(e.rootCause, e.stages), under_rootCause_stages e, ?_⟩
  rintro ⟨c, ss⟩ rfl
  rw [rootCause_under, stages_under]

/-! ### Reports and repeated attribution -/

theorem notes_diagnostic (e : LinkError) :
    e.diagnostic.notes = (e.rootCause.failure?.map FileError.message).toList := by
  unfold diagnostic
  cases e.rootCause.failure? <;> rfl

theorem subject_diagnostic (e : LinkError) :
    e.diagnostic.subject = some e.rootCause.subject := by
  unfold diagnostic
  cases e.rootCause.failure? <;> rfl

/-- The report of an error depends on its cause and its wording alone. -/
theorem diagnostic_eq (e : LinkError) :
    e.diagnostic = { (cause e.rootCause).diagnostic with message := e.message } := by
  unfold diagnostic
  simp only [code, rootCause]
  cases e.rootCause.failure? <;> rfl

theorem foldl_inStage_staged (s : Stage) (e : LinkError) (ss : List Stage) :
    ss.foldl inStage (staged s e) = staged s e := by
  induction ss with
  | nil => rfl
  | cons _ ss ih => exact ih

theorem rootCause_foldl_inStage (e : LinkError) (ss : List Stage) :
    (ss.foldl inStage e).rootCause = e.rootCause := by
  induction ss generalizing e with
  | nil => rfl
  | cons s ss ih => rw [List.foldl_cons, ih, rootCause_inStage]

/-- What is told of an error that is a cause under stages. -/
structure ToldByCause (c : LinkCause) (ss : List Stage) (e : LinkError) : Prop where
  root : e.root = cause c
  /-- The root is no attribution. -/
  stage?_root : e.root.stage? = none
  rootCause : e.rootCause = c
  stage? : e.stage? = ss.head?
  code : e.code = (cause c).code
  /-- The wording names the stages in front. -/
  message : e.message = String.join (ss.map fun s => Vocabulary.name s ++ " failed: ") ++
    (cause c).message
  /-- The error rests on the errors inside, and at last on what failed behind the cause. -/
  sources : e.sources = (ss.tails.tail.map fun inner => (c.under inner).message) ++
    (c.failure?.map FileError.message).toList
  /-- The report is that of the cause, with the wording of the error. -/
  diagnostic : e.diagnostic = { (cause c).diagnostic with message := e.message }
  notes : e.diagnostic.notes = (c.failure?.map FileError.message).toList
  /-- Codes and subjects are those of causes, whatever would be told of attributions. -/
  toldCode : ∀ other, e.root.tell LinkCause.code other = e.code
  toldSubject : ∀ other, some (e.root.tell LinkCause.subject other) = e.diagnostic.subject

theorem toldByCause_under (c : LinkCause) (ss : List Stage) : ToldByCause c ss (c.under ss) := by
  have hroot : (c.under ss).root = cause c := root_under c ss
  have hcause : (c.under ss).rootCause = c := rootCause_under c ss
  constructor
  case root => exact hroot
  case stage?_root =>
    rw [hroot]
    rfl
  case rootCause => exact hcause
  case stage? => exact stage?_under c ss
  case code =>
    rw [LinkError.code, hcause]
    rfl
  case message => exact message_under c ss
  case sources => exact sources_under c ss
  case diagnostic => rw [diagnostic_eq (c.under ss), hcause]
  case notes => rw [notes_diagnostic, hcause]
  case toldCode => exact fun other => tell_root _ other _
  case toldSubject =>
    intro other
    rw [tell_root, subject_diagnostic]

/-- How attributions to one stage after the other act on errors. -/
structure FirstCounts : Prop where
  /-- Of several attributions of a cause the first counts. -/
  cause : ∀ (c : LinkCause) s ss, (s :: ss).foldl inStage (cause c) = (cause c).inStage s ∧
    (cause c).inStage s = c.under [s]
  /-- None counts of an error that has one. -/
  staged : ∀ s e (ss : List Stage), ss.foldl inStage (staged s e) = staged s e
  rootCause : ∀ (e : LinkError) (ss : List Stage), (ss.foldl inStage e).rootCause = e.rootCause
  code : ∀ (e : LinkError) (ss : List Stage), (ss.foldl inStage e).code = e.code
  subject : ∀ (e : LinkError) (ss : List Stage),
    (ss.foldl inStage e).diagnostic.subject = e.diagnostic.subject

theorem firstCounts : FirstCounts where
  cause c s ss := ⟨foldl_inStage_staged s (.cause c) ss, rfl⟩
  staged := foldl_inStage_staged
  rootCause := rootCause_foldl_inStage
  code e ss := by rw [code, code, rootCause_foldl_inStage]
  subject e ss := by rw [subject_diagnostic, subject_diagnostic, rootCause_foldl_inStage]

/-- Attribution says where a cause was met and changes nothing about it. Each error is a cause under
stages, in one way, and all that is told of it is told of the cause; only input and output leaves
something behind a cause. -/
theorem attribution_keeps_cause :
    (∀ e : LinkError, ∃! p : LinkCause × List Stage, p.1.under p.2 = e) ∧
      (∀ c ss, ToldByCause c ss (c.under ss)) ∧
      (∀ (c : LinkCause) failure,
        c.failure? = some failure ↔ ∃ library path, c = .libraryIo library path failure) ∧
      FirstCounts :=
  ⟨existsUnique_under, toldByCause_under, fun _ _ => LinkCause.failure?_eq_some_iff, firstCounts⟩

end LinkError

end BuiltinLink
