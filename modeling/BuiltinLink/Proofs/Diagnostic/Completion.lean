import BuiltinLink.Diagnostic.Sink
import Mathlib.Data.List.Induction

/-!
What the steps that complete a diagnostic amount to, and the reports of a sink. Code and subject are
as they were set last; notes and suggestions stay in the order of the steps. A code has two effects:
it replaces the code before it, but its help stays among the suggestions. So a code and a suggestion
are the only steps of different kinds whose order can be seen.
-/

namespace BuiltinLink

namespace Diagnostic

/-- What a step completes. -/
inductive Part where
  | code
  | subject
  | note
  | suggestion
deriving DecidableEq, Repr

namespace Step

def part : Step → Part
  | code _ => .code
  | subject _ => .subject
  | note _ => .note
  | suggestion _ => .suggestion

def code? : Step → Option Code
  | code c => some c
  | _ => none

def subject? : Step → Option String
  | subject s => some s
  | _ => none

def note? : Step → Option String
  | note s => some s
  | _ => none

/-- What a step suggests: a text, or the help of a code. -/
def suggested? : Step → Option String
  | code c => c.help
  | suggestion s => some s
  | _ => none

end Step

variable (d : Diagnostic)

/-- What one step does to each field. -/
theorem step_eq (s : Step) : d.step s =
    { severity := d.severity
      code := s.code?.or d.code
      message := d.message
      subject := s.subject?.or d.subject
      notes := d.notes ++ s.note?.toList
      suggestions := d.suggestions ++ s.suggested?.toList } := by
  cases s <;> simp [step, withCode, withSubject, withNote, withSuggestion, Step.code?,
    Step.subject?, Step.note?, Step.suggested?]

theorem steps_append (l l' : List Step) : d.steps (l ++ l') = (d.steps l).steps l' :=
  List.foldl_append

theorem filterMap_concat {α : Type} (f : Step → Option α) (l : List Step) (s : Step) :
    (l ++ [s]).filterMap f = l.filterMap f ++ (f s).toList := by
  rw [List.filterMap_append]
  cases h : f s <;> simp [h]

theorem getLast?_concat_toList {α : Type} (l : List α) (o : Option α) :
    (l ++ o.toList).getLast? = o.or l.getLast? := by
  cases o <;> simp

/-- What steps do to each field. -/
theorem steps_eq (l : List Step) : d.steps l =
    { severity := d.severity
      code := (l.filterMap Step.code?).getLast?.or d.code
      message := d.message
      subject := (l.filterMap Step.subject?).getLast?.or d.subject
      notes := d.notes ++ l.filterMap Step.note?
      suggestions := d.suggestions ++ l.filterMap Step.suggested? } := by
  induction l using List.reverseRecOn with
  | nil => simp [steps]
  | append_singleton l s ih =>
    have hlast : d.steps (l ++ [s]) = (d.steps l).step s := d.steps_append l [s]
    rw [hlast, step_eq, ih]
    simp only [filterMap_concat, getLast?_concat_toList, Option.or_assoc, List.append_assoc]

/-! ### Orders -/

/-- Whether one of two steps attaches a code and the other a suggestion. -/
def Part.Clash (p q : Part) : Prop :=
  p = .code ∧ q = .suggestion ∨ p = .suggestion ∧ q = .code

theorem step_comm {a b : Step} (h : a.part ≠ b.part) (hclash : ¬ a.part.Clash b.part) :
    (d.step a).step b = (d.step b).step a := by
  cases a with
  | code c =>
    cases b with
    | code c' => exact absurd rfl h
    | suggestion t => exact absurd (.inl ⟨rfl, rfl⟩) hclash
    | _ => rfl
  | suggestion s =>
    cases b with
    | code c' => exact absurd (.inr ⟨rfl, rfl⟩) hclash
    | suggestion t => exact absurd rfl h
    | _ => rfl
  | subject s =>
    cases b with
    | subject t => exact absurd rfl h
    | _ => rfl
  | note s =>
    cases b with
    | note t => exact absurd rfl h
    | _ => rfl

theorem step_code_suggestion_comm {c : Code} {s : String}
    (h : ∀ help, c.help = some help → help = s) :
    (d.step (.code c)).step (.suggestion s) = (d.step (.suggestion s)).step (.code c) := by
  rw [step_eq, step_eq, step_eq, step_eq]
  cases hc : c.help with
  | none => simp [Step.code?, Step.subject?, Step.note?, Step.suggested?, hc]
  | some help => simp [Step.code?, Step.subject?, Step.note?, Step.suggested?, hc, h help hc]

/-- Neighbours may be swapped wherever they stand if they may be on their own. -/
theorem steps_swap {a b : Step} (h : ∀ d : Diagnostic, (d.step a).step b = (d.step b).step a)
    (l l' : List Step) : d.steps (l ++ a :: b :: l') = d.steps (l ++ b :: a :: l') := by
  rw [steps_append, steps_append]
  exact congrArg (steps · l') (h (d.steps l))

/-- A code and a suggestion may be swapped exactly if that moves no help across another text. -/
theorem steps_code_suggestion_comm_iff (l l' : List Step) (c : Code) (s : String) :
    d.steps (l ++ .code c :: .suggestion s :: l') = d.steps (l ++ .suggestion s :: .code c :: l') ↔
      ∀ help, c.help = some help → help = s := by
  constructor
  · intro h help hc
    have hs := congrArg suggestions h
    simp only [steps_eq, List.filterMap_append, List.filterMap_cons, Step.suggested?, hc,
      List.append_cancel_left_eq, List.cons.injEq] at hs
    exact hs.1
  · intro h
    exact d.steps_swap (fun d => d.step_code_suggestion_comm h) l l'

/-- The codes without help. -/
def helpless : List Code :=
  [.unknownIntrinsic, .overloadedIntrinsic, .libraryIo, .dumpFailed]

theorem help_eq_none_iff {c : Code} : c.help = none ↔ c ∈ helpless := by
  cases c <;> decide

/-- Exactly the codes without help may be swapped with every suggestion. -/
theorem forall_steps_code_suggestion_comm_iff (l l' : List Step) (c : Code) :
    (∀ s, d.steps (l ++ .code c :: .suggestion s :: l') =
        d.steps (l ++ .suggestion s :: .code c :: l')) ↔ c ∈ helpless := by
  simp only [steps_code_suggestion_comm_iff, ← help_eq_none_iff]
  constructor
  · intro h
    refine Option.eq_none_iff_forall_ne_some.2 fun help hc => ?_
    have hempty : help = "" := h "" help hc
    have hother : help = "?" := h "?" help hc
    exact absurd (hempty.symm.trans hother) (by decide)
  · intro h s help hc
    cases h.symm.trans hc

end Diagnostic

/-! ### Reports -/

namespace Sink

/-- Reports one diagnostic after the other. -/
def reportAll (s : Sink) (l : List Diagnostic) : Sink :=
  l.foldl report s

theorem diagnostics_reportAll (s : Sink) (l : List Diagnostic) :
    (s.reportAll l).diagnostics = s.diagnostics ++ l := by
  induction l generalizing s with
  | nil => exact (List.append_nil s.diagnostics).symm
  | cons d l ih =>
    have hfirst : s.reportAll (d :: l) = (s.report d).reportAll l := rfl
    rw [hfirst, ih, diagnostics_report, List.append_assoc, List.singleton_append]

variable {s : Sink} {l : List Diagnostic}

theorem errorCount_eq (h : s.diagnostics = l) :
    s.errorCount = (l.filter fun d => d.severity = .error).length := by
  rw [errorCount, h, List.countP_eq_length_filter]
  rfl

theorem hasErrors_iff (h : s.diagnostics = l) :
    s.hasErrors = true ↔ ∃ d ∈ l, d.severity = .error := by
  rw [hasErrors, decide_eq_true_iff, errorCount, h, List.countP_pos_iff]
  simp only [Diagnostic.isError, decide_eq_true_iff]

end Sink

/-- From a fresh diagnostic of any severity and a fresh sink, over all steps and reports: severity
and message stay, code and subject are those set last, notes and suggestions stand in the order of
the steps, and so do the help texts of all codes that have one. Neighbours of different kinds may be
swapped unless they are a code and a suggestion, which may be only if the code has no help or that
very text; four codes have none. The sink holds what was reported in order, and counts the errors.
-/
theorem Diagnostic.gathered_in_order :
    (∀ message, Diagnostic.error message = { severity := .error, message } ∧
      Diagnostic.warning message = { severity := .warning, message }) ∧
    (∀ (severity : Severity) (message : String) (l : List Step),
      Diagnostic.steps { severity, message } l =
        { severity
          code := (l.filterMap Step.code?).getLast?
          message
          subject := (l.filterMap Step.subject?).getLast?
          notes := l.filterMap Step.note?
          suggestions := l.filterMap Step.suggested? }) ∧
    (∀ (d : Diagnostic) (l l' : List Step) (a b : Step), a.part ≠ b.part → ¬ a.part.Clash b.part →
      d.steps (l ++ a :: b :: l') = d.steps (l ++ b :: a :: l')) ∧
    (∀ (d : Diagnostic) (l l' : List Step) (c : Code) (s : String),
      d.steps (l ++ .code c :: .suggestion s :: l') =
          d.steps (l ++ .suggestion s :: .code c :: l') ↔
        ∀ help, c.help = some help → help = s) ∧
    (∀ (d : Diagnostic) (l l' : List Step) (c : Code),
      (∀ s, d.steps (l ++ .code c :: .suggestion s :: l') =
          d.steps (l ++ .suggestion s :: .code c :: l')) ↔
        c ∈ helpless) ∧
    ∀ l : List Diagnostic, let sink := Sink.reportAll {} l
      sink.diagnostics = l ∧ sink.length = l.length ∧ (sink.isEmpty = true ↔ l = []) ∧
      sink.errorCount = (l.filter fun d => d.severity = .error).length ∧
      (sink.hasErrors = true ↔ ∃ d ∈ l, d.severity = .error) := by
  refine ⟨fun message => ⟨rfl, rfl⟩, fun severity message l => ?_, fun d l l' a b h hclash => ?_,
    fun d l l' c s => d.steps_code_suggestion_comm_iff l l' c s,
    fun d l l' c => d.forall_steps_code_suggestion_comm_iff l l' c, fun l => ?_⟩
  · rw [steps_eq]
    simp only [Option.or_none, List.nil_append]
  · exact d.steps_swap (fun d => d.step_comm h hclash) l l'
  · intro sink
    have hsink : sink.diagnostics = l := Sink.diagnostics_reportAll {} l
    refine ⟨hsink, congrArg List.length hsink, ?_, Sink.errorCount_eq hsink,
      Sink.hasErrors_iff hsink⟩
    rw [Sink.isEmpty, hsink, List.isEmpty_iff]

end BuiltinLink
