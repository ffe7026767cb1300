import BuiltinLink.Proofs.Settings.RoundTrip
import BuiltinLink.Settings.Dump
import Mathlib.Data.List.Induction

/-!
What a sequence of changes amounts to. A flag or the directory is as it was set last, the two sets
of checkpoints are the unions of all lists passed for them; nothing else of the history is left, so
that settings that amount to the same are the same and are written as the same text.
-/

namespace BuiltinLink.LinkSettings

open Toml

/-- The field that a change touches. -/
inductive Part where
  | stdlib
  | multiTarget
  | debugStages
  | disabledStages
  | dumpDir
deriving DecidableEq, Repr

namespace Change

def part : Change → Part
  | stdlib _ => .stdlib
  | multiTarget _ => .multiTarget
  | debugStages _ => .debugStages
  | disabledStages _ => .disabledStages
  | dumpDir _ => .dumpDir

def stdlib? : Change → Option Bool
  | stdlib included => some included
  | _ => none

def multiTarget? : Change → Option Bool
  | multiTarget several => some several
  | _ => none

def dumpDir? : Change → Option Path
  | dumpDir dir => some dir
  | _ => none

/-- The checkpoints that a change passes for dumps. -/
def debugged : Change → List UInt32
  | debugStages l => l
  | _ => []

/-- The checkpoints that a change excludes from dumps. -/
def disabled : Change → List UInt32
  | disabledStages l => l
  | _ => []

end Change

/-! ### What was set last, and what was ever passed -/

def lastStdlib (l : List Change) : Bool :=
  (l.filterMap Change.stdlib?).getLast?.getD true

def lastMultiTarget (l : List Change) : Bool :=
  (l.filterMap Change.multiTarget?).getLast?.getD false

def lastDumpDir (l : List Change) : Option Path :=
  (l.filterMap Change.dumpDir?).getLast?

def allDebugged (l : List Change) : List UInt32 :=
  l.flatMap Change.debugged

def allDisabled (l : List Change) : List UInt32 :=
  l.flatMap Change.disabled

theorem changes_append (s : LinkSettings) (l₁ l₂ : List Change) :
    s.changes (l₁ ++ l₂) = (s.changes l₁).changes l₂ :=
  List.foldl_append

theorem changes_cons (s : LinkSettings) (c : Change) (l : List Change) :
    s.changes (c :: l) = (s.change c).changes l :=
  rfl

theorem target_changes (s : LinkSettings) (l : List Change) :
    (s.changes l).target = s.target := by
  induction l generalizing s with
  | nil => rfl
  | cons c l ih =>
    have hkept : (s.change c).target = s.target := by cases c <;> rfl
    rw [changes_cons, ih, hkept]

/-- A field that each change sets or keeps is as it was set last. -/
theorem last_changes {α β : Type} (field : LinkSettings → β) (set? : Change → Option α) (f : α → β)
    (hset : ∀ s c, field (s.change c) = ((set? c).map f).getD (field s)) (s : LinkSettings)
    (l : List Change) :
    field (s.changes l) = ((l.filterMap set?).getLast?.map f).getD (field s) := by
  induction l using List.reverseRecOn with
  | nil => rfl
  | append_singleton l c ih =>
    have hlast : field (s.changes (l ++ [c])) = ((set? c).map f).getD (field (s.changes l)) := by
      rw [changes_append]
      exact hset _ c
    rw [hlast, ih, List.filterMap_append]
    cases hc : set? c with
    | none => simp [hc]
    | some b => simp [hc]

/-- A set that each change adds to holds all that was ever added. -/
theorem mem_changes (set : LinkSettings → StageSet) (added : Change → List UInt32)
    (hset : ∀ s c n, n ∈ set (s.change c) ↔ n ∈ set s ∨ n ∈ added c) (s : LinkSettings)
    (l : List Change) (n : UInt32) :
    n ∈ set (s.changes l) ↔ n ∈ set s ∨ n ∈ l.flatMap added := by
  induction l generalizing s with
  | nil => simp [changes]
  | cons c l ih => rw [changes_cons, ih, hset, List.flatMap_cons, List.mem_append, or_assoc]

section

variable (t : Target) (l : List Change) (n : UInt32)

theorem includeStdlib_changes :
    (LinkSettings.changes { target := t } l).includeStdlib = lastStdlib l := by
  have hset : ∀ (s : LinkSettings) c,
      (s.change c).includeStdlib = (c.stdlib?.map id).getD s.includeStdlib := by
    intro s c
    cases c <;> rfl
  rw [last_changes includeStdlib Change.stdlib? id hset, Option.map_id_fun]
  rfl

theorem multiTarget_changes :
    (LinkSettings.changes { target := t } l).multiTarget = lastMultiTarget l := by
  have hset : ∀ (s : LinkSettings) c,
      (s.change c).multiTarget = (c.multiTarget?.map id).getD s.multiTarget := by
    intro s c
    cases c <;> rfl
  rw [last_changes multiTarget Change.multiTarget? id hset, Option.map_id_fun]
  rfl

theorem dumpDir_changes : (LinkSettings.changes { target := t } l).dumpDir = lastDumpDir l := by
  have hset : ∀ (s : LinkSettings) c,
      (s.change c).dumpDir = (c.dumpDir?.map some).getD s.dumpDir := by
    intro s c
    cases c <;> rfl
  rw [last_changes dumpDir Change.dumpDir? some hset, lastDumpDir]
  cases (l.filterMap Change.dumpDir?).getLast? <;> rfl

theorem mem_debugStages_changes :
    n ∈ (LinkSettings.changes { target := t } l).debugStages ↔ n ∈ allDebugged l := by
  have hset : ∀ (s : LinkSettings) c n,
      n ∈ (s.change c).debugStages ↔ n ∈ s.debugStages ∨ n ∈ c.debugged := by
    intro s c n
    cases c <;> simp [change, Change.debugged]
  rw [mem_changes debugStages Change.debugged hset]
  exact or_iff_right (StageSet.not_mem_empty n)

theorem mem_disabledStages_changes :
    n ∈ (LinkSettings.changes { target := t } l).disabledStages ↔ n ∈ allDisabled l := by
  have hset : ∀ (s : LinkSettings) c n,
      n ∈ (s.change c).disabledStages ↔ n ∈ s.disabledStages ∨ n ∈ c.disabled := by
    intro s c n
    cases c <;> simp [change, Change.disabled]
  rw [mem_changes disabledStages Change.disabled hset]
  exact or_iff_right (StageSet.not_mem_empty n)

theorem dumps_changes :
    (LinkSettings.changes { target := t } l).dumps n = true ↔
      n ∈ allDebugged l ∧ n ∉ allDisabled l := by
  rw [dumps, decide_eq_true_iff, mem_debugStages_changes, mem_disabledStages_changes]

end

/-! ### Orders and repetitions -/

theorem change_comm (s : LinkSettings) {c c' : Change} (h : c.part ≠ c'.part) :
    (s.change c).change c' = (s.change c').change c := by
  cases c <;> cases c' <;> first | exact absurd rfl h | rfl

theorem insertAll_congr (s : StageSet) {a b : List UInt32} (h : ∀ n, n ∈ a ↔ n ∈ b) :
    s.insertAll a = s.insertAll b :=
  StageSet.ext_mem fun n => by rw [StageSet.mem_insertAll, StageSet.mem_insertAll, h n]

theorem eq_of_fields {a b : LinkSettings} (htarget : a.target = b.target)
    (hstdlib : a.includeStdlib = b.includeStdlib) (hmulti : a.multiTarget = b.multiTarget)
    (hdebug : a.debugStages = b.debugStages) (hdisabled : a.disabledStages = b.disabledStages)
    (hdir : a.dumpDir = b.dumpDir) : a = b := by
  cases a
  cases b
  cases htarget
  cases hstdlib
  cases hmulti
  cases hdebug
  cases hdisabled
  cases hdir
  rfl

/-- Changes that amount to the same. -/
structure SameEffect (l l' : List Change) : Prop where
  stdlib : lastStdlib l = lastStdlib l'
  multiTarget : lastMultiTarget l = lastMultiTarget l'
  debugged : ∀ n, n ∈ allDebugged l ↔ n ∈ allDebugged l'
  disabled : ∀ n, n ∈ allDisabled l ↔ n ∈ allDisabled l'
  dumpDir : lastDumpDir l = lastDumpDir l'

theorem changes_eq_iff (t : Target) {l l' : List Change} :
    LinkSettings.changes { target := t } l = LinkSettings.changes { target := t } l' ↔
      SameEffect l l' := by
  constructor
  · intro heq
    refine ⟨?_, ?_, fun n => ?_, fun n => ?_, ?_⟩
    · rw [← includeStdlib_changes t, heq, includeStdlib_changes]
    · rw [← multiTarget_changes t, heq, multiTarget_changes]
    · rw [← mem_debugStages_changes t, heq, mem_debugStages_changes]
    · rw [← mem_disabledStages_changes t, heq, mem_disabledStages_changes]
    · rw [← dumpDir_changes t, heq, dumpDir_changes]
  · intro h
    have hdebug := StageSet.ext_mem fun n =>
      (mem_debugStages_changes t l n).trans
        ((h.debugged n).trans (mem_debugStages_changes t l' n).symm)
    have hdisabled := StageSet.ext_mem fun n =>
      (mem_disabledStages_changes t l n).trans
        ((h.disabled n).trans (mem_disabledStages_changes t l' n).symm)
    have htarget := (target_changes { target := t } l).trans
      (target_changes { target := t } l').symm
    have hstdlib := (includeStdlib_changes t l).trans
      (h.stdlib.trans (includeStdlib_changes t l').symm)
    have hmulti := (multiTarget_changes t l).trans
      (h.multiTarget.trans (multiTarget_changes t l').symm)
    have hdir := (dumpDir_changes t l).trans (h.dumpDir.trans (dumpDir_changes t l').symm)
    exact eq_of_fields htarget hstdlib hmulti hdebug hdisabled hdir

/-! ### The text -/

/-- The line that holds a list of checkpoints under a key. -/
def stageLine (key : String) (l : List UInt32) : List Char :=
  key.toList ++ [' ', '=', ' ', '['] ++
    [',', ' '].intercalate (l.map fun n => Nat.toDigits 10 n.toNat) ++ [']', '\n']

/-- The line of a set is that of its members in increasing order. -/
theorem line_stageArray (key : String) (s : StageSet) :
    key.toList ++ [' ', '=', ' '] ++ (stageArray s).write ++ ['\n'] = stageLine key s.toList := by
  simp [stageLine, stageArray, Plain.write, Function.comp_def]

theorem exists_dir_of_toText {s : LinkSettings} {text : String} (h : s.toText = .ok text) :
    ∃ dir, text = String.ofList (writeTables [targetTable s.target, s.linkTable dir]) := by
  unfold toText toTables at h
  split at h
  · exact ⟨none, (Except.ok.inj h).symm⟩
  · split at h
    · exact ⟨_, (Except.ok.inj h).symm⟩
    · cases h

/-- The lists of checkpoints stand in the text in increasing order, one line below the other. -/
theorem exists_stageLines {s : LinkSettings} {text : String} (h : s.toText = .ok text) :
    ∃ before after, text.toList = before ++ stageLine "debug-stages" s.debugStages.toList ++
      stageLine "disabled-stages" s.disabledStages.toList ++ after := by
  obtain ⟨dir, rfl⟩ := exists_dir_of_toText h
  let flags : PlainTable :=
    ⟨"link", [("include-stdlib", .boolean s.includeStdlib),
      ("multi-target", .boolean s.multiTarget)]⟩
  let last := (dir.toList.map fun d => ("dump-dir", Plain.string d)).flatMap fun e =>
    e.1.toList ++ [' ', '=', ' '] ++ e.2.write ++ ['\n']
  refine ⟨(targetTable s.target).write ++ '\n' :: flags.write, last, ?_⟩
  rw [String.toList_ofList, ← line_stageArray, ← line_stageArray]
  simp only [writeTables, List.map_cons, List.map_nil, PlainTable.write, linkTable, flags, last]
  simp [List.intercalate, List.intersperse]

/-- Settings as a sequence of changes leaves them. -/
structure AsChanged (t : Target) (l : List Change) (s : LinkSettings) : Prop where
  target : s.target = t
  includeStdlib : s.includeStdlib = lastStdlib l
  multiTarget : s.multiTarget = lastMultiTarget l
  dumpDir : s.dumpDir = lastDumpDir l
  debugStages : ∀ n, n ∈ s.debugStages ↔ n ∈ allDebugged l
  disabledStages : ∀ n, n ∈ s.disabledStages ↔ n ∈ allDisabled l

/-- A text with the lists of checkpoints in increasing order, one line below the other. -/
def ListsStages (l : List Change) (text : String) : Prop :=
  ∃ before debug disabled after,
    text.toList = before ++ stageLine "debug-stages" debug ++
      stageLine "disabled-stages" disabled ++ after ∧
    debug.Pairwise (· < ·) ∧ disabled.Pairwise (· < ·) ∧
    ∀ n, (n ∈ debug ↔ n ∈ allDebugged l) ∧ (n ∈ disabled ↔ n ∈ allDisabled l)

/-- Settings that depend on what changes amount to, and not on their history. -/
structure ForgetsHistory (t : Target) (settings : List Change → LinkSettings) : Prop where
  /-- Each field is as it was set last, or holds all that was ever passed for it. -/
  fields : ∀ l, AsChanged t l (settings l)
  /-- Neighbours that touch different fields may be swapped. -/
  swap : ∀ l₁ l₂ c c', c.part ≠ c'.part →
    settings (l₁ ++ c :: c' :: l₂) = settings (l₁ ++ c' :: c :: l₂)
  /-- Lists with the same members replace each other. -/
  sameMembers : ∀ l₁ l₂ a b, (∀ n, n ∈ a ↔ n ∈ b) →
    settings (l₁ ++ .debugStages a :: l₂) = settings (l₁ ++ .debugStages b :: l₂) ∧
    settings (l₁ ++ .disabledStages a :: l₂) = settings (l₁ ++ .disabledStages b :: l₂)
  /-- A checkpoint is dumped iff it was passed for dumps and never excluded. -/
  dumps : ∀ l n, (settings l).dumps n = (DumpRule.ofSettings (settings l)).isEnabled n ∧
    ((settings l).dumps n = true ↔ n ∈ allDebugged l ∧ n ∉ allDisabled l)
  /-- Once excluded, it stays so. -/
  excluded : ∀ l₁ l₂ stages n, n ∈ stages →
    (settings (l₁ ++ .disabledStages stages :: l₂)).dumps n = false
  /-- Changes that amount to the same give the same text, or both none. -/
  sameEffect : ∀ l l', SameEffect l l' →
    settings l = settings l' ∧ (settings l).toText = (settings l').toText
  text : ∀ l text, (settings l).toText = .ok text → ListsStages l text

/-- Settings are what was set last and the unions of what was passed, whatever the history: a
checkpoint is dumped iff it was passed for dumps and never excluded, and sequences of changes that
amount to the same give the same settings and the same text, or both none. -/
theorem changes_forget_history (t : Target) :
    ForgetsHistory t (LinkSettings.changes { target := t }) := by
  constructor
  case fields =>
    intro l
    exact ⟨target_changes _ l, includeStdlib_changes t l, multiTarget_changes t l,
      dumpDir_changes t l, mem_debugStages_changes t l, mem_disabledStages_changes t l⟩
  case swap =>
    intro l₁ l₂ c c' hpart
    simp only [changes_append, changes_cons, change_comm _ hpart]
  case sameMembers =>
    intro l₁ l₂ a b hmem
    simp only [changes_append, changes_cons, change, insertAll_congr _ hmem, and_self]
  case dumps =>
    intro l n
    exact ⟨rfl, dumps_changes t l n⟩
  case excluded =>
    intro l₁ l₂ stages n hn
    refine Bool.eq_false_iff.2 fun hdumps => ((dumps_changes t _ n).1 hdumps).2 ?_
    rw [allDisabled, List.flatMap_append, List.flatMap_cons]
    exact List.mem_append_right _ (List.mem_append_left _ hn)
  case sameEffect =>
    intro l l' hsame
    have heq := (changes_eq_iff t).2 hsame
    exact ⟨heq, congrArg toText heq⟩
  case text =>
    intro l text htext
    obtain ⟨before, after, hlines⟩ := exists_stageLines htext
    exact ⟨before, _, _, after, hlines, StageSet.sorted _, StageSet.sorted _, fun n =>
      ⟨mem_debugStages_changes t l n, mem_disabledStages_changes t l n⟩⟩

end BuiltinLink.LinkSettings
