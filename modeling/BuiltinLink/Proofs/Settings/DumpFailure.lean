import BuiltinLink.Proofs.Files.Joined
import BuiltinLink.Settings.Dump

/-!
A dump that cannot be made never disturbs linking. The system is left open: whatever its files are
and however making a directory or writing a file may fail, a checkpoint that is not asked for
touches nothing, and one that is asked for leaves at most a warning, which tells what could not be
done. Of the settings only those for dumps count.
-/

namespace BuiltinLink.DumpRule

open Text

variable {σ : Type}

section Checkpoint

variable {makeAll : σ → Path → σ × Except FileError Unit} {r : DumpRule} {n : UInt32}
  {stage : Stage} {files files' : σ}

theorem checkpointBy_of_not_enabled (h : r.isEnabled n = false) :
    r.checkpointBy makeAll n stage files = (files, .skipped) := by
  rw [checkpointBy, h]
  rfl

theorem checkpointBy_of_error {dir : Path} {e : FileError} (h : r.isEnabled n = true)
    (hdir : r.dir = some dir) (he : makeAll files dir = (files', .error e)) :
    r.checkpointBy makeAll n stage files = (files', .failed (r.cannotCreate dir n stage e)) := by
  rw [checkpointBy, h, hdir]
  simp only [he, if_true]

theorem exists_warning_of_failed {w : Diagnostic}
    (h : (r.checkpointBy makeAll n stage files).2 = .failed w) :
    ∃ file problem, w = warning stage file problem := by
  unfold checkpointBy at h
  split at h
  · split at h
    · cases h
    · split at h
      · cases h
      · cases h
        exact ⟨_, _, rfl⟩
  · cases h

end Checkpoint

-- A file stands where the directory should be.
example :
    (checkpoint ⟨.ofList [1], ∅, some ⟨[100]⟩, none⟩ 1 .linkStdlib ⟨[([[100]], .file [])]⟩).2 =
      .failed
        { severity := .warning
          code := some .dumpFailed
          message :=
            "could not dump IR for LinkStdlib: cannot create d: File exists (os error 17)"
          subject := some "d/pre_1_LinkStdlib.ll" } := by
  decide +kernel

/-- A warning that a checkpoint could not be dumped, with nothing beside the problem. -/
structure IsDumpWarning (w : Diagnostic) (stage : Stage) (file : Path) (problem : String) :
    Prop where
  severity : w.severity = .warning
  code : w.code = some .dumpFailed
  message : w.message = "could not dump IR for " ++ Vocabulary.name stage ++ ": " ++ problem
  subject : w.subject = some file.display
  notes : w.notes = []
  suggestions : w.suggestions = []

/-- The code of the warning has no help, so that it suggests nothing. -/
theorem isDumpWarning_warning (stage : Stage) (file : Path) (problem : String) :
    IsDumpWarning (warning stage file problem) stage file problem :=
  ⟨rfl, rfl, rfl, rfl, rfl, rfl⟩

section CarryOut

variable {sys : DumpSystem σ} {r : DumpRule} {n : UInt32} {stage : Stage} {state state' : σ}

theorem carryOut_of_not_enabled (h : r.isEnabled n = false) :
    r.carryOut sys n stage state = (state, none) := by
  rw [carryOut, checkpointBy_of_not_enabled h]

theorem carryOut_of_error {dir : Path} {e : FileError} (h : r.isEnabled n = true)
    (hdir : r.dir = some dir) (he : sys.makeAll state dir = (state', .error e)) :
    r.carryOut sys n stage state = (state', some (r.cannotCreate dir n stage e)) := by
  rw [carryOut, checkpointBy_of_error h hdir he]

/-- A checkpoint leaves nothing or a warning, whatever fails. -/
theorem isDumpWarning_of_carryOut {w : Diagnostic} (h : (r.carryOut sys n stage state).2 = some w) :
    ∃ file problem, IsDumpWarning w stage file problem := by
  unfold carryOut at h
  rcases hc : r.checkpointBy sys.makeAll n stage state with ⟨state₁, _ | file | w'⟩
  · simp [hc] at h
  · cases file with
    | none => simp [hc] at h
    | some file =>
      rcases hwrite : sys.write state₁ file with ⟨state₂, problem | u⟩
      · simp only [hc, hwrite, Option.some.injEq] at h
        exact ⟨file, problem, h ▸ isDumpWarning_warning stage file problem⟩
      · simp [hc, hwrite] at h
  · simp only [hc, Option.some.injEq] at h
    subst h
    obtain ⟨file, problem, rfl⟩ := exists_warning_of_failed (congrArg Prod.snd hc)
    exact ⟨file, problem, isDumpWarning_warning stage file problem⟩

end CarryOut

theorem ofSettings_congr {a b : LinkSettings} (hdebug : a.debugStages = b.debugStages)
    (hdisabled : a.disabledStages = b.disabledStages) (hdir : a.dumpDir = b.dumpDir)
    (hmulti : a.multiTarget = b.multiTarget)
    (hisa : a.multiTarget = true → a.target.isa = b.target.isa) : ofSettings a = ofSettings b := by
  have hending : (ofSettings a).isa = (ofSettings b).isa := by
    rw [ofSettings, ofSettings, ← hmulti]
    cases hm : a.multiTarget with
    | false => rfl
    | true => simp [hisa hm]
  rw [ofSettings, ofSettings, mk.injEq]
  exact ⟨hdebug, hdisabled, hdir, hending⟩

theorem isEnabled_of_disabled {s : LinkSettings} {n : UInt32} {l : List UInt32} (h : n ∈ l) :
    (ofSettings (s.change (.disabledStages l))).isEnabled n = false := by
  simp [isEnabled, ofSettings, LinkSettings.change, h]

/-- Over all systems, states, settings and checkpoints: a checkpoint that is not enabled answers
nothing and touches nothing. If the directory of an enabled one cannot be made, the answer is one
warning; a path that is no text is shown with replacement characters in it. No answer is ever an
error. Only the settings for dumps count, and a checkpoint that is disabled stays so. -/
theorem failed_dump_only_warns (sys : DumpSystem σ) (s : LinkSettings) (n : UInt32) (stage : Stage)
    (state : σ) :
    ((ofSettings s).isEnabled n = false →
      (ofSettings s).carryOut sys n stage state = (state, none) ∧
      ∀ files, (ofSettings s).checkpoint n stage files = (files, .skipped)) ∧
    ((ofSettings s).isEnabled n = true → ∀ dir, s.dumpDir = some dir → ∀ e, ∃ w,
      IsDumpWarning w stage (dir.join (encode ((ofSettings s).fileName n stage).toList))
        ("cannot create " ++ dir.display ++ ": " ++ e.message) ∧
      (∀ state', sys.makeAll state dir = (state', .error e) →
        (ofSettings s).carryOut sys n stage state = (state', some w)) ∧
      ∀ files files', FileTree.makeAll files dir = (files', .error e) →
        (ofSettings s).checkpoint n stage files = (files', .failed w)) ∧
    Code.dumpFailed.text = "E0530" ∧
    (∀ dir : Path, (∀ t, dir.text? = some t → dir.display = t) ∧
      ∀ name, (dir.join (encode name.toList)).display =
        dir.display ++ (if dir.bytes = [] ∨ dir.endsInSlash then "" else "/") ++ name) ∧
    (∀ w, ((ofSettings s).carryOut sys n stage state).2 = some w →
      ∃ file problem, IsDumpWarning w stage file problem) ∧
    (∀ s' : LinkSettings, s.debugStages = s'.debugStages → s.disabledStages = s'.disabledStages →
      s.dumpDir = s'.dumpDir → s.multiTarget = s'.multiTarget →
      (s.multiTarget = true → s.target.isa = s'.target.isa) →
      (ofSettings s).carryOut sys n stage state = (ofSettings s').carryOut sys n stage state) ∧
    ∀ l, n ∈ l →
      (ofSettings (s.change (.disabledStages l))).carryOut sys n stage state = (state, none) := by
  refine ⟨fun h => ⟨carryOut_of_not_enabled h, fun files => checkpointBy_of_not_enabled h⟩,
    fun h dir hdir e => ?_, by decide, fun dir => ⟨fun t => Path.display_of_text?, fun name => ?_⟩,
    fun w => isDumpWarning_of_carryOut, ?_, fun l hl => ?_⟩
  · exact ⟨_, isDumpWarning_warning stage _ _, fun state' he => carryOut_of_error h hdir he,
      fun files files' he => checkpointBy_of_error h hdir he⟩
  · exact Path.display_join dir name
  · intro s' hdebug hdisabled hdir hmulti hisa
    rw [ofSettings_congr hdebug hdisabled hdir hmulti hisa]
  · exact carryOut_of_not_enabled (isEnabled_of_disabled hl)

end BuiltinLink.DumpRule
