import BuiltinLink.Proofs.Settings.Description
import BuiltinLink.Proofs.Text.Utf8
import BuiltinLink.Proofs.Toml.RoundTrip
import BuiltinLink.Settings.Writer

/-!
Link settings are read as they were written. Only a directory that is no text keeps settings from
being written, and settings that come from a document never hold one.
-/

namespace BuiltinLink

open Toml

/-! ### Directories -/

namespace Path

theorem text?_eq_some_iff {p : Path} {s : String} : p.text? = some s ↔ ofString s = p := by
  unfold text? ofString
  rw [Option.map_eq_some_iff]
  constructor
  · intro h'
    rcases h' with ⟨l, hl, rfl⟩
    rw [String.toList_ofList, Text.decode?_eq_some_iff.1 hl]
  · intro heq
    subst heq
    exact ⟨s.toList, Text.decode?_eq_some_iff.2 rfl, String.ofList_toList⟩

theorem text?_ofString (s : String) : (ofString s).text? = some s :=
  text?_eq_some_iff.2 rfl

/-- A path is a text if its bytes are valid UTF-8. -/
theorem text?_eq_none_iff {p : Path} : p.text? = none ↔ ¬ p.bytes.toByteArray.IsValidUTF8 := by
  rw [← Option.not_isSome_iff_eq_none, Option.isSome_iff_exists]
  refine not_congr ⟨?_, ?_⟩
  · intro h'
    rcases h' with ⟨s, hs⟩
    rw [← text?_eq_some_iff.1 hs]
    exact ⟨s.toList, rfl⟩
  · intro h'
    rcases h' with ⟨l, hl⟩
    have hb := congrArg (fun b => b.data.toList) hl
    simp only [List.utf8Encode, List.toList_data_toByteArray] at hb
    refine ⟨String.ofList l, text?_eq_some_iff.2 ?_⟩
    unfold ofString
    rw [String.toList_ofList]
    exact congrArg Path.mk hb.symm

end Path

/-! ### Values -/

namespace Settings

theorem stages_stageArray (s : StageSet) :
    stages (LinkSettings.stageArray s).toValue = .ok s := by
  refine stages_eq_ok_iff.2 ⟨.inline, s.toList, ?_, fun _ => .rfl⟩
  simp [LinkSettings.stageArray, Plain.toValue]

theorem variant_documentName {α : Type} [Vocabulary α] [DocumentNames α] [CanonicalInDocuments α]
    (a : α) : variant α (.string (DocumentNames.documentName a)) = .ok a :=
  variant_eq_ok_iff.2 (.inl (congrArg Value.string (CanonicalInDocuments.documentName_eq a)))

end Settings

namespace LinkSettings

/-! ### What is written -/

theorem fits_stageArray (s : StageSet) : (stageArray s).Fits := by
  intro n hn
  obtain ⟨m, -, rfl⟩ := List.mem_map.1 hn
  have := m.toNat_lt
  omega

theorem wellFormed_targetTable (t : Target) : (targetTable t).WellFormed where
  name := show Bare "target" by decide
  keys := by
    intro e he
    have hkey : e.1 ∈ ["isa", "os", "arch"] := List.mem_map_of_mem (f := Prod.fst) he
    exact (show ∀ k ∈ ["isa", "os", "arch"], Bare k by decide) e.1 hkey
  fits := by
    simp [targetTable]
  nodup := show ["isa", "os", "arch"].Nodup by decide

theorem keys_linkTable (s : LinkSettings) (dir : Option String) :
    ((s.linkTable dir).entries.map Prod.fst).Sublist Settings.LinkSection.fields := by
  cases dir with
  | none => exact List.sublist_append_left _ ["dump-dir"]
  | some d => exact List.Sublist.refl _

theorem wellFormed_linkTable (s : LinkSettings) (dir : Option String) :
    (s.linkTable dir).WellFormed where
  name := show Bare "link" by decide
  keys := by
    intro e he
    have hkey := (s.keys_linkTable dir).subset (List.mem_map_of_mem (f := Prod.fst) he)
    exact (show ∀ k ∈ Settings.LinkSection.fields, Bare k by decide) e.1 hkey
  fits := by
    have hdebug := fits_stageArray s.debugStages
    have hdisabled := fits_stageArray s.disabledStages
    cases dir <;> simp [linkTable, hdebug, hdisabled]
  nodup := (s.keys_linkTable dir).nodup (by decide)

/-! ### What is read -/

theorem targetParts_targetTable (t : Target) (kind : TableKind) :
    Settings.targetParts (.table kind ((targetTable t).entries.map fun e => (e.1, e.2.toValue))) =
      .ok ⟨t.isa, t.os, t.arch⟩ := by
  simp only [Settings.targetParts, targetTable, List.map_cons, List.map_nil, Plain.toValue,
    List.foldlM_cons, List.foldlM_nil, Settings.TargetDraft.enter, Settings.variant_documentName]
  rfl

theorem linkSection_linkTable (s : LinkSettings) (dir : Option String) (kind : TableKind) :
    Settings.linkSection (.table kind ((s.linkTable dir).entries.map fun e => (e.1, e.2.toValue))) =
      .ok ⟨s.includeStdlib, s.multiTarget, s.debugStages, s.disabledStages,
        dir.map Path.ofString⟩ := by
  have hdebug := Settings.stages_stageArray s.debugStages
  have hdisabled := Settings.stages_stageArray s.disabledStages
  cases dir with
  | none =>
    simp only [Settings.linkSection, linkTable, Option.toList_none, List.map_nil, List.append_nil,
      List.map_cons, List.foldlM_cons, List.foldlM_nil, Settings.LinkSection.enter, hdebug,
      hdisabled]
    rfl
  | some d =>
    simp only [Settings.linkSection, linkTable, Option.toList_some, List.map_cons, List.map_nil,
      List.cons_append, List.nil_append, List.foldlM_cons, List.foldlM_nil,
      Settings.LinkSection.enter, hdebug, hdisabled]
    rfl

theorem ofText_writeTables (s : LinkSettings) (dir : Option String) :
    ofText (String.ofList (writeTables [targetTable s.target, s.linkTable dir])) =
      .ok { s with dumpDir := dir.map Path.ofString } := by
  have hread : parse? (writeTables [targetTable s.target, s.linkTable dir]) =
      some [(targetTable s.target).toEntry, (s.linkTable dir).toEntry] := by
    refine parse?_writeTables ?_ (show ["target", "link"].Nodup by decide)
    simp [wellFormed_targetTable, wellFormed_linkTable]
  have hentries : Settings.ofEntries [(targetTable s.target).toEntry, (s.linkTable dir).toEntry] =
      .ok (s.toParts, { s with dumpDir := dir.map Path.ofString }.toSection) := by
    have ht : Settings.targetParts (targetTable s.target).toEntry.2 = .ok s.toParts :=
      targetParts_targetTable s.target .headed
    have hl : Settings.linkSection (s.linkTable dir).toEntry.2 =
        .ok { s with dumpDir := dir.map Path.ofString }.toSection :=
      s.linkSection_linkTable dir .headed
    change (do
      let d ← [("target", (targetTable s.target).toEntry.2),
        ("link", (s.linkTable dir).toEntry.2)].foldlM Settings.Draft.enter {}
      d.finish) = _
    simp only [List.foldlM_cons, List.foldlM_nil, Settings.Draft.enter, ht, hl]
    rfl
  exact ofText_eq_ok_iff.2 ⟨_, by rw [String.toList_ofList, hread],
    (Settings.ofEntries_eq_ok_iff (parse?_eq_some_iff.1 hread).distinct).1 hentries⟩

/-- Writing fails exactly on a directory that is set and no text. -/
theorem toText_eq_error_iff (s : LinkSettings) :
    (∃ e, s.toText = .error e) ↔
      ∃ d, s.dumpDir = some d ∧ ¬ d.bytes.toByteArray.IsValidUTF8 := by
  unfold toText toTables
  cases hd : s.dumpDir with
  | none => simp [Except.map]
  | some d =>
    have hd := Path.text?_eq_none_iff (p := d)
    cases ht : d.text? with
    | none => exact ⟨fun _ => ⟨d, rfl, hd.1 ht⟩, fun _ => ⟨.directoryNotText, by simp [Except.map, ht]⟩⟩
    | some t => simpa [Except.map, ht] using hd

theorem ofText_toText {s : LinkSettings} {t : String} (h : s.toText = .ok t) :
    ofText t = .ok s := by
  unfold toText toTables at h
  cases hd : s.dumpDir with
  | none =>
    simp only [hd, Except.map, Except.ok.injEq] at h
    rw [← h, ofText_writeTables]
    cases s
    cases hd
    rfl
  | some d =>
    rw [hd] at h
    cases ht : d.text? with
    | none => simp [ht, Except.map] at h
    | some dir =>
      simp only [ht, Except.map, Except.ok.injEq] at h
      rw [← h, ofText_writeTables, Option.map_some, Path.text?_eq_some_iff.1 ht, ← hd]

/-- The directory of settings that were read is spelt by a text. -/
theorem exists_text_of_ofText {t : String} {s : LinkSettings} (h : ofText t = .ok s) {d : Path}
    (hd : s.dumpDir = some d) : ∃ dir, d.text? = some dir := by
  obtain ⟨es, -, -, -, hlink⟩ := ofText_eq_ok_iff.1 h
  unfold Settings.Field at hlink
  split at hlink
  · obtain ⟨fields, -, -, -, -, -, hdir⟩ := hlink
    unfold Settings.Field at hdir
    split at hdir
    · obtain ⟨p, hp, dir, -, rfl⟩ := hdir
      cases hd.symm.trans hp
      exact ⟨dir, Path.text?_ofString dir⟩
    · cases hd.symm.trans hdir
  · cases hd.symm.trans (congrArg Settings.LinkSection.dumpDir hlink)

/-- Settings can be written exactly if no directory is set or it is valid UTF-8; what is written is
read as the same settings, byte for byte in the directory; and whatever text settings were read
from, they can be written and read again. -/
theorem settings_round_trip :
    (∀ s : LinkSettings, (∃ e, s.toText = .error e) ↔
      ∃ d, s.dumpDir = some d ∧ ¬ d.bytes.toByteArray.IsValidUTF8) ∧
    (∀ (s : LinkSettings) (t : String), s.toText = .ok t → ofText t = .ok s) ∧
    ∀ (t : String) (s : LinkSettings), ofText t = .ok s →
      ∃ t', s.toText = .ok t' ∧ ofText t' = .ok s := by
  refine ⟨toText_eq_error_iff, fun s t => ofText_toText, fun t s h => ?_⟩
  cases ht : s.toText with
  | ok t' => exact ⟨t', rfl, ofText_toText ht⟩
  | error e =>
    obtain ⟨d, hd, hinvalid⟩ := (toText_eq_error_iff s).1 ⟨e, ht⟩
    obtain ⟨dir, hdir⟩ := exists_text_of_ofText h hd
    rw [← Path.text?_eq_none_iff, hdir] at hinvalid
    cases hinvalid

end LinkSettings

end BuiltinLink
