import BuiltinLink.Proofs.Settings.Record
import BuiltinLink.Proofs.Toml.Language

/-!
What the entries of a document must be to describe link settings: which keys there may be, which
values stand for the parts of a target and for the settings beside it, and what holds where a field
is absent. The reader accepts exactly such entries.
-/

namespace BuiltinLink

open Toml

namespace Settings

/-- A value that names the three parts of a target. -/
def DescribesTarget (v : Value) (t : TargetParts) : Prop :=
  ∃ es, FieldsOf ["isa", "os", "arch"] v es ∧
    (∃ w, es.lookup "isa" = some w ∧ Names w t.isa) ∧
    (∃ w, es.lookup "os" = some w ∧ Names w t.os) ∧
    ∃ w, es.lookup "arch" = some w ∧ Names w t.arch

/-- A value that holds the settings beside the target. -/
def DescribesLink (v : Value) (s : LinkSection) : Prop :=
  ∃ es, FieldsOf ["include-stdlib", "multi-target", "debug-stages", "disabled-stages", "dump-dir"]
      v es ∧
    Field es "include-stdlib" (fun w b => w = .boolean b) true s.includeStdlib ∧
    Field es "multi-target" (fun w b => w = .boolean b) false s.multiTarget ∧
    Field es "debug-stages" IsStages ∅ s.debugStages ∧
    Field es "disabled-stages" IsStages ∅ s.disabledStages ∧
    Field es "dump-dir" (fun w d => ∃ p, d = some p ∧ IsPath w p) none s.dumpDir

/-! ### Targets -/

namespace TargetDraft

/-- Only the three fields are entered, each for itself. -/
theorem cases_of_enter {d d' : TargetDraft} {k : String} {v : Value}
    (h : d.enter (k, v) = .ok d') :
    (k = "isa" ∧ ∃ a, variant Isa v = .ok a ∧ { d with isa := some a } = d') ∨
      (k = "os" ∧ ∃ a, variant Os v = .ok a ∧ { d with os := some a } = d') ∨
      (k = "arch" ∧ ∃ a, variant Arch v = .ok a ∧ { d with arch := some a } = d') := by
  unfold enter at h
  split at h
  · rename_i heq
    cases heq
    exact .inl ⟨rfl, bind_pure_eq_ok_iff.1 h⟩
  · rename_i heq
    cases heq
    exact .inr (.inl ⟨rfl, bind_pure_eq_ok_iff.1 h⟩)
  · rename_i heq
    cases heq
    exact .inr (.inr ⟨rfl, bind_pure_eq_ok_iff.1 h⟩)
  · cases h

theorem enters_isa : Enters enter "isa" isa fun v => (variant Isa v).map some := by
  intro d d' k v h
  rcases cases_of_enter h with ⟨rfl, a, ha, rfl⟩ | ⟨rfl, a, -, rfl⟩ | ⟨rfl, a, -, rfl⟩
  · simp [ha, Except.map]
  · simp
  · simp

theorem enters_os : Enters enter "os" os fun v => (variant Os v).map some := by
  intro d d' k v h
  rcases cases_of_enter h with ⟨rfl, a, -, rfl⟩ | ⟨rfl, a, ha, rfl⟩ | ⟨rfl, a, -, rfl⟩
  · simp
  · simp [ha, Except.map]
  · simp

theorem enters_arch : Enters enter "arch" arch fun v => (variant Arch v).map some := by
  intro d d' k v h
  rcases cases_of_enter h with ⟨rfl, a, -, rfl⟩ | ⟨rfl, a, -, rfl⟩ | ⟨rfl, a, ha, rfl⟩
  · simp
  · simp
  · simp [ha, Except.map]

theorem mem_fields_of_enter {d d' : TargetDraft} {e : String × Value} (h : d.enter e = .ok d') :
    e.1 ∈ fields := by
  obtain ⟨hk, -⟩ | ⟨hk, -⟩ | ⟨hk, -⟩ := cases_of_enter h <;> simp [fields, hk]

/-- The entries of a target are read exactly if each part is named under its own key. -/
theorem foldlM_enter_eq_ok_iff {es : Entries} (hnodup : (es.map Prod.fst).Nodup)
    {t : TargetParts} : es.foldlM enter {} = .ok ⟨some t.isa, some t.os, some t.arch⟩ ↔
      (∀ e ∈ es, e.1 ∈ fields) ∧ (∃ w, es.lookup "isa" = some w ∧ Names w t.isa) ∧
        (∃ w, es.lookup "os" = some w ∧ Names w t.os) ∧
        ∃ w, es.lookup "arch" = some w ∧ Names w t.arch := by
  simp only [← variant_eq_ok_iff]
  constructor
  · intro hf
    exact ⟨keys_of_foldlM mem_fields_of_enter hf,
      (enters_isa.shown_eq_some_iff hnodup rfl hf).1 rfl,
      (enters_os.shown_eq_some_iff hnodup rfl hf).1 rfl,
      (enters_arch.shown_eq_some_iff hnodup rfl hf).1 rfl⟩
  · intro ⟨hkeys, hisa, hos, harch⟩
    have hok : ∀ e ∈ es, ∀ d : TargetDraft, ∃ d', d.enter e = .ok d' := by
      intro ⟨k, v⟩ he d
      have hl := lookup_of_mem hnodup he
      have hk := hkeys _ he
      simp only [fields, List.mem_cons, List.not_mem_nil, or_false] at hk hl
      rcases hk with rfl | rfl | rfl
      · obtain ⟨w, hw, ha⟩ := hisa
        cases hl.symm.trans hw
        exact ⟨_, bind_pure_eq_ok_iff.2 ⟨_, ha, rfl⟩⟩
      · obtain ⟨w, hw, ha⟩ := hos
        cases hl.symm.trans hw
        exact ⟨_, bind_pure_eq_ok_iff.2 ⟨_, ha, rfl⟩⟩
      · obtain ⟨w, hw, ha⟩ := harch
        cases hl.symm.trans hw
        exact ⟨_, bind_pure_eq_ok_iff.2 ⟨_, ha, rfl⟩⟩
    obtain ⟨⟨i, o, a⟩, hf⟩ := foldlM_isOk hok {}
    have hi : i = some t.isa := (enters_isa.shown_eq_some_iff hnodup rfl hf).2 hisa
    have ho : o = some t.os := (enters_os.shown_eq_some_iff hnodup rfl hf).2 hos
    have ha : a = some t.arch := (enters_arch.shown_eq_some_iff hnodup rfl hf).2 harch
    rw [hf, hi, ho, ha]

end TargetDraft

/-! ### The settings beside the target -/

namespace LinkSection

/-- Only the five fields are entered, each for itself. -/
theorem cases_of_enter {s s' : LinkSection} {k : String} {v : Value} (h : s.enter (k, v) = .ok s') :
    (k = "include-stdlib" ∧ ∃ b, boolean v = .ok b ∧ { s with includeStdlib := b } = s') ∨
      (k = "multi-target" ∧ ∃ b, boolean v = .ok b ∧ { s with multiTarget := b } = s') ∨
      (k = "debug-stages" ∧ ∃ l, stages v = .ok l ∧ { s with debugStages := l } = s') ∨
      (k = "disabled-stages" ∧ ∃ l, stages v = .ok l ∧ { s with disabledStages := l } = s') ∨
      (k = "dump-dir" ∧ ∃ p, path v = .ok p ∧ { s with dumpDir := some p } = s') := by
  unfold enter at h
  split at h
  · rename_i heq
    cases heq
    exact .inl ⟨rfl, bind_pure_eq_ok_iff.1 h⟩
  · rename_i heq
    cases heq
    exact .inr (.inl ⟨rfl, bind_pure_eq_ok_iff.1 h⟩)
  · rename_i heq
    cases heq
    exact .inr (.inr (.inl ⟨rfl, bind_pure_eq_ok_iff.1 h⟩))
  · rename_i heq
    cases heq
    exact .inr (.inr (.inr (.inl ⟨rfl, bind_pure_eq_ok_iff.1 h⟩)))
  · rename_i heq
    cases heq
    exact .inr (.inr (.inr (.inr ⟨rfl, bind_pure_eq_ok_iff.1 h⟩)))
  · cases h

theorem enters_includeStdlib : Enters enter "include-stdlib" includeStdlib boolean := by
  intro s s' k v h
  obtain ⟨rfl, b, hb, rfl⟩ | ⟨rfl, b, -, rfl⟩ | ⟨rfl, l, -, rfl⟩ | ⟨rfl, l, -, rfl⟩ |
    ⟨rfl, p, -, rfl⟩ := cases_of_enter h
  · exact .inl ⟨rfl, hb⟩
  all_goals exact .inr ⟨by decide, rfl⟩

theorem enters_multiTarget : Enters enter "multi-target" multiTarget boolean := by
  intro s s' k v h
  obtain ⟨rfl, b, -, rfl⟩ | ⟨rfl, b, hb, rfl⟩ | ⟨rfl, l, -, rfl⟩ | ⟨rfl, l, -, rfl⟩ |
    ⟨rfl, p, -, rfl⟩ := cases_of_enter h
  · exact .inr ⟨by decide, rfl⟩
  · exact .inl ⟨rfl, hb⟩
  all_goals exact .inr ⟨by decide, rfl⟩

theorem enters_debugStages : Enters enter "debug-stages" debugStages stages := by
  intro s s' k v h
  obtain ⟨rfl, b, -, rfl⟩ | ⟨rfl, b, -, rfl⟩ | ⟨rfl, l, hl, rfl⟩ | ⟨rfl, l, -, rfl⟩ |
    ⟨rfl, p, -, rfl⟩ := cases_of_enter h
  · exact .inr ⟨by decide, rfl⟩
  · exact .inr ⟨by decide, rfl⟩
  · exact .inl ⟨rfl, hl⟩
  all_goals exact .inr ⟨by decide, rfl⟩

theorem enters_disabledStages : Enters enter "disabled-stages" disabledStages stages := by
  intro s s' k v h
  obtain ⟨rfl, b, -, rfl⟩ | ⟨rfl, b, -, rfl⟩ | ⟨rfl, l, -, rfl⟩ | ⟨rfl, l, hl, rfl⟩ |
    ⟨rfl, p, -, rfl⟩ := cases_of_enter h
  · exact .inr ⟨by decide, rfl⟩
  · exact .inr ⟨by decide, rfl⟩
  · exact .inr ⟨by decide, rfl⟩
  · exact .inl ⟨rfl, hl⟩
  · exact .inr ⟨by decide, rfl⟩

theorem enters_dumpDir : Enters enter "dump-dir" dumpDir fun v => (path v).map some := by
  intro s s' k v h
  obtain ⟨rfl, b, -, rfl⟩ | ⟨rfl, b, -, rfl⟩ | ⟨rfl, l, -, rfl⟩ | ⟨rfl, l, -, rfl⟩ |
    ⟨rfl, p, hp, rfl⟩ := cases_of_enter h
  · exact .inr ⟨by decide, rfl⟩
  · exact .inr ⟨by decide, rfl⟩
  · exact .inr ⟨by decide, rfl⟩
  · exact .inr ⟨by decide, rfl⟩
  · exact .inl ⟨rfl, map_eq_ok_iff.2 ⟨p, hp, rfl⟩⟩

theorem mem_fields_of_enter {s s' : LinkSection} {e : String × Value} (h : s.enter e = .ok s') :
    e.1 ∈ fields := by
  obtain ⟨hk, -⟩ | ⟨hk, -⟩ | ⟨hk, -⟩ | ⟨hk, -⟩ | ⟨hk, -⟩ := cases_of_enter h <;> simp [fields, hk]

theorem optionalPath_eq_ok_iff {v : Value} {d : Option Path} :
    (path v).map some = .ok d ↔ ∃ p, d = some p ∧ IsPath v p := by
  rw [map_eq_ok_iff]
  simp only [← path_eq_ok_iff]
  constructor
  · intro h'
    rcases h' with ⟨p, hp, rfl⟩
    exact ⟨p, rfl, hp⟩
  · intro h'
    rcases h' with ⟨p, rfl, hp⟩
    exact ⟨p, hp, rfl⟩

/-- The entries of the section are read exactly if each field is absent or given by an entry of its
own. -/
theorem foldlM_enter_eq_ok_iff {es : Entries} (hnodup : (es.map Prod.fst).Nodup)
    {s : LinkSection} : es.foldlM enter {} = .ok s ↔
      (∀ e ∈ es, e.1 ∈ fields) ∧
        Field es "include-stdlib" (fun w b => w = .boolean b) true s.includeStdlib ∧
        Field es "multi-target" (fun w b => w = .boolean b) false s.multiTarget ∧
        Field es "debug-stages" IsStages ∅ s.debugStages ∧
        Field es "disabled-stages" IsStages ∅ s.disabledStages ∧
        Field es "dump-dir" (fun w d => ∃ p, d = some p ∧ IsPath w p) none s.dumpDir := by
  have hfields {s : LinkSection} (hf : es.foldlM enter {} = .ok s) :=
    And.intro (enters_includeStdlib.field boolean_eq_ok_iff hnodup hf) <|
      And.intro (enters_multiTarget.field boolean_eq_ok_iff hnodup hf) <|
      And.intro (enters_debugStages.field stages_eq_ok_iff hnodup hf) <|
      And.intro (enters_disabledStages.field stages_eq_ok_iff hnodup hf)
        (enters_dumpDir.field optionalPath_eq_ok_iff hnodup hf)
  constructor
  · intro hf
    exact ⟨keys_of_foldlM mem_fields_of_enter hf, hfields hf⟩
  · intro ⟨hkeys, hstdlib, hmulti, hdebug, hdisabled, hdir⟩
    have hok : ∀ e ∈ es, ∀ s : LinkSection, ∃ s', s.enter e = .ok s' := by
      intro ⟨k, v⟩ he s
      have hl := lookup_of_mem hnodup he
      have hk := hkeys _ he
      simp only [fields, List.mem_cons, List.not_mem_nil, or_false] at hk hl
      rcases hk with rfl | rfl | rfl | rfl | rfl
      · exact ⟨_, bind_pure_eq_ok_iff.2 ⟨_, hstdlib.read_eq boolean_eq_ok_iff hl, rfl⟩⟩
      · exact ⟨_, bind_pure_eq_ok_iff.2 ⟨_, hmulti.read_eq boolean_eq_ok_iff hl, rfl⟩⟩
      · exact ⟨_, bind_pure_eq_ok_iff.2 ⟨_, hdebug.read_eq stages_eq_ok_iff hl, rfl⟩⟩
      · exact ⟨_, bind_pure_eq_ok_iff.2 ⟨_, hdisabled.read_eq stages_eq_ok_iff hl, rfl⟩⟩
      · obtain ⟨p, hp, -⟩ := map_eq_ok_iff.1 (hdir.read_eq optionalPath_eq_ok_iff hl)
        exact ⟨_, bind_pure_eq_ok_iff.2 ⟨p, hp, rfl⟩⟩
    obtain ⟨s', hf⟩ := foldlM_isOk hok {}
    obtain ⟨hstdlib', hmulti', hdebug', hdisabled', hdir'⟩ := hfields hf
    have hs : s' = s := by
      cases s
      cases s'
      congr
      · exact hstdlib'.unique boolean_eq_ok_iff hstdlib
      · exact hmulti'.unique boolean_eq_ok_iff hmulti
      · exact hdebug'.unique stages_eq_ok_iff hdebug
      · exact hdisabled'.unique stages_eq_ok_iff hdisabled
      · exact hdir'.unique optionalPath_eq_ok_iff hdir
    rw [hf, hs]

end LinkSection

/-! ### Documents -/

theorem finish_eq_ok_iff {d : TargetDraft} {t : TargetParts} :
    d.finish = .ok t ↔ d = ⟨some t.isa, some t.os, some t.arch⟩ := by
  constructor
  · intro h
    unfold TargetDraft.finish at h
    split at h
    · cases h
      rfl
    · cases h
    · cases h
    · cases h
  · intro heq
    subst heq
    rfl

/-- An array that gives the third part of a target has three items. -/
theorem length_le_of_lookup_arch {items : List Value} {w : Value}
    (h : (TargetDraft.fields.zip items).lookup "arch" = some w) :
    TargetDraft.fields.length ≤ items.length := by
  match items, h with
  | [], h => cases h
  | [_], h => cases h
  | [_, _], h => cases h
  | _ :: _ :: _ :: l, _ => simp [TargetDraft.fields]

theorem targetParts_eq_ok_iff {v : Value} (hv : v.Distinct) {t : TargetParts} :
    targetParts v = .ok t ↔ DescribesTarget v t := by
  constructor
  · intro h
    have hparts {es : Entries} (hes : FieldsOf TargetDraft.fields v es)
        (hf : es.foldlM TargetDraft.enter {} = .ok ⟨some t.isa, some t.os, some t.arch⟩) :
        DescribesTarget v t :=
      ⟨es, hes, ((TargetDraft.foldlM_enter_eq_ok_iff
        (nodup_of_fieldsOf (by decide) hv hes)).1 hf).2⟩
    unfold targetParts at h
    split at h
    · rename_i kind es
      obtain ⟨d, hf, h⟩ := bind_eq_ok_iff.1 h
      rw [finish_eq_ok_iff.1 h] at hf
      exact hparts (.inl ⟨kind, rfl, keys_of_foldlM TargetDraft.mem_fields_of_enter hf⟩) hf
    · rename_i kind items
      obtain ⟨d, hf, h⟩ := bind_eq_ok_iff.1 h
      split at h
      · cases h
      · rw [finish_eq_ok_iff.1 h] at hf
        exact hparts (.inr ⟨kind, items, rfl, rfl⟩) hf
    · cases h
    · cases h
  · intro h'
    rcases h' with ⟨es, hes, hparts⟩
    have hf := (TargetDraft.foldlM_enter_eq_ok_iff (nodup_of_fieldsOf (by decide) hv hes)).2
      ⟨mem_of_fieldsOf hes, hparts⟩
    rcases hes with ⟨kind, rfl, -⟩ | ⟨kind, items, rfl, rfl⟩
    · rw [targetParts, hf]
      rfl
    · obtain ⟨-, -, w, hw, -⟩ := hparts
      have hlength := length_le_of_lookup_arch hw
      refine bind_eq_ok_iff.2 ⟨_, hf, ?_⟩
      rw [if_neg (Nat.not_lt.2 hlength)]
      rfl

theorem linkSection_eq_ok_iff {v : Value} (hv : v.Distinct) {s : LinkSection} :
    linkSection v = .ok s ↔ DescribesLink v s := by
  constructor
  · intro h
    unfold linkSection at h
    split at h
    · rename_i kind es
      have hes : FieldsOf LinkSection.fields (.table kind es) es :=
        .inl ⟨kind, rfl, keys_of_foldlM LinkSection.mem_fields_of_enter h⟩
      exact ⟨es, hes, ((LinkSection.foldlM_enter_eq_ok_iff
        (nodup_of_fieldsOf (by decide) hv hes)).1 h).2⟩
    · rename_i kind items
      have hes : FieldsOf LinkSection.fields (.array kind items) (LinkSection.fields.zip items) :=
        .inr ⟨kind, items, rfl, rfl⟩
      exact ⟨_, hes, ((LinkSection.foldlM_enter_eq_ok_iff
        (nodup_of_fieldsOf (by decide) hv hes)).1 h).2⟩
    · cases h
    · cases h
  · intro h'
    rcases h' with ⟨es, hes, hfields⟩
    have hf := (LinkSection.foldlM_enter_eq_ok_iff (nodup_of_fieldsOf (by decide) hv hes)).2
      ⟨mem_of_fieldsOf hes, hfields⟩
    rcases hes with ⟨kind, rfl, -⟩ | ⟨kind, items, rfl, rfl⟩
    · exact hf
    · exact hf

namespace Draft

theorem cases_of_enter {d d' : Draft} {k : String} {v : Value} (h : d.enter (k, v) = .ok d') :
    (k = "target" ∧ ∃ t, targetParts v = .ok t ∧ { d with target := some t } = d') ∨
      (k = "link" ∧ ∃ s, linkSection v = .ok s ∧ { d with link := s } = d') := by
  unfold enter at h
  split at h
  · rename_i heq
    cases heq
    exact .inl ⟨rfl, bind_pure_eq_ok_iff.1 h⟩
  · rename_i heq
    cases heq
    exact .inr ⟨rfl, bind_pure_eq_ok_iff.1 h⟩
  · cases h

theorem enters_target : Enters enter "target" target fun v => (targetParts v).map some := by
  intro d d' k v h
  rcases cases_of_enter h with ⟨rfl, t, ht, rfl⟩ | ⟨rfl, s, -, rfl⟩
  · exact .inl ⟨rfl, map_eq_ok_iff.2 ⟨t, ht, rfl⟩⟩
  · exact .inr ⟨by decide, rfl⟩

theorem enters_link : Enters enter "link" link linkSection := by
  intro d d' k v h
  rcases cases_of_enter h with ⟨rfl, t, -, rfl⟩ | ⟨rfl, s, hs, rfl⟩
  · exact .inr ⟨by decide, rfl⟩
  · exact .inl ⟨rfl, hs⟩

theorem mem_fields_of_enter {d d' : Draft} {e : String × Value} (h : d.enter e = .ok d') :
    e.1 ∈ fields := by
  obtain ⟨hk, -⟩ | ⟨hk, -⟩ := cases_of_enter h <;> simp [fields, hk]

end Draft

/-- The entries of a document that describe these contents. -/
structure Describes (es : Entries) (t : TargetParts) (s : LinkSection) : Prop where
  keys : ∀ e ∈ es, e.1 = "target" ∨ e.1 = "link"
  target : ∃ v, es.lookup "target" = some v ∧ DescribesTarget v t
  link : Field es "link" DescribesLink {} s

theorem draft_finish_eq_ok_iff {d : Draft} {t : TargetParts} {s : LinkSection} :
    d.finish = .ok (t, s) ↔ d = ⟨some t, s⟩ := by
  constructor
  · intro h
    unfold Draft.finish at h
    split at h
    · rename_i t' ht
      cases h
      rw [← ht]
    · cases h
  · intro heq
    subst heq
    rfl

/-- After all entries, the link section is as its entry describes it, or as without one. -/
theorem field_link {es : Entries} (hes : es.Distinct) {d : Draft}
    (hf : es.foldlM Draft.enter {} = .ok d) : Field es "link" DescribesLink {} d.link := by
  have hlink := Draft.enters_link.foldlM hes.nodup hf
  unfold Field
  cases hl : es.lookup "link" with
  | none =>
    rw [hl] at hlink
    exact hlink
  | some v =>
    rw [hl] at hlink
    exact (linkSection_eq_ok_iff (hes.lookup hl)).1 hlink

/-- The entries of a document, no key of which stands twice on any level, are read exactly if they
describe settings, and as what they describe. -/
theorem ofEntries_eq_ok_iff {es : Entries} (hes : es.Distinct) {t : TargetParts}
    {s : LinkSection} : ofEntries es = .ok (t, s) ↔ Describes es t s := by
  constructor
  · intro h
    obtain ⟨d, hf, h⟩ := bind_eq_ok_iff.1 h
    rw [draft_finish_eq_ok_iff.1 h] at hf
    have hkeys := keys_of_foldlM Draft.mem_fields_of_enter hf
    obtain ⟨v, hv, ht⟩ := (Draft.enters_target.shown_eq_some_iff hes.nodup rfl hf).1 rfl
    exact ⟨by simpa [Draft.fields] using hkeys,
      ⟨v, hv, (targetParts_eq_ok_iff (hes.lookup hv)).1 ht⟩, field_link hes hf⟩
  · intro ⟨hkeys, htarget, hlink⟩
    obtain ⟨v, hv, ht⟩ := htarget
    have ht := (targetParts_eq_ok_iff (hes.lookup hv)).2 ht
    have hread {w : Value} (hw : es.lookup "link" = some w) : linkSection w = .ok s := by
      unfold Field at hlink
      rw [hw] at hlink
      exact (linkSection_eq_ok_iff (hes.lookup hw)).2 hlink
    have hok : ∀ e ∈ es, ∀ d : Draft, ∃ d', d.enter e = .ok d' := by
      intro ⟨k, w⟩ he d
      have hl := lookup_of_mem hes.nodup he
      rcases hkeys _ he with rfl | rfl
      · cases hl.symm.trans hv
        exact ⟨_, bind_pure_eq_ok_iff.2 ⟨t, ht, rfl⟩⟩
      · exact ⟨_, bind_pure_eq_ok_iff.2 ⟨s, hread hl, rfl⟩⟩
    obtain ⟨⟨t', s'⟩, hf⟩ := foldlM_isOk hok {}
    have htarget : t' = some t :=
      (Draft.enters_target.shown_eq_some_iff hes.nodup rfl hf).2 ⟨v, hv, ht⟩
    have hsection : s' = s := by
      have hlink' := Draft.enters_link.foldlM hes.nodup hf
      unfold Field at hlink
      cases hl : es.lookup "link" with
      | none =>
        rw [hl] at hlink hlink'
        exact hlink'.trans hlink.symm
      | some w =>
        rw [hl] at hlink'
        exact Except.ok.inj (hlink'.symm.trans (hread hl))
    refine bind_eq_ok_iff.2 ⟨_, hf, ?_⟩
    rw [htarget, hsection]
    rfl

end Settings

namespace LinkSettings

/-- The settings beside the target. -/
def toSection (s : LinkSettings) : Settings.LinkSection :=
  ⟨s.includeStdlib, s.multiTarget, s.debugStages, s.disabledStages, s.dumpDir⟩

/-- The parts of the target. -/
def toParts (s : LinkSettings) : Settings.TargetParts :=
  ⟨s.target.isa, s.target.os, s.target.arch⟩

/-- Contents make settings exactly if they are those of the settings: the architecture of a target
always has its instruction set. -/
theorem ofContents_eq_ok_iff {t : Settings.TargetParts} {l : Settings.LinkSection}
    {s : LinkSettings} : ofContents t l = .ok s ↔ t = s.toParts ∧ l = s.toSection := by
  constructor
  · intro h
    obtain ⟨target, ht, rfl⟩ := Settings.bind_pure_eq_ok_iff.1 h
    unfold Target.ofParts at ht
    split at ht
    · cases ht
      exact ⟨rfl, rfl⟩
    · cases ht
  · intro h'
    rcases h' with ⟨rfl, rfl⟩
    unfold ofContents toParts Target.ofParts
    rw [dif_pos s.target.supported]
    rfl

/-- What is read from a text that is a document. -/
theorem ofText_of_parse? {t : String} {es : Entries} (hes : parse? t.toList = some es) :
    ofText t = (do
      let p ← (Settings.ofEntries es).mapError SettingsError.shape
      (ofContents p.1 p.2).mapError SettingsError.target) := by
  unfold ofText
  rw [hes]

/-- A text is read as settings exactly if it is a document whose entries describe them. -/
theorem ofText_eq_ok_iff {t : String} {s : LinkSettings} : ofText t = .ok s ↔
    ∃ es, parse? t.toList = some es ∧ Settings.Describes es s.toParts s.toSection := by
  constructor
  · intro h
    cases hes : parse? t.toList with
    | none =>
      unfold ofText at h
      rw [hes] at h
      cases h
    | some es =>
      rw [ofText_of_parse? hes] at h
      obtain ⟨⟨parts, link⟩, hp, h⟩ := Settings.bind_eq_ok_iff.1 h
      obtain ⟨rfl, rfl⟩ := ofContents_eq_ok_iff.1 (Settings.mapError_eq_ok_iff.1 h)
      exact ⟨es, rfl, (Settings.ofEntries_eq_ok_iff (parse?_eq_some_iff.1 hes).distinct).1
        (Settings.mapError_eq_ok_iff.1 hp)⟩
  · intro h'
    rcases h' with ⟨es, hes, hdescribes⟩
    have hp := (Settings.ofEntries_eq_ok_iff (parse?_eq_some_iff.1 hes).distinct).2 hdescribes
    rw [ofText_of_parse? hes]
    exact Settings.bind_eq_ok_iff.2 ⟨_, Settings.mapError_eq_ok_iff.2 hp,
      Settings.mapError_eq_ok_iff.2 (ofContents_eq_ok_iff.2 ⟨rfl, rfl⟩)⟩

end LinkSettings

end BuiltinLink
