import BuiltinLink.Proofs.Settings.Description
import BuiltinLink.Proofs.Settings.Faults

/-!
The reader reports the first fault of a document. It stops at the first fault that it meets, and it
meets the places of a document in their order: so what it reports is what heads the list of all
faults.
-/

namespace BuiltinLink.Settings

open Toml

/-! ### Heads of lists of faults, and results -/

/-- The fault that stands first. -/
def firstFault? (l : Faults) : Option ShapeFault :=
  l.head?.map Prod.snd

/-- The fault that a reading ended with. -/
def reported? {α : Type} : Reading α → Option ShapeFault
  | .ok _ => none
  | .error f => some f

theorem firstFault?_append (l r : Faults) :
    firstFault? (l ++ r) = (firstFault? l).or (firstFault? r) := by
  cases l <;> rfl

@[simp] theorem firstFault?_under (step : Step) (l : Faults) :
    firstFault? (under step l) = firstFault? l := by
  cases l <;> rfl

@[simp] theorem firstFault?_faultAt (p : Position) (fault? : Option ShapeFault) :
    firstFault? (faultAt p fault?) = fault? := by
  cases fault? <;> rfl

theorem reported?_eq_none_iff {α : Type} {x : Reading α} : reported? x = none ↔ ∃ a, x = .ok a := by
  cases x <;> simp [reported?]

theorem reported?_eq_some_iff {α : Type} {x : Reading α} {f : ShapeFault} :
    reported? x = some f ↔ x = .error f := by
  cases x <;> simp [reported?]

/-- A reading after another reports its own fault where the other has none. -/
theorem reported?_bind {α β : Type} {x : Reading α} {g : α → Reading β} {fault? : Option ShapeFault}
    (h : ∀ a, x = .ok a → reported? (g a) = fault?) :
    reported? (x >>= g) = (reported? x).or fault? := by
  cases x with
  | error f => rfl
  | ok a => exact h a rfl

theorem reported?_bind_pure {α β : Type} (x : Reading α) (g : α → β) :
    reported? (x >>= fun a => pure (g a)) = reported? x := by
  cases x <;> rfl

/-! ### Single values -/

theorem faults_single (fault? : Value → Option ShapeFault) (v : Value) :
    (Schema.single fault?).faults v = faultAt [] (fault? v) := by
  have hitems := Schema.itemFaults_eq_nil (s := .single fault?) fun _ => rfl
  have hentries := Schema.entryFaults_eq_nil (s := .single fault?) (fun _ => rfl) fun _ => rfl
  cases v <;> simp [Schema.faults, Schema.selfFault?, Schema.endFault?, hitems, hentries]

theorem reported?_boolean (v : Value) : reported? (boolean v) = booleanFault? v := by
  cases v <;> rfl

theorem reported?_path (v : Value) : reported? (path v) = pathFault? v := by
  cases v <;> rfl

theorem reported?_index (v : Value) : reported? (index v) = indexFault? v := by
  cases v with
  | integer n =>
    simp only [index, indexFault?]
    split <;> rfl
  | _ => rfl

section Variants

variable (α : Type) [Vocabulary α] [DocumentNames α] [CanonicalInDocuments α]

theorem reported?_named (s : String) :
    reported? (named α s) = nameFault? (Vocabulary.names α) s := by
  unfold named nameFault?
  rw [DocumentNames.names_eq]
  cases h : DocumentNames.find? (α := α) s with
  | some a =>
    have hs : s ∈ Vocabulary.names α :=
      List.mem_map.2 ⟨a, Vocabulary.mem_members a, DocumentNames.find?_eq_some_iff.1 h⟩
    rw [if_pos hs]
    rfl
  | none =>
    have hs : s ∉ Vocabulary.names α := by
      intro hs
      obtain ⟨a, -, ha⟩ := List.mem_map.1 hs
      rw [DocumentNames.find?_eq_some_iff.2 ha] at h
      cases h
    rw [if_neg hs]
    rfl

theorem reported?_variant (v : Value) :
    reported? (variant α v) = variantFault? (Vocabulary.names α) v := by
  match v with
  | .string s => exact reported?_named α s
  | .table _ [] => rfl
  | .table _ [(k, w)] =>
    rw [variantFault?, ← reported?_named]
    refine reported?_bind fun a _ => ?_
    cases payloadFault? w <;> rfl
  | .table _ (_ :: _ :: _) => rfl
  | .integer _ | .float _ | .boolean _ | .datetime | .array _ _ => rfl

end Variants

/-! ### Sequences of readings -/

/-- The faults of items are those of each item in turn. -/
theorem firstFault?_itemFaults_cons (s : Schema) (i : Nat) (v : Value) (items : List Value) :
    firstFault? (s.itemFaults i (v :: items)) =
      ((s.item? i).bind fun item => firstFault? (item.faults v)).or
        (firstFault? (s.itemFaults (i + 1) items)) := by
  rw [Schema.itemFaults, firstFault?_append]
  cases s.item? i with
  | none => rfl
  | some item => rw [Option.elim_some, firstFault?_under, Option.bind_some]

theorem firstFault?_entryFaults_cons (s : Schema) (k : String) (v : Value) (es : Entries) :
    firstFault? (s.entryFaults ((k, v) :: es)) =
      ((s.keyFault? k).or ((s.field? k).bind fun field => firstFault? (field.faults v))).or
        (firstFault? (s.entryFaults es)) := by
  rw [Schema.entryFaults, firstFault?_append, firstFault?_append, firstFault?_faultAt,
    Option.or_assoc]
  cases s.field? k with
  | none => rfl
  | some field => rw [Option.elim_some, firstFault?_under, Option.bind_some]

theorem reported?_mapM_index (items : List Value) (i : Nat) :
    reported? (items.mapM index) =
      firstFault? ((Schema.list (.single indexFault?)).itemFaults i items) := by
  induction items generalizing i with
  | nil => rfl
  | cons v items ih =>
    rw [List.mapM_cons, firstFault?_itemFaults_cons, Schema.item?, Option.bind_some, faults_single,
      firstFault?_faultAt, ← reported?_index, ← ih]
    exact reported?_bind fun n _ => reported?_bind_pure ..

theorem reported?_stages (v : Value) :
    reported? (stages v) = firstFault? ((Schema.list (.single indexFault?)).faults v) := by
  cases v with
  | array kind items =>
    rw [stages, reported?_bind_pure, reported?_mapM_index items 0]
    simp [Schema.faults, Schema.selfFault?, Schema.endFault?]
  | table kind es =>
    rw [Schema.faults, Schema.entryFaults_eq_nil (fun _ => rfl) fun _ => rfl]
    rfl
  | _ => rfl

/-! ### Records -/

section record

variable {σ : Type} {enter : σ → String × Value → Reading σ} {keys : List String}
  {field : String → Schema} {required : List String} {expected : Option Expected}

/-- How a reader of a record judges an entry, whatever it has read before: an unknown key is a
fault, and a known one leaves it to the value. -/
structure Judges (enter : σ → String × Value → Reading σ) (keys : List String)
    (field : String → Schema) : Prop where
  unknown : ∀ a k v, k ∉ keys → reported? (enter a (k, v)) = some (.unknownField k keys)
  known : ∀ a k v, k ∈ keys → v.Distinct →
    reported? (enter a (k, v)) = firstFault? ((field k).faults v)

theorem Judges.reported?_foldlM (h : Judges enter keys field) (required : List String)
    (expected : Option Expected) {es : Entries}
    (hes : ∀ e ∈ es, e.2.Distinct) (a : σ) :
    reported? (es.foldlM enter a) =
      firstFault? ((Schema.record keys field required expected).entryFaults es) := by
  induction es generalizing a with
  | nil => rfl
  | cons e es ih =>
    obtain ⟨k, v⟩ := e
    obtain ⟨hv, hes⟩ := List.forall_mem_cons.1 hes
    rw [List.foldlM_cons, firstFault?_entryFaults_cons, reported?_bind fun b _ => ih hes b]
    congr 1
    by_cases hk : k ∈ keys
    · rw [h.known a k v hk hv]
      simp [Schema.keyFault?, Schema.field?, hk]
    · rw [h.unknown a k v hk]
      simp [Schema.keyFault?, hk]

/-- The items of an array are read as the fields in their order, as far as there are fields. -/
theorem Judges.reported?_foldlM_zip (h : Judges enter keys field) (required : List String)
    (expected : Option Expected) {items : List Value} (hitems : ∀ v ∈ items, v.Distinct) (i : Nat)
    (a : σ) :
    reported? (((keys.drop i).zip items).foldlM enter a) =
      firstFault? ((Schema.record keys field required expected).itemFaults i items) := by
  induction items generalizing i a with
  | nil =>
    rw [List.zip_nil_right]
    rfl
  | cons v items ih =>
    obtain ⟨hv, hitems⟩ := List.forall_mem_cons.1 hitems
    rw [firstFault?_itemFaults_cons, Schema.item?]
    by_cases hi : i < keys.length
    · rw [List.drop_eq_getElem_cons hi, List.zip_cons_cons, List.foldlM_cons,
        reported?_bind fun b _ => ih hitems (i + 1) b, List.getElem?_eq_getElem hi,
        h.known a _ v (List.getElem_mem hi) hv]
      rfl
    · have hrest := ih hitems (i + 1) a
      rw [List.drop_eq_nil_of_le (Nat.le_succ_of_le (Nat.le_of_not_lt hi))] at hrest
      rw [List.drop_eq_nil_of_le (Nat.le_of_not_lt hi),
        List.getElem?_eq_none (Nat.le_of_not_lt hi), ← hrest]
      rfl

theorem firstFault?_table (kind : TableKind) (es : Entries) :
    firstFault? ((Schema.record keys field required expected).faults (.table kind es)) =
      (firstFault? ((Schema.record keys field required expected).entryFaults es)).or
        ((keys.find? fun k => k ∈ required ∧ k ∉ es.map Prod.fst).map .missingField) := by
  rw [Schema.faults, firstFault?_append, firstFault?_append, firstFault?_faultAt,
    firstFault?_faultAt]
  rfl

theorem firstFault?_array (kind : ArrayKind) (items : List Value) :
    firstFault? ((Schema.record keys field required expected).faults (.array kind items)) =
      (firstFault? ((Schema.record keys field required expected).itemFaults 0 items)).or
        (if items.length < required.length then some (.tooShort items.length) else none) := by
  rw [Schema.faults, firstFault?_append, firstFault?_append, firstFault?_faultAt,
    firstFault?_faultAt]
  rfl

end record

/-- A field that is absent at first is absent in the end exactly if no entry gives it. -/
theorem Enters.shown_eq_none_iff {σ α : Type} {enter : σ → String × Value → Reading σ}
    {key : String} {shown : σ → Option α} {read : Value → Reading α}
    (h : Enters enter key shown fun v => (read v).map some) {es : Entries}
    (hnodup : (es.map Prod.fst).Nodup) {s s' : σ} (hs : shown s = none)
    (hf : es.foldlM enter s = .ok s') : shown s' = none ↔ key ∉ es.map Prod.fst := by
  rw [← Entries.lookup_eq_none_iff]
  have hread := h.foldlM hnodup hf
  cases hl : es.lookup key with
  | none =>
    rw [hl] at hread
    simp [hread, hs]
  | some w =>
    rw [hl] at hread
    obtain ⟨b, -, hshown⟩ := map_eq_ok_iff.1 hread
    simp [← hshown]

/-! ### Targets -/

theorem reported?_single {α β : Type} {read : Value → Reading α}
    {fault? : Value → Option ShapeFault} (h : ∀ v, reported? (read v) = fault? v) (v : Value)
    (g : α → β) : reported? (read v >>= fun a => pure (g a)) =
      firstFault? ((Schema.single fault?).faults v) := by
  rw [reported?_bind_pure, faults_single, firstFault?_faultAt, h]

theorem judges_target : Judges TargetDraft.enter TargetDraft.fields targetField where
  unknown d k v hk := by
    have hne : k ≠ "isa" ∧ k ≠ "os" ∧ k ≠ "arch" := by simpa [TargetDraft.fields] using hk
    rw [TargetDraft.enter.eq_4 d k v hne.1 hne.2.1 hne.2.2]
    rfl
  known d k v hk _ := by
    have hkey : k = "isa" ∨ k = "os" ∨ k = "arch" := by simpa [TargetDraft.fields] using hk
    rcases hkey with rfl | rfl | rfl
    · exact reported?_single (reported?_variant Isa) v _
    · exact reported?_single (reported?_variant Os) v _
    · exact reported?_single (reported?_variant Arch) v _

/-- When all entries of a target have been read, the first of its fields that none gives is missing.
-/
theorem reported?_finish {es : Entries} (hnodup : (es.map Prod.fst).Nodup) {d : TargetDraft}
    (hf : es.foldlM TargetDraft.enter {} = .ok d) :
    reported? d.finish = (TargetDraft.fields.find? fun k =>
      k ∈ TargetDraft.fields ∧ k ∉ es.map Prod.fst).map .missingField := by
  have hisa := TargetDraft.enters_isa.shown_eq_none_iff hnodup rfl hf
  have hos := TargetDraft.enters_os.shown_eq_none_iff hnodup rfl hf
  have harch := TargetDraft.enters_arch.shown_eq_none_iff hnodup rfl hf
  obtain ⟨isa, os, arch⟩ := d
  cases isa <;> cases os <;> cases arch <;>
    simp_all [TargetDraft.finish, TargetDraft.fields, reported?]

theorem reported?_targetParts {v : Value} (hv : v.Distinct) :
    reported? (targetParts v) = firstFault? (targetSchema.faults v) := by
  cases v with
  | table kind es =>
    have hes := Entries.distinct_of_table hv
    rw [targetSchema, firstFault?_table, targetParts,
      reported?_bind fun d hd => reported?_finish hes.nodup hd,
      judges_target.reported?_foldlM TargetDraft.fields (some .target) hes.values]
  | array kind items =>
    have hfold := judges_target.reported?_foldlM_zip TargetDraft.fields (some .target) hv.items 0 {}
    rw [targetSchema, firstFault?_array, targetParts, ← hfold]
    refine reported?_bind fun d hd => ?_
    by_cases hshort : items.length < TargetDraft.fields.length
    · rw [if_pos hshort, if_pos hshort]
      rfl
    · -- An array that is long enough gives every field.
      have hkeys : (TargetDraft.fields.zip items).map Prod.fst = TargetDraft.fields :=
        List.map_fst_zip (Nat.le_of_not_lt hshort)
      have hfinish := reported?_finish (by rw [hkeys]; decide) hd
      rw [hkeys] at hfinish
      rw [if_neg hshort, if_neg hshort]
      exact hfinish
  | _ => rfl

/-! ### The settings beside the target -/

theorem judges_link : Judges LinkSection.enter LinkSection.fields linkField where
  unknown s k v hk := by
    have hne : k ≠ "include-stdlib" ∧ k ≠ "multi-target" ∧ k ≠ "debug-stages" ∧
        k ≠ "disabled-stages" ∧ k ≠ "dump-dir" := by simpa [LinkSection.fields] using hk
    rw [LinkSection.enter.eq_6 s k v hne.1 hne.2.1 hne.2.2.1 hne.2.2.2.1 hne.2.2.2.2]
    rfl
  known s k v hk _ := by
    have hkey : k = "include-stdlib" ∨ k = "multi-target" ∨ k = "debug-stages" ∨
        k = "disabled-stages" ∨ k = "dump-dir" := by simpa [LinkSection.fields] using hk
    rcases hkey with rfl | rfl | rfl | rfl | rfl
    · exact reported?_single reported?_boolean v _
    · exact reported?_single reported?_boolean v _
    · exact (reported?_bind_pure ..).trans (reported?_stages v)
    · exact (reported?_bind_pure ..).trans (reported?_stages v)
    · exact reported?_single reported?_path v _

theorem reported?_linkSection {v : Value} (hv : v.Distinct) :
    reported? (linkSection v) = firstFault? (linkSchema.faults v) := by
  cases v with
  | table kind es =>
    have hnone : (LinkSection.fields.find? fun k =>
        k ∈ ([] : List String) ∧ k ∉ es.map Prod.fst) = none :=
      List.find?_eq_none.2 (by simp)
    rw [linkSchema, firstFault?_table, linkSection, hnone, Option.map_none, Option.or_none]
    exact judges_link.reported?_foldlM [] _ (Entries.distinct_of_table hv).values {}
  | array kind items =>
    have hfold := judges_link.reported?_foldlM_zip [] (some .link) hv.items 0 {}
    rw [linkSchema, firstFault?_array, linkSection, ← hfold]
    simp
  | _ => rfl

/-! ### Documents -/

theorem judges_document : Judges Draft.enter Draft.fields settingsField where
  unknown d k v hk := by
    have hne : k ≠ "target" ∧ k ≠ "link" := by simpa [Draft.fields] using hk
    rw [Draft.enter.eq_3 d k v hne.1 hne.2]
    rfl
  known d k v hk hv := by
    have hkey : k = "target" ∨ k = "link" := by simpa [Draft.fields] using hk
    rcases hkey with rfl | rfl
    · exact (reported?_bind_pure ..).trans (reported?_targetParts hv)
    · exact (reported?_bind_pure ..).trans (reported?_linkSection hv)

/-- A document is refused for the first of its faults, and for nothing if it has none. -/
theorem reported?_ofEntries {es : Entries} (hes : es.Distinct) :
    reported? (ofEntries es) = firstFault? (documentFaults es) := by
  have hfold := judges_document.reported?_foldlM ["target"] none hes.values {}
  rw [documentFaults, settingsSchema, firstFault?_table, ← hfold]
  refine reported?_bind fun d hd => ?_
  have htarget := Draft.enters_target.shown_eq_none_iff hes.nodup rfl hd
  obtain ⟨target, link⟩ := d
  cases target <;> simp_all [Draft.finish, Draft.fields, reported?]

end BuiltinLink.Settings
