import BuiltinLink.Proofs.Settings.Single
import BuiltinLink.Proofs.Toml.Distinct

/-!
Records, stated field by field. The reader of a record enters one entry after the other and stops at
the first fault. As no key stands twice, each field is decided by the one entry that has its key, so
the order of the entries does not matter.
-/

namespace BuiltinLink.Settings

open Toml

/-! ### Fields -/

/-- The entries of a value that stands for a record: those of a table whose keys are all fields, or
the items of an array as the values of the fields in order. Fields that the array does not reach are
absent, items behind the last field do not count. -/
def FieldsOf (fields : List String) (v : Value) (es : Entries) : Prop :=
  (∃ kind, v = .table kind es ∧ ∀ e ∈ es, e.1 ∈ fields) ∨
    ∃ kind items, v = .array kind items ∧ es = fields.zip items

/-- What holds of a field that may be absent. -/
def Field {α : Type} (es : Entries) (key : String) (P : Value → α → Prop) (default a : α) : Prop :=
  match es.lookup key with
  | some v => P v a
  | none => a = default

theorem keys_zip_sublist (fields : List String) (items : List Value) :
    ((fields.zip items).map Prod.fst).Sublist fields := by
  induction fields generalizing items with
  | nil => exact .slnil
  | cons k fields ih =>
    cases items with
    | nil => exact List.nil_sublist _
    | cons v items => exact (ih items).cons_cons k

theorem mem_of_fieldsOf {fields : List String} {v : Value} {es : Entries}
    (h : FieldsOf fields v es) : ∀ e ∈ es, e.1 ∈ fields := by
  rcases h with ⟨kind, -, hkeys⟩ | ⟨kind, items, -, rfl⟩
  · exact hkeys
  · exact fun e he => (keys_zip_sublist fields items).subset (List.mem_map_of_mem he)

theorem nodup_of_fieldsOf {fields : List String} (hfields : fields.Nodup) {v : Value}
    (hv : v.Distinct) {es : Entries} (h : FieldsOf fields v es) : (es.map Prod.fst).Nodup := by
  rcases h with ⟨kind, rfl, -⟩ | ⟨kind, items, rfl, rfl⟩
  · exact (Entries.distinct_of_table hv).nodup
  · exact (keys_zip_sublist fields items).nodup hfields

/-! ### Entering fields -/

/-- How the reader of a record treats one of its fields: an entry with that key sets what the record
shows of the field, and no other entry changes it. -/
def Enters {σ α : Type} (enter : σ → String × Value → Reading σ) (key : String) (shown : σ → α)
    (read : Value → Reading α) : Prop :=
  ∀ {s s' k v}, enter s (k, v) = .ok s' →
    k = key ∧ read v = .ok (shown s') ∨ k ≠ key ∧ shown s' = shown s

/-- After all entries of a record, a field shows what its own entry says, or what it showed before
if there is none. -/
theorem Enters.foldlM {σ α : Type} {enter : σ → String × Value → Reading σ} {key : String}
    {shown : σ → α} {read : Value → Reading α} (h : Enters enter key shown read) {es : Entries}
    (hnodup : (es.map Prod.fst).Nodup) {s s' : σ} (hf : es.foldlM enter s = .ok s') :
    match es.lookup key with
    | some v => read v = .ok (shown s')
    | none => shown s' = shown s := by
  induction es generalizing s with
  | nil =>
    cases hf
    rfl
  | cons e es ih =>
    rw [List.map_cons, List.nodup_cons] at hnodup
    rw [List.foldlM_cons] at hf
    obtain ⟨s₁, he, hf⟩ := bind_eq_ok_iff.1 hf
    have hrest := ih hnodup.2 hf
    rcases h he with ⟨hk, hself⟩ | ⟨hk, hother⟩
    · have hnone : es.lookup key = none := by
        rw [← hk]
        exact Entries.lookup_eq_none_iff.2 hnodup.1
      rw [hnone] at hrest
      rw [List.lookup_cons, hk, beq_self_eq_true]
      dsimp only at hrest ⊢
      rw [hrest]
      exact hself
    · rw [List.lookup_cons, beq_eq_false_iff_ne.2 (Ne.symm hk)]
      dsimp only
      cases hl : es.lookup key with
      | none =>
        rw [hl] at hrest
        exact hrest.trans hother
      | some v =>
        rw [hl] at hrest
        exact hrest

/-- A field that is absent at first is there in the end exactly if an entry gives it. -/
theorem Enters.shown_eq_some_iff {σ α : Type} {enter : σ → String × Value → Reading σ} {key : String}
    {shown : σ → Option α} {read : Value → Reading α}
    (h : Enters enter key shown fun v => (read v).map some) {es : Entries}
    (hnodup : (es.map Prod.fst).Nodup) {s s' : σ} (hs : shown s = none)
    (hf : es.foldlM enter s = .ok s') {a : α} :
    shown s' = some a ↔ ∃ w, es.lookup key = some w ∧ read w = .ok a := by
  have hread := h.foldlM hnodup hf
  cases hl : es.lookup key with
  | none =>
    rw [hl] at hread
    simp [hread, hs]
  | some w =>
    rw [hl] at hread
    obtain ⟨b, hb, hshown⟩ := map_eq_ok_iff.1 hread
    simp [← hshown, hb]

/-- In the end a field with a default is as its entry says, or as before. -/
theorem Enters.field {σ α : Type} {enter : σ → String × Value → Reading σ} {key : String}
    {shown : σ → α} {read : Value → Reading α} {P : Value → α → Prop}
    (h : Enters enter key shown read) (hP : ∀ {v a}, read v = .ok a ↔ P v a) {es : Entries}
    (hnodup : (es.map Prod.fst).Nodup) {s s' : σ} (hf : es.foldlM enter s = .ok s') :
    Field es key P (shown s) (shown s') := by
  have hread := h.foldlM hnodup hf
  unfold Field
  cases hl : es.lookup key with
  | none =>
    rw [hl] at hread
    exact hread
  | some w =>
    rw [hl] at hread
    exact hP.1 hread

theorem Field.read_eq {α : Type} {key : String} {read : Value → Reading α} {P : Value → α → Prop}
    (hP : ∀ {v a}, read v = .ok a ↔ P v a) {es : Entries} {default a : α} {w : Value}
    (h : Field es key P default a) (hl : es.lookup key = some w) : read w = .ok a := by
  unfold Field at h
  rw [hl] at h
  exact hP.2 h

theorem Field.unique {α : Type} {key : String} {read : Value → Reading α} {P : Value → α → Prop}
    (hP : ∀ {v a}, read v = .ok a ↔ P v a) {es : Entries} {default a b : α}
    (ha : Field es key P default a) (hb : Field es key P default b) : a = b := by
  cases hl : es.lookup key with
  | none =>
    unfold Field at ha hb
    rw [hl] at ha hb
    rw [ha, hb]
  | some w => exact Except.ok.inj ((ha.read_eq hP hl).symm.trans (hb.read_eq hP hl))

theorem foldlM_isOk {σ : Type} {enter : σ → String × Value → Reading σ} {es : Entries}
    (h : ∀ e ∈ es, ∀ s, ∃ s', enter s e = .ok s') (s : σ) : ∃ s', es.foldlM enter s = .ok s' := by
  induction es generalizing s with
  | nil => exact ⟨s, rfl⟩
  | cons e es ih =>
    obtain ⟨he, hes⟩ := List.forall_mem_cons.1 h
    obtain ⟨s₁, hs₁⟩ := he s
    obtain ⟨s', hs'⟩ := ih hes s₁
    refine ⟨s', ?_⟩
    rw [List.foldlM_cons, hs₁]
    exact hs'

theorem keys_of_foldlM {σ : Type} {enter : σ → String × Value → Reading σ} {fields : List String}
    (h : ∀ {s e s'}, enter s e = .ok s' → e.1 ∈ fields) {es : Entries} {s s' : σ}
    (hf : es.foldlM enter s = .ok s') : ∀ e ∈ es, e.1 ∈ fields := by
  induction es generalizing s with
  | nil => exact fun _ he => absurd he List.not_mem_nil
  | cons e es ih =>
    rw [List.foldlM_cons] at hf
    obtain ⟨s₁, he, hf⟩ := bind_eq_ok_iff.1 hf
    exact List.forall_mem_cons.2 ⟨h he, ih hf⟩

end BuiltinLink.Settings
