import BuiltinLink.Proofs.Toml.Builder

/-!
No table of a document holds a key twice, however its headers, dotted keys and braces define it. The
keys of a table are those that are mentioned below it, each once, and so in the tables below as
well.
-/

namespace BuiltinLink.Toml

/-- Values in which no table, on any level, holds a key twice. -/
inductive Value.Distinct : Value → Prop
  | string (s : String) : Distinct (.string s)
  | integer (n : Int) : Distinct (.integer n)
  | float (x : Binary64) : Distinct (.float x)
  | boolean (b : Bool) : Distinct (.boolean b)
  | datetime : Distinct .datetime
  | array (kind : ArrayKind) {items : List Value} (h : ∀ v ∈ items, Distinct v) :
      Distinct (.array kind items)
  | table (kind : TableKind) {es : List (String × Value)} (hnodup : (es.map Prod.fst).Nodup)
      (h : ∀ e ∈ es, Distinct e.2) : Distinct (.table kind es)

namespace Value.Distinct

theorem items {kind : ArrayKind} {l : List Value} (h : Distinct (.array kind l)) :
    ∀ v ∈ l, v.Distinct := by
  cases h
  assumption

end Value.Distinct

namespace Entries

/-- Entries under distinct keys. -/
structure Distinct (es : Entries) : Prop where
  nodup : (es.map Prod.fst).Nodup
  values : ∀ e ∈ es, e.2.Distinct

theorem distinct_of_table {kind : TableKind} {es : Entries} (h : Value.Distinct (.table kind es)) :
    Distinct es := by
  cases h
  constructor <;> assumption

theorem Distinct.table {es : Entries} (h : es.Distinct) (kind : TableKind) :
    Value.Distinct (.table kind es) :=
  .table kind h.nodup h.values

theorem Distinct.lookup {es : Entries} (h : es.Distinct) {k : String} {v : Value}
    (hv : es.lookup k = some v) : v.Distinct :=
  h.values (k, v) (mem_of_lookup hv)

end Entries

/-! ### Documents -/

namespace Grammar

/-- Mentions say values without repeated keys if they assign only such. -/
theorem Says.distinct {ms : List Mention} {v : Value} (h : Says ms v)
    (hms : ∀ m ∈ ms, ∀ v, m.use = .value v → v.Distinct) : v.Distinct := by
  have hbehind {b : Branch} {ms : List Mention}
      (hms : ∀ m ∈ ms, ∀ v, m.use = .value v → v.Distinct) :
      ∀ m ∈ behind b ms, ∀ v, m.use = .value v → v.Distinct := by
    intro m hm v hv
    obtain ⟨m', hm', heq⟩ := exists_of_mem_behind hm
    exact hms m' hm' v (heq.trans hv)
  induction h with
  | value => exact hms _ List.mem_cons_self _ rfl
  | array _ _ _ _ ih =>
    refine .array _ fun v hv => ?_
    obtain ⟨es, hes, rfl⟩ := List.mem_map.1 hv
    obtain ⟨i, hi⟩ := List.mem_iff_getElem?.1 hes
    exact ih i es hi (hbehind hms)
  | table _ hkeys _ ih =>
    exact .table _ (hkeys ▸ nodup_keyOrder _) fun e he => ih e he (hbehind hms)

/-- The tables that a document defines hold no key twice if none that it assigns does. -/
theorem Defines.distinct {rules : List Use → Use → Prop} {d : Document} {es : Entries}
    (h : Defines rules d es) (hd : ∀ a ∈ assignments d, a.value.Distinct) : es.Distinct := by
  let P (u : Use) : Prop := ∀ v, u = .value v → v.Distinct
  have hassigned {l : List Assignment} (hl : ∀ a ∈ l, a ∈ assignments d) :
      ∀ f ∈ l.map assignmentScript, Only P f := by
    intro f hf
    obtain ⟨a, ha, rfl⟩ := List.mem_map.1 hf
    refine .assignmentScript (by simp [P]) (by simp [P]) fun v hv => ?_
    cases hv
    exact hd a (hl a ha)
  have honly : Only P (documentScript d) := by
    refine Only.andThen (.all (hassigned fun a ha => List.mem_append_left _ ha))
      (.all fun f hf => ?_)
    obtain ⟨s, hs, rfl⟩ := List.mem_map.1 hf
    refine .sectionScript (by simp [P]) (by simp [P]) (by simp [P]) (by simp [P]) (by simp [P])
      fun a ha v hv => ?_
    cases hv
    exact hd a (List.mem_append_right _ (List.mem_flatMap.2 ⟨s, hs, ha⟩))
  have hroot : P rootMention.use := by simp [P, rootMention]
  exact Entries.distinct_of_table
    (h.root.distinct (List.forall_mem_cons.2 ⟨hroot, honly [rootMention]⟩))

end Grammar

theorem distinct_of_integer? {n : Int} {v : Value} (h : integer? n = some v) : v.Distinct := by
  unfold integer? at h
  split at h
  · cases h
    exact .integer n
  · cases h

theorem distinct_of_float? {negative : Bool} {digits : Nat} {exponent : Int} {v : Value}
    (h : float? negative digits exponent = some v) : v.Distinct := by
  unfold float? at h
  split at h
  · cases h
  · cases h
    exact .float _

namespace Grammar

theorem Number.distinct {v : Value} {t : List Char} (h : Number v t) : v.Distinct := by
  cases h with
  | integer _ _ hv => exact distinct_of_integer? hv
  | based _ _ hv => exact distinct_of_integer? hv
  | float _ _ _ _ _ hv => exact distinct_of_float? hv
  | infinite => exact .float _
  | nan => exact .float _

theorem Scalar.distinct {v : Value} {t : List Char} (h : Scalar v t) : v.Distinct := by
  cases h with
  | true => exact .boolean _
  | false => exact .boolean _
  | string => exact .string _
  | number h => exact h.distinct
  | datetime => exact .datetime

section

variable {P : Value → List Char → Prop} (hP : ∀ {v t}, P v t → v.Distinct)

include hP

theorem Items.distinct {vs : List Value} {t : List Char} (h : Items P vs t) :
    ∀ v ∈ vs, v.Distinct := by
  induction h with
  | nil => exact fun _ h => absurd h List.not_mem_nil
  | last _ ht => exact List.forall_mem_singleton.2 (hP ht)
  | comma _ ht _ _ ih => exact List.forall_mem_cons.2 ⟨hP ht, ih⟩

theorem Braces.distinct {parts : Nat} {v : Value} {t : List Char} (h : Braces parts P v t) :
    v.Distinct := by
  rcases h with ⟨rfl, -⟩ | ⟨l, es, hl, hes, rfl⟩
  · exact .table .inline .nil fun _ he => absurd he List.not_mem_nil
  · refine (hes.distinct fun a ha => ?_).table .inline
    obtain ⟨u, hu⟩ := hl.exists_text a (by simpa [assignments] using ha)
    exact hP hu

end

theorem ValueText.distinct {parts depth : Nat} {v : Value} {t : List Char}
    (h : ValueText parts depth v t) : v.Distinct := by
  induction depth generalizing v t with
  | zero => exact Scalar.distinct h
  | succ depth ih =>
    rcases h with h | ⟨vs, u, rfl, -, hu⟩ | ⟨u, -, hu⟩
    · exact h.distinct
    · exact .array _ (hu.distinct ih)
    · exact hu.distinct ih

end Grammar

/-- The root of a document holds no key twice, and neither does any table below. -/
theorem Grammar.DocumentText.distinct {rules : List Use → Use → Prop} {parts depth : Nat}
    {es : Entries} {s : List Char} (h : DocumentText rules parts depth es s) : es.Distinct := by
  obtain ⟨ls, t, -, ht, h⟩ := h
  refine h.distinct fun a ha => ?_
  obtain ⟨u, hu⟩ := ht.exists_text (mem_assignments_ofLines.1 ha)
  exact hu.distinct

end BuiltinLink.Toml
