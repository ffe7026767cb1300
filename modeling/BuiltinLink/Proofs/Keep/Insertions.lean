import BuiltinLink.Keep.Roots
import Mathlib.Data.Finset.Card
import Mathlib.Data.List.Induction

/-!
Protected names are a set in the order of insertion. After any insertions the names are those of the
history at their first occurrences, and nothing else of the history is left. So sets are merged by
inserting the names of one into the other, which is the same as going on with its insertions.
-/

namespace BuiltinLink

/-- The entries of a list that equal none in front of them, in order. -/
def firstOccurrences (l : List String) : List String :=
  (l.zipIdx.filter fun e => e.1 ∉ l.take e.2).map Prod.fst

/-! ### First occurrences -/

theorem firstOccurrences_concat (l : List String) (a : String) :
    firstOccurrences (l ++ [a]) = firstOccurrences l ++ if a ∈ l then [] else [a] := by
  -- What stands in front of an earlier entry has not changed.
  have hearlier : (l.zipIdx.filter fun e => e.1 ∉ (l ++ [a]).take e.2) =
      l.zipIdx.filter fun e => e.1 ∉ l.take e.2 := by
    apply List.filter_congr
    intro e he
    rw [List.take_append_of_le_length (Nat.le_of_lt (List.snd_lt_of_mem_zipIdx he))]
  unfold firstOccurrences
  rw [List.zipIdx_append, List.filter_append, List.map_append, hearlier]
  congr 1
  by_cases ha : a ∈ l <;> simp [ha]

theorem firstOccurrences_sublist (l : List String) : (firstOccurrences l).Sublist l := by
  have h := (List.filter_sublist (l := l.zipIdx) (p := fun e => e.1 ∉ l.take e.2)).map Prod.fst
  rwa [List.zipIdx_map_fst] at h

theorem mem_firstOccurrences {l : List String} {a : String} : a ∈ firstOccurrences l ↔ a ∈ l := by
  induction l using List.reverseRecOn with
  | nil => rfl
  | append_singleton l b ih =>
    rw [firstOccurrences_concat, List.mem_append, List.mem_append, ih]
    by_cases hb : b ∈ l
    · rw [if_pos hb]
      simp only [List.not_mem_nil, or_false, List.mem_singleton, iff_self_or]
      rintro rfl
      exact hb
    · rw [if_neg hb]

theorem firstOccurrences_of_nodup {l : List String} (h : l.Nodup) : firstOccurrences l = l := by
  induction l using List.reverseRecOn with
  | nil => rfl
  | append_singleton l b ih =>
    rw [List.nodup_append] at h
    have hb : b ∉ l := fun hb => h.2.2 b hb b (List.mem_singleton_self b) rfl
    rw [firstOccurrences_concat, ih h.1, if_neg hb]

namespace Roots

theorem ext_iff_names {r s : Roots} :
    r = s ↔ r.names = s.names ∧ r.retainedGroups = s.retainedGroups := by
  cases r
  cases s
  simp

/-! ### Insertions -/

/-- Protects names one after the other. -/
def insertAll (r : Roots) (l : List String) : Roots :=
  l.foldl (fun r name => (r.insert name).1) r

/-- The set that insertions build from nothing. -/
def ofNames (l : List String) : Roots :=
  insertAll {} l

/-- Protects the names of another set in its order. -/
def merge (r s : Roots) : Roots :=
  r.insertAll s.names

theorem insertAll_append (r : Roots) (l l' : List String) :
    r.insertAll (l ++ l') = (r.insertAll l).insertAll l' :=
  List.foldl_append

theorem insertAll_concat (r : Roots) (l : List String) (name : String) :
    r.insertAll (l ++ [name]) = ((r.insertAll l).insert name).1 :=
  insertAll_append r l [name]

theorem retainedGroups_insert (r : Roots) (name : String) :
    (r.insert name).1.retainedGroups = r.retainedGroups := by
  unfold insert
  split <;> rfl

theorem retainedGroups_insertAll (r : Roots) (l : List String) :
    (r.insertAll l).retainedGroups = r.retainedGroups := by
  induction l using List.reverseRecOn with
  | nil => rfl
  | append_singleton l name ih => rw [insertAll_concat, retainedGroups_insert, ih]

/-- Names come behind those that were there, each at its first occurrence. -/
theorem names_insertAll (r : Roots) (l : List String) :
    (r.insertAll l).names = r.names ++ (firstOccurrences l).filter (· ∉ r.names) := by
  induction l using List.reverseRecOn with
  | nil => simp [insertAll, firstOccurrences]
  | append_singleton l name ih =>
    have hmem : name ∈ (r.insertAll l).names ↔ name ∈ r.names ∨ name ∈ l := by
      rw [ih]
      by_cases hr : name ∈ r.names <;> simp [hr, mem_firstOccurrences]
    rw [insertAll_concat, names_insert, firstOccurrences_concat, List.filter_append,
      ← List.append_assoc, ← ih]
    by_cases hr : name ∈ r.names
    · rw [if_pos (hmem.2 (.inl hr))]
      by_cases hl : name ∈ l <;> simp [hr, hl]
    · by_cases hl : name ∈ l
      · rw [if_pos (hmem.2 (.inr hl)), if_pos hl, List.filter_nil, List.append_nil]
      · rw [if_neg (fun h => (hmem.1 h).elim hr hl), if_neg hl]
        simp [hr]

theorem names_ofNames (l : List String) : (ofNames l).names = firstOccurrences l := by
  rw [ofNames, names_insertAll]
  simp

theorem mem_names_ofNames {l : List String} {name : String} :
    name ∈ (ofNames l).names ↔ name ∈ l := by
  rw [names_ofNames, mem_firstOccurrences]

theorem length_ofNames (l : List String) : (ofNames l).length = l.toFinset.card := by
  have hsame : (ofNames l).names.toFinset = l.toFinset := by
    ext name
    rw [List.mem_toFinset, List.mem_toFinset, mem_names_ofNames]
  rw [length, ← List.toFinset_card_of_nodup (ofNames l).nodup, hsame]

theorem isEmpty_ofNames_iff {l : List String} : (ofNames l).isEmpty = true ↔ l = [] := by
  rw [isEmpty, List.isEmpty_iff, List.eq_nil_iff_forall_not_mem, List.eq_nil_iff_forall_not_mem]
  exact forall_congr' fun name => not_congr mem_names_ofNames

/-- A set that insertions build is told by the first occurrences alone. -/
theorem ofNames_eq_iff {l l' : List String} :
    ofNames l = ofNames l' ↔ firstOccurrences l = firstOccurrences l' := by
  rw [ext_iff_names, names_ofNames, names_ofNames, ofNames, ofNames, retainedGroups_insertAll,
    retainedGroups_insertAll, and_iff_left rfl]

/-- An insertion leaves the set as it was exactly if the name was there. -/
theorem insert_eq_self_iff (r : Roots) (name : String) :
    (r.insert name).1 = r ↔ (r.insert name).2 = false := by
  by_cases h : name ∈ r.names
  · simp [insert, h]
  · rw [ext_iff_names, names_insert, retainedGroups_insert]
    simp [h, insert]

/-! ### Merging -/

theorem names_merge (r s : Roots) :
    (r.merge s).names = r.names ++ s.names.filter (· ∉ r.names) := by
  rw [merge, names_insertAll, firstOccurrences_of_nodup s.nodup]

theorem merge_ofNames (r : Roots) (l : List String) : r.merge (ofNames l) = r.insertAll l := by
  rw [ext_iff_names, names_merge, names_ofNames, names_insertAll, merge, retainedGroups_insertAll,
    retainedGroups_insertAll]
  exact ⟨rfl, rfl⟩

theorem merge_self (r : Roots) : r.merge r = r := by
  rw [ext_iff_names, names_merge, merge, retainedGroups_insertAll]
  simp

theorem merge_assoc (r s t : Roots) : (r.merge s).merge t = r.merge (s.merge t) := by
  rw [ext_iff_names]
  constructor
  · simp only [names_merge, List.filter_append, List.filter_filter, List.append_assoc]
    congr 2
    apply List.filter_congr
    intro name _
    by_cases hr : name ∈ r.names <;> by_cases hs : name ∈ s.names <;> simp [hr, hs]
  · simp only [merge, retainedGroups_insertAll]

/-- Over all histories of insertions into an empty set: the names are the entries of the history at
their first occurrences, no group appears, and the next insertion tells whether its name is new and
leaves all as it was if it is not. Histories build the same set iff they agree in the first
occurrences. Merging goes on with the insertions of the other set, is idempotent and associative. -/
theorem set_in_insertion_order :
    (∀ l : List String,
      (ofNames l).names = firstOccurrences l ∧ (firstOccurrences l).Sublist l ∧
      (firstOccurrences l).Nodup ∧ (ofNames l).retainedGroups = [] ∧
      (∀ name, (ofNames l).contains name = true ↔ name ∈ l) ∧
      (ofNames l).length = l.toFinset.card ∧ ((ofNames l).isEmpty = true ↔ l = []) ∧
      ∀ name, ofNames (l ++ [name]) = ((ofNames l).insert name).1 ∧
        (((ofNames l).insert name).2 = true ↔ name ∉ l) ∧
        (((ofNames l).insert name).2 = false ↔ ((ofNames l).insert name).1 = ofNames l)) ∧
    (∀ l l' : List String, ofNames l = ofNames l' ↔ firstOccurrences l = firstOccurrences l') ∧
    (∀ l l' : List String, (ofNames l).merge (ofNames l') = ofNames (l ++ l')) ∧
    (∀ r s : Roots, r.merge r = r ∧ (r.merge s).merge s = r.merge s) ∧
    ∀ r s t : Roots, (r.merge s).merge t = r.merge (s.merge t) := by
  refine ⟨fun l => ⟨names_ofNames l, firstOccurrences_sublist l, ?_, ?_, ?_, length_ofNames l,
    isEmpty_ofNames_iff, fun name => ⟨?_, ?_, ?_⟩⟩, fun l l' => ofNames_eq_iff, ?_, ?_,
    merge_assoc⟩
  · rw [← names_ofNames]
    exact (ofNames l).nodup
  · exact retainedGroups_insertAll {} l
  · intro name
    rw [contains_iff, mem_names_ofNames]
  · exact insertAll_concat {} l name
  · rw [insert_snd, Bool.not_eq_true', ← Bool.not_eq_true, contains_iff, mem_names_ofNames]
  · exact (insert_eq_self_iff _ name).symm
  · intro l l'
    rw [merge_ofNames, ofNames, ofNames, insertAll_append]
  · intro r s
    refine ⟨merge_self r, ?_⟩
    rw [merge_assoc, merge_self]

end Roots

end BuiltinLink
