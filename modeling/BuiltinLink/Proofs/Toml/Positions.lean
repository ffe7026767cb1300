import BuiltinLink.Proofs.Toml.Distinct

/-!
Places in a document: its keys, its values, and the ends of its tables and arrays. In document order
a value stands behind its key, the parts of a value stand behind the value itself, and its end
behind them.
-/

namespace BuiltinLink.Toml

/-- A step from a value to one of its parts. -/
inductive Step where
  /-- To a key of a table. -/
  | key (k : String)
  /-- To the value under a key. -/
  | value (k : String)
  | item (i : Nat)
  /-- To the end of a table or array. -/
  | finish
deriving DecidableEq, Repr

/-- Where something is in a value: the steps that lead there. -/
abbrev Position := List Step

mutual

/-- All positions of a value in document order. -/
def positions : Value → List Position
  | .array _ items => [] :: (itemPositions 0 items ++ [[.finish]])
  | .table _ es => [] :: (entryPositions es ++ [[.finish]])
  | _ => [[]]

/-- The positions of items that are counted from `i` on. -/
def itemPositions (i : Nat) : List Value → List Position
  | [] => []
  | v :: items => (positions v).map (.item i :: ·) ++ itemPositions (i + 1) items

/-- The positions of entries: each key, and behind it those of its value. -/
def entryPositions : List (String × Value) → List Position
  | [] => []
  | (k, v) :: es => [.key k] :: ((positions v).map (.value k :: ·) ++ entryPositions es)

end

/-- One place stands before another in a document. -/
def Before (es : Entries) (p q : Position) : Prop :=
  [p, q].Sublist (positions (.table .headed es))

theorem exists_of_mem_itemPositions {i : Nat} {items : List Value} {p : Position}
    (hp : p ∈ itemPositions i items) : ∃ j q, i ≤ j ∧ j < i + items.length ∧ p = .item j :: q := by
  induction items generalizing i with
  | nil => exact absurd hp List.not_mem_nil
  | cons v items ih =>
    rcases List.mem_append.1 hp with hp | hp
    · obtain ⟨q, -, rfl⟩ := List.mem_map.1 hp
      exact ⟨i, q, Nat.le_refl i, by simp, rfl⟩
    · obtain ⟨j, q, hj, hlt, rfl⟩ := ih hp
      exact ⟨j, q, by omega, by simp only [List.length_cons]; omega, rfl⟩

theorem exists_of_mem_entryPositions {es : Entries} {p : Position} (hp : p ∈ entryPositions es) :
    ∃ k ∈ es.map Prod.fst, p = [.key k] ∨ ∃ q, p = .value k :: q := by
  induction es with
  | nil => exact absurd hp List.not_mem_nil
  | cons e es ih =>
    obtain ⟨k, v⟩ := e
    rcases List.mem_cons.1 hp with rfl | hp
    · exact ⟨k, List.mem_cons_self, .inl rfl⟩
    · rcases List.mem_append.1 hp with hp | hp
      · obtain ⟨q, -, rfl⟩ := List.mem_map.1 hp
        exact ⟨k, List.mem_cons_self, .inr ⟨q, rfl⟩⟩
      · obtain ⟨k', hk', hp⟩ := ih hp
        exact ⟨k', List.mem_cons_of_mem _ hk', hp⟩

theorem nodup_enclosed {l : List Position} (hl : l.Nodup) (hself : [] ∉ l) (hend : [.finish] ∉ l) :
    ([] :: (l ++ [[.finish]])).Nodup := by
  refine List.nodup_cons.2 ⟨?_, List.nodup_append.2 ⟨hl, List.pairwise_singleton _ _, ?_⟩⟩
  · simpa using hself
  · intro p hp q hq heq
    rw [heq, List.mem_singleton.1 hq] at hp
    exact hend hp

theorem nodup_map_step {l : List Position} (hl : l.Nodup) (step : Step) :
    (l.map (step :: ·)).Nodup :=
  List.Pairwise.map _ (fun _ _ hne heq => hne (List.cons.inj heq).2) hl

mutual

/-- No place is listed twice, since no key stands twice. -/
theorem nodup_positions {v : Value} (hv : v.Distinct) : (positions v).Nodup := by
  match v with
  | .array kind items =>
    refine nodup_enclosed (nodup_itemPositions 0 hv.items) ?_ ?_ <;> intro hp <;>
      obtain ⟨j, q, -, -, heq⟩ := exists_of_mem_itemPositions hp <;> cases heq
  | .table kind es =>
    have hes := Entries.distinct_of_table hv
    refine nodup_enclosed (nodup_entryPositions hes) ?_ ?_ <;> intro hp <;>
      obtain ⟨k, -, heq | ⟨q, heq⟩⟩ := exists_of_mem_entryPositions hp <;> cases heq
  | .string _ | .integer _ | .float _ | .boolean _ | .datetime => exact List.pairwise_singleton _ _

theorem nodup_itemPositions (i : Nat) {items : List Value} (h : ∀ v ∈ items, v.Distinct) :
    (itemPositions i items).Nodup := by
  match items with
  | [] => exact List.nodup_nil
  | v :: items =>
    obtain ⟨hv, hitems⟩ := List.forall_mem_cons.1 h
    refine List.nodup_append.2
      ⟨nodup_map_step (nodup_positions hv) _, nodup_itemPositions (i + 1) hitems, ?_⟩
    intro p hp q hq heq
    obtain ⟨p', -, rfl⟩ := List.mem_map.1 hp
    obtain ⟨j, q', hj, -, rfl⟩ := exists_of_mem_itemPositions hq
    cases heq
    exact absurd hj (Nat.not_succ_le_self i)

theorem nodup_entryPositions {es : List (String × Value)} (h : Entries.Distinct es) :
    (entryPositions es).Nodup := by
  match es with
  | [] => exact List.nodup_nil
  | (k, v) :: es =>
    obtain ⟨hv, hvalues⟩ := List.forall_mem_cons.1 h.values
    obtain ⟨hk, hnodup⟩ := List.nodup_cons.1 h.nodup
    have hrest : ∀ p ∈ entryPositions es, p ≠ [.key k] ∧ ∀ q, p ≠ .value k :: q := by
      intro p hp
      obtain ⟨k', hk', heq⟩ := exists_of_mem_entryPositions hp
      have hne : k' ≠ k := fun heq => hk (heq ▸ hk')
      rcases heq with rfl | ⟨q, rfl⟩ <;> simp [hne]
    refine List.nodup_cons.2 ⟨?_, List.nodup_append.2
      ⟨nodup_map_step (nodup_positions hv) _, nodup_entryPositions ⟨hnodup, hvalues⟩, ?_⟩⟩
    · intro hp
      rcases List.mem_append.1 hp with hp | hp
      · obtain ⟨q, -, heq⟩ := List.mem_map.1 hp
        cases heq
      · exact (hrest _ hp).1 rfl
    · intro p hp q hq heq
      obtain ⟨p', -, rfl⟩ := List.mem_map.1 hp
      exact (hrest q hq).2 p' heq.symm

end

theorem not_sublist_swap {α : Type} {a b : α} {l : List α} (hl : l.Nodup)
    (h : [a, b].Sublist l) : ¬ [b, a].Sublist l := by
  induction l with
  | nil => cases h
  | cons c l ih =>
    obtain ⟨hc, hl⟩ := List.nodup_cons.1 hl
    intro h'
    cases h with
    | cons _ h =>
      cases h' with
      | cons _ h' => exact ih hl h h'
      | cons_cons => exact hc (h.subset (by simp))
    | cons_cons _ h =>
      cases h' with
      | cons _ h' => exact hc (h'.subset (by simp))
      | cons_cons => exact hc (h.subset (by simp))

/-- Of two places only one stands before the other. -/
theorem Before.asymm {es : Entries} (hes : es.Distinct) {p q : Position} (h : Before es p q) :
    ¬ Before es q p :=
  not_sublist_swap (nodup_positions (hes.table .headed)) h

end BuiltinLink.Toml
