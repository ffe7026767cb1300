import BuiltinLink.Proofs.Settings.FirstFault
import Mathlib.Data.List.Find

/-!
How the first fault of a document depends on the document. What stands behind a fault has no
influence on the report, and when the first fault is mended, the faults behind it are left as they
were: the next of them is reported, at a later place, or none.
-/

namespace BuiltinLink.Settings

open Toml

/-! ### Documents side by side -/

/-- Two values agree up to a place and including what stands there. The place is a key, whatever its
value, or a value. -/
inductive AgreeUpTo : Position → Value → Value → Prop
  | value (v : Value) : AgreeUpTo [] v v
  | key {kind kind' : TableKind} {l r r' : Entries} {k : String} {v v' : Value} :
      AgreeUpTo [.key k] (.table kind (l ++ (k, v) :: r)) (.table kind' (l ++ (k, v') :: r'))
  | entry {p : Position} {kind kind' : TableKind} {l r r' : Entries} {k : String} {v v' : Value}
      (h : AgreeUpTo p v v') :
      AgreeUpTo (.value k :: p) (.table kind (l ++ (k, v) :: r))
        (.table kind' (l ++ (k, v') :: r'))
  | item {p : Position} {kind kind' : ArrayKind} {l r r' : List Value} {v v' : Value}
      (h : AgreeUpTo p v v') :
      AgreeUpTo (.item l.length :: p) (.array kind (l ++ v :: r)) (.array kind' (l ++ v' :: r'))

/-- Two values that differ in one place, by an edit of the value there. -/
inductive Edited (edit : Value → Value → Prop) : Position → Value → Value → Prop
  | here {v v' : Value} (h : edit v v') : Edited edit [] v v'
  | entry {p : Position} {kind : TableKind} {l r : Entries} {k : String} {v v' : Value}
      (h : Edited edit p v v') :
      Edited edit (.value k :: p) (.table kind (l ++ (k, v) :: r)) (.table kind (l ++ (k, v') :: r))
  | item {p : Position} {kind : ArrayKind} {l r : List Value} {v v' : Value}
      (h : Edited edit p v v') :
      Edited edit (.item l.length :: p) (.array kind (l ++ v :: r)) (.array kind (l ++ v' :: r))

/-- The value at a place is replaced by another. -/
def Replaced : Position → Value → Value → Prop :=
  Edited fun _ _ => True

/-- A key of a table is taken out, with its value. -/
inductive Without (k : String) : Value → Value → Prop
  | intro (kind : TableKind) (l r : Entries) (v : Value) :
      Without k (.table kind (l ++ (k, v) :: r)) (.table kind (l ++ r))

/-- A key of the table at a place is deleted. -/
def Deleted (p : Position) (k : String) : Value → Value → Prop :=
  Edited (Without k) p

/-! ### Where faults are -/

namespace Schema

section entry

variable {s g : Schema} {kind : TableKind} {l r es : Entries} {k : String} {v : Value}
  {p : Position} {f : ShapeFault}

theorem mem_entryPositions {o : Position × ShapeFault} (ho : o ∈ s.entryFaults es) :
    o.1 ∈ entryPositions es :=
  (s.entryFaults_sublist es).subset (List.mem_map_of_mem ho)

theorem key_not_mem_entryFaults (hk : k ∉ es.map Prod.fst) :
    (.key k :: p, f) ∉ s.entryFaults es := by
  intro ho
  obtain ⟨k', hk', heq | ⟨q, heq⟩⟩ := exists_of_mem_entryPositions (mem_entryPositions ho)
  · cases heq
    exact hk hk'
  · cases heq

theorem value_not_mem_entryFaults (hk : k ∉ es.map Prod.fst) :
    (.value k :: p, f) ∉ s.entryFaults es := by
  intro ho
  obtain ⟨k', hk', heq | ⟨q, heq⟩⟩ := exists_of_mem_entryPositions (mem_entryPositions ho)
  · cases heq
  · cases heq
    exact hk hk'

theorem faults_split (s : Schema) (kind : TableKind) (l r : Entries) (k : String) (v : Value) :
    s.faults (.table kind (l ++ (k, v) :: r)) =
      faultAt [] (s.selfFault? (.table kind (l ++ (k, v) :: r))) ++ (s.entryFaults l ++
        (faultAt [.key k] (s.keyFault? k) ++
          ((s.field? k).elim [] (fun g => under (.value k) (g.faults v)) ++
            (s.entryFaults r ++
              faultAt [.finish] (s.endFault? (.table kind (l ++ (k, v) :: r))))))) := by
  rw [faults, entryFaults_append, entryFaults]
  simp only [List.append_assoc]

/-- The faults of a table around one of its known fields. -/
theorem faults_field (hg : s.field? k = some g) (kind : TableKind) (l r : Entries) (v : Value) :
    s.faults (.table kind (l ++ (k, v) :: r)) = s.entryFaults l ++ (under (.value k) (g.faults v) ++
      (s.entryFaults r ++ faultAt [.finish] (s.endFault? (.table kind (l ++ (k, v) :: r))))) := by
  cases s with
  | single => cases hg
  | list => cases hg
  | record keys field required expected =>
    have hk : k ∈ keys := by
      by_cases hk : k ∈ keys
      · exact hk
      · simp [field?, hk] at hg
    simp [faults_split, selfFault?, keyFault?, hk, hg]

/-- The faults of a table around an unknown key. -/
theorem faults_key (hf : s.keyFault? k = some f) (kind : TableKind) (l r : Entries) (v : Value) :
    s.faults (.table kind (l ++ (k, v) :: r)) = s.entryFaults l ++ ([.key k], f) ::
      (s.entryFaults r ++ faultAt [.finish] (s.endFault? (.table kind (l ++ (k, v) :: r)))) := by
  cases s with
  | single => cases hf
  | list => cases hf
  | record keys field required expected =>
    have hk : k ∉ keys := by
      intro hk
      simp [keyFault?, hk] at hf
    simp [faults_split, selfFault?, field?, hk, hf]

theorem field_of_mem (hl : k ∉ l.map Prod.fst) (hr : k ∉ r.map Prod.fst)
    (ho : (.value k :: p, f) ∈ s.faults (.table kind (l ++ (k, v) :: r))) :
    ∃ g, s.field? k = some g ∧ (p, f) ∈ g.faults v := by
  have hl := value_not_mem_entryFaults (s := s) (p := p) (f := f) hl
  have hr := value_not_mem_entryFaults (s := s) (p := p) (f := f) hr
  rw [faults_split] at ho
  cases hg : s.field? k with
  | none => simp [hg, mem_faultAt, hl, hr] at ho
  | some g =>
    simp [hg, mem_faultAt, hl, hr, mem_under] at ho
    exact ⟨g, rfl, ho⟩

theorem keyFault_of_mem (hl : k ∉ l.map Prod.fst) (hr : k ∉ r.map Prod.fst)
    (ho : (.key k :: p, f) ∈ s.faults (.table kind (l ++ (k, v) :: r))) :
    s.keyFault? k = some f := by
  have hl := key_not_mem_entryFaults (s := s) (p := p) (f := f) hl
  have hr := key_not_mem_entryFaults (s := s) (p := p) (f := f) hr
  rw [faults_split] at ho
  cases hg : s.field? k <;> simp [hg, mem_faultAt, hl, hr, mem_under] at ho <;> exact ho.2

theorem endFault?_field (s : Schema) (kind kind' : TableKind) (l r : Entries) (k : String)
    (v v' : Value) : s.endFault? (.table kind (l ++ (k, v) :: r)) =
      s.endFault? (.table kind' (l ++ (k, v') :: r)) := by
  have hkeys : (l ++ (k, v) :: r).map Prod.fst = (l ++ (k, v') :: r).map Prod.fst := by simp
  cases s with
  | record => rw [endFault?, endFault?, hkeys]
  | _ => rfl

end entry

section item

variable {s g : Schema} {kind : ArrayKind} {l r items : List Value} {v : Value} {p : Position}
  {f : ShapeFault} {i j : Nat}

theorem item_not_mem_itemFaults (hj : j < i ∨ i + items.length ≤ j) :
    (.item j :: p, f) ∉ s.itemFaults i items := by
  intro ho
  obtain ⟨j', q, hle, hlt, heq⟩ := exists_of_mem_itemPositions
    ((s.itemFaults_sublist i items).subset (List.mem_map_of_mem ho))
  cases heq
  omega

theorem faults_split_items (s : Schema) (kind : ArrayKind) (l r : List Value) (v : Value) :
    s.faults (.array kind (l ++ v :: r)) = faultAt [] (s.selfFault? (.array kind (l ++ v :: r))) ++
      (s.itemFaults 0 l ++ ((s.item? l.length).elim [] (fun g =>
        under (.item l.length) (g.faults v)) ++ (s.itemFaults (l.length + 1) r ++
          faultAt [.finish] (s.endFault? (.array kind (l ++ v :: r)))))) := by
  rw [faults, itemFaults_append, itemFaults, Nat.zero_add]
  simp only [List.append_assoc]

/-- The faults of an array around one of its items that count. -/
theorem faults_item (hg : s.item? l.length = some g) (kind : ArrayKind) (r : List Value)
    (v : Value) : s.faults (.array kind (l ++ v :: r)) = s.itemFaults 0 l ++
      (under (.item l.length) (g.faults v) ++ (s.itemFaults (l.length + 1) r ++
        faultAt [.finish] (s.endFault? (.array kind (l ++ v :: r))))) := by
  cases s with
  | single => cases hg
  | list => simp [faults_split_items, selfFault?, hg]
  | record => simp [faults_split_items, selfFault?, hg]

theorem item_of_mem (ho : (.item l.length :: p, f) ∈ s.faults (.array kind (l ++ v :: r))) :
    ∃ g, s.item? l.length = some g ∧ (p, f) ∈ g.faults v := by
  have hl : (.item l.length :: p, f) ∉ s.itemFaults 0 l :=
    item_not_mem_itemFaults (.inr (by omega))
  have hr : (.item l.length :: p, f) ∉ s.itemFaults (l.length + 1) r :=
    item_not_mem_itemFaults (.inl (by omega))
  rw [faults_split_items] at ho
  cases hg : s.item? l.length with
  | none => simp [hg, mem_faultAt, hl, hr] at ho
  | some g =>
    simp [hg, mem_faultAt, hl, hr, mem_under] at ho
    exact ⟨g, rfl, ho⟩

theorem endFault?_item (s : Schema) (kind kind' : ArrayKind) (l r : List Value) (v v' : Value) :
    s.endFault? (.array kind (l ++ v :: r)) = s.endFault? (.array kind' (l ++ v' :: r)) := by
  cases s <;> simp [endFault?]

end item

/-- Without an unknown key a table has its other faults. -/
theorem faults_without {s : Schema} {k : String} {f : ShapeFault} {l r : Entries}
    (hf : s.keyFault? k = some f) (hl : s.entryFaults l = []) (kind : TableKind) (v : Value) :
    s.faults (.table kind (l ++ r)) = s.entryFaults r ++
      faultAt [.finish] (s.endFault? (.table kind (l ++ (k, v) :: r))) := by
  cases s with
  | single => cases hf
  | list => cases hf
  | record keys field required expected =>
    have hk : k ∉ keys := by
      intro hk
      simp [keyFault?, hk] at hf
    have hend : endFault? (record keys field required expected) (.table kind (l ++ r)) =
        endFault? (record keys field required expected) (.table kind (l ++ (k, v) :: r)) := by
      rw [endFault?, endFault?]
      refine congrArg _ (List.find?_congr fun k' hk' => ?_)
      have hne : k' ≠ k := fun heq => hk (heq ▸ hk')
      have hmem : k' ∈ (l ++ (k, v) :: r).map Prod.fst ↔ k' ∈ (l ++ r).map Prod.fst := by
        simp only [List.map_append, List.map_cons, List.mem_append, List.mem_cons, hne, false_or]
      simp only [hmem]
    rw [faults, entryFaults_append, hl, hend]
    rfl

end Schema

/-! ### What stands behind a fault -/

/-- A key of a document stands in its table only once. -/
theorem distinct_of_entry {kind : TableKind} {l r : Entries} {k : String} {v : Value}
    (h : Value.Distinct (.table kind (l ++ (k, v) :: r))) :
    k ∉ l.map Prod.fst ∧ k ∉ r.map Prod.fst ∧ v.Distinct := by
  have hes := Entries.distinct_of_table h
  have hnodup := hes.nodup
  rw [List.map_append, List.map_cons, List.nodup_append, List.nodup_cons] at hnodup
  obtain ⟨-, ⟨hr, -⟩, hne⟩ := hnodup
  exact ⟨fun hl => hne k hl k List.mem_cons_self rfl, hr, hes.values (k, v) (by simp)⟩

theorem distinct_of_item {kind : ArrayKind} {l r : List Value} {v : Value}
    (h : Value.Distinct (.array kind (l ++ v :: r))) : v.Distinct :=
  h.items v (by simp)

theorem isSome_firstFault? {l : Faults} {o : Position × ShapeFault} (ho : o ∈ l) :
    (firstFault? l).isSome := by
  cases l with
  | nil => exact absurd ho List.not_mem_nil
  | cons => rfl

/-- Values that agree up to a place at or below which the one has a fault have the same first fault.
-/
theorem AgreeUpTo.firstFault?_eq {p q : Position} {v v' : Value} (h : AgreeUpTo p v v')
    (hv : v.Distinct) {s : Schema} {f : ShapeFault} (ho : (p ++ q, f) ∈ s.faults v) :
    firstFault? (s.faults v') = firstFault? (s.faults v) := by
  induction h generalizing s with
  | value => rfl
  | @key kind kind' l r r' k v v' =>
    obtain ⟨hl, hr, -⟩ := distinct_of_entry hv
    have hkey := Schema.keyFault_of_mem hl hr ho
    rw [Schema.faults_key hkey, Schema.faults_key hkey, firstFault?_append, firstFault?_append]
    rfl
  | @entry p kind kind' l r r' k v v' _ ih =>
    obtain ⟨hl, hr, hv⟩ := distinct_of_entry hv
    obtain ⟨g, hg, ho⟩ := Schema.field_of_mem hl hr ho
    have hsome := isSome_firstFault? ho
    rw [Schema.faults_field hg, Schema.faults_field hg]
    simp only [firstFault?_append, firstFault?_under, ih hv ho, Option.or_of_isSome hsome]
  | @item p kind kind' l r r' v v' _ ih =>
    obtain ⟨g, hg, ho⟩ := Schema.item_of_mem ho
    have hsome := isSome_firstFault? ho
    have heq := ih (distinct_of_item hv) ho
    rw [Schema.faults_item hg, Schema.faults_item hg]
    simp only [firstFault?_append, firstFault?_under, heq, Option.or_of_isSome hsome]

/-! ### What is left when a fault is mended -/

/-- Some faults at the head of a list are gone, all of them at or below a place, and the others are
left. -/
def Gone (q : Position) (all left : Faults) : Prop :=
  ∃ lost ≠ [], all = lost ++ left ∧ ∀ o ∈ lost, q <+: o.1

theorem Gone.under {q : Position} {all left : Faults} (h : Gone q all left) (step : Step)
    (rest : Faults) :
    Gone (step :: q) (Settings.under step all ++ rest) (Settings.under step left ++ rest) := by
  obtain ⟨lost, hne, rfl, hlost⟩ := h
  refine ⟨Settings.under step lost, ?_, ?_, fun o ho => ?_⟩
  · simpa [Settings.under] using hne
  · rw [Settings.under, Settings.under, Settings.under, List.map_append, List.append_assoc]
  · obtain ⟨o', ho', rfl⟩ := List.mem_map.1 ho
    exact (List.prefix_cons_inj step).2 (hlost o' ho')

/-- What stands first, if it does not stand in the front part, is the head of the next part. -/
theorem head?_of_append_of_not_mem {α : Type} {a : α} {l r : List α}
    (h : (l ++ r).head? = some a) (hl : a ∉ l) : l = [] ∧ r.head? = some a := by
  cases l with
  | nil => exact ⟨rfl, h⟩
  | cons b l =>
    cases h
    exact absurd List.mem_cons_self hl

/-- If the first fault stands in a part of a value, there is none before that part. -/
theorem head?_of_parts {step : Step} {before l after : Faults} {p : Position} {f : ShapeFault}
    (h : (before ++ (under step l ++ after)).head? = some (step :: p, f))
    (hbefore : (step :: p, f) ∉ before) (hafter : (step :: p, f) ∉ after) :
    before = [] ∧ l.head? = some (p, f) := by
  obtain ⟨hnil, h⟩ := head?_of_append_of_not_mem h hbefore
  refine ⟨hnil, ?_⟩
  cases l with
  | nil => exact absurd (List.mem_of_head? h) hafter
  | cons o l =>
    obtain ⟨q, g⟩ := o
    cases h
    rfl

/-- If an edit takes the first fault away from the value that is edited, then it does so for the
whole, and the faults behind it stay. -/
theorem Edited.gone {edit : Value → Value → Prop} {q r p : Position} {v v' : Value}
    (h : Edited edit q v v') (hv : v.Distinct) {s : Schema} {f : ShapeFault}
    (hfirst : (s.faults v).head? = some (q ++ r ++ p, f))
    (hedit : ∀ (g : Schema) x x', edit x x' → x.Distinct → (g.faults x).head? = some (r ++ p, f) →
      (∀ o ∈ g.faults x', (q ++ o.1, o.2) ∈ s.faults v') → Gone r (g.faults x) (g.faults x')) :
    Gone (q ++ r) (s.faults v) (s.faults v') := by
  induction h generalizing s with
  | here h => exact hedit s _ _ h hv hfirst fun o ho => ho
  | @entry q kind l r' k v v' _ ih =>
    obtain ⟨hl, hr, hv⟩ := distinct_of_entry hv
    obtain ⟨g, hg, -⟩ := Schema.field_of_mem hl hr (List.mem_of_head? hfirst)
    rw [Schema.faults_field hg] at hfirst
    obtain ⟨hbefore, hvalue⟩ := head?_of_parts hfirst (Schema.value_not_mem_entryFaults hl)
      (by simp [mem_faultAt, Schema.value_not_mem_entryFaults hr])
    have hgone := ih hv hvalue fun g' x x' hx hxd hhead hin =>
      hedit g' x x' hx hxd hhead fun o ho => by
        rw [Schema.faults_field hg]
        simp only [List.mem_append, mem_under]
        exact .inr (.inl ⟨_, rfl, hin o ho⟩)
    rw [Schema.faults_field hg, Schema.faults_field hg, hbefore,
      Schema.endFault?_field s kind kind l r' k v v']
    exact hgone.under _ _
  | @item q kind l r' v v' _ ih =>
    obtain ⟨g, hg, -⟩ := Schema.item_of_mem (List.mem_of_head? hfirst)
    rw [Schema.faults_item hg] at hfirst
    obtain ⟨hbefore, hvalue⟩ := head?_of_parts hfirst
      (Schema.item_not_mem_itemFaults (.inr (by omega)))
      (by simp [mem_faultAt, Schema.item_not_mem_itemFaults])
    have hgone := ih (distinct_of_item hv) hvalue fun g' x x' hx hxd hhead hin =>
      hedit g' x x' hx hxd hhead fun o ho => by
        rw [Schema.faults_item hg]
        simp only [List.mem_append, mem_under]
        exact .inr (.inl ⟨_, rfl, hin o ho⟩)
    rw [Schema.faults_item hg, Schema.faults_item hg, hbefore,
      Schema.endFault?_item s kind kind l r' v v']
    exact hgone.under _ _

/-- When a value at or below which the first fault stands is replaced, and there is no fault left in
its place, the faults behind it stay as they are. -/
theorem gone_of_replaced {q p : Position} {v v' : Value} (h : Replaced q v v') (hv : v.Distinct)
    {s : Schema} {f : ShapeFault} (hfirst : (s.faults v).head? = some (q ++ p, f))
    (hmended : ∀ o ∈ s.faults v', ¬ q <+: o.1) : Gone q (s.faults v) (s.faults v') := by
  rw [← List.append_nil q] at hfirst ⊢
  refine Edited.gone h hv hfirst fun g x x' _ _ hhead hin => ?_
  have hnil : g.faults x' = [] := List.eq_nil_iff_forall_not_mem.2 fun o ho =>
    hmended _ (hin o ho) (List.prefix_append q o.1)
  rw [hnil]
  exact ⟨g.faults x, fun hx => by simp [hx] at hhead, (List.append_nil _).symm,
    fun o _ => List.nil_prefix⟩

/-- When the first fault is a key and the key is deleted, the other faults stay as they are. -/
theorem gone_of_deleted {q p : Position} {k : String} {v v' : Value} (h : Deleted q k v v')
    (hv : v.Distinct) {s : Schema} {f : ShapeFault}
    (hfirst : (s.faults v).head? = some (q ++ [.key k] ++ p, f)) :
    Gone (q ++ [.key k]) (s.faults v) (s.faults v') := by
  refine Edited.gone h hv hfirst fun g x x' hx hxd hhead _ => ?_
  cases hx with
  | intro kind l r w =>
    obtain ⟨hl, hr, -⟩ := distinct_of_entry hxd
    have hkey := Schema.keyFault_of_mem hl hr (List.mem_of_head? hhead)
    rw [Schema.faults_key hkey] at hhead ⊢
    obtain ⟨hbefore, -⟩ := head?_of_append_of_not_mem hhead (Schema.key_not_mem_entryFaults hl)
    rw [Schema.faults_without hkey hbefore kind w, hbefore]
    exact ⟨[([.key k], f)], List.cons_ne_nil _ _, rfl, by simp⟩

/-- What is at a place is mended: the value there is replaced, and there is no fault left in its
place, or the key there is deleted. -/
def Mended (s : Schema) (p : Position) (v v' : Value) : Prop :=
  (Replaced p v v' ∧ ∀ o ∈ s.faults v', ¬ p <+: o.1) ∨
    ∃ q k, p = q ++ [.key k] ∧ Deleted q k v v'

theorem Mended.gone {s : Schema} {p q : Position} {v v' : Value} {f : ShapeFault}
    (h : Mended s p v v') (hv : v.Distinct) (hfirst : (s.faults v).head? = some (p ++ q, f)) :
    Gone p (s.faults v) (s.faults v') := by
  rcases h with ⟨h, hmended⟩ | ⟨q, k, rfl, h⟩
  · exact gone_of_replaced h hv hfirst hmended
  · exact gone_of_deleted h hv hfirst

end BuiltinLink.Settings
