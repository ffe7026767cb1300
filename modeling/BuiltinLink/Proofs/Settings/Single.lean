import BuiltinLink.Proofs.Target.Document
import BuiltinLink.Settings.Reader

/-!
Which values stand for the members of closed sets, flags, sets of checkpoints and directories: for
each reader of a single value, an iff that says of what it makes what.
-/

namespace BuiltinLink

open Toml

/-- Sets with the same members are the same. -/
theorem StageSet.ext_mem {s t : StageSet} (h : ∀ n, n ∈ s ↔ n ∈ t) : s = t := by
  have hs := s.sorted.imp fun h => UInt32.ne_of_lt h
  have ht := t.sorted.imp fun h => UInt32.ne_of_lt h
  have hperm := (List.perm_ext_iff_of_nodup hs ht).2 h
  have heq : s.toList = t.toList :=
    hperm.eq_of_pairwise (fun a b _ _ hab hba => absurd hab (UInt32.lt_asymm hba)) s.sorted t.sorted
  cases s
  cases t
  cases heq
  rfl

namespace Settings

/-! ### Results -/

theorem bind_eq_ok_iff {ε α β : Type} {x : Except ε α} {f : α → Except ε β} {b : β} :
    (x >>= f) = .ok b ↔ ∃ a, x = .ok a ∧ f a = .ok b := by
  cases x <;> simp [bind, Except.bind]

theorem bind_pure_eq_ok_iff {ε α β : Type} {x : Except ε α} {f : α → β} {b : β} :
    (x >>= fun a => pure (f a)) = .ok b ↔ ∃ a, x = .ok a ∧ f a = b := by
  simp [bind_eq_ok_iff, pure, Except.pure]

theorem mapError_eq_ok_iff {ε ε' α : Type} {x : Except ε α} {f : ε → ε'} {a : α} :
    x.mapError f = .ok a ↔ x = .ok a := by
  unfold Except.mapError
  cases x <;> simp

theorem bind_eq_error_iff {ε α β : Type} {x : Except ε α} {f : α → Except ε β} {e : ε} :
    (x >>= f) = .error e ↔ x = .error e ∨ ∃ a, x = .ok a ∧ f a = .error e := by
  cases x <;> simp [bind, Except.bind]

theorem mapError_eq_error_iff {ε ε' α : Type} {x : Except ε α} {f : ε → ε'} {e : ε'} :
    x.mapError f = .error e ↔ ∃ e', x = .error e' ∧ f e' = e := by
  unfold Except.mapError
  cases x <;> simp

theorem map_eq_ok_iff {ε α β : Type} {x : Except ε α} {f : α → β} {b : β} :
    x.map f = .ok b ↔ ∃ a, x = .ok a ∧ f a = b :=
  bind_pure_eq_ok_iff

/-! ### Single values -/

/-- An empty table or an empty array. -/
def IsEmpty (v : Value) : Prop :=
  (∃ kind, v = .table kind []) ∨ ∃ kind, v = .array kind []

/-- A value that names a member of a closed set: the canonical name in exact spelling, alone or as
the only key of a table, above something empty. -/
def Names {α : Type} [Vocabulary α] (v : Value) (a : α) : Prop :=
  v = .string (Vocabulary.name a) ∨
    ∃ kind w, v = .table kind [(Vocabulary.name a, w)] ∧ IsEmpty w

/-- An array of integers below 2³², whatever their order and repetitions, and the set of them. -/
def IsStages (v : Value) (s : StageSet) : Prop :=
  ∃ kind, ∃ l : List UInt32, v = .array kind (l.map fun n => .integer n.toNat) ∧
    ∀ n, n ∈ s ↔ n ∈ l

/-- A string, and the path it spells. -/
def IsPath (v : Value) (p : Path) : Prop :=
  ∃ s, v = .string s ∧ p = .ofString s

theorem payloadFault?_eq_none_iff {v : Value} : payloadFault? v = none ↔ IsEmpty v := by
  fun_cases payloadFault? v with
  | case1 => exact ⟨fun _ => .inr ⟨_, rfl⟩, fun _ => rfl⟩
  | case2 => exact ⟨fun _ => .inr ⟨_, rfl⟩, fun _ => rfl⟩
  | case3 => exact ⟨fun _ => .inl ⟨_, rfl⟩, fun _ => rfl⟩
  | _ => simp_all [IsEmpty]

section Variants

variable {α : Type} [Vocabulary α] [DocumentNames α] [CanonicalInDocuments α]

theorem named_eq_ok_iff {s : String} {a : α} : named α s = .ok a ↔ Vocabulary.name a = s := by
  rw [← DocumentNames.find?_eq_some_iff]
  unfold named
  cases DocumentNames.find? (α := α) s <;> simp

theorem variant_eq_ok_iff {v : Value} {a : α} : variant α v = .ok a ↔ Names v a := by
  constructor
  · intro h
    unfold variant at h
    split at h
    · exact .inl (congrArg Value.string (named_eq_ok_iff.1 h).symm)
    · cases h
    · rename_i kind k w
      obtain ⟨b, hk, h⟩ := bind_eq_ok_iff.1 h
      cases hw : payloadFault? w with
      | some fault =>
        rw [hw] at h
        cases h
      | none =>
        rw [hw] at h
        cases h
        rw [← named_eq_ok_iff.1 hk]
        exact .inr ⟨kind, w, rfl, payloadFault?_eq_none_iff.1 hw⟩
    · cases h
    · cases h
  · intro h'
    rcases h' with rfl | ⟨kind, w, rfl, hw⟩
    · exact named_eq_ok_iff.2 rfl
    · rw [variant, named_eq_ok_iff.2 rfl, payloadFault?_eq_none_iff.2 hw]
      rfl

end Variants

theorem boolean_eq_ok_iff {v : Value} {b : Bool} : boolean v = .ok b ↔ v = .boolean b := by
  constructor
  · intro h
    unfold boolean at h
    split at h
    · rw [Except.ok.inj h]
    · cases h
  · intro heq
    subst heq
    rfl

theorem index_eq_ok_iff {v : Value} {n : UInt32} : index v = .ok n ↔ v = .integer n.toNat := by
  constructor
  · intro h
    unfold index at h
    split at h
    · rename_i m
      split at h
      · rename_i hm
        have hlt : m.toNat < UInt32.size := by
          have : UInt32.size = 0x100000000 := rfl
          omega
        rw [← Except.ok.inj h, UInt32.toNat_ofNat_of_lt' hlt, Int.toNat_of_nonneg hm.1]
      · cases h
    · cases h
  · intro heq
    subst heq
    have hn := n.toNat_lt
    rw [index, if_pos (by omega), Int.toNat_natCast, UInt32.ofNat_toNat]

theorem mapM_index_eq_ok_iff {items : List Value} {l : List UInt32} :
    items.mapM index = .ok l ↔ items = l.map fun n => .integer n.toNat := by
  constructor
  · intro h
    induction items generalizing l with
    | nil =>
      cases h
      rfl
    | cons v items ih =>
      rw [List.mapM_cons] at h
      obtain ⟨n, hv, h⟩ := bind_eq_ok_iff.1 h
      obtain ⟨l', hl, rfl⟩ := bind_pure_eq_ok_iff.1 h
      rw [index_eq_ok_iff.1 hv, ih hl, List.map_cons]
  · intro heq
    subst heq
    induction l with
    | nil => rfl
    | cons n l ih =>
      rw [List.map_cons, List.mapM_cons, index_eq_ok_iff.2 rfl, ih]
      rfl

theorem stages_eq_ok_iff {v : Value} {s : StageSet} : stages v = .ok s ↔ IsStages v s := by
  constructor
  · intro h
    unfold stages at h
    split at h
    · rename_i kind items
      obtain ⟨l, hl, rfl⟩ := bind_pure_eq_ok_iff.1 h
      refine ⟨kind, l, congrArg _ (mapM_index_eq_ok_iff.1 hl), fun n => ?_⟩
      rw [StageSet.mem_ofList]
    · cases h
  · intro h'
    rcases h' with ⟨kind, l, rfl, hs⟩
    have hset : StageSet.ofList l = s := StageSet.ext_mem fun n => by
      rw [StageSet.mem_ofList, hs n]
    rw [stages, mapM_index_eq_ok_iff.2 rfl, ← hset]
    rfl

theorem path_eq_ok_iff {v : Value} {p : Path} : path v = .ok p ↔ IsPath v p := by
  constructor
  · intro h
    unfold path at h
    split at h
    · exact ⟨_, rfl, (Except.ok.inj h).symm⟩
    · cases h
  · intro h'
    rcases h' with ⟨s, rfl, rfl⟩
    rfl

end Settings

end BuiltinLink
