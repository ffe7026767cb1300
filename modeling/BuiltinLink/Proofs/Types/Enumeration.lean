import BuiltinLink.Proofs.Types.Inverse
import Mathlib.Data.List.Infix
import Mathlib.Data.List.Nodup

/-!
The keys up to a number of pointers. A range of such numbers ends whatever its bound is, the largest
number included, and every number up to the bound has been yielded then. So the keys are listed once
each, a larger bound adds keys at the end, and those among them that mean a type are the keys of the
table with at most so many pointers.
-/

namespace BuiltinLink

/-! ### Numbers of pointers -/

namespace DepthRange

/-- A range that is asked again and again yields the numbers of a list, and another range is left. -/
inductive Yields : DepthRange → List UInt8 → DepthRange → Prop
  | nil (r : DepthRange) : Yields r [] r
  | cons {r r' r'' : DepthRange} {d : UInt8} {ds : List UInt8} (head : r.next? = some (d, r'))
      (tail : Yields r' ds r'') : Yields r (d :: ds) r''

variable {r r' : DepthRange} {d : UInt8} {ds : List UInt8}

theorem depths_of_none (h : r.next? = none) : r.depths = [] := by
  rw [depths]
  split
  · rfl
  · rename_i hd
    rw [h] at hd
    cases hd

theorem depths_of_some (h : r.next? = some (d, r')) : r.depths = d :: r'.depths := by
  rw [depths]
  split
  · rename_i hd
    rw [h] at hd
    cases hd
  · rename_i hd
    rw [h] at hd
    cases hd
    rfl

theorem Yields.depths_eq (h : Yields r ds r') : r.depths = ds ++ r'.depths := by
  induction h with
  | nil r => rfl
  | cons head tail ih => rw [depths_of_some head, ih, List.cons_append]

theorem exists_yields (r : DepthRange) : ∃ r', Yields r r.depths r' ∧ r'.next? = none := by
  fun_induction depths r with
  | case1 r hnone => exact ⟨r, .nil r, hnone⟩
  | case2 r d r' hsome ih =>
    obtain ⟨r'', hyields, hend⟩ := ih
    exact ⟨r'', .cons hsome hyields, hend⟩

theorem remaining_of_none (h : r.next? = none) : r.remaining = 0 := by
  unfold next? at h
  split at h
  · rename_i hdone
    rw [UInt8.lt_iff_toNat_lt] at hdone
    unfold remaining
    split
    · rfl
    · rename_i hfresh
      have := hdone.resolve_left hfresh
      omega
  · split at h <;> cases h

/-- The numbers of a range follow one another. -/
theorem toNat_depths (r : DepthRange) :
    r.depths.map UInt8.toNat = List.range' r.next.toNat r.remaining := by
  fun_induction depths r with
  | case1 r hnone => rw [remaining_of_none hnone]; rfl
  | case2 r d r' hsome ih =>
    rw [remaining_eq_of_next? hsome, List.range'_succ, List.map_cons, ih]
    obtain ⟨rfl, -, ⟨hlt, rfl⟩ | ⟨-, rfl⟩⟩ := next?_eq_some hsome
    · rw [toNat_next_add_one hlt]
    · -- Only the mark is new. Nothing remains, so it does not matter where the range stands.
      rfl

theorem toNat_depths_upTo (n : UInt8) :
    (upTo n).depths.map UInt8.toNat = List.range (n.toNat + 1) := by
  rw [toNat_depths, List.range_eq_range']
  rfl

theorem toNat_injective : Function.Injective UInt8.toNat :=
  fun _ _ h => UInt8.toNat_inj.1 h

theorem length_depths_upTo (n : UInt8) : (upTo n).depths.length = n.toNat + 1 := by
  rw [← List.length_map UInt8.toNat, toNat_depths_upTo, List.length_range]

theorem mem_depths_upTo {n d : UInt8} : d ∈ (upTo n).depths ↔ d ≤ n := by
  rw [← List.mem_map_of_injective toNat_injective, toNat_depths_upTo, List.mem_range,
    UInt8.le_iff_toNat_le, Nat.lt_succ_iff]

theorem nodup_depths_upTo (n : UInt8) : (upTo n).depths.Nodup := by
  apply List.Nodup.of_map UInt8.toNat
  rw [toNat_depths_upTo]
  exact List.nodup_range

theorem depths_upTo_prefix_of_le {m n : UInt8} (h : m ≤ n) : (upTo m).depths <+: (upTo n).depths := by
  rw [UInt8.le_iff_toNat_le] at h
  have htake : List.range (m.toNat + 1) = (List.range (n.toNat + 1)).take (m.toNat + 1) := by
    rw [List.take_range, Nat.min_eq_left (Nat.succ_le_succ h)]
  rw [← List.prefix_map_iff_of_injective toNat_injective, toNat_depths_upTo, toNat_depths_upTo,
    htake]
  exact List.take_prefix _ _

end DepthRange

/-! ### Keys -/

namespace TypeKey

/-- The number of pointers around a scalar; void has none. -/
def depth : TypeKey → UInt8
  | void => 0
  | value _ _ d => d

theorem mem_valuesAt {k : TypeKey} {d : UInt8} : k ∈ valuesAt d ↔ ∃ s v, value s v d = k := by
  simp only [valuesAt, List.mem_flatMap, List.mem_map, Vocabulary.mem_members, true_and]
  exact exists_comm

theorem length_valuesAt (d : UInt8) : (valuesAt d).length = 16 := rfl

theorem nodup_valuesAt (d : UInt8) : (valuesAt d).Nodup := by
  have hscalars : (Vocabulary.members : List Scalar).Nodup := by decide
  have hvariabilities : (Vocabulary.members : List Variability).Nodup := by decide
  unfold valuesAt
  rw [List.nodup_flatMap]
  refine ⟨fun v _ => hscalars.map fun s s' h => ?_, hvariabilities.imp fun hne k hk hk' => ?_⟩
  · cases h
    rfl
  · obtain ⟨s, -, rfl⟩ := List.mem_map.1 hk
    obtain ⟨s', -, h⟩ := List.mem_map.1 hk'
    cases h
    exact hne rfl

theorem mem_upTo {k : TypeKey} {n : UInt8} : k ∈ upTo n ↔ k.depth ≤ n := by
  simp only [upTo, List.mem_cons, List.mem_flatMap, DepthRange.mem_depths_upTo, mem_valuesAt]
  constructor
  · rintro (rfl | ⟨d, hd, s, v, rfl⟩)
    · exact UInt8.zero_le
    · exact hd
  · intro h
    cases k with
    | void => exact .inl rfl
    | value s v d => exact .inr ⟨d, h, s, v, rfl⟩

theorem nodup_upTo (n : UInt8) : (upTo n).Nodup := by
  rw [upTo, List.nodup_cons, List.nodup_flatMap]
  refine ⟨?_, fun d _ => nodup_valuesAt d, (DepthRange.nodup_depths_upTo n).imp ?_⟩
  · simp [mem_valuesAt]
  · intro d d' hne k hk hk'
    obtain ⟨s, v, rfl⟩ := mem_valuesAt.1 hk
    obtain ⟨s', v', h⟩ := mem_valuesAt.1 hk'
    cases h
    exact hne rfl

theorem length_upTo (n : UInt8) : (upTo n).length = 1 + 16 * (n.toNat + 1) := by
  simp only [upTo, List.length_cons, List.length_flatMap, length_valuesAt, List.map_const',
    List.sum_replicate_nat, DepthRange.length_depths_upTo]
  omega

theorem upTo_prefix_of_le {m n : UInt8} (h : m ≤ n) : upTo m <+: upTo n := by
  rw [upTo, upTo, List.prefix_cons_inj]
  exact List.IsPrefix.flatMap (DepthRange.depths_upTo_prefix_of_le h) valuesAt

/-! ### Keys that mean a type -/

/-- Whether a key means a type under a hint. -/
def isMapped (unsigned : Bool) (k : TypeKey) : Bool :=
  (TypeTable.lookup k unsigned).isSome

theorem isMapped_iff {u : Bool} {k : TypeKey} :
    isMapped u k = true ↔ k ∈ TypeTable.entries.map Prod.fst := by
  rw [isMapped, Option.isSome_iff_exists]
  simp only [TypeTable.lookup_eq_some_iff, List.mem_map, Prod.exists]
  constructor
  · rintro ⟨t, e, he, -⟩
    exact ⟨k, e, he, rfl⟩
  · rintro ⟨k, e, he, rfl⟩
    exact ⟨_, e, he, rfl⟩

/-- The mapped keys up to a bound are the keys of the table up to that bound. -/
theorem filter_upTo_perm (n : UInt8) (u : Bool) :
    ((upTo n).filter (isMapped u)).Perm
      ((TypeTable.entries.map Prod.fst).filter fun k => k.depth ≤ n) := by
  rw [List.perm_ext_iff_of_nodup ((nodup_upTo n).filter _) (TypeTable.nodup_keys.filter _)]
  intro k
  rw [List.mem_filter, List.mem_filter, mem_upTo, isMapped_iff, decide_eq_true_iff, and_comm]

theorem depth_le_one : ∀ k ∈ TypeTable.entries.map Prod.fst, k.depth ≤ 1 := by
  decide

theorem length_filter_upTo (n : UInt8) (u : Bool) :
    ((upTo n).filter (isMapped u)).length = if n = 0 then 17 else 31 := by
  rw [(filter_upTo_perm n u).length_eq]
  by_cases hn : n = 0
  · subst hn
    decide
  · have hone : 1 ≤ n := by
      rw [← UInt8.toNat_inj] at hn
      rw [UInt8.le_iff_toNat_le]
      exact Nat.one_le_iff_ne_zero.2 hn
    rw [if_neg hn, List.filter_eq_self.2]
    · rfl
    · intro k hk
      exact decide_eq_true (UInt8.le_trans (depth_le_one k hk) hone)

/-- A bound beyond one pointer adds no mapped key. -/
theorem filter_upTo_eq {n : UInt8} (u : Bool) (h : 1 ≤ n) :
    (upTo n).filter (isMapped u) = (upTo 1).filter (isMapped u) := by
  have hn : n ≠ 0 := by
    rintro rfl
    exact absurd h (by decide)
  refine (((upTo_prefix_of_le h).filter (isMapped u)).eq_of_length ?_).symm
  rw [length_filter_upTo, length_filter_upTo, if_neg hn, if_neg (by decide)]

/-- Over all bounds, up to the largest number that can be counted: the range of the numbers of
pointers ends after one step for each number, whoever asks it, and then the keys of all of them have
been listed. Void is listed once, and so is the key of each value with at most so many pointers, and
no other key; a smaller bound gives the keys at the beginning. Under either hint the mapped keys are
those of the table within the bound, so that from one pointer on they stay the same. -/
theorem keys_listed_once (n : UInt8) :
    (∃ ds r, DepthRange.Yields (.upTo n) ds r ∧ r.next? = none) ∧
    (∀ ds r, DepthRange.Yields (.upTo n) ds r → ds.length ≤ n.toNat + 1 ∧
      (r.next? = none → ds.length = n.toNat + 1 ∧ upTo n = .void :: ds.flatMap valuesAt)) ∧
    (upTo n).count .void = 1 ∧
    (∀ s v d, (upTo n).count (.value s v d) = if d ≤ n then 1 else 0) ∧
    (upTo n).length = 1 + 16 * (n.toNat + 1) ∧
    (∀ m ≤ n, upTo m <+: upTo n) ∧
    ∀ u, ((upTo n).filter fun k => (TypeTable.lookup k u).isSome).length =
        (if n = 0 then 17 else 31) ∧
      (1 ≤ n → ((upTo n).filter fun k => (TypeTable.lookup k u).isSome) =
        (upTo 1).filter fun k => (TypeTable.lookup k u).isSome) := by
  refine ⟨?_, fun ds r h => ?_, ?_, fun s v d => ?_, length_upTo n, fun m => upTo_prefix_of_le,
    fun u => ⟨length_filter_upTo n u, filter_upTo_eq u⟩⟩
  · obtain ⟨r, hyields, hend⟩ := (DepthRange.upTo n).exists_yields
    exact ⟨_, r, hyields, hend⟩
  · have hdepths := h.depths_eq
    refine ⟨?_, fun hend => ?_⟩
    · rw [← DepthRange.length_depths_upTo, hdepths, List.length_append]
      exact Nat.le_add_right _ _
    · rw [DepthRange.depths_of_none hend, List.append_nil] at hdepths
      rw [upTo, ← hdepths, DepthRange.length_depths_upTo]
      exact ⟨rfl, rfl⟩
  · rw [(nodup_upTo n).count, if_pos (mem_upTo.2 UInt8.zero_le)]
  · rw [(nodup_upTo n).count]
    exact if_congr mem_upTo rfl rfl

end TypeKey

end BuiltinLink
