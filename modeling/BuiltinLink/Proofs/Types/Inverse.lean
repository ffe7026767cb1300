import BuiltinLink.Proofs.Lookup
import BuiltinLink.Types.Table

/-!
The table of types read backwards. Each source type has at most one key, and the type tells the key
and the hints under which the key means it; the types without a key and the keys without a type are
described on their own.
-/

namespace BuiltinLink

/-! ### Kinds and scalars -/

/-- The kind of a scalar for a hint on the sign of integers. -/
def Scalar.kind (s : Scalar) (unsigned : Bool) : AtomicKind :=
  if unsigned then s.kinds.2 else s.kinds.1

namespace AtomicKind

/-- The scalar that holds values of a kind. There are no values of void. -/
def scalar? : AtomicKind → Option Scalar
  | void => none
  | bool => some .i1
  | int8 | uint8 => some .i8
  | int16 | uint16 => some .i16
  | int32 | uint32 => some .i32
  | int64 | uint64 => some .i64
  | float16 => some .f16
  | float => some .f32
  | double => some .f64

theorem scalar?_eq_some_iff {k : AtomicKind} {s : Scalar} :
    k.scalar? = some s ↔ ∃ u, s.kind u = k := by
  constructor
  · intro h
    refine ⟨k.isUnsigned, ?_⟩
    cases k <;> cases h <;> rfl
  · rintro ⟨u, rfl⟩
    cases s <;> cases u <;> rfl

theorem isSome_scalar?_iff {k : AtomicKind} : k.scalar?.isSome = true ↔ k ≠ .void := by
  cases k <;> decide

end AtomicKind

namespace Scalar

variable {s : Scalar} {u : Bool} {k : AtomicKind}

@[simp] theorem scalar?_kind (s : Scalar) (u : Bool) : (s.kind u).scalar? = some s :=
  AtomicKind.scalar?_eq_some_iff.2 ⟨u, rfl⟩

theorem kind_ne_void (s : Scalar) (u : Bool) : s.kind u ≠ .void := by
  cases s <;> cases u <;> decide

theorem kind_eq_bool_iff : s.kind u = .bool ↔ s = .i1 := by
  cases s <;> cases u <;> decide

/-- A hint on the sign gives an integer if it is right, and any other kind in any case. -/
theorem kind_eq_iff :
    s.kind u = k ↔ k.scalar? = some s ∧ (k.isInteger = true → u = k.isUnsigned) := by
  constructor
  · rintro rfl
    refine ⟨scalar?_kind s u, ?_⟩
    cases s <;> cases u <;> decide
  · rintro ⟨hs, hu⟩
    obtain ⟨u', rfl⟩ := AtomicKind.scalar?_eq_some_iff.1 hs
    revert hu
    cases s <;> cases u <;> cases u' <;> decide

end Scalar

/-! ### The rows of the table -/

namespace TypeTable

open TypeEntry

theorem select_ofScalar (s : Scalar) (v : Variability) (wrap : SourceType → SourceType) (u : Bool) :
    (ofScalar s v wrap).select u = wrap (.atomic (s.kind u) v) := by
  cases s <;> cases u <;> rfl

theorem nodup_keys : (entries.map Prod.fst).Nodup := by
  decide

theorem mem_rows_iff {k : TypeKey} {e : TypeEntry} {s : Scalar} {v : Variability} :
    (k, e) ∈ rows s v ↔ k = .value s v 0 ∧ e = ofScalar s v id ∨
      s ≠ .i1 ∧ k = .value s v 1 ∧ e = ofScalar s v fun t => .pointer t .uniform := by
  unfold rows
  by_cases hs : s = .i1 <;> simp [hs]

theorem mem_entries_iff {k : TypeKey} {e : TypeEntry} :
    (k, e) ∈ entries ↔ k = .void ∧ e = .fixed .void ∨ ∃ s v, (k, e) ∈ rows s v := by
  simp [entries, Vocabulary.mem_members]

theorem lookup_eq_some_iff {k : TypeKey} {u : Bool} {t : SourceType} :
    lookup k u = some t ↔ ∃ e, (k, e) ∈ entries ∧ e.select u = t := by
  rw [lookup, Option.map_eq_some_iff]
  constructor
  · rintro ⟨e, he, ht⟩
    exact ⟨e, mem_of_lookup he, ht⟩
  · rintro ⟨e, he, ht⟩
    exact ⟨e, lookup_of_mem nodup_keys he, ht⟩

/-- What keys mean: void, scalars, and uniform pointers to all scalars but truth values. -/
theorem lookup_cases {k : TypeKey} {u : Bool} {t : SourceType} :
    lookup k u = some t ↔ k = .void ∧ t = .void ∨
      ∃ s v, k = .value s v 0 ∧ t = .atomic (s.kind u) v ∨
        s ≠ .i1 ∧ k = .value s v 1 ∧ t = .pointer (.atomic (s.kind u) v) .uniform := by
  rw [lookup_eq_some_iff]
  constructor
  · rintro ⟨e, he, rfl⟩
    rcases mem_entries_iff.1 he with ⟨rfl, rfl⟩ | ⟨s, v, hrow⟩
    · exact .inl ⟨rfl, rfl⟩
    · refine .inr ⟨s, v, ?_⟩
      rcases mem_rows_iff.1 hrow with ⟨rfl, rfl⟩ | ⟨hs, rfl, rfl⟩
      · exact .inl ⟨rfl, select_ofScalar s v _ u⟩
      · exact .inr ⟨hs, rfl, select_ofScalar s v _ u⟩
  · rintro (⟨rfl, rfl⟩ | ⟨s, v, ⟨rfl, rfl⟩ | ⟨hs, rfl, rfl⟩⟩)
    · exact ⟨_, mem_entries_iff.2 (.inl ⟨rfl, rfl⟩), rfl⟩
    · exact ⟨_, mem_entries_iff.2 (.inr ⟨s, v, mem_rows_iff.2 (.inl ⟨rfl, rfl⟩)⟩),
        select_ofScalar s v _ u⟩
    · exact ⟨_, mem_entries_iff.2 (.inr ⟨s, v, mem_rows_iff.2 (.inr ⟨hs, rfl, rfl⟩)⟩),
        select_ofScalar s v _ u⟩

end TypeTable

/-! ### The key of a type -/

namespace SourceType

/-- The kind and the variability below all pointers. -/
def innermost : SourceType → AtomicKind × Variability
  | atomic k v => (k, v)
  | pointer t _ => t.innermost

/-- The key that means a type. -/
def key? : SourceType → Option TypeKey
  | atomic .void .uniform => some .void
  | atomic k v => k.scalar?.map fun s => .value s v 0
  | pointer (atomic .bool _) _ => none
  | pointer (atomic k v) .uniform => k.scalar?.map fun s => .value s v 1
  | pointer _ _ => none

/-- The types that have a key. -/
inductive HasKey : SourceType → Prop
  | void : HasKey .void
  | scalar {k : AtomicKind} {v : Variability} (hvoid : k ≠ .void) : HasKey (.atomic k v)
  | pointer {k : AtomicKind} {v : Variability} (hvoid : k ≠ .void) (hbool : k ≠ .bool) :
      HasKey (.pointer (.atomic k v) .uniform)

theorem key?_atomic {k : AtomicKind} {v : Variability} (h : k ≠ .void) :
    (atomic k v).key? = k.scalar?.map fun s => .value s v 0 := by
  cases k with
  | void => exact absurd rfl h
  | _ => rfl

theorem key?_pointer {k : AtomicKind} {v : Variability} (h : k ≠ .bool) :
    (pointer (atomic k v) .uniform).key? = k.scalar?.map fun s => .value s v 1 := by
  cases k with
  | bool => exact absurd rfl h
  | _ => rfl

theorem hasKey_iff {t : SourceType} : t.HasKey ↔ t.key?.isSome = true := by
  constructor
  · rintro (_ | hvoid | ⟨hvoid, hbool⟩)
    · rfl
    · rw [key?_atomic hvoid, Option.isSome_map]
      exact AtomicKind.isSome_scalar?_iff.2 hvoid
    · rw [key?_pointer hbool, Option.isSome_map]
      exact AtomicKind.isSome_scalar?_iff.2 hvoid
  · intro h
    unfold key? at h
    split at h
    · exact .void
    · exact .scalar (AtomicKind.isSome_scalar?_iff.1 (by simpa using h))
    · cases h
    · rename_i hbool
      exact .pointer (AtomicKind.isSome_scalar?_iff.1 (by simpa using h)) hbool
    · cases h

end SourceType

namespace TypeTable

open SourceType

/-- A key and a hint mean a type iff the key is that of the type and the hint does not contradict
it. -/
theorem lookup_iff {k : TypeKey} {u : Bool} {t : SourceType} :
    lookup k u = some t ↔ t.key? = some k ∧
      (t.innermost.1.isInteger = true → u = t.innermost.1.isUnsigned) := by
  rw [lookup_cases]
  constructor
  · rintro (⟨rfl, rfl⟩ | ⟨s, v, ⟨rfl, rfl⟩ | ⟨hs, rfl, rfl⟩⟩)
    · exact ⟨rfl, fun h => nomatch h⟩
    · refine ⟨?_, (Scalar.kind_eq_iff.1 rfl).2⟩
      rw [key?_atomic (s.kind_ne_void u), Scalar.scalar?_kind]
      rfl
    · refine ⟨?_, (Scalar.kind_eq_iff.1 rfl).2⟩
      rw [key?_pointer (mt Scalar.kind_eq_bool_iff.1 hs), Scalar.scalar?_kind]
      rfl
  · rintro ⟨hkey, hu⟩
    have hhas : t.HasKey := hasKey_iff.2 (by rw [hkey]; rfl)
    cases hhas with
    | void => exact .inl ⟨(Option.some.inj hkey).symm, rfl⟩
    | @scalar kind v hvoid =>
      rw [key?_atomic hvoid] at hkey
      obtain ⟨s, hs, rfl⟩ := Option.map_eq_some_iff.1 hkey
      have hkind : s.kind u = kind := Scalar.kind_eq_iff.2 ⟨hs, hu⟩
      exact .inr ⟨s, v, .inl ⟨rfl, by rw [hkind]⟩⟩
    | @pointer kind v hvoid hbool =>
      rw [key?_pointer hbool] at hkey
      obtain ⟨s, hs, rfl⟩ := Option.map_eq_some_iff.1 hkey
      have hkind : s.kind u = kind := Scalar.kind_eq_iff.2 ⟨hs, hu⟩
      have hs' : s ≠ .i1 := fun h => hbool (hkind ▸ Scalar.kind_eq_bool_iff.2 h)
      exact .inr ⟨s, v, .inr ⟨hs', rfl, by rw [hkind]⟩⟩

/-- The values whose keys mean something, under any hint. -/
theorem exists_lookup_iff {s : Scalar} {v : Variability} {d : UInt8} {u : Bool} :
    (∃ t, lookup (.value s v d) u = some t) ↔ d = 0 ∨ s ≠ .i1 ∧ d = 1 := by
  constructor
  · rintro ⟨t, ht⟩
    rcases lookup_cases.1 ht with ⟨hk, -⟩ | ⟨s', v', ⟨hk, -⟩ | ⟨hs, hk, -⟩⟩
    · cases hk
    · cases hk
      exact .inl rfl
    · cases hk
      exact .inr ⟨hs, rfl⟩
  · rintro (rfl | ⟨hs, rfl⟩)
    · exact ⟨_, lookup_cases.2 (.inr ⟨s, v, .inl ⟨rfl, rfl⟩⟩)⟩
    · exact ⟨_, lookup_cases.2 (.inr ⟨s, v, .inr ⟨hs, rfl, rfl⟩⟩)⟩

theorem lookup_eq_none_iff {k : TypeKey} {u : Bool} :
    lookup k u = none ↔
      ∃ s v d, k = .value s v d ∧ (2 ≤ d.toNat ∨ d.toNat = 1 ∧ s = .i1) := by
  rw [Option.eq_none_iff_forall_ne_some, ← not_exists]
  cases k with
  | void =>
    have hvoid : ∃ t, lookup .void u = some t := ⟨_, lookup_cases.2 (.inl ⟨rfl, rfl⟩)⟩
    simp [hvoid]
  | value s v d =>
    have hdepth : ¬(d = 0 ∨ s ≠ .i1 ∧ d = 1) ↔ 2 ≤ d.toNat ∨ d.toNat = 1 ∧ s = .i1 := by
      rw [← UInt8.toNat_inj, ← UInt8.toNat_inj]
      by_cases hs : s = .i1 <;> simp [hs] <;> omega
    rw [exists_lookup_iff, hdepth]
    constructor
    · exact fun h => ⟨s, v, d, rfl, h⟩
    · rintro ⟨_, _, _, hk, h⟩
      cases hk
      exact h

/-- The table can be read backwards. Exactly void, the scalars, and uniform pointers to scalars other
than truth values have a key. That is the only one, and it means the type under each hint, or under
the right one if the type is about integers. -/
theorem table_invertible :
    (∀ t, (∃ k u, lookup k u = some t) ↔ t.HasKey) ∧
    (∀ t k u, lookup k u = some t →
      (∀ k' u', lookup k' u' = some t → k' = k) ∧
      (k = .void ∧ t = .void ∨
        ∃ s d, k = .value s t.innermost.2 d ∧ d.toNat = t.pointerDepth) ∧
      ∀ u', lookup k u' = some t ↔
        (t.innermost.1.isInteger = true → u' = t.innermost.1.isUnsigned)) ∧
    ∀ k u, lookup k u = none ↔
      ∃ s v d, k = .value s v d ∧ (2 ≤ d.toNat ∨ d.toNat = 1 ∧ s = .i1) := by
  refine ⟨fun t => ?_, fun t k u h => ⟨?_, ?_, fun u' => ?_⟩, fun k u => lookup_eq_none_iff⟩
  · rw [hasKey_iff, Option.isSome_iff_exists]
    refine exists_congr fun k => ⟨fun ⟨u, h⟩ => (lookup_iff.1 h).1, fun hkey => ?_⟩
    exact ⟨t.innermost.1.isUnsigned, lookup_iff.2 ⟨hkey, fun _ => rfl⟩⟩
  · intro k' u' h'
    exact Option.some.inj ((lookup_iff.1 h').1.symm.trans (lookup_iff.1 h).1)
  · rcases lookup_cases.1 h with hvoid | ⟨s, v, ⟨rfl, rfl⟩ | ⟨-, rfl, rfl⟩⟩
    · exact .inl hvoid
    · exact .inr ⟨s, 0, rfl, rfl⟩
    · exact .inr ⟨s, 1, rfl, rfl⟩
  · rw [lookup_iff]
    exact and_iff_right (lookup_iff.1 h).1

end TypeTable

end BuiltinLink
