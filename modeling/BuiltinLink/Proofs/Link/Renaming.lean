import BuiltinLink.Keep.Catalog
import BuiltinLink.Link.Renaming
import BuiltinLink.Proofs.Text.Joined
import BuiltinLink.Proofs.Text.Utf8
import Mathlib.Data.List.Infix

/-!
Copies of functions for several instruction sets never meet. No ending of an instruction set is the
tail of another one, so a renamed name has one origin. An ending begins with an underscore, which
the mark of intrinsics does not hold, and it ends in the gang size behind an `x`, as no hook of the
runtime and no function of the catalog does: renaming makes no name special and takes nothing from
one that is.
-/

namespace BuiltinLink

namespace Isa

/-- Whatever the name of an instruction set holds, its ending holds what identifiers may. -/
theorem isAlphanum_of_mem_symbolSuffix {isa : Isa} {c : Char} (h : c ∈ isa.symbolSuffix.toList) :
    c.isAlphanum ∨ c = '_' := by
  rw [symbolSuffix, String.toList_ofList, List.mem_cons, List.mem_map] at h
  rcases h with h | ⟨d, -, hd⟩
  · exact .inr h
  · split at hd
    · rename_i hdc
      exact .inl (hd ▸ hdc)
    · exact .inr hd.symm

theorem exists_cons_symbolSuffix (isa : Isa) : ∃ t, isa.symbolSuffix.toList = '_' :: t := by
  rw [symbolSuffix, String.toList_ofList]
  exact ⟨_, rfl⟩

theorem eq_of_symbolSuffix_suffix {x y : Isa}
    (h : x.symbolSuffix.toList <:+ y.symbolSuffix.toList) : x = y := by
  revert h
  cases x <;> cases y <;> decide

end Isa

/-- The functions of a catalog, in groups or single. -/
def KeepCatalog.members (c : KeepCatalog) : List String :=
  c.functions ++ c.groups.flatMap KeepGroup.members

theorem KeepCatalog.contains_iff_mem_members {c : KeepCatalog} {s : String} :
    c.contains s = true ↔ s ∈ c.members := by
  simp [contains, members, KeepGroup.contains]

namespace SymbolName

/-- What stands before the digits at the end of a name. -/
def beforeDigits? (s : List Char) : Option Char :=
  s.findRev? fun c => !c.isDigit

/-- A text all of whose characters may stand in identifiers. -/
def IsIdentifierText (s : String) : Prop :=
  ∀ c ∈ s.toList, c.isAlphanum ∨ c = '_'

theorem beforeDigits?_append {s t : List Char} {c : Char} (h : beforeDigits? t = some c) :
    beforeDigits? (s ++ t) = some c := by
  rw [beforeDigits?, List.findRev?_eq_find?_reverse] at h ⊢
  rw [List.reverse_append, List.find?_append, h, Option.some_or]

/-- An ending ends in the gang size. -/
theorem beforeDigits?_symbolSuffix (isa : Isa) :
    beforeDigits? isa.symbolSuffix.toList = some 'x' := by
  cases isa <;> decide

theorem isAscii_of_special : ∀ s ∈ runtimeHooks ++ KeepCatalog.builtin.members,
    ∀ b ∈ Text.storedBytes s, b.toNat < 0x80 := by
  -- One pass over the stored bytes. Deciding the quantifiers instead tries every byte there is
  -- against each name, once bytes are known to be finitely many.
  have hall : (runtimeHooks ++ KeepCatalog.builtin.members).all
      (fun s => (Text.storedBytes s).all fun b => decide (b.toNat < 0x80)) = true := by
    decide +kernel
  intro s hs b hb
  exact of_decide_eq_true (List.all_eq_true.1 (List.all_eq_true.1 hall s hs) b hb)

theorem beforeDigits?_of_special :
    ∀ s ∈ runtimeHooks ++ KeepCatalog.builtin.members, beforeDigits? s.toList ≠ some 'x' := by
  have hbytes : ∀ s ∈ runtimeHooks ++ KeepCatalog.builtin.members,
      beforeDigits? ((Text.storedBytes s).map fun b => Char.ofNat b.toNat) ≠ some 'x' := by
    decide +kernel
  intro s hs
  rw [Text.toList_of_ascii (isAscii_of_special s hs)]
  exact hbytes s hs

variable {x y : Isa} {m n : String}

theorem toList_forIsa : (forIsa x n).toList = n.toList ++ x.symbolSuffix.toList := by
  rw [forIsa, String.toList_append]

theorem forIsa_not_special : forIsa x n ∉ runtimeHooks ++ KeepCatalog.builtin.members := by
  intro h
  apply beforeDigits?_of_special _ h
  rw [toList_forIsa]
  exact beforeDigits?_append (beforeDigits?_symbolSuffix x)

theorem forIsa_eq_iff : forIsa x m = forIsa y n ↔ m = n ∧ x = y := by
  constructor
  · intro h
    have hl : m.toList ++ x.symbolSuffix.toList = n.toList ++ y.symbolSuffix.toList := by
      rw [← toList_forIsa, ← toList_forIsa, h]
    have hxy : x = y := by
      rcases List.suffix_or_suffix_of_suffix (List.suffix_append m.toList _)
        (hl ▸ List.suffix_append n.toList y.symbolSuffix.toList) with hs | hs
      · exact Isa.eq_of_symbolSuffix_suffix hs
      · exact (Isa.eq_of_symbolSuffix_suffix hs).symm
    subst hxy
    exact ⟨String.toList_inj.1 (List.append_cancel_right hl), rfl⟩
  · intro h
    rw [h.1, h.2]

theorem isIntrinsic_iff : isIntrinsic n = true ↔ intrinsicMark <+: n.toList :=
  List.isPrefixOf_iff_prefix

/-- The mark is not completed by an ending, because it holds no underscore. -/
theorem isIntrinsic_forIsa : isIntrinsic (forIsa x n) = isIntrinsic n := by
  obtain ⟨t, ht⟩ := Isa.exists_cons_symbolSuffix x
  rw [Bool.eq_iff_iff, isIntrinsic_iff, isIntrinsic_iff, toList_forIsa, ht]
  exact Text.prefix_append_cons_iff (by decide)

theorem isReserved_forIsa : isReserved (forIsa x n) = isIntrinsic n := by
  have hhook : runtimeHooks.contains (forIsa x n) = false := by
    rw [List.contains_eq_mem, decide_eq_false_iff_not]
    exact fun h => forIsa_not_special (List.mem_append_left _ h)
  rw [isReserved, isIntrinsic_forIsa, hhook, Bool.or_false]

theorem contains_builtin_forIsa : KeepCatalog.builtin.contains (forIsa x n) = false := by
  rw [← Bool.not_eq_true, KeepCatalog.contains_iff_mem_members]
  exact fun h => forIsa_not_special (List.mem_append_right _ h)

theorem isIdentifierText_forIsa : IsIdentifierText (forIsa x n) ↔ IsIdentifierText n := by
  simp only [IsIdentifierText, toList_forIsa, List.mem_append, or_imp, forall_and,
    and_iff_left_iff_imp]
  exact fun _ c => Isa.isAlphanum_of_mem_symbolSuffix

theorem nameOf_forIsa :
    (LinkMode.forIsa x).nameOf n = if isIntrinsic n then n else forIsa x n := rfl

/-- Under the names of several instruction sets only an intrinsic meets itself. -/
theorem nameOf_forIsa_eq_iff : (LinkMode.forIsa x).nameOf m = (LinkMode.forIsa y).nameOf n ↔
    m = n ∧ (isIntrinsic m = true ∨ x = y) := by
  rw [nameOf_forIsa, nameOf_forIsa]
  cases hm : isIntrinsic m with
  | true =>
    cases hn : isIntrinsic n with
    | true => simp
    | false =>
      have hne : m ≠ forIsa y n := fun h => by rw [h, isIntrinsic_forIsa, hn] at hm; cases hm
      have hne' : m ≠ n := fun h => by rw [h, hn] at hm; cases hm
      simp [hne, hne']
  | false =>
    cases hn : isIntrinsic n with
    | true =>
      have hne : forIsa x m ≠ n := fun h => by rw [← h, isIntrinsic_forIsa, hm] at hn; cases hn
      have hne' : m ≠ n := fun h => by rw [← h, hm] at hn; cases hn
      simp [hne, hne']
    | false => simpa using forIsa_eq_iff

/-- Renaming is free of collisions, over all names and instruction sets: renamed names are the same
only for the same function and the same instruction set, and a renamed name is special only if it is
that of an intrinsic, as it was before. -/
theorem copies_apart :
    (∀ m n x y, forIsa x m = forIsa y n ↔ m = n ∧ x = y) ∧
    (∀ m n x y, (LinkMode.forIsa x).nameOf m = (LinkMode.forIsa y).nameOf n ↔
      m = n ∧ (isIntrinsic m = true ∨ x = y)) ∧
    ∀ n x,
      isIntrinsic (forIsa x n) = isIntrinsic n ∧
      forIsa x n ∉ runtimeHooks ∧
      (isReserved (forIsa x n) = true ↔ "llvm.".toList <+: n.toList) ∧
      KeepCatalog.builtin.contains (forIsa x n) = false ∧
      (IsIdentifierText (forIsa x n) ↔ IsIdentifierText n) := by
  refine ⟨fun m n x y => forIsa_eq_iff, fun m n x y => nameOf_forIsa_eq_iff, fun n x =>
    ⟨isIntrinsic_forIsa, fun h => forIsa_not_special (List.mem_append_left _ h), ?_,
      contains_builtin_forIsa, isIdentifierText_forIsa⟩⟩
  rw [isReserved_forIsa, isIntrinsic_iff]
  exact Iff.rfl

end SymbolName

end BuiltinLink
