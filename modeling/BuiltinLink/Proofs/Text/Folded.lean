import BuiltinLink.Text.Blank
import Mathlib.Data.List.DropRight

/-!
What folding a text leaves: the text without the blanks at its ends, which is one text and no other,
with its Latin capitals lowered. Blanks are no letters, so it does not matter which is done first,
and texts that differ in blanks at the ends or in the case of Latin letters are folded alike.
-/

namespace BuiltinLink.Text

/-! ### Letters and blanks -/

theorem toNat_toLower (c : Char) :
    c.toLower.toNat = if 65 ≤ c.toNat ∧ c.toNat ≤ 90 then c.toNat + 32 else c.toNat := by
  have hshift : ('a'.val - 'A'.val).toNat = 32 := rfl
  unfold Char.toLower
  split
  · rename_i h
    have hc : 65 ≤ c.toNat ∧ c.toNat ≤ 90 := h
    rw [if_pos hc]
    change (c.val + ('a'.val - 'A'.val)).toNat = c.val.toNat + 32
    rw [UInt32.toNat_add, hshift, Nat.mod_eq_of_lt]
    exact Nat.lt_of_le_of_lt (Nat.add_le_add_right hc.2 32) (by decide)
  · rename_i h
    exact (if_neg h).symm

theorem toNat_toUpper (c : Char) :
    c.toUpper.toNat = if 97 ≤ c.toNat ∧ c.toNat ≤ 122 then c.toNat - 32 else c.toNat := by
  have hshift : ('A'.val - 'a'.val).toNat = 4294967264 := rfl
  unfold Char.toUpper
  split
  · rename_i h
    have hc : 97 ≤ c.toNat ∧ c.toNat ≤ 122 := h
    rw [if_pos hc]
    change (c.val + ('A'.val - 'a'.val)).toNat = c.val.toNat - 32
    rw [UInt32.toNat_add, hshift]
    have hval : c.val.toNat = c.toNat := rfl
    omega
  · rename_i h
    exact (if_neg h).symm

theorem toLower_toUpper (c : Char) : c.toUpper.toLower = c.toLower := by
  apply Char.toNat_inj.1
  rw [toNat_toLower, toNat_toLower, toNat_toUpper]
  grind

theorem toLower_toLower (c : Char) : c.toLower.toLower = c.toLower := by
  apply Char.toNat_inj.1
  rw [toNat_toLower, toNat_toLower]
  grind

theorem isBlank_toLower (c : Char) : isBlank c.toLower = isBlank c := by
  rw [Bool.eq_iff_iff]
  unfold isBlank
  rw [toNat_toLower]
  simp only [Bool.or_eq_true, Bool.and_eq_true, decide_eq_true_eq, beq_iff_eq]
  split <;> omega

theorem toNat_lt_of_toLower {c : Char} (h : c.toLower.toNat < 128) : c.toNat < 128 := by
  rw [toNat_toLower] at h
  split at h <;> omega

/-! ### Stripped texts -/

/-- Whether `t` is `s` without the blanks at both ends. -/
def Stripped (s t : List Char) : Prop :=
  ∃ before after, s = before ++ t ++ after ∧
    (∀ c ∈ before, isBlank c = true) ∧ (∀ c ∈ after, isBlank c = true) ∧
    (∀ c ∈ t.head?, isBlank c = false) ∧ ∀ c ∈ t.getLast?, isBlank c = false

variable {s t before after : List Char}

theorem trim_eq (s : List Char) : trim s = (s.dropWhile isBlank).rdropWhile isBlank := rfl

theorem dropWhile_isBlank_append (hbefore : ∀ c ∈ before, isBlank c = true)
    (ht : ∀ c ∈ t.head?, isBlank c = false) : (before ++ t).dropWhile isBlank = t := by
  rw [List.dropWhile_append_of_pos hbefore]
  cases t with
  | nil => rfl
  | cons c t => rw [List.dropWhile_cons_of_neg (by simp [ht c rfl])]

theorem rdropWhile_isBlank_append (hafter : ∀ c ∈ after, isBlank c = true)
    (ht : ∀ c ∈ t.getLast?, isBlank c = false) : (t ++ after).rdropWhile isBlank = t := by
  rw [List.rdropWhile, List.reverse_append, dropWhile_isBlank_append, List.reverse_reverse]
  · simpa using hafter
  · rwa [List.head?_reverse]

theorem head?_dropWhile_isBlank (s : List Char) :
    ∀ c ∈ (s.dropWhile isBlank).head?, isBlank c = false := by
  intro c hc
  have h := List.head?_dropWhile_not isBlank s
  rwa [hc] at h

/-- Trimming strips a text. -/
theorem stripped_trim (s : List Char) : Stripped s (trim s) := by
  have hends := List.rdropWhile_append_rtakeWhile (p := isBlank) (l := s.dropWhile isBlank)
  refine ⟨s.takeWhile isBlank, (s.dropWhile isBlank).rtakeWhile isBlank, ?_, ?_, ?_, ?_, ?_⟩
  · rw [trim_eq, List.append_assoc, hends, List.takeWhile_append_dropWhile]
  · exact fun c => List.mem_takeWhile_imp
  · exact fun c => List.mem_rtakeWhile_imp
  · intro c hc
    apply head?_dropWhile_isBlank s
    rw [Option.mem_def] at hc ⊢
    rw [← hends, List.head?_append, ← trim_eq, hc, Option.some_or]
  · rw [trim_eq, List.rdropWhile, List.getLast?_reverse]
    exact head?_dropWhile_isBlank _

/-- There is only one way to strip a text. -/
theorem Stripped.trim_eq (h : Stripped s t) : trim s = t := by
  obtain ⟨before, after, rfl, hbefore, hafter, hhead, hlast⟩ := h
  cases t with
  | nil =>
    have hall : ∀ c ∈ before ++ [] ++ after, isBlank c = true := by
      intro c hc
      rw [List.append_nil, List.mem_append] at hc
      exact hc.elim (hbefore c) (hafter c)
    rw [Text.trim_eq, List.dropWhile_eq_nil_iff.2 hall]
    rfl
  | cons c t =>
    have hfront : ∀ d ∈ (c :: t ++ after).head?, isBlank d = false := hhead
    rw [Text.trim_eq, List.append_assoc, dropWhile_isBlank_append hbefore hfront,
      rdropWhile_isBlank_append hafter hlast]

/-- Blanks around a text change nothing about what is left of it. -/
theorem trim_append (hbefore : ∀ c ∈ before, isBlank c = true)
    (hafter : ∀ c ∈ after, isBlank c = true) : trim (before ++ s ++ after) = trim s := by
  obtain ⟨before', after', hs, hbefore', hafter', hends⟩ := stripped_trim s
  apply Stripped.trim_eq
  refine ⟨before ++ before', after' ++ after, ?_, ?_, ?_, hends⟩
  · conv_lhs => rw [hs]
    simp only [List.append_assoc]
  · exact List.forall_mem_append.2 ⟨hbefore, hbefore'⟩
  · exact List.forall_mem_append.2 ⟨hafter', hafter⟩

theorem trim_map_toLower (s : List Char) :
    trim (s.map Char.toLower) = (trim s).map Char.toLower := by
  have hblank : isBlank ∘ Char.toLower = isBlank := funext isBlank_toLower
  rw [trim, trim, trimEnd, trimEnd, List.dropWhile_map, hblank, ← List.map_reverse,
    List.dropWhile_map, hblank, List.map_reverse]

/-! ### Folded texts -/

/-- Texts of the same characters up to the case of Latin letters. -/
def SameLetters (s t : String) : Prop :=
  List.Forall₂ (fun c d => d = c ∨ d = c.toLower ∨ d = c.toUpper) s.toList t.toList

theorem SameLetters.map_toLower {s t : String} (h : SameLetters s t) :
    s.toList.map Char.toLower = t.toList.map Char.toLower := by
  unfold SameLetters at h
  generalize s.toList = s, t.toList = t at h
  induction h with
  | nil => rfl
  | cons hc _ ih =>
    rw [List.map_cons, List.map_cons, ih]
    rcases hc with rfl | rfl | rfl
    · rfl
    · rw [toLower_toLower]
    · rw [toLower_toUpper]

theorem fold_eq_of_sameLetters {s t : String} (h : SameLetters s t) : fold s = fold t := by
  rw [fold, fold, ← trim_map_toLower, ← trim_map_toLower, h.map_toLower]

theorem fold_append {s before after : String} (hbefore : ∀ c ∈ before.toList, isBlank c = true)
    (hafter : ∀ c ∈ after.toList, isBlank c = true) : fold (before ++ s ++ after) = fold s := by
  rw [fold, fold, String.toList_append, String.toList_append, trim_append hbefore hafter]

end BuiltinLink.Text
