import BuiltinLink.Proofs.Toml.Grammar
import BuiltinLink.Toml.Writer
import Mathlib.Tactic.IntervalCases

/-!
Whichever form the writer takes for a string, the grammar has what it writes as that string. Both
basic forms can hold every text; the two literal forms are only taken for texts that they can hold.
-/

namespace BuiltinLink.Toml

open Grammar

/-! ### Escapes -/

theorem isText_of_not_needsEscape {c : Char} (h : needsEscape c = false) (hn : c ≠ '\n') :
    isText c := by
  simp only [needsEscape, Bool.or_eq_false_iff, Bool.and_eq_false_iff, decide_eq_false_iff_not,
    bne_eq_false_iff_eq, beq_eq_false_iff_ne] at h
  simp only [isText, Bool.or_eq_true, beq_iff_eq, Bool.and_eq_true, decide_eq_true_eq, bne_iff_ne]
  by_cases ht : c = '\t'
  · exact .inl ht
  · exact .inr ⟨Nat.le_of_not_lt ((h.1.resolve_right hn).resolve_right ht), h.2⟩

theorem hexValue?_upperHex {d : Nat} (h : d < 16) : Text.hexValue? (upperHex d) = some d := by
  interval_cases d <;> rfl

/-- An escape by number stands for the character with that number. -/
theorem escape_number (c : Char) (h : c.toNat < 0x80) :
    Escape c ['u', '0', '0', upperHex (c.toNat / 16), upperHex (c.toNat % 16)] := by
  have hd := hexValue?_upperHex (show c.toNat / 16 < 16 by omega)
  have hm := hexValue?_upperHex (show c.toNat % 16 < 16 by omega)
  have hz : Text.hexValue? '0' = some 0 := rfl
  have hds : ['0', '0', upperHex (c.toNat / 16), upperHex (c.toNat % 16)].mapM Text.hexValue? =
      some [0, 0, c.toNat / 16, c.toNat % 16] := by
    simp only [List.mapM_cons, List.mapM_nil, hd, hm, hz]
    rfl
  have hv : ofDigits 16 [0, 0, c.toNat / 16, c.toNat % 16] = c.toNat := by
    simp only [ofDigits, List.foldl_cons, List.foldl_nil]
    omega
  have hescape := Escape.number (.inl ⟨rfl, rfl⟩) hds (by rw [hv]; exact c.valid)
  rwa [hv, Char.ofNat_toNat] at hescape

/-- Quotes and line feeds aside, a character is written as it is, or behind a backslash as one of
its escapes. -/
theorem escaped_cases {c : Char} (hn : c ≠ '\n') :
    (isText c ∧ c ≠ '\\' ∧ escaped c = [c]) ∨ ∃ e, Escape c e ∧ escaped c = '\\' :: e := by
  fun_cases escaped c with
  | case6 c =>
    rename_i he
    refine .inr ⟨_, escape_number c ?_, rfl⟩
    simp only [needsEscape, Bool.or_eq_true, Bool.and_eq_true, decide_eq_true_eq, beq_iff_eq] at he
    omega
  | case7 c _ _ _ _ hb he =>
    exact .inl ⟨isText_of_not_needsEscape (Bool.eq_false_iff.2 he) hn, hb, rfl⟩
  | _ => exact .inr ⟨_, .letter (by decide), rfl⟩

/-! ### Strings on one line -/

theorem single_basicText (s : List Char) : Single '"' true s (basicText s) := by
  induction s with
  | nil => exact .nil
  | cons c s ih =>
    unfold basicText at ih ⊢
    rw [List.flatMap_cons]
    split
    · exact .escape rfl (.letter (by decide)) ih
    · exact .escape rfl (.letter (by decide)) ih
    · rename_i hq hn
      rcases escaped_cases hn with ⟨htext, hb, he⟩ | ⟨e, hescape, he⟩
      · rw [he]
        exact .text htext hq (fun _ => hb) ih
      · rw [he]
        exact .escape rfl hescape ih

theorem single_literal {s : List Char} (h : ∀ c ∈ s, isText c ∧ c ≠ '\'') :
    Single '\'' false s s := by
  induction s with
  | nil => exact .nil
  | cons c s ih =>
    obtain ⟨⟨hc, hq⟩, hs⟩ := List.forall_mem_cons.1 h
    exact .text hc hq (fun h => by cases h) (ih hs)

/-! ### Strings over several lines -/

theorem multiline_multilineText {run : Nat} (hrun : run ≤ 2) (s : List Char) :
    Multiline '"' true run s (multilineText run s) := by
  fun_induction multilineText run s with
  | case1 run => exact .nil run
  | case2 s ih => exact .escape rfl (.letter (by decide)) (ih (by decide))
  | case3 run s hne ih => exact .quote (by omega) (ih (by omega))
  | case4 run s ih => exact .newline (.inl rfl) (ih (by decide))
  | case5 run c s hq hn ih =>
    rcases escaped_cases hn with ⟨htext, hb, he⟩ | ⟨e, hescape, he⟩
    · rw [he]
      exact .text htext hq (fun _ => hb) (ih (by decide))
    · rw [he]
      exact .escape rfl hescape (ih (by decide))

theorem le_longestRun (q : Char) (run : Nat) (s : List Char) : run ≤ longestRun q run s := by
  fun_induction longestRun q run s with
  | case1 => exact Nat.le_refl _
  | case2 run s ih => omega
  | case3 => exact Nat.le_max_left _ _

theorem multiline_literal {run : Nat} {s : List Char} (hs : ∀ c ∈ s, c = '\n' ∨ isText c)
    (h : longestRun '\'' run s ≤ 2) : Multiline '\'' false run s s := by
  induction s generalizing run with
  | nil => exact .nil run
  | cons c s ih =>
    obtain ⟨hc, hs⟩ := List.forall_mem_cons.1 hs
    unfold longestRun at h
    by_cases hq : c = '\''
    · rw [if_pos hq] at h
      have hrun := le_longestRun '\'' (run + 1) s
      rw [hq]
      exact .quote (by omega) (ih hs h)
    · rw [if_neg hq] at h
      have hrest := ih hs (show longestRun '\'' 0 s ≤ 2 by omega)
      rcases hc with rfl | hc
      · exact .newline (.inl rfl) hrest
      · exact .text hc hq (fun h => by cases h) hrest

/-- A text without line feeds is written without line ends in front. -/
theorem Grammar.Multiline.head_ne_of_not_mem {q : Char} {escapes : Bool} (hq : q ≠ '\n' ∧ q ≠ '\r')
    {run : Nat} {cs t : List Char} (h : Multiline q escapes run cs t) (hn : '\n' ∉ cs) :
    ∀ c ∈ t.head?, c ≠ '\n' ∧ c ≠ '\r' := by
  intro c hc
  cases h with
  | nil => cases hc
  | quote =>
    cases hc
    exact hq
  | text htext =>
    cases hc
    constructor <;> rintro rfl <;> exact absurd htext (by decide)
  | newline => exact absurd List.mem_cons_self hn
  | escape | join =>
    cases hc
    decide

theorem stringText_opening {q : Char} {escapes : Bool} (hq : Quote q escapes) {s t : List Char}
    (h : Multiline q escapes 0 s t) :
    StringText s ([q, q, q] ++ opening s ++ t ++ [q, q, q]) := by
  rw [List.append_assoc, List.append_assoc]
  unfold opening
  split
  · exact .trimmed hq (.inl rfl) h
  · rename_i hn
    refine .multiline hq (h.head_ne_of_not_mem ?_ ?_) h
    · cases hq <;> decide
    · simpa using hn

/-! ### The form that is taken -/

/-- The forms that can hold a text. -/
def Quoting.Holds (s : List Char) : Quoting → Prop
  | .basic | .multilineBasic => True
  | .literal => ∀ c ∈ s, isText c ∧ c ≠ '\''
  | .multilineLiteral => (∀ c ∈ s, c = '\n' ∨ isText c) ∧ longestRun '\'' 0 s ≤ 2

theorem longestRun_eq_zero_iff {q : Char} {s : List Char} :
    longestRun q 0 s = 0 ↔ ∀ c ∈ s, c ≠ q := by
  induction s with
  | nil => exact ⟨fun _ c hc => absurd hc List.not_mem_nil, fun _ => rfl⟩
  | cons c s ih =>
    rw [longestRun, List.forall_mem_cons, ← ih]
    by_cases hq : c = q
    · have hrun := le_longestRun q (0 + 1) s
      rw [if_pos hq]
      exact ⟨fun h => by omega, fun h => absurd hq h.1⟩
    · rw [if_neg hq, Nat.zero_max, and_iff_right hq]

theorem holds_quotingFor (s : List Char) : (quotingFor s).Holds s := by
  have htext : s.any needsEscape = false → ∀ c ∈ s, c = '\n' ∨ isText c := by
    intro h c hc
    by_cases hn : c = '\n'
    · exact .inl hn
    · exact .inr (isText_of_not_needsEscape (by simpa using List.any_eq_false.1 h c hc) hn)
  unfold quotingFor
  simp only [Bool.and_eq_true, Bool.not_eq_true', beq_iff_eq, decide_eq_true_eq]
  split
  · trivial
  · split
    · rename_i h
      obtain ⟨⟨he, hn⟩, hs⟩ := h
      intro c hc
      have hne : c ≠ '\n' := by
        intro heq
        subst heq
        rw [List.contains_iff_mem.2 hc] at hn
        cases hn
      exact ⟨(htext he c hc).resolve_left hne, longestRun_eq_zero_iff.1 hs c hc⟩
    · split
      · trivial
      · split
        · rename_i h
          exact ⟨htext h.1, h.2⟩
        · split <;> trivial

theorem stringText_writeStringAs {s : List Char} {form : Quoting} (h : form.Holds s) :
    StringText s (writeStringAs s form) := by
  cases form with
  | basic => exact .single .basic (single_basicText s)
  | literal => exact .single .literal (single_literal h)
  | multilineBasic => exact stringText_opening .basic (multiline_multilineText (by decide) s)
  | multilineLiteral => exact stringText_opening .literal (multiline_literal h.1 h.2)

/-- What is written for a string is a string with that text. -/
theorem stringText_writeString (s : List Char) : StringText s (writeString s) :=
  stringText_writeStringAs (holds_quotingFor s)

end BuiltinLink.Toml
