import BuiltinLink.Proofs.Toml.Grammar
import BuiltinLink.Proofs.Toml.Reader

/-!
What may stand between the parts of a document is skipped as the grammar has it: a reader takes a
stretch of layout off the text, and however much layout stands before a text is taken off it.
-/

namespace BuiltinLink.Toml

open Grammar

/-! ### Blanks -/

theorem exists_blanks (s : List Char) :
    ∃ b, Blanks b ∧ s = b ++ skipBlanks s ∧ ∀ c ∈ (skipBlanks s).head?, isBlank c = false := by
  refine ⟨s.takeWhile isBlank, fun c hc => List.all_eq_true.1 List.all_takeWhile c hc,
    List.takeWhile_append_dropWhile.symm, fun c hc => ?_⟩
  have h := List.head?_dropWhile_not isBlank s
  unfold skipBlanks at hc
  rw [Option.mem_def.1 hc] at h
  simpa using h

theorem skipBlanks_append {b : List Char} (hb : Blanks b) (r : List Char) :
    skipBlanks (b ++ r) = skipBlanks r :=
  List.dropWhile_append_of_pos hb

theorem skipBlanks_eq_self {r : List Char} (h : ∀ c ∈ r.head?, isBlank c = false) :
    skipBlanks r = r := by
  cases r with
  | nil => rfl
  | cons c r => exact skipBlanks_of_not_blank (h c rfl) r

/-! ### Line ends -/

theorem newline?_eq_some_iff {s r : List Char} :
    newline? s = some r ↔ ∃ e, Newline e ∧ s = e ++ r := by
  constructor
  · intro h
    revert h
    fun_cases newline? s with
    | case1 => intro h; cases h; exact ⟨_, .inl rfl, rfl⟩
    | case2 => intro h; cases h; exact ⟨_, .inr rfl, rfl⟩
    | case3 => intro h; cases h
  · rintro ⟨e, rfl | rfl, rfl⟩ <;> rfl

theorem newline?_append {e : List Char} (he : Newline e) (r : List Char) :
    newline? (e ++ r) = some r :=
  newline?_eq_some_iff.2 ⟨e, he, rfl⟩

/-- What is left when blanks and line ends have been skipped. -/
def Trimmed (s : List Char) : Prop :=
  (∀ c ∈ s.head?, isBlank c = false) ∧ newline? s = none

theorem skipBlankLines_blank {c : Char} (h : isBlank c) (r : List Char) :
    skipBlankLines (c :: r) = skipBlankLines r := by
  simp only [isBlank, Bool.or_eq_true, beq_iff_eq] at h
  obtain rfl | rfl := h <;> rw [skipBlankLines]

theorem skipBlankLines_newline {e : List Char} (h : Newline e) (r : List Char) :
    skipBlankLines (e ++ r) = skipBlankLines r := by
  rcases h with rfl | rfl
  · rw [List.cons_append, List.nil_append, skipBlankLines]
  · rw [List.cons_append, List.cons_append, List.nil_append, skipBlankLines]

theorem exists_blankLines (s : List Char) :
    ∃ w, BlankLines w ∧ s = w ++ skipBlankLines s ∧ Trimmed (skipBlankLines s) := by
  fun_induction skipBlankLines s with
  | case1 r ih | case2 r ih =>
    obtain ⟨w, hw, hs, hr⟩ := ih
    exact ⟨_ :: w, .blank (by decide) hw, congrArg _ hs, hr⟩
  | case3 r ih =>
    obtain ⟨w, hw, hs, hr⟩ := ih
    exact ⟨_, .newline (.inl rfl) hw, congrArg _ hs, hr⟩
  | case4 r ih =>
    obtain ⟨w, hw, hs, hr⟩ := ih
    exact ⟨_, .newline (.inr rfl) hw, congrArg (['\r', '\n'] ++ ·) hs, hr⟩
  | case5 s hspace htab hnewline hcrlf =>
    refine ⟨[], .nil, rfl, fun c hc => ?_, newline?.eq_3 s hnewline hcrlf⟩
    obtain ⟨t, rfl⟩ := List.head?_eq_some_iff.1 hc
    simp only [isBlank, Bool.or_eq_false_iff, beq_eq_false_iff_ne]
    exact ⟨fun h => hspace t (by rw [h]), fun h => htab t (by rw [h])⟩

theorem skipBlankLines_append {w : List Char} (hw : BlankLines w) (r : List Char) :
    skipBlankLines (w ++ r) = skipBlankLines r := by
  induction hw with
  | nil => rfl
  | blank hc _ ih => rw [List.cons_append, skipBlankLines_blank hc, ih]
  | newline he _ ih => rw [List.append_assoc, skipBlankLines_newline he, ih]

theorem skipBlankLines_eq_self {r : List Char} (h : Trimmed r) : skipBlankLines r = r := by
  obtain ⟨w, hw, hs, -⟩ := exists_blankLines r
  cases hw with
  | nil => exact hs.symm
  | blank hc hw =>
    have := h.1 _ (by rw [hs]; rfl)
    rw [hc] at this
    cases this
  | newline he hw =>
    have := h.2
    rw [hs, List.append_assoc, newline?_append he] at this
    cases this

/-! ### Comments -/

theorem dropWhile_isText_append {u : List Char} (hu : ∀ c ∈ u, isText c) {r : List Char}
    (hr : ∀ c ∈ r.head?, isText c = false) : (u ++ r).dropWhile isText = r := by
  rw [List.dropWhile_append_of_pos hu]
  cases r with
  | nil => rfl
  | cons c r => exact List.dropWhile_cons_of_neg (by rw [hr c rfl]; decide)

theorem isText_head_newline {e : List Char} (he : Newline e) (r : List Char) :
    ∀ c ∈ (e ++ r).head?, isText c = false := by
  intro c hc
  obtain rfl | rfl := he <;> cases hc <;> decide

/-- Behind the text of a comment stands no text. -/
theorem exists_comment (s : List Char) :
    ∃ u, (∀ c ∈ u, isText c) ∧ s = u ++ s.dropWhile isText :=
  ⟨s.takeWhile isText, fun c hc => List.all_eq_true.1 List.all_takeWhile c hc,
    List.takeWhile_append_dropWhile.symm⟩

/-! ### Layout between lines -/

theorem filler_append {f g : List Char} (hf : Filler f) (hg : Filler g) : Filler (f ++ g) := by
  induction hf with
  | nil => exact hg
  | blank hc _ ih => exact .blank hc ih
  | newline hc he _ ih =>
    rw [List.append_assoc, List.append_assoc]
    exact .newline hc he ih

theorem filler_of_blankLines {w : List Char} (hw : BlankLines w) : Filler w := by
  induction hw with
  | nil => exact .nil
  | blank hc _ ih => exact .blank hc ih
  | newline he _ ih => exact .newline (.inl rfl) he ih

/-- What is left when layout has been skipped: nothing more of it, unless a comment is followed by
no line end. -/
def Skipped (s : List Char) : Prop :=
  Trimmed s ∧ ∀ r, s = '#' :: r → newline? (r.dropWhile isText) = none

theorem exists_filler (s : List Char) :
    ∃ f, Filler f ∧ s = f ++ skipFiller s ∧ Skipped (skipFiller s) := by
  fun_induction skipFiller s with
  | case1 s r hc r' hn ih =>
    obtain ⟨w, hw, hs, -⟩ := exists_blankLines s
    obtain ⟨u, hu, hr⟩ := exists_comment r
    obtain ⟨e, he, hn⟩ := newline?_eq_some_iff.1 hn
    obtain ⟨f, hf, hr', hskipped⟩ := ih
    refine ⟨w ++ ('#' :: u ++ (e ++ f)), filler_append (filler_of_blankLines hw)
      (.newline (.inr ⟨u, rfl, hu⟩) he hf), ?_, hskipped⟩
    rw [hc, hr, hn, hr'] at hs
    rw [hs]
    simp
  | case2 s r hc hn =>
    obtain ⟨w, hw, hs, htrimmed⟩ := exists_blankLines s
    rw [hc] at hs htrimmed
    refine ⟨w, filler_of_blankLines hw, hs, htrimmed, ?_⟩
    rintro _ ⟨⟩
    exact hn
  | case3 s h =>
    obtain ⟨w, hw, hs, htrimmed⟩ := exists_blankLines s
    exact ⟨w, filler_of_blankLines hw, hs, htrimmed, fun r hr => absurd hr (h r)⟩

theorem skipFiller_newline {c e : List Char} (hc : Comment c) (he : Newline e) (r : List Char) :
    skipFiller (c ++ (e ++ r)) = skipFiller r := by
  rcases hc with rfl | ⟨u, rfl, hu⟩
  · rw [List.nil_append, skipFiller_eq, skipFiller_eq, skipBlankLines_newline he]
  · have hl : skipBlankLines ('#' :: (u ++ (e ++ r))) = '#' :: (u ++ (e ++ r)) := by
      rw [skipBlankLines]
      all_goals simp
    rw [List.cons_append, skipFiller_eq, hl]
    simp only [dropWhile_isText_append hu (isText_head_newline he r), newline?_append he]

theorem skipFiller_append {f : List Char} (hf : Filler f) (r : List Char) :
    skipFiller (f ++ r) = skipFiller r := by
  induction hf with
  | nil => rfl
  | blank hc _ ih =>
    rw [List.cons_append, ← ih, skipFiller_eq, skipFiller_eq, skipBlankLines_blank hc]
  | newline hc he _ ih => rw [List.append_assoc, List.append_assoc, skipFiller_newline hc he, ih]

theorem skipFiller_eq_self {r : List Char} (h : Skipped r) : skipFiller r = r := by
  rw [skipFiller_eq, skipBlankLines_eq_self h.1]
  split
  · rename_i r
    rw [h.2 r rfl]
  · rfl

/-! ### The end of a line -/

/-- A text that ends or goes on with a line end. -/
def EndsLine (r : List Char) : Prop :=
  r = [] ∨ ∃ e r', Newline e ∧ r = e ++ r'

theorem skipComment_append {c : List Char} (hc : Comment c) {r : List Char} (hr : EndsLine r) :
    skipComment (c ++ r) = r := by
  have htext : ∀ c ∈ r.head?, isText c = false := by
    rcases hr with rfl | ⟨e, r', he, rfl⟩
    · exact fun c hc => by cases hc
    · exact isText_head_newline he r'
  rcases hc with rfl | ⟨u, rfl, hu⟩
  · refine skipComment.eq_2 r fun r' h => ?_
    rw [h] at htext
    exact absurd (htext '#' rfl) (by decide)
  · exact dropWhile_isText_append hu htext

theorem exists_comment_of_skipComment (s : List Char) : ∃ c, Comment c ∧ s = c ++ skipComment s := by
  fun_cases skipComment s with
  | case1 r =>
    obtain ⟨u, hu, hr⟩ := exists_comment r
    exact ⟨'#' :: u, .inr ⟨u, rfl, hu⟩, congrArg _ hr⟩
  | case2 => exact ⟨[], .inl rfl, rfl⟩

/-- The rest of a line holds blanks and a comment, and the line ends with the text or before what is
left. -/
theorem endLine?_sound {s r : List Char} (h : endLine? s = some r) :
    ∃ b c, Blanks b ∧ Comment c ∧
      (s = b ++ c ∧ r = [] ∨ ∃ e, Newline e ∧ s = b ++ (c ++ (e ++ r))) := by
  obtain ⟨b, hb, hs, -⟩ := exists_blanks s
  obtain ⟨c, hc, hs'⟩ := exists_comment_of_skipComment (skipBlanks s)
  refine ⟨b, c, hb, hc, ?_⟩
  unfold endLine? at h
  split at h
  · rename_i heq
    cases h
    rw [heq, List.append_nil] at hs'
    exact .inl ⟨by rw [hs, ← hs'], rfl⟩
  · obtain ⟨e, he, heq⟩ := newline?_eq_some_iff.1 h
    exact .inr ⟨e, he, by rw [hs, hs', heq]⟩

theorem endLine?_append {b c r : List Char} (hb : Blanks b) (hc : Comment c) (hr : EndsLine r) :
    skipComment (skipBlanks (b ++ (c ++ r))) = r := by
  have hblank : ∀ d ∈ (c ++ r).head?, isBlank d = false := by
    rcases hc with rfl | ⟨u, rfl, -⟩
    · obtain rfl | ⟨e, r', rfl | rfl, rfl⟩ := hr <;> intro d hd <;> cases hd <;> decide
    · intro d hd
      cases hd
      decide
  rw [skipBlanks_append hb, skipBlanks_eq_self hblank, skipComment_append hc hr]

theorem endLine?_last {b c : List Char} (hb : Blanks b) (hc : Comment c) :
    endLine? (b ++ c) = some [] := by
  have h := endLine?_append hb hc (.inl rfl)
  rw [List.append_nil] at h
  unfold endLine?
  rw [h]

theorem endLine?_line {b c e : List Char} (hb : Blanks b) (hc : Comment c) (he : Newline e)
    (r : List Char) : endLine? (b ++ (c ++ (e ++ r))) = some r := by
  have h := endLine?_append hb hc (.inr ⟨e, r, he, rfl⟩)
  unfold endLine?
  rw [h]
  split
  · rename_i heq
    obtain rfl | rfl := he <;> cases heq
  · exact newline?_append he r

end BuiltinLink.Toml
