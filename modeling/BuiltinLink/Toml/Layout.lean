/-!
What may stand between the parts of a TOML document: blanks, line ends and comments.
-/

namespace BuiltinLink.Toml

/-- Blanks within a line. -/
def isBlank (c : Char) : Bool :=
  c == ' ' || c == '\t'

/-- The characters of comments and, quotes apart, of strings: all but the controls other than tab.
-/
def isText (c : Char) : Bool :=
  c == '\t' || (0x20 ≤ c.toNat && c.toNat != 0x7F)

/-- Skips blanks within a line. -/
def skipBlanks (s : List Char) : List Char :=
  s.dropWhile isBlank

theorem dropWhile_length_le (p : Char → Bool) (s : List Char) :
    (s.dropWhile p).length ≤ s.length := by
  simpa using (List.dropWhile_suffix p).length_le

theorem skipBlanks_length (s : List Char) : (skipBlanks s).length ≤ s.length :=
  dropWhile_length_le _ _

/-- What follows a line end; a carriage return alone is none. -/
def newline? : List Char → Option (List Char)
  | '\n' :: r => some r
  | '\r' :: '\n' :: r => some r
  | _ => none

theorem newline?_length {s r : List Char} (h : newline? s = some r) : r.length < s.length := by
  revert h
  fun_cases newline? s with
  | case1 r' => simp only [Option.some.injEq]; rintro rfl; simp
  | case2 r' => simp only [Option.some.injEq]; rintro rfl; simp only [List.length_cons]; omega
  | case3 => simp

/-- Skips a comment up to the end of its line. -/
def skipComment : List Char → List Char
  | '#' :: r => r.dropWhile isText
  | s => s

theorem skipComment_length (s : List Char) : (skipComment s).length ≤ s.length := by
  fun_cases skipComment s
  · exact Nat.le_trans (dropWhile_length_le _ _) (Nat.le_succ _)
  · exact Nat.le_refl _

/-- What follows the rest of a line that holds at most blanks and a comment. -/
def endLine? (s : List Char) : Option (List Char) :=
  match skipComment (skipBlanks s) with
  | [] => some []
  | r => newline? r

theorem endLine?_length {s r : List Char} (h : endLine? s = some r) : r.length ≤ s.length := by
  have hs := Nat.le_trans (skipComment_length (skipBlanks s)) (skipBlanks_length s)
  simp only [endLine?] at h
  split at h
  · simp only [Option.some.injEq] at h
    simp [← h]
  · have := newline?_length h
    omega

/-- Skips blanks and line ends. -/
def skipBlankLines : List Char → List Char
  | ' ' :: r | '\t' :: r | '\n' :: r => skipBlankLines r
  | '\r' :: '\n' :: r => skipBlankLines r
  | s => s

theorem skipBlankLines_length (s : List Char) : (skipBlankLines s).length ≤ s.length := by
  fun_induction skipBlankLines s <;> simp <;> omega

/-- Skips blanks, line ends and comments that end with their line. -/
def skipFiller (s : List Char) : List Char :=
  match _hc : skipBlankLines s with
  | '#' :: r =>
    match _hn : newline? (r.dropWhile isText) with
    | some r' => skipFiller r'
    | none => '#' :: r
  | r => r
termination_by s.length
decreasing_by
  have h₁ := newline?_length _hn
  have h₂ := dropWhile_length_le isText r
  have h₃ := skipBlankLines_length s
  rw [_hc] at h₃
  simp only [List.length_cons] at h₃
  omega

theorem skipFiller_length (s : List Char) : (skipFiller s).length ≤ s.length := by
  fun_induction skipFiller s with
  | case1 s r hc r' hn ih =>
    have h₁ := newline?_length hn
    have h₂ := dropWhile_length_le isText r
    have h₃ := skipBlankLines_length s
    rw [hc] at h₃
    simp only [List.length_cons] at h₃
    omega
  | case2 s r hc hn => rw [← hc]; exact skipBlankLines_length s
  | case3 s => exact skipBlankLines_length s

end BuiltinLink.Toml
