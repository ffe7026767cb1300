import BuiltinLink.Toml.Text

/-!
What the readers of strings do with the next character, one equation for each way on. The text that
follows is arbitrary throughout. The equations without a condition stand beside the readers.
-/

namespace BuiltinLink.Toml

/-! ### Strings on one line -/

theorem basic?_escape {r r' : List Char} {c : Char} (h : escape? r = some (c, r')) :
    basic? ('\\' :: r) = (basic? r').map (cons c) := by
  rw [basic?]
  split
  · rename_i h'
    rw [h, Option.some.injEq, Prod.mk.injEq] at h'
    rw [h'.1, h'.2]
  · rename_i h'
    rw [h] at h'
    cases h'

theorem basic?_text {c : Char} (r : List Char) (h : isText c) (hq : c ≠ '"') (hb : c ≠ '\\') :
    basic? (c :: r) = (basic? r).map (cons c) := by
  rw [basic?.eq_4 c r hq hb, if_pos h]

theorem literal?_text {c : Char} (r : List Char) (h : isText c) (hq : c ≠ '\'') :
    literal? (c :: r) = (literal? r).map (cons c) := by
  rw [literal?.eq_3 c r hq, if_pos h]

/-! ### Closing quotes -/

/-- The number of quotes that a text begins with. -/
def quotes (q : Char) (s : List Char) : Nat :=
  (s.takeWhile (· == q)).length

@[simp] theorem quotes_nil (q : Char) : quotes q [] = 0 := rfl

@[simp] theorem quotes_cons_self (q : Char) (s : List Char) :
    quotes q (q :: s) = quotes q s + 1 := by
  simp [quotes]

theorem quotes_cons_of_ne {q c : Char} (h : c ≠ q) (s : List Char) : quotes q (c :: s) = 0 := by
  simp [quotes, h]

theorem exists_of_quotes_pos {q : Char} {s : List Char} (h : 0 < quotes q s) : ∃ t, s = q :: t := by
  cases s with
  | nil => simp at h
  | cons c t =>
    by_cases hc : c = q
    · exact ⟨t, by rw [hc]⟩
    · rw [quotes_cons_of_ne hc] at h
      cases h

theorem close?_eq (q : Char) (s : List Char) : close? q s =
    if quotes q s < 3 then none
    else some (List.replicate (min (quotes q s) 5 - 3) q,
      s.drop (min (quotes q s) 5 - 3 + 3)) := rfl

theorem close?_eq_none_iff {q : Char} {s : List Char} : close? q s = none ↔ quotes q s < 3 := by
  rw [close?_eq]
  split <;> simp [*]

theorem close?_of_le {q : Char} {s : List Char} (h : 3 ≤ quotes q s) (h' : quotes q s ≤ 5) :
    close? q s = some (List.replicate (quotes q s - 3) q, s.drop (quotes q s)) := by
  have hr : min (quotes q s) 5 = quotes q s := Nat.min_eq_left h'
  rw [close?_eq, if_neg (by omega), hr, Nat.sub_add_cancel h]

/-- One more quote before closing quotes belongs to the text. -/
theorem close?_cons {q : Char} {s : List Char} (h : 3 ≤ quotes q s) (h' : quotes q s ≤ 4) :
    close? q (q :: s) = (close? q s).map (cons q) := by
  have hq := quotes_cons_self q s
  rw [close?_of_le h (by omega), close?_of_le (by omega) (by omega), hq, Option.map_some, cons,
    List.drop_succ_cons, show quotes q s + 1 - 3 = quotes q s - 3 + 1 by omega,
    List.replicate_succ]

/-! ### Strings over several lines -/

theorem newline?_skipBlanks_of_escape {r r' : List Char} {c : Char} (h : escape? r = some (c, r')) :
    newline? (skipBlanks r) = none := by
  revert h
  fun_cases escape? r with
  | case10 => simp
  | _ => exact fun _ => rfl

theorem multilineBasic?_join {r r' : List Char} (h : newline? (skipBlanks r) = some r') :
    multilineBasic? ('\\' :: r) = multilineBasic? (skipBlankLines r') := by
  rw [multilineBasic?]
  split
  · rename_i h'
    rw [h, Option.some.injEq] at h'
    rw [h']
  · rename_i h'
    rw [h] at h'
    cases h'

theorem multilineBasic?_escape {r r' : List Char} {c : Char} (h : escape? r = some (c, r')) :
    multilineBasic? ('\\' :: r) = (multilineBasic? r').map (cons c) := by
  rw [multilineBasic?]
  split
  · rename_i h'
    rw [newline?_skipBlanks_of_escape h] at h'
    cases h'
  · split
    · rename_i h'
      rw [h, Option.some.injEq, Prod.mk.injEq] at h'
      rw [h'.1, h'.2]
    · rename_i h'
      rw [h] at h'
      cases h'

theorem multilineBasic?_text {c : Char} (r : List Char) (h : c = '\n' ∨ isText c) (hq : c ≠ '"')
    (hb : c ≠ '\\') : multilineBasic? (c :: r) = (multilineBasic? r).map (cons c) := by
  have hr : c ≠ '\r' := by
    intro heq
    subst heq
    exact absurd h (by decide)
  rw [multilineBasic?.eq_4 c r hb fun _ h _ => hr h, if_neg hq, if_pos h]

theorem multilineBasic?_newline {e : List Char} (he : e = ['\n'] ∨ e = ['\r', '\n'])
    (r : List Char) : multilineBasic? (e ++ r) = (multilineBasic? r).map (cons '\n') := by
  rcases he with rfl | rfl
  · exact multilineBasic?_text r (.inl rfl) (by decide) (by decide)
  · exact multilineBasic?_crlf r

theorem multilineBasic?_close {r : List Char} {p : List Char × List Char}
    (h : close? '"' ('"' :: r) = some p) : multilineBasic? ('"' :: r) = some p := by
  rw [multilineBasic?.eq_4 '"' r (by decide) fun _ h _ => absurd h (by decide), if_pos rfl, h]

theorem multilineBasic?_open {r : List Char} (h : close? '"' ('"' :: r) = none) :
    multilineBasic? ('"' :: r) = (multilineBasic? r).map (cons '"') := by
  rw [multilineBasic?.eq_4 '"' r (by decide) fun _ h _ => absurd h (by decide), if_pos rfl, h]

/-- A quote belongs to the text if too few quotes follow to close the string, or enough without
it. -/
theorem multilineBasic?_quote {r : List Char}
    (h : quotes '"' r ≤ 1 ∨ 3 ≤ quotes '"' r ∧ quotes '"' r ≤ 4) :
    multilineBasic? ('"' :: r) = (multilineBasic? r).map (cons '"') := by
  have hq := quotes_cons_self '"' r
  rcases h with h | ⟨h, h'⟩
  · exact multilineBasic?_open (close?_eq_none_iff.2 (by omega))
  · obtain ⟨t, rfl⟩ := exists_of_quotes_pos (show 0 < quotes '"' r by omega)
    have hc := close?_of_le h (by omega)
    rw [multilineBasic?_close hc, multilineBasic?_close (by rw [close?_cons h h', hc]; rfl)]
    rfl

theorem multilineLiteral?_text {c : Char} (r : List Char) (h : c = '\n' ∨ isText c)
    (hq : c ≠ '\'') : multilineLiteral? (c :: r) = (multilineLiteral? r).map (cons c) := by
  have hr : c ≠ '\r' := by
    intro heq
    subst heq
    exact absurd h (by decide)
  rw [multilineLiteral?.eq_3 c r fun _ h _ => hr h, if_neg hq, if_pos h]

theorem multilineLiteral?_newline {e : List Char} (he : e = ['\n'] ∨ e = ['\r', '\n'])
    (r : List Char) : multilineLiteral? (e ++ r) = (multilineLiteral? r).map (cons '\n') := by
  rcases he with rfl | rfl
  · exact multilineLiteral?_text r (.inl rfl) (by decide)
  · exact multilineLiteral?_crlf r

theorem multilineLiteral?_close {r : List Char} {p : List Char × List Char}
    (h : close? '\'' ('\'' :: r) = some p) : multilineLiteral? ('\'' :: r) = some p := by
  rw [multilineLiteral?.eq_3 '\'' r fun _ h _ => absurd h (by decide), if_pos rfl, h]

theorem multilineLiteral?_open {r : List Char} (h : close? '\'' ('\'' :: r) = none) :
    multilineLiteral? ('\'' :: r) = (multilineLiteral? r).map (cons '\'') := by
  rw [multilineLiteral?.eq_3 '\'' r fun _ h _ => absurd h (by decide), if_pos rfl, h]

theorem multilineLiteral?_quote {r : List Char}
    (h : quotes '\'' r ≤ 1 ∨ 3 ≤ quotes '\'' r ∧ quotes '\'' r ≤ 4) :
    multilineLiteral? ('\'' :: r) = (multilineLiteral? r).map (cons '\'') := by
  have hq := quotes_cons_self '\'' r
  rcases h with h | ⟨h, h'⟩
  · exact multilineLiteral?_open (close?_eq_none_iff.2 (by omega))
  · obtain ⟨t, rfl⟩ := exists_of_quotes_pos (show 0 < quotes '\'' r by omega)
    have hc := close?_of_le h (by omega)
    rw [multilineLiteral?_close hc, multilineLiteral?_close (by rw [close?_cons h h', hc]; rfl)]
    rfl

end BuiltinLink.Toml
