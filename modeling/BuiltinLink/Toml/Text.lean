import BuiltinLink.Text.Hex
import BuiltinLink.Toml.Layout

/-!
Strings of a TOML document. There are four forms: basic strings with escapes, literal strings
without, and either over several lines between triple quotes. Each reader starts after the opening
quotes.
-/

namespace BuiltinLink.Toml

/-- The character that an escape stands for, read after the backslash. -/
def escape? : List Char → Option (Char × List Char)
  | 'b' :: r => some ('\x08', r)
  | 't' :: r => some ('\t', r)
  | 'n' :: r => some ('\n', r)
  | 'f' :: r => some ('\x0c', r)
  | 'r' :: r => some ('\r', r)
  | '"' :: r => some ('"', r)
  | '\\' :: r => some ('\\', r)
  | 'u' :: r => Text.numbered? 4 r
  | 'U' :: r => Text.numbered? 8 r
  | _ => none

theorem escape?_length {s r : List Char} {c : Char} (h : escape? s = some (c, r)) :
    r.length < s.length := by
  revert h
  fun_cases escape? s
  all_goals first
    | (simp only [Option.some.injEq, Prod.mk.injEq]; rintro ⟨-, rfl⟩; simp)
    | (intro h; exact Nat.lt_succ_of_le (Text.numbered?_length h))
    | simp

/-- Puts a character in front of the text that a reader found. -/
def cons (c : Char) (p : List Char × List Char) : List Char × List Char :=
  (c :: p.1, p.2)

/-- A basic string on one line. -/
def basic? (s : List Char) : Option (List Char × List Char) :=
  match s with
  | [] => none
  | '"' :: r => some ([], r)
  | '\\' :: r =>
    match _h : escape? r with
    | some (c, r') => (basic? r').map (cons c)
    | none => none
  | c :: r => if isText c then (basic? r).map (cons c) else none
termination_by s.length
decreasing_by
  · have := escape?_length _h
    simp only [List.length_cons]
    omega
  · simp

theorem basic?_close (r : List Char) : basic? ('"' :: r) = some ([], r) := by
  rw [basic?]

/-- A literal string on one line. -/
def literal? : List Char → Option (List Char × List Char)
  | [] => none
  | '\'' :: r => some ([], r)
  | c :: r => if isText c then (literal? r).map (cons c) else none

theorem literal?_close (r : List Char) : literal? ('\'' :: r) = some ([], r) := rfl

/-- The text of a string over several lines begins after a line end right behind the quotes. -/
def skipNewline (s : List Char) : List Char :=
  (newline? s).getD s

/-- The end of a string between triple quotes: three quotes end it, and up to two more directly
before them belong to its text. -/
def close? (q : Char) (s : List Char) : Option (List Char × List Char) :=
  let run := (s.takeWhile (· == q)).length
  if run < 3 then none
  else
    let kept := min run 5 - 3
    some (List.replicate kept q, s.drop (kept + 3))

/-- A basic string over several lines. A backslash at the end of a line joins the line to the next
text; each line end counts as a line feed. -/
def multilineBasic? (s : List Char) : Option (List Char × List Char) :=
  match s with
  | [] => none
  | '\\' :: r =>
    match _hn : newline? (skipBlanks r) with
    | some r' => multilineBasic? (skipBlankLines r')
    | none =>
      match _he : escape? r with
      | some (c, r') => (multilineBasic? r').map (cons c)
      | none => none
  | '\r' :: '\n' :: r => (multilineBasic? r).map (cons '\n')
  | c :: r =>
    if c = '"' then
      match close? '"' (c :: r) with
      | some p => some p
      | none => (multilineBasic? r).map (cons c)
    else if c = '\n' ∨ isText c then (multilineBasic? r).map (cons c)
    else none
termination_by s.length
decreasing_by
  · have h₁ := newline?_length _hn
    have h₂ := skipBlanks_length r
    have h₃ := skipBlankLines_length r'
    simp only [List.length_cons]
    omega
  · have := escape?_length _he
    simp only [List.length_cons]
    omega
  · simp only [List.length_cons]; omega
  · simp
  · simp

theorem multilineBasic?_crlf (r : List Char) :
    multilineBasic? ('\r' :: '\n' :: r) = (multilineBasic? r).map (cons '\n') := by
  rw [multilineBasic?]

/-- A literal string over several lines. Each line end counts as a line feed. -/
def multilineLiteral? : List Char → Option (List Char × List Char)
  | [] => none
  | '\r' :: '\n' :: r => (multilineLiteral? r).map (cons '\n')
  | c :: r =>
    if c = '\'' then
      match close? '\'' (c :: r) with
      | some p => some p
      | none => (multilineLiteral? r).map (cons c)
    else if c = '\n' ∨ isText c then (multilineLiteral? r).map (cons c)
    else none

theorem multilineLiteral?_crlf (r : List Char) :
    multilineLiteral? ('\r' :: '\n' :: r) = (multilineLiteral? r).map (cons '\n') := rfl

/-- A string in any of the four forms, from its opening quotes on. -/
def string? : List Char → Option (List Char × List Char)
  | '"' :: '"' :: '"' :: r => multilineBasic? (skipNewline r)
  | '\'' :: '\'' :: '\'' :: r => multilineLiteral? (skipNewline r)
  | '"' :: r => basic? r
  | '\'' :: r => literal? r
  | _ => none

theorem map_cons_length {c : Char} {o : Option (List Char × List Char)} {t r : List Char} {n : Nat}
    (h : o.map (cons c) = some (t, r)) (ih : ∀ {t r}, o = some (t, r) → r.length < n) :
    r.length < n := by
  obtain ⟨p, hp, hq⟩ := Option.map_eq_some_iff.1 h
  simp only [cons, Prod.mk.injEq] at hq
  exact hq.2 ▸ ih hp

theorem basic?_length {s r t : List Char} (h : basic? s = some (t, r)) : r.length < s.length := by
  fun_induction basic? s generalizing t r with
  | case1 => simp at h
  | case2 r' => simp only [Option.some.injEq, Prod.mk.injEq] at h; simp [h.2]
  | case3 r₀ c r' he ih =>
    have h₁ := escape?_length he
    have h₂ := map_cons_length h ih
    simp only [List.length_cons]
    omega
  | case4 => simp at h
  | case5 c r' _ _ _ ih =>
    have := map_cons_length h ih
    simp only [List.length_cons]
    omega
  | case6 => simp at h

theorem literal?_length {s r t : List Char} (h : literal? s = some (t, r)) :
    r.length < s.length := by
  fun_induction literal? s generalizing t r with
  | case1 => simp at h
  | case2 r' => simp only [Option.some.injEq, Prod.mk.injEq] at h; simp [h.2]
  | case3 c r' _ _ ih =>
    have := map_cons_length h ih
    simp only [List.length_cons]
    omega
  | case4 => simp at h

theorem close?_length {q : Char} {s r t : List Char} (h : close? q s = some (t, r)) :
    r.length < s.length := by
  have hrun : (s.takeWhile (· == q)).length ≤ s.length :=
    (List.takeWhile_prefix _).length_le
  simp only [close?] at h
  split at h
  · simp at h
  · simp only [Option.some.injEq, Prod.mk.injEq] at h
    rw [← h.2, List.length_drop]
    omega

theorem multilineBasic?_length {s r t : List Char} (h : multilineBasic? s = some (t, r)) :
    r.length < s.length := by
  fun_induction multilineBasic? s generalizing t r with
  | case1 => simp at h
  | case2 r₀ r' hn ih =>
    have h₁ := newline?_length hn
    have h₂ := skipBlanks_length r₀
    have h₃ := skipBlankLines_length r'
    have h₄ := ih h
    simp only [List.length_cons]
    omega
  | case3 r₀ _ c r' he ih =>
    have h₁ := escape?_length he
    have h₂ := map_cons_length h ih
    simp only [List.length_cons]
    omega
  | case4 => simp at h
  | case5 r' ih =>
    have := map_cons_length h ih
    simp only [List.length_cons]
    omega
  | case6 r' p _ _ hp => exact close?_length (h ▸ hp)
  | case7 r' _ _ _ ih =>
    have := map_cons_length h ih
    simp only [List.length_cons]
    omega
  | case8 c r' _ _ _ _ ih =>
    have := map_cons_length h ih
    simp only [List.length_cons]
    omega
  | case9 => simp at h

theorem multilineLiteral?_length {s r t : List Char} (h : multilineLiteral? s = some (t, r)) :
    r.length < s.length := by
  fun_induction multilineLiteral? s generalizing t r with
  | case1 => simp at h
  | case2 r' ih =>
    have := map_cons_length h ih
    simp only [List.length_cons]
    omega
  | case3 r' _ p hp => exact close?_length (h ▸ hp)
  | case4 r' _ _ ih =>
    have := map_cons_length h ih
    simp only [List.length_cons]
    omega
  | case5 c r' _ _ _ ih =>
    have := map_cons_length h ih
    simp only [List.length_cons]
    omega
  | case6 => simp at h

theorem skipNewline_length (s : List Char) : (skipNewline s).length ≤ s.length := by
  simp only [skipNewline]
  cases h : newline? s with
  | none => simp
  | some r => exact Nat.le_of_lt (newline?_length h)

theorem string?_length {s r t : List Char} (h : string? s = some (t, r)) :
    r.length < s.length := by
  revert h
  fun_cases string? s with
  | case1 r' =>
    intro h
    have h₁ := multilineBasic?_length h
    have h₂ := skipNewline_length r'
    simp only [List.length_cons]
    omega
  | case2 r' =>
    intro h
    have h₁ := multilineLiteral?_length h
    have h₂ := skipNewline_length r'
    simp only [List.length_cons]
    omega
  | case3 r' => exact fun h => Nat.lt_succ_of_lt (basic?_length h)
  | case4 r' => exact fun h => Nat.lt_succ_of_lt (literal?_length h)
  | case5 => simp

end BuiltinLink.Toml
