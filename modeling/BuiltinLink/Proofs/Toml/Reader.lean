import BuiltinLink.Toml.Reader

/-!
The readers of keys, values and lines as plain equations, without the proofs that their recursions
end, and what they do with the text ahead where that is known. Readers that skip something first
look at what is left after that.
-/

namespace BuiltinLink.Toml

/-! ### Kinds of characters -/

theorem ne_of_holds {p : Char → Bool} {c d : Char} (h : p c) (hd : p d = false) : c ≠ d := by
  intro heq
  rw [heq, hd] at h
  cases h

/-- Whether a character begins neither a blank, a line end nor a comment. -/
def isInk (c : Char) : Bool :=
  c != ' ' && c != '\t' && c != '\n' && c != '\r' && c != '#'

theorem isInk_of_holds {p : Char → Bool} {c : Char} (h : p c)
    (hp : [' ', '\t', '\n', '\r', '#'].any p = false) : isInk c := by
  simp only [List.any_cons, List.any_nil, Bool.or_false, Bool.or_eq_false_iff] at hp
  obtain ⟨hspace, htab, hfeed, hreturn, hhash⟩ := hp
  simp only [isInk, Bool.and_eq_true, bne_iff_ne]
  exact ⟨⟨⟨⟨ne_of_holds h hspace, ne_of_holds h htab⟩, ne_of_holds h hfeed⟩,
    ne_of_holds h hreturn⟩, ne_of_holds h hhash⟩

theorem isBlank_of_isInk {c : Char} (h : isInk c) : isBlank c = false := by
  simp only [isBlank, Bool.or_eq_false_iff, beq_eq_false_iff_ne]
  exact ⟨ne_of_holds h rfl, ne_of_holds h rfl⟩

/-! ### Layout -/

theorem skipFiller_eq (s : List Char) : skipFiller s =
    match skipBlankLines s with
    | '#' :: r =>
      match newline? (r.dropWhile isText) with
      | some r' => skipFiller r'
      | none => '#' :: r
    | r => r := by
  rw [skipFiller]
  split
  · split <;> simp only [*]
  · simp only [*]

theorem skipBlanks_of_not_blank {c : Char} (h : isBlank c = false) (r : List Char) :
    skipBlanks (c :: r) = c :: r :=
  List.dropWhile_cons_of_neg (by rw [h]; decide)

theorem skipBlankLines_of_ink {c : Char} (h : isInk c) (r : List Char) :
    skipBlankLines (c :: r) = c :: r := by
  apply skipBlankLines.eq_5
  all_goals
    intro r' hr
    rw [(List.cons.inj hr).1] at h
    exact absurd h (by decide)

theorem skipFiller_of_ink {c : Char} (h : isInk c) (r : List Char) :
    skipFiller (c :: r) = c :: r := by
  rw [skipFiller_eq, skipBlankLines_of_ink h]
  split
  · rename_i heq
    rw [(List.cons.inj heq).1] at h
    exact absurd h (by decide)
  · rfl

/-! ### Keys -/

theorem keyPath?_eq (s : List Char) : keyPath? s =
    match simpleKey? (skipBlanks s) with
    | none => none
    | some (k, r) =>
      match skipBlanks r with
      | '.' :: r' => (keyPath? r').map fun p => (k :: p.1, p.2)
      | r' => some ([k], r') := by
  rw [keyPath?]
  split
  · simp only [*]
  · split <;> simp only [*]

/-! ### Values -/

theorem items?_eq (value : Reader Value) (s : List Char) : items? value s =
    match skipFiller s with
    | ']' :: r => some ([], r)
    | s' =>
      match value.read s' with
      | none => none
      | some (v, r) =>
        match skipFiller r with
        | ',' :: r' => (items? value r').map fun p => (v :: p.1, p.2)
        | ']' :: r' => some ([v], r')
        | _ => none := by
  rw [items?]
  split
  · simp only [*]
  · split
    · simp only [*]
    · split <;> simp only [*]

theorem items?_close {value : Reader Value} {s r : List Char} (h : skipFiller s = ']' :: r) :
    items? value s = some ([], r) := by
  rw [items?_eq, h]
  rfl

theorem items?_more {value : Reader Value} {s s' r r' : List Char} {v : Value}
    (h : skipFiller s = s') (hc : s'.head? ≠ some ']') (hv : value.read s' = some (v, r))
    (hr : skipFiller r = ',' :: r') :
    items? value s = (items? value r').map fun p => (v :: p.1, p.2) := by
  rw [items?_eq, h]
  split
  · exact absurd rfl hc
  · simp only [hv, hr]

theorem items?_last {value : Reader Value} {s s' r r' : List Char} {v : Value}
    (h : skipFiller s = s') (hc : s'.head? ≠ some ']') (hv : value.read s' = some (v, r))
    (hr : skipFiller r = ']' :: r') : items? value s = some ([v], r') := by
  rw [items?_eq, h]
  split
  · exact absurd rfl hc
  · simp only [hv, hr]

theorem items?_none {value : Reader Value} {s s' : List Char} (h : skipFiller s = s')
    (hc : s'.head? ≠ some ']') (hv : value.read s' = none) : items? value s = none := by
  rw [items?_eq, h]
  split
  · exact absurd rfl hc
  · simp only [hv]

theorem pairs?_eq (value : Reader Value) (s : List Char) : pairs? value s =
    match assignment? value s with
    | none => none
    | some (a, r) =>
      match skipBlanks r with
      | ',' :: r' => (pairs? value r').map fun p => (a :: p.1, p.2)
      | '\x7d' :: r' => some ([a], r')
      | _ => none := by
  rw [pairs?]
  split
  · simp only [*]
  · split <;> simp only [*]

theorem value_read_array (depth : Nat) (r : List Char) :
    (value (depth + 1)).read ('[' :: r) =
      (items? (value depth) r).map fun p => (.array .inline p.1, p.2) := rfl

theorem value_read_braces (depth : Nat) (r : List Char) :
    (value (depth + 1)).read ('\x7b' :: r) = braces? (value depth) r := rfl

theorem value_read_scalar {c : Char} (depth : Nat) (r : List Char) (h : c ≠ '[') (h' : c ≠ '\x7b') :
    (value depth).read (c :: r) = scalar? (c :: r) := by
  cases depth with
  | zero => rfl
  | succ depth =>
    unfold value
    dsimp only
    split
    · rename_i heq
      exact absurd (List.cons.inj heq).1 h
    · rename_i heq
      exact absurd (List.cons.inj heq).1 h'
    · rfl

/-! ### Lines -/

theorem lines?_eq (s : List Char) : lines? s =
    match skipFiller s with
    | [] => some []
    | c :: s' =>
      if c = '#' then
        match endLine? (c :: s') with
        | some [] => some []
        | _ => none
      else
        match line? (c :: s') with
        | none => none
        | some (l, r) =>
          match endLine? r with
          | none => none
          | some r' => (lines? r').map (l :: ·) := by
  rw [lines?]
  split
  · simp only [*]
  · split
    · rename_i hs hc
      rw [hs]
      exact (if_pos hc).symm
    · split
      · simp only [*, if_false]
      · split <;> simp only [*, if_false]

theorem lines?_end {s : List Char} (h : skipFiller s = []) : lines? s = some [] := by
  rw [lines?_eq, h]

theorem lines?_line {s r r' : List Char} {c : Char} {l : Line} {s' : List Char}
    (h : skipFiller s = c :: s') (hc : c ≠ '#') (hl : line? (c :: s') = some (l, r))
    (hr : endLine? r = some r') : lines? s = (lines? r').map (l :: ·) := by
  rw [lines?_eq, h]
  simp only [if_neg hc, hl, hr]

end BuiltinLink.Toml
