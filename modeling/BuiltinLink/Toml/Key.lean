import BuiltinLink.Toml.Text

/-!
Keys of a TOML document: simple keys, bare or quoted, and paths of them with dots between.
-/

namespace BuiltinLink.Toml

/-- The characters of bare keys. -/
def isBare (c : Char) : Bool :=
  c.isAlphanum || c == '_' || c == '-'

/-- A text that has been read, as a string. -/
def asString (p : List Char × List Char) : String × List Char :=
  (String.ofList p.1, p.2)

theorem map_asString_length {o : Option (List Char × List Char)} {k : String} {r : List Char}
    {n : Nat} (h : o.map asString = some (k, r)) (ih : ∀ {t r}, o = some (t, r) → r.length < n) :
    r.length < n := by
  obtain ⟨p, hp, hq⟩ := Option.map_eq_some_iff.1 h
  simp only [asString, Prod.mk.injEq] at hq
  exact hq.2 ▸ ih hp

/-- A key without dots. -/
def simpleKey? (s : List Char) : Option (String × List Char) :=
  match s with
  | '"' :: r => (basic? r).map asString
  | '\'' :: r => (literal? r).map asString
  | c :: r =>
    if isBare c then some (String.ofList (c :: r.takeWhile isBare), r.dropWhile isBare) else none
  | [] => none

theorem simpleKey?_length {s r : List Char} {k : String} (h : simpleKey? s = some (k, r)) :
    r.length < s.length := by
  revert h
  fun_cases simpleKey? s with
  | case1 r' => exact fun h => Nat.lt_succ_of_lt (map_asString_length h basic?_length)
  | case2 r' => exact fun h => Nat.lt_succ_of_lt (map_asString_length h literal?_length)
  | case3 c r' =>
    simp only [Option.some.injEq, Prod.mk.injEq]
    rintro ⟨-, rfl⟩
    exact Nat.lt_succ_of_le (dropWhile_length_le _ _)
  | case4 => simp
  | case5 => simp

/-- A path of simple keys with dots between them; blanks may surround each key. -/
def keyPath? (s : List Char) : Option (List String × List Char) :=
  match _h : simpleKey? (skipBlanks s) with
  | none => none
  | some (k, r) =>
    match _hr : skipBlanks r with
    | '.' :: r' => (keyPath? r').map fun p => (k :: p.1, p.2)
    | r' => some ([k], r')
termination_by s.length
decreasing_by
  have h₁ := simpleKey?_length _h
  have h₂ := skipBlanks_length s
  have h₃ := skipBlanks_length r
  rw [_hr] at h₃
  simp only [List.length_cons] at h₃
  omega

theorem keyPath?_length {s r : List Char} {ks : List String} (h : keyPath? s = some (ks, r)) :
    r.length < s.length := by
  fun_induction keyPath? s generalizing ks r with
  | case1 => simp at h
  | case2 s k r₀ hk r' hr ih =>
    obtain ⟨p, hp, hq⟩ := Option.map_eq_some_iff.1 h
    simp only [Prod.mk.injEq] at hq
    have h₀ := @ih p.2 p.1 hp
    have h₁ := simpleKey?_length hk
    have h₂ := skipBlanks_length s
    have h₃ := skipBlanks_length r₀
    rw [hr] at h₃
    simp only [List.length_cons] at h₃
    rw [← hq.2]
    omega
  | case3 s k r₀ hk =>
    simp only [Option.some.injEq, Prod.mk.injEq] at h
    have h₁ := simpleKey?_length hk
    have h₂ := skipBlanks_length s
    have h₃ := skipBlanks_length r₀
    rw [← h.2]
    omega

end BuiltinLink.Toml
