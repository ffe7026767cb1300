/-!
Characters given by their number in hexadecimal digits.
-/

namespace BuiltinLink.Text

/-- The value of a hexadecimal digit. -/
def hexValue? (c : Char) : Option Nat :=
  if '0' ≤ c ∧ c ≤ '9' then some (c.toNat - 48)
  else if 'a' ≤ c ∧ c ≤ 'f' then some (c.toNat - 87)
  else if 'A' ≤ c ∧ c ≤ 'F' then some (c.toNat - 55)
  else none

/-- The character given by exactly `n` hexadecimal digits; surrogates and numbers beyond the last
code point are no characters. -/
def numbered? (n : Nat) (s : List Char) : Option (Char × List Char) :=
  if (s.take n).length = n then do
    let ds ← (s.take n).mapM hexValue?
    let v := ds.foldl (fun v d => v * 16 + d) 0
    if v.isValidChar then some (Char.ofNat v, s.drop n) else none
  else none

theorem numbered?_length {n : Nat} {s r : List Char} {c : Char}
    (h : numbered? n s = some (c, r)) : r.length ≤ s.length := by
  simp only [numbered?] at h
  split at h
  · obtain ⟨ds, -, h⟩ := Option.bind_eq_some_iff.1 h
    split at h
    · simp only [Option.some.injEq, Prod.mk.injEq] at h
      simp [← h.2]
    · simp at h
  · simp at h

end BuiltinLink.Text
