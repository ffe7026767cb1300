/-!
Texts joined from parts. Parts without the separator can be read back, a number in front of what is
no digit too, and each part stands whole in the joined text.
-/

namespace BuiltinLink.Text

/-- The first place of a character parts a text in one way. -/
theorem append_cons_inj {x : Char} {s t r r' : List Char} (hs : x ∉ s) (ht : x ∉ t)
    (h : s ++ x :: r = t ++ x :: r') : s = t ∧ r = r' := by
  induction s generalizing t with
  | nil =>
    cases t with
    | nil => exact ⟨rfl, (List.cons.inj h).2⟩
    | cons c t => exact absurd (List.mem_cons.2 (.inl (List.cons.inj h).1)) ht
  | cons c s ih =>
    cases t with
    | nil => exact absurd (List.mem_cons.2 (.inl (List.cons.inj h).1.symm)) hs
    | cons d t =>
      obtain ⟨hcd, htail⟩ := List.cons.inj h
      obtain ⟨hst, hr⟩ := ih (fun hx => hs (List.mem_cons_of_mem c hx))
        (fun hx => ht (List.mem_cons_of_mem d hx)) htail
      exact ⟨by rw [hcd, hst], hr⟩

theorem toDigits_inj {m n : Nat} : Nat.toDigits 10 m = Nat.toDigits 10 n ↔ m = n := by
  constructor
  · intro h
    rw [← @Nat.ofDigitChars_ten_toDigits m, h, Nat.ofDigitChars_ten_toDigits]
  · exact congrArg (Nat.toDigits 10)

/-- The digits of a number end at the first character that is none. -/
theorem toDigits_append_cons_inj {x : Char} (hx : x.isDigit = false) {m n : Nat}
    {r r' : List Char} (h : Nat.toDigits 10 m ++ x :: r = Nat.toDigits 10 n ++ x :: r') :
    m = n ∧ r = r' := by
  have hdigits (k : Nat) : x ∉ Nat.toDigits 10 k := by
    intro hk
    rw [Nat.isDigit_of_mem_toDigits (by decide) (by decide) hk] at hx
    cases hx
  obtain ⟨hnumber, hrest⟩ := append_cons_inj (hdigits m) (hdigits n) h
  exact ⟨toDigits_inj.1 hnumber, hrest⟩

/-- A beginning that lacks a character ends in front of it. -/
theorem prefix_append_cons_iff {x : Char} {p s t : List Char} (hp : x ∉ p) :
    p <+: s ++ x :: t ↔ p <+: s := by
  constructor
  · intro h
    rcases List.prefix_or_prefix_of_prefix h (List.prefix_append s _) with h' | ⟨r, rfl⟩
    · exact h'
    · rw [List.prefix_append_right_inj] at h
      rcases List.prefix_cons_iff.1 h with rfl | ⟨r', rfl, -⟩
      · simp
      · exact absurd (by simp) hp
  · intro h
    exact h.trans (List.prefix_append s _)

theorem intercalate_cons (sep s : List Char) (l : List (List Char)) :
    sep.intercalate (s :: l) = s ++ l.flatMap (sep ++ ·) := by
  induction l generalizing s with
  | nil => simp
  | cons t l ih => rw [List.intercalate_cons_cons, ih, List.flatMap_cons, List.append_assoc,
      List.append_assoc]

/-- A part that holds no separator, and the parts behind it, can be read back. -/
theorem append_flatMap_inj {x : Char} {sep s t : List Char} {l l' : List (List Char)}
    (hl : ∀ p ∈ s :: l, x ∉ p) (hl' : ∀ p ∈ t :: l', x ∉ p)
    (h : s ++ l.flatMap (x :: sep ++ ·) = t ++ l'.flatMap (x :: sep ++ ·)) :
    s :: l = t :: l' := by
  have hs := hl s List.mem_cons_self
  have ht := hl' t List.mem_cons_self
  induction l generalizing s t l' with
  | nil =>
    cases l' with
    | nil => simpa using h
    | cons q l' =>
      rw [List.flatMap_nil, List.append_nil] at h
      exact absurd (by simp [h]) hs
  | cons p l ih =>
    cases l' with
    | nil =>
      rw [List.flatMap_nil, List.append_nil] at h
      exact absurd (by simp [← h]) ht
    | cons q l' =>
      rw [List.flatMap_cons, List.flatMap_cons, List.cons_append, List.cons_append,
        List.cons_append, List.cons_append] at h
      obtain ⟨hst, hrest⟩ := append_cons_inj hs ht h
      rw [List.append_assoc, List.append_assoc] at hrest
      have htail := ih (fun r hr => hl r (List.mem_cons_of_mem s hr))
        (fun r hr => hl' r (List.mem_cons_of_mem t hr)) (List.append_cancel_left hrest)
        (hl p (by simp)) (hl' q (by simp))
      rw [hst, htail]

/-- Parts that are not empty and hold no separator can be read back from the joined text. -/
theorem intercalate_inj {x : Char} {sep : List Char} {l l' : List (List Char)}
    (hl : ∀ p ∈ l, p ≠ [] ∧ x ∉ p) (hl' : ∀ p ∈ l', p ≠ [] ∧ x ∉ p)
    (h : (x :: sep).intercalate l = (x :: sep).intercalate l') : l = l' := by
  cases l with
  | nil =>
    cases l' with
    | nil => rfl
    | cons t l' => exact absurd (by simp_all [intercalate_cons]) (hl' t List.mem_cons_self).1
  | cons s l =>
    cases l' with
    | nil => exact absurd (by simp_all [intercalate_cons]) (hl s List.mem_cons_self).1
    | cons t l' =>
      rw [intercalate_cons, intercalate_cons] at h
      exact append_flatMap_inj (fun p hp => (hl p hp).2) (fun p hp => (hl' p hp).2) h

theorem infix_intercalate {sep s : List Char} {l : List (List Char)} (h : s ∈ l) :
    s <:+: sep.intercalate l := by
  obtain ⟨p, l, rfl⟩ := List.exists_cons_of_ne_nil (List.ne_nil_of_mem h)
  rw [intercalate_cons]
  rcases List.mem_cons.1 h with rfl | h
  · exact (List.prefix_append s _).isInfix
  · obtain ⟨l₁, l₂, rfl⟩ := List.append_of_mem h
    exact ⟨p ++ l₁.flatMap (sep ++ ·) ++ sep, l₂.flatMap (sep ++ ·), by simp⟩

end BuiltinLink.Text
