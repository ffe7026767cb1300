import BuiltinLink.Proofs.Text.Utf8

/-!
The lenient reader. No encoding of a character begins with a byte that goes on with one, so whatever
was begun before a text is broken off where the text begins: the lenient reader shows the text as it
is, and the bytes in front of it as it would show them alone. And what it shows without a replacement
character was encoded there, at whatever place: bytes that encode nothing are never taken for a text,
nor do they hide one.
-/

namespace BuiltinLink.Text

/-! ### Where a text begins -/

/-- Bytes that do not begin by going on with a character. -/
def BeginsAnew (t : Bytes) : Prop :=
  ∀ b, t.head? = some b → ¬ IsFurther b

theorem lead?_range {b : Nat} {l : Lead} (h : lead? b = some l) : 0x80 ≤ l.low ∧ l.high ≤ 0xBF := by
  rcases lead?_eq_some h with ⟨k, hk, hk', rfl⟩ | ⟨k, hk, rfl⟩ | ⟨k, hk, rfl⟩
  · rw [lead?_two k hk' hk, Option.some.injEq] at h
    subst h
    exact ⟨Nat.le_refl _, Nat.le_refl _⟩
  · rw [lead?_three k hk, Option.some.injEq] at h
    subst h
    dsimp only
    constructor <;> split <;> omega
  · rw [lead?_four k hk, Option.some.injEq] at h
    subst h
    dsimp only
    constructor <;> split <;> omega

theorem beginsAnew_encode (s : List Char) : BeginsAnew (encode s) := by
  intro b hb hfurther
  cases s with
  | nil => cases hb
  | cons c s =>
    obtain ⟨b', t, hc, hn⟩ := nextPiece_encode c (encode s)
    have hbb : b' = b := by
      rw [encode, List.flatMap_cons, hc, List.cons_append, List.head?_cons] at hb
      exact Option.some.inj hb
    subst hbb
    have hlead : lead? b'.toNat = none := by
      by_contra hl
      have := lead?_isSome (Option.isSome_iff_ne_none.2 hl)
      have := hfurther.2
      omega
    have hlow : ¬ b'.toNat < 0x80 := Nat.not_lt.2 hfurther.1
    simp only [nextPiece, if_neg hlow, hlead] at hn
    cases hn

variable {t : Bytes}

theorem finishChar_append (ht : BeginsAnew t) (value : Nat) (seen : Bytes) (n : Nat) (r : Bytes) :
    finishChar value seen n (r ++ t) =
      ((finishChar value seen n r).1, (finishChar value seen n r).2 ++ t) := by
  induction r generalizing value seen n with
  | nil =>
    cases n with
    | zero => rfl
    | succ n =>
      cases t with
      | nil => rfl
      | cons b t =>
        have hb : ¬ (0x80 ≤ b.toNat ∧ b.toNat ≤ 0xBF) := ht b rfl
        simp only [List.nil_append, finishChar, if_neg hb]
  | cons b r ih =>
    cases n with
    | zero => rfl
    | succ n =>
      simp only [List.cons_append, finishChar]
      split
      · exact ih _ _ _
      · rfl

theorem nextPiece_append (ht : BeginsAnew t) (b : UInt8) (r : Bytes) :
    nextPiece b (r ++ t) = ((nextPiece b r).1, (nextPiece b r).2 ++ t) := by
  simp only [nextPiece]
  split
  · rfl
  · cases hl : lead? b.toNat with
    | none => rfl
    | some l =>
      cases r with
      | nil =>
        cases t with
        | nil => rfl
        | cons c t =>
          have hc : ¬ (l.low ≤ c.toNat ∧ c.toNat ≤ l.high) := by
            have := lead?_range hl
            have := ht c rfl
            unfold IsFurther at this
            omega
          simp only [List.nil_append, if_neg hc]
      | cons c r =>
        simp only [List.cons_append]
        split
        · exact finishChar_append ht _ _ _ _
        · rfl

theorem pieces_append (ht : BeginsAnew t) (bs : Bytes) : pieces (bs ++ t) = pieces bs ++ pieces t := by
  fun_induction pieces bs with
  | case1 => rfl
  | case2 b r ih => rw [List.cons_append, pieces, nextPiece_append ht, ih, List.cons_append]

/-! ### The lenient reader -/

theorem decodeLossy_append_encode (bs : Bytes) (s : List Char) :
    decodeLossy (bs ++ encode s) = decodeLossy bs ++ s := by
  rw [decodeLossy, pieces_append (beginsAnew_encode s), pieces_encode, List.map_append,
    List.map_map]
  simp [decodeLossy, Function.comp_def, Piece.shown]

theorem decodeLossy_encode (s : List Char) : decodeLossy (encode s) = s := by
  simpa [decodeLossy, pieces] using decodeLossy_append_encode [] s

/-- Bytes survive the lenient reader exactly if they encode a text. -/
theorem encode_decodeLossy_iff {bs : Bytes} :
    encode (decodeLossy bs) = bs ↔ bs.toByteArray.IsValidUTF8 := by
  constructor
  · exact fun h => ⟨decodeLossy bs, congrArg List.toByteArray h.symm⟩
  · rintro ⟨s, hs⟩
    obtain rfl : bs = encode s := List.toByteArray_inj.1 hs
    rw [decodeLossy_encode]

/-! ### What replacement characters cannot imitate -/

theorem Piece.shown_eq_iff {p : Piece} {c : Char} (hc : c ≠ '\ufffd') :
    p.shown = c ↔ p = .char c := by
  cases p <;> simp [shown, hc.symm]

variable {bs : Bytes} {l : List Piece} {s p : List Char}

theorem map_shown_eq_iff (hs : '\ufffd' ∉ s) : l.map Piece.shown = s ↔ l = s.map Piece.char := by
  induction l generalizing s with
  | nil => cases s <;> simp
  | cons a l ih =>
    cases s with
    | nil => simp
    | cons c s =>
      rw [List.mem_cons, not_or] at hs
      rw [List.map_cons, List.map_cons, List.cons.injEq, List.cons.injEq, ih hs.2,
        Piece.shown_eq_iff (Ne.symm hs.1)]

/-- A text without replacement characters is what the bytes of its encoding show, and no others. -/
theorem decodeLossy_eq_iff (hs : '\ufffd' ∉ s) : decodeLossy bs = s ↔ encode s = bs := by
  rw [decodeLossy, map_shown_eq_iff hs, ← decode?_eq_some_iff_pieces, decode?_eq_some_iff]

/-- What is shown begins with a text without replacement characters exactly if the bytes begin with
its encoding. -/
theorem prefix_decodeLossy_iff (hp : '\ufffd' ∉ p) : p <+: decodeLossy bs ↔ encode p <+: bs := by
  constructor
  · rintro ⟨t, ht⟩
    obtain ⟨l, l', hl, hp', -⟩ := List.map_eq_append_iff.1 ht.symm
    rw [map_shown_eq_iff hp] at hp'
    obtain ⟨r, hr, -⟩ := exists_append_of_pieces (hl.trans (by rw [hp']))
    exact ⟨r, hr.symm⟩
  · rintro ⟨r, rfl⟩
    refine ⟨decodeLossy r, ?_⟩
    rw [decodeLossy, decodeLossy, pieces_encode_append, List.map_append, (map_shown_eq_iff hp).2 rfl]

end BuiltinLink.Text
