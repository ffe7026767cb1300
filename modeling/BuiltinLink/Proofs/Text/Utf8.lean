import BuiltinLink.Text.Utf8
import Mathlib.Data.List.Basic
import Mathlib.Tactic.IntervalCases

/-!
The strict reader of UTF-8 is the inverse of the encoding: a byte sequence is read as a text exactly
if it is the encoding of that text. Everything about single characters is arithmetic on the number
of the character and its digits to the base 64.
-/

namespace BuiltinLink.Text

/-! ### First bytes -/

theorem lead?_two (k : Nat) (h : k < 32) (h' : 2 ≤ k) :
    lead? (k + 0xC0) = some ⟨k, 0x80, 0xBF, 0⟩ := by
  interval_cases k <;> rfl

/-- The second byte of three may not make the form overlong or a surrogate. -/
theorem lead?_three (k : Nat) (h : k < 16) : lead? (k + 0xE0) =
    some ⟨k, if k = 0 then 0xA0 else 0x80, if k = 0xD then 0x9F else 0xBF, 1⟩ := by
  interval_cases k <;> rfl

/-- The second byte of four may not make the form overlong or pass the last code point. -/
theorem lead?_four (k : Nat) (h : k < 5) : lead? (k + 0xF0) =
    some ⟨k, if k = 0 then 0x90 else 0x80, if k = 4 then 0x8F else 0xBF, 2⟩ := by
  interval_cases k <;> rfl

theorem lead?_isSome {b : Nat} (h : (lead? b).isSome) : 0xC2 ≤ b ∧ b ≤ 0xF4 := by
  unfold lead? at h
  by_contra hb
  have h₁ : ¬ (b < 0xC2) := by
    intro h₁
    simp [h₁] at h
  have h₂ : ∀ n ≤ 0xF4, ¬ b < n := by omega
  have h₃ : ∀ n ≤ 0xF4, (b == n) = false := by
    intro n hn
    simp only [beq_eq_false_iff_ne]
    omega
  simp [h₂, h₃] at h

/-- A first byte announces one, two or three more. -/
theorem lead?_eq_some {b : Nat} {l : Lead} (h : lead? b = some l) :
    (∃ k, 2 ≤ k ∧ k < 32 ∧ b = k + 0xC0) ∨ (∃ k < 16, b = k + 0xE0) ∨ ∃ k < 5, b = k + 0xF0 := by
  obtain ⟨hlow, hhigh⟩ := lead?_isSome (Option.isSome_of_eq_some h)
  by_cases h₁ : b < 0xE0
  · exact .inl ⟨b - 0xC0, by omega, by omega, by omega⟩
  · by_cases h₂ : b < 0xF0
    · exact .inr (.inl ⟨b - 0xE0, by omega, by omega⟩)
    · exact .inr (.inr ⟨b - 0xF0, by omega, by omega⟩)

/-! ### One character -/

/-- The byte with a given number. -/
theorem toNat_byte {n : Nat} (h : n < 256) : (UInt8.ofNat n).toNat = n := by
  rw [UInt8.toNat_ofNat']
  exact Nat.mod_eq_of_lt h

theorem byte_eq {n : Nat} {b : UInt8} (h : n = b.toNat) : UInt8.ofNat n = b := by
  rw [h, UInt8.ofNat_toNat]

theorem toNat_ofNat {n : Nat} (h : n < 0xD800 ∨ 0xDFFF < n ∧ n < 0x110000) :
    (Char.ofNat n).val.toNat = n := by
  rw [Char.ofNat, dif_pos h]
  rfl

theorem number_valid (c : Char) : c.toNat < 0xD800 ∨ 0xDFFF < c.toNat ∧ c.toNat < 0x110000 :=
  c.valid

theorem nextPiece_encode (c : Char) (r : Bytes) : ∃ b t, String.utf8EncodeChar c = b :: t ∧
    nextPiece b (t ++ r) = (.char c, r) := by
  have hc := number_valid c
  have hv : Char.ofNat c.toNat = c := Char.ofNat_toNat c
  have hu : c.val.toNat = c.toNat := rfl
  unfold String.utf8EncodeChar
  simp only [hu]
  generalize c.toNat = v at hc hv
  split
  · refine ⟨_, _, rfl, ?_⟩
    unfold nextPiece
    rw [toNat_byte (by omega), if_pos (by omega), hv, List.nil_append]
  · split
    · refine ⟨_, _, rfl, ?_⟩
      unfold nextPiece
      rw [toNat_byte (by omega), if_neg (by omega), lead?_two (v / 64 % 32) (by omega) (by omega)]
      simp only [List.cons_append, List.nil_append]
      rw [toNat_byte (by omega), if_pos (by omega), finishChar,
        show v / 64 % 32 * 64 + (v % 64 + 128 - 128) = v by omega, hv]
    · split
      · refine ⟨_, _, rfl, ?_⟩
        unfold nextPiece
        rw [toNat_byte (by omega), if_neg (by omega), lead?_three (v / 4096 % 16) (by omega)]
        simp only [List.cons_append, List.nil_append]
        rw [toNat_byte (by omega), if_pos (by split <;> split <;> omega)]
        simp only [finishChar]
        rw [toNat_byte (by omega), if_pos (by omega),
          show (v / 4096 % 16 * 64 + (v / 64 % 64 + 128 - 128)) * 64 + (v % 64 + 128 - 128) = v by
            omega, hv]
      · refine ⟨_, _, rfl, ?_⟩
        unfold nextPiece
        rw [toNat_byte (by omega), if_neg (by omega), lead?_four (v / 262144 % 8) (by omega)]
        simp only [List.cons_append, List.nil_append]
        rw [toNat_byte (by omega), if_pos (by split <;> split <;> omega)]
        simp only [finishChar]
        rw [toNat_byte (by omega), toNat_byte (by omega), if_pos (by omega), if_pos (by omega),
          show ((v / 262144 % 8 * 64 + (v / 4096 % 64 + 128 - 128)) * 64 +
            (v / 64 % 64 + 128 - 128)) * 64 + (v % 64 + 128 - 128) = v by omega, hv]

/-- A byte that goes on with a character. -/
def IsFurther (b : UInt8) : Prop :=
  0x80 ≤ b.toNat ∧ b.toNat ≤ 0xBF

/-- A character that could be finished was finished by as many further bytes as announced. -/
theorem exists_of_finishChar {value n : Nat} {seen r r' : Bytes} {c : Char}
    (h : finishChar value seen n r = (.char c, r')) :
    ∃ bs : Bytes, bs.length = n ∧ (∀ b ∈ bs, IsFurther b) ∧ r = bs ++ r' ∧
      c = Char.ofNat (bs.foldl (fun v b => v * 64 + (b.toNat - 0x80)) value) := by
  induction n generalizing value seen r with
  | zero =>
    unfold finishChar at h
    cases h
    exact ⟨[], rfl, fun _ hb => absurd hb List.not_mem_nil, rfl, rfl⟩
  | succ n ih =>
    cases r with
    | nil => cases h
    | cons b r =>
      unfold finishChar at h
      split at h
      · rename_i hb
        obtain ⟨bs, hlength, hbs, hr, hc⟩ := ih h
        refine ⟨b :: bs, ?_, List.forall_mem_cons.2 ⟨hb, hbs⟩, ?_, ?_⟩
        · rw [List.length_cons, hlength]
        · rw [hr, List.cons_append]
        · rw [List.foldl_cons]
          exact hc
      · cases h

section

variable {k : Nat} {b b₁ b₂ b₃ : UInt8}

theorem encode_two (hk : 2 ≤ k) (hk' : k < 32) (hb : b.toNat = k + 0xC0) (h₁ : IsFurther b₁) :
    String.utf8EncodeChar (Char.ofNat (k * 64 + (b₁.toNat - 0x80))) = [b, b₁] := by
  unfold IsFurther at h₁
  unfold String.utf8EncodeChar
  rw [toNat_ofNat (by omega), if_neg (by omega), if_pos (by omega), byte_eq (b := b) (by omega),
    byte_eq (b := b₁) (by omega)]

theorem encode_three (hk : k < 16) (hb : b.toNat = k + 0xE0) (h₁ : IsFurther b₁)
    (hlow : k = 0 → 0xA0 ≤ b₁.toNat) (hhigh : k = 0xD → b₁.toNat ≤ 0x9F) (h₂ : IsFurther b₂) :
    String.utf8EncodeChar
      (Char.ofNat ((k * 64 + (b₁.toNat - 0x80)) * 64 + (b₂.toNat - 0x80))) = [b, b₁, b₂] := by
  unfold IsFurther at h₁ h₂
  unfold String.utf8EncodeChar
  rw [toNat_ofNat (by omega), if_neg (by omega), if_neg (by omega), if_pos (by omega),
    byte_eq (b := b) (by omega), byte_eq (b := b₁) (by omega), byte_eq (b := b₂) (by omega)]

theorem encode_four (hk : k < 5) (hb : b.toNat = k + 0xF0) (h₁ : IsFurther b₁)
    (hlow : k = 0 → 0x90 ≤ b₁.toNat) (hhigh : k = 4 → b₁.toNat ≤ 0x8F) (h₂ : IsFurther b₂)
    (h₃ : IsFurther b₃) :
    String.utf8EncodeChar
      (Char.ofNat (((k * 64 + (b₁.toNat - 0x80)) * 64 + (b₂.toNat - 0x80)) * 64 +
        (b₃.toNat - 0x80))) = [b, b₁, b₂, b₃] := by
  unfold IsFurther at h₁ h₂ h₃
  unfold String.utf8EncodeChar
  rw [toNat_ofNat (by omega), if_neg (by omega), if_neg (by omega), if_neg (by omega),
    byte_eq (b := b) (by omega), byte_eq (b := b₁) (by omega), byte_eq (b := b₂) (by omega),
    byte_eq (b := b₃) (by omega)]

end

theorem encode_one {b : UInt8} (h : b.toNat < 0x80) :
    String.utf8EncodeChar (Char.ofNat b.toNat) = [b] := by
  unfold String.utf8EncodeChar
  rw [toNat_ofNat (by omega), if_pos (by omega), byte_eq rfl]

/-- A piece of several bytes that is a character was made of the encoding of that character. -/
theorem encode_of_lead? {b b₁ : UInt8} {l : Lead} {r r' : Bytes} {c : Char}
    (hl : lead? b.toNat = some l) (h₁ : l.low ≤ b₁.toNat ∧ b₁.toNat ≤ l.high)
    (h : finishChar (l.bits * 64 + (b₁.toNat - 0x80)) [b, b₁] l.more r = (.char c, r')) :
    b :: b₁ :: r = String.utf8EncodeChar c ++ r' := by
  obtain ⟨bs, hlength, hbs, rfl, rfl⟩ := exists_of_finishChar h
  rcases lead?_eq_some hl with ⟨k, hk, hk', hb⟩ | ⟨k, hk, hb⟩ | ⟨k, hk, hb⟩
  · rw [hb, lead?_two k hk' hk, Option.some.injEq] at hl
    subst hl
    rw [List.length_eq_zero_iff.1 hlength, List.foldl_nil, encode_two hk hk' hb h₁]
    rfl
  · rw [hb, lead?_three k hk, Option.some.injEq] at hl
    subst hl
    obtain ⟨b₂, rfl⟩ := List.length_eq_one_iff.1 hlength
    have h₂ := hbs b₂ List.mem_cons_self
    have hn : IsFurther b₁ ∧ (k = 0 → 0xA0 ≤ b₁.toNat) ∧ (k = 0xD → b₁.toNat ≤ 0x9F) := by
      unfold IsFurther
      dsimp only at h₁
      split at h₁ <;> split at h₁ <;> omega
    rw [List.foldl_cons, List.foldl_nil, encode_three hk hb hn.1 hn.2.1 hn.2.2 h₂]
    rfl
  · rw [hb, lead?_four k hk, Option.some.injEq] at hl
    subst hl
    obtain ⟨b₂, b₃, rfl⟩ := List.length_eq_two.1 hlength
    obtain ⟨h₂, h₃⟩ := List.forall_mem_cons.1 hbs
    have hn : IsFurther b₁ ∧ (k = 0 → 0x90 ≤ b₁.toNat) ∧ (k = 4 → b₁.toNat ≤ 0x8F) := by
      unfold IsFurther
      dsimp only at h₁
      split at h₁ <;> split at h₁ <;> omega
    rw [List.foldl_cons, List.foldl_cons, List.foldl_nil,
      encode_four hk hb hn.1 hn.2.1 hn.2.2 h₂ (h₃ b₃ List.mem_cons_self)]
    rfl

/-- A piece that is a character was made of the encoding of that character. -/
theorem encode_of_nextPiece {b : UInt8} {r r' : Bytes} {c : Char}
    (h : nextPiece b r = (.char c, r')) : b :: r = String.utf8EncodeChar c ++ r' := by
  unfold nextPiece at h
  split at h
  · rename_i hb
    cases h
    rw [encode_one hb]
    rfl
  · split at h
    · rename_i l b₁ r₁ hl
      split at h
      · rename_i h₁
        exact encode_of_lead? hl h₁ h
      · cases h
    · cases h

/-! ### Texts -/

theorem pieces_encode_append (s : List Char) (r : Bytes) :
    pieces (encode s ++ r) = s.map Piece.char ++ pieces r := by
  induction s with
  | nil => rfl
  | cons c s ih =>
    obtain ⟨b, t, hc, hn⟩ := nextPiece_encode c (encode s ++ r)
    have he : encode (c :: s) ++ r = b :: (t ++ (encode s ++ r)) := by
      rw [encode, List.flatMap_cons, hc, List.append_assoc]
      rfl
    rw [he, pieces, hn, ih, List.map_cons, List.cons_append]

theorem pieces_encode (s : List Char) : pieces (encode s) = s.map Piece.char := by
  simpa [pieces] using pieces_encode_append s []

/-- Pieces that are characters were made of their encodings, whatever follows them. -/
theorem exists_append_of_pieces {bs : Bytes} {s : List Char} {l : List Piece}
    (h : pieces bs = s.map Piece.char ++ l) : ∃ r, bs = encode s ++ r ∧ pieces r = l := by
  induction s generalizing bs with
  | nil => exact ⟨bs, rfl, h⟩
  | cons c s ih =>
    cases bs with
    | nil => simp [pieces] at h
    | cons b t =>
      rw [pieces, List.map_cons, List.cons_append, List.cons.injEq] at h
      obtain ⟨r, hr, hl⟩ := ih h.2
      have hn : nextPiece b t = (.char c, (nextPiece b t).2) := by rw [← h.1]
      refine ⟨r, ?_, hl⟩
      rw [encode_of_nextPiece hn, hr, encode, encode, List.flatMap_cons, List.append_assoc]

theorem pieces_eq_nil_iff {bs : Bytes} : pieces bs = [] ↔ bs = [] := by
  cases bs <;> simp [pieces]

theorem encode_of_pieces {bs : Bytes} {s : List Char} (h : pieces bs = s.map Piece.char) :
    encode s = bs := by
  obtain ⟨r, rfl, hr⟩ := exists_append_of_pieces (l := []) (by rw [h, List.append_nil])
  rw [pieces_eq_nil_iff.1 hr, List.append_nil]

theorem decode?_eq_some_iff_pieces {bs : Bytes} {s : List Char} :
    decode? bs = some s ↔ pieces bs = s.map Piece.char := by
  unfold decode?
  generalize pieces bs = l
  induction l generalizing s with
  | nil =>
    rw [List.mapM_nil, eq_comm (a := ([] : List Piece)), List.map_eq_nil_iff]
    exact ⟨fun h => (Option.some.inj h).symm, fun h => congrArg some h.symm⟩
  | cons p l ih =>
    simp only [List.mapM_cons, Option.bind_eq_bind, Option.bind_eq_some_iff, ih]
    cases p with
    | broken bs => cases s <;> simp
    | char c =>
      cases s with
      | nil => simp
      | cons d s => simp [and_comm, eq_comm]

/-- The strict reader accepts the encodings of texts and no other bytes. -/
theorem decode?_eq_some_iff {bs : Bytes} {s : List Char} : decode? bs = some s ↔ encode s = bs := by
  rw [decode?_eq_some_iff_pieces]
  constructor
  · exact encode_of_pieces
  · intro heq
    subst heq
    exact pieces_encode s

theorem encode_inj {s t : List Char} : encode s = encode t ↔ s = t := by
  rw [← decode?_eq_some_iff, decode?_eq_some_iff.2 rfl, Option.some.injEq, eq_comm]

/-! ### ASCII bytes -/

theorem encodeChar_ascii {c : Char} (h : c.toNat < 0x80) :
    String.utf8EncodeChar c = [UInt8.ofNat c.toNat] := by
  have hc : c.val.toNat ≤ 0x7f := Nat.le_of_lt_succ h
  unfold String.utf8EncodeChar
  rw [if_pos hc]
  rfl

/-- All bytes of a longer encoding are beyond ASCII. -/
theorem le_of_mem_encodeChar {c : Char} (h : 0x80 ≤ c.toNat) {b : UInt8}
    (hb : b ∈ String.utf8EncodeChar c) : 0x80 ≤ b.toNat := by
  have hv := number_valid c
  have hu : c.val.toNat = c.toNat := rfl
  unfold String.utf8EncodeChar at hb
  simp only [hu] at hb
  rw [if_neg (by omega)] at hb
  split at hb
  · simp only [List.mem_cons, List.not_mem_nil, or_false] at hb
    rcases hb with rfl | rfl <;> rw [toNat_byte (by omega)] <;> omega
  · split at hb <;> simp only [List.mem_cons, List.not_mem_nil, or_false] at hb
    · rcases hb with rfl | rfl | rfl <;> rw [toNat_byte (by omega)] <;> omega
    · rcases hb with rfl | rfl | rfl | rfl <;> rw [toNat_byte (by omega)] <;> omega

/-- A byte of ASCII encodes its own character and is part of no other encoding. -/
theorem mem_encode_iff {b : UInt8} (hb : b.toNat < 0x80) {s : List Char} :
    b ∈ encode s ↔ Char.ofNat b.toNat ∈ s := by
  rw [encode, List.mem_flatMap]
  constructor
  · intro h
    rcases h with ⟨c, hc, hbc⟩
    have hlow : c.toNat < 0x80 := by
      by_contra hlow
      exact absurd hb (Nat.not_lt.2 (le_of_mem_encodeChar (Nat.not_lt.1 hlow) hbc))
    rw [encodeChar_ascii hlow, List.mem_singleton] at hbc
    rw [hbc, toNat_byte (by omega), Char.ofNat_toNat]
    exact hc
  · intro h
    exact ⟨_, h, by rw [encode_one hb]; exact List.mem_singleton_self b⟩

theorem encode_map_ascii {bs : Bytes} (h : ∀ b ∈ bs, b.toNat < 0x80) :
    encode (bs.map fun b => Char.ofNat b.toNat) = bs := by
  induction bs with
  | nil => rfl
  | cons b bs ih =>
    obtain ⟨hb, hbs⟩ := List.forall_mem_cons.1 h
    rw [List.map_cons, encode, List.flatMap_cons, encode_one hb, ← encode, ih hbs]
    rfl

/-- The stored bytes of a string. -/
def storedBytes (s : String) : Bytes :=
  s.toByteArray.data.toList

theorem storedBytes_eq (s : String) : storedBytes s = encode s.toList := by
  rw [storedBytes, ← String.utf8Encode_toList, List.utf8Encode, List.toList_data_toByteArray, encode]

/-- The characters of an ASCII string are its bytes, which are at hand without decoding them. -/
theorem toList_of_ascii {s : String} (h : ∀ b ∈ storedBytes s, b.toNat < 0x80) :
    s.toList = (storedBytes s).map fun b => Char.ofNat b.toNat := by
  rw [← encode_inj, encode_map_ascii h, storedBytes_eq]

end BuiltinLink.Text
