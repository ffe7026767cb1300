import BuiltinLink.Proofs.Toml.Grammar
import BuiltinLink.Proofs.Toml.Reader

/-!
The readers of numbers take exactly what the grammar of numbers allows. A number goes on as long as
it can, so what stands behind one must not go on with it.
-/

namespace BuiltinLink.Toml

open Grammar

/-! ### What stands behind a value -/

/-- The characters that may stand directly behind a value. -/
def endsValue (c : Char) : Bool :=
  c ∈ [' ', '\t', '\n', '\r', '#', ',', ']', '\x7d']

/-- A text that may stand directly behind a value. Behind a blank stands no digit, so that a date
does not go on with a time. -/
def Follows (r : List Char) : Prop :=
  (∀ c ∈ r.head?, endsValue c) ∧ ∀ r', r = ' ' :: r' → ∀ c ∈ r'.head?, c.isDigit = false

theorem Follows.head_ne {r : List Char} (h : Follows r) {c d : Char} (hc : c ∈ r.head?)
    (hd : endsValue d = false) : c ≠ d :=
  ne_of_holds (h.1 c hc) hd

theorem Follows.ne_cons {r : List Char} (h : Follows r) {d : Char} (hd : endsValue d = false)
    (r' : List Char) : r ≠ d :: r' := by
  intro heq
  subst heq
  exact h.head_ne rfl hd rfl

theorem digit?_eq_none_of_endsValue {c : Char} (h : endsValue c) : digit? c = none := by
  simp only [endsValue, List.mem_cons, List.not_mem_nil, or_false, decide_eq_true_eq] at h
  obtain rfl | rfl | rfl | rfl | rfl | rfl | rfl | rfl := h <;> rfl

theorem hexValue?_eq_none_of_endsValue {c : Char} (h : endsValue c) : Text.hexValue? c = none := by
  simp only [endsValue, List.mem_cons, List.not_mem_nil, or_false, decide_eq_true_eq] at h
  obtain rfl | rfl | rfl | rfl | rfl | rfl | rfl | rfl := h <;> rfl

/-! ### Digits -/

theorem isDigit_of_digit? {c : Char} {d : Nat} (h : digit? c = some d) : c.isDigit := by
  unfold digit? at h
  split at h
  · assumption
  · cases h

theorem moreDigits?_sound {digit : Char → Option Nat} {s r : List Char} {ds : List Nat}
    (h : moreDigits? digit s = some (ds, r)) {c : Char} {d : Nat} (hc : digit c = some d) :
    ∃ t, Digits digit (d :: ds) (c :: t) ∧ s = t ++ r := by
  fun_induction moreDigits? digit s generalizing ds r c d with
  | case1 =>
    cases h
    exact ⟨[], .last hc, rfl⟩
  | case2 => cases h
  | case3 c' r' d' hc' ih =>
    obtain ⟨p, hp, hq⟩ := Option.map_eq_some_iff.1 h
    cases hq
    obtain ⟨t, ht, rfl⟩ := ih hp hc'
    exact ⟨'_' :: c' :: t, .underscore hc ht, rfl⟩
  | case4 => cases h
  | case5 c' r' _ d' hc' ih =>
    obtain ⟨p, hp, hq⟩ := Option.map_eq_some_iff.1 h
    cases hq
    obtain ⟨t, ht, rfl⟩ := ih hp hc'
    exact ⟨c' :: t, .digit hc ht, rfl⟩
  | case6 =>
    cases h
    exact ⟨[], .last hc, rfl⟩

theorem digits?_sound {digit : Char → Option Nat} {s r : List Char} {ds : List Nat}
    (h : digits? digit s = some (ds, r)) : ∃ t, Digits digit ds t ∧ s = t ++ r := by
  revert h
  fun_cases digits? digit s with
  | case1 => intro h; cases h
  | case2 c r' d hc =>
    intro h
    obtain ⟨p, hp, hq⟩ := Option.map_eq_some_iff.1 h
    cases hq
    obtain ⟨t, ht, rfl⟩ := moreDigits?_sound hp hc
    exact ⟨c :: t, ht, rfl⟩
  | case3 => intro h; cases h

/-- A text that does not go on with a run of digits. -/
def StopsDigits (digit : Char → Option Nat) (r : List Char) : Prop :=
  ∀ c ∈ r.head?, digit c = none ∧ c ≠ '_'

theorem Follows.stopsDigits {r : List Char} (h : Follows r) : StopsDigits digit? r :=
  fun c hc => ⟨digit?_eq_none_of_endsValue (h.1 c hc), h.head_ne hc (by decide)⟩

theorem Follows.stopsDigitsBelow {r : List Char} (h : Follows r) (base : Nat) :
    StopsDigits (digitBelow? base) r := by
  refine fun c hc => ⟨?_, h.head_ne hc (by decide)⟩
  unfold digitBelow?
  rw [hexValue?_eq_none_of_endsValue (h.1 c hc)]
  rfl

theorem stopsDigits_cons {c : Char} (h : digit? c = none) (hc : c ≠ '_') (r : List Char) :
    StopsDigits digit? (c :: r) := by
  intro d hd
  cases hd
  exact ⟨h, hc⟩

theorem moreDigits?_stop {digit : Char → Option Nat} {r : List Char} (h : StopsDigits digit r) :
    moreDigits? digit r = some ([], r) := by
  cases r with
  | nil => rfl
  | cons c r =>
    obtain ⟨hc, hne⟩ := h c rfl
    rw [moreDigits?.eq_4 _ _ _ hne, hc]

theorem moreDigits?_of_digits? {digit : Char → Option Nat} (h_ : digit '_' = none) {s : List Char}
    {p : List Nat × List Char} (h : digits? digit s = some p) : moreDigits? digit s = some p := by
  revert h
  fun_cases digits? digit s with
  | case1 => intro h; cases h
  | case2 c r d hc =>
    intro h
    have hne : c ≠ '_' := by
      intro heq
      subst heq
      rw [h_] at hc
      cases hc
    rw [moreDigits?.eq_4 _ _ _ hne, hc]
    exact h
  | case3 => intro h; cases h

theorem moreDigits?_underscore {digit : Char → Option Nat} {s : List Char}
    {p : List Nat × List Char} (h : digits? digit s = some p) :
    moreDigits? digit ('_' :: s) = some p := by
  revert h
  fun_cases digits? digit s with
  | case1 => intro h; cases h
  | case2 c r d hc =>
    intro h
    rw [moreDigits?.eq_3, hc]
    exact h
  | case3 => intro h; cases h

theorem digits?_append {digit : Char → Option Nat} (h_ : digit '_' = none) {ds : List Nat}
    {t r : List Char} (h : Digits digit ds t) (hr : StopsDigits digit r) :
    digits? digit (t ++ r) = some (ds, r) := by
  induction h with
  | last hc =>
    rw [List.singleton_append, digits?.eq_2, hc]
    simp only [moreDigits?_stop hr, Option.map_some]
  | digit hc _ ih =>
    rw [List.cons_append, digits?.eq_2, hc]
    simp only [moreDigits?_of_digits? h_ ih, Option.map_some]
  | underscore hc _ ih =>
    rw [List.cons_append, List.cons_append, digits?.eq_2, hc]
    simp only [moreDigits?_underscore ih, Option.map_some]

theorem Grammar.Digits.exists_cons {digit : Char → Option Nat} {ds : List Nat} {t : List Char}
    (h : Digits digit ds t) : ∃ c t' d, t = c :: t' ∧ digit c = some d := by
  cases h with
  | last hc | digit hc | underscore hc => exact ⟨_, _, _, rfl, hc⟩

/-- Runs of digits are read up to the first character that is neither a digit nor an underscore. -/
theorem Grammar.Digits.head_dropWhile {ds : List Nat} {t r : List Char} (h : Digits digit? ds t)
    {c : Char} (hc : c ∈ ((t ++ r).dropWhile Char.isDigit).head?) :
    c = '_' ∨ c ∈ (r.dropWhile Char.isDigit).head? := by
  induction h with
  | last hd =>
    rw [List.singleton_append, List.dropWhile_cons_of_pos (isDigit_of_digit? hd)] at hc
    exact .inr hc
  | digit hd _ ih =>
    rw [List.cons_append, List.dropWhile_cons_of_pos (isDigit_of_digit? hd)] at hc
    exact ih hc
  | underscore hd =>
    rw [List.cons_append, List.cons_append, List.dropWhile_cons_of_pos (isDigit_of_digit? hd),
      List.dropWhile_cons_of_neg (by decide)] at hc
    exact .inl (Option.some.inj hc).symm

/-! ### Signs, integral parts and powers -/

theorem sign_sound (s : List Char) :
    ∃ t, Sign (decide ((sign s).1 = some true)) t ∧ s = t ++ (sign s).2 := by
  fun_cases sign s with
  | case1 => exact ⟨['-'], .minus, rfl⟩
  | case2 => exact ⟨['+'], .plus, rfl⟩
  | case3 => exact ⟨[], .none, rfl⟩

theorem sign_append {minus : Bool} {t : List Char} (h : Sign minus t) {r : List Char}
    (hr : ∀ c ∈ r.head?, c ≠ '-' ∧ c ≠ '+') :
    decide ((sign (t ++ r)).1 = some true) = minus ∧ (sign (t ++ r)).2 = r := by
  cases h with
  | none =>
    rw [List.nil_append, sign.eq_3]
    · exact ⟨rfl, rfl⟩
    · rintro r' rfl
      exact (hr _ rfl).1 rfl
    · rintro r' rfl
      exact (hr _ rfl).2 rfl
  | plus => exact ⟨rfl, rfl⟩
  | minus => exact ⟨rfl, rfl⟩

theorem whole?_sound {s r : List Char} {ds : List Nat} (h : whole? s = some (ds, r)) :
    ∃ t, Whole ds t ∧ s = t ++ r := by
  revert h
  fun_cases whole? s with
  | case1 =>
    intro h
    cases h
    exact ⟨['0'], .zero, rfl⟩
  | case2 x hzero =>
    intro h
    obtain ⟨t, ht, rfl⟩ := digits?_sound h
    refine ⟨t, .digits (fun hhead => ?_) ht, rfl⟩
    obtain ⟨t', rfl⟩ := List.head?_eq_some_iff.1 hhead
    exact hzero _ rfl

theorem Grammar.Whole.exists_cons {ds : List Nat} {t : List Char} (h : Whole ds t) :
    ∃ c t', t = c :: t' ∧ c.isDigit := by
  cases h with
  | zero => exact ⟨_, _, rfl, rfl⟩
  | digits _ h =>
    obtain ⟨c, t', d, rfl, hc⟩ := h.exists_cons
    exact ⟨c, t', rfl, isDigit_of_digit? hc⟩

theorem whole?_append {ds : List Nat} {t r : List Char} (h : Whole ds t)
    (hr : StopsDigits digit? r) : whole? (t ++ r) = some (ds, r) := by
  cases h with
  | zero => rfl
  | digits hzero h =>
    rw [whole?.eq_2, digits?_append rfl h hr]
    intro r' heq
    obtain ⟨c, t', d, rfl, -⟩ := h.exists_cons
    rw [(List.cons.inj heq).1] at hzero
    exact hzero rfl

/-- The characters that a number may begin with, signs apart, are no signs. -/
theorem ne_sign_of_isDigit {c : Char} {r : List Char} (h : c.isDigit) :
    ∀ d ∈ (c :: r).head?, d ≠ '-' ∧ d ≠ '+' := by
  intro d hd
  cases hd
  exact ⟨ne_of_holds h (by decide), ne_of_holds h (by decide)⟩

theorem signed_eq (minus : Option Bool) (n : Nat) :
    (if minus = some true then -(n : Int) else n) = signed (decide (minus = some true)) n := by
  unfold signed
  simp only [decide_eq_true_eq]

theorem power?_sound {s r : List Char} {e : Int} (h : power? s = some (e, r)) {l : Char}
    (hl : l = 'e' ∨ l = 'E') : ∃ t, Power e (l :: t) ∧ s = t ++ r := by
  unfold power? at h
  dsimp only at h
  obtain ⟨⟨ds, r'⟩, hds, hq⟩ := Option.map_eq_some_iff.1 h
  cases hq
  obtain ⟨u, hu, hs⟩ := sign_sound s
  obtain ⟨t, ht, hr⟩ := digits?_sound hds
  rw [hr] at hs
  refine ⟨u ++ t, ?_, by rw [List.append_assoc, ← hs]⟩
  rw [signed_eq]
  exact .digits hl hu ht

theorem power?_append {minus : Bool} {ds : List Nat} {s t r : List Char} (hs : Sign minus s)
    (ht : Digits digit? ds t) (hr : StopsDigits digit? r) :
    power? (s ++ (t ++ r)) = some (signed minus (ofDigits 10 ds), r) := by
  have hsign : ∀ c ∈ (t ++ r).head?, c ≠ '-' ∧ c ≠ '+' := by
    obtain ⟨c, t', d, rfl, hc⟩ := ht.exists_cons
    exact ne_sign_of_isDigit (isDigit_of_digit? hc)
  obtain ⟨hminus, hrest⟩ := sign_append hs hsign
  unfold power?
  dsimp only
  rw [hrest, digits?_append rfl ht hr, Option.map_some]
  dsimp only
  rw [signed_eq, hminus]

/-! ### Numbers -/

theorem digitBelow?_underscore (base : Nat) : digitBelow? base '_' = none := rfl

theorem based?_sound {base : Nat} {l : Char} {s r : List Char} {v : Value}
    (h : based? base s = some (v, r)) (hl : (base, l) ∈ [(16, 'x'), (8, 'o'), (2, 'b')]) :
    ∃ t, Number v ('0' :: l :: t) ∧ s = t ++ r := by
  obtain ⟨⟨ds, r'⟩, hds, h⟩ := Option.bind_eq_some_iff.1 h
  obtain ⟨w, hw, h⟩ := Option.bind_eq_some_iff.1 h
  cases h
  obtain ⟨t, ht, rfl⟩ := digits?_sound hds
  exact ⟨t, .based hl ht hw, rfl⟩

theorem based?_append {base : Nat} {ds : List Nat} {t r : List Char} {v : Value}
    (ht : Digits (digitBelow? base) ds t) (hv : integer? (ofDigits base ds) = some v)
    (hr : Follows r) : based? base (t ++ r) = some (v, r) := by
  have h := digits?_append (digitBelow?_underscore base) ht (hr.stopsDigitsBelow base)
  exact Option.bind_eq_some_iff.2 ⟨_, h, Option.bind_eq_some_iff.2 ⟨v, hv, rfl⟩⟩

theorem decimal?_sound {minus : Bool} {s r u : List Char} {v : Value}
    (h : decimal? minus s = some (v, r)) (hu : Sign minus u) :
    ∃ t, Number v (u ++ t) ∧ s = t ++ r := by
  obtain ⟨⟨ds, r₀⟩, hwhole, h⟩ := Option.bind_eq_some_iff.1 h
  obtain ⟨t, ht, hs⟩ := whole?_sound hwhole
  dsimp only at h
  -- one case for each way on behind the integral part, and behind the fraction
  split at h
  · obtain ⟨⟨fs, r₁⟩, hfraction, h⟩ := Option.bind_eq_some_iff.1 h
    obtain ⟨f, hf, hr₀⟩ := digits?_sound hfraction
    dsimp only at h hr₀
    rw [hr₀] at hs
    split at h
    · obtain ⟨⟨e, r₂⟩, hpower, h⟩ := Option.bind_eq_some_iff.1 h
      obtain ⟨w, hw, h⟩ := Option.bind_eq_some_iff.1 h
      cases h
      obtain ⟨p, hp, rfl⟩ := power?_sound hpower (.inl rfl)
      exact ⟨_, .float hu ht (.digits hf) hp (by simp) hw, by simp [hs]⟩
    · obtain ⟨⟨e, r₂⟩, hpower, h⟩ := Option.bind_eq_some_iff.1 h
      obtain ⟨w, hw, h⟩ := Option.bind_eq_some_iff.1 h
      cases h
      obtain ⟨p, hp, rfl⟩ := power?_sound hpower (.inr rfl)
      exact ⟨_, .float hu ht (.digits hf) hp (by simp) hw, by simp [hs]⟩
    · obtain ⟨w, hw, h⟩ := Option.bind_eq_some_iff.1 h
      cases h
      rw [← Int.zero_sub] at hw
      exact ⟨_, .float hu ht (.digits hf) .none (by simp) hw, by simp [hs]⟩
  · obtain ⟨⟨e, r₂⟩, hpower, h⟩ := Option.bind_eq_some_iff.1 h
    obtain ⟨w, hw, h⟩ := Option.bind_eq_some_iff.1 h
    cases h
    obtain ⟨p, hp, rfl⟩ := power?_sound hpower (.inl rfl)
    exact ⟨_, .float hu ht .none hp (by simp) (by simpa using hw), by simp [hs]⟩
  · obtain ⟨⟨e, r₂⟩, hpower, h⟩ := Option.bind_eq_some_iff.1 h
    obtain ⟨w, hw, h⟩ := Option.bind_eq_some_iff.1 h
    cases h
    obtain ⟨p, hp, rfl⟩ := power?_sound hpower (.inr rfl)
    exact ⟨_, .float hu ht .none hp (by simp) (by simpa using hw), by simp [hs]⟩
  · obtain ⟨w, hw, h⟩ := Option.bind_eq_some_iff.1 h
    cases h
    exact ⟨_, .integer hu ht hw, hs⟩

theorem decimal?_integer {minus : Bool} {ds : List Nat} {t r : List Char} {v : Value}
    (ht : Whole ds t) (hv : integer? (signed minus (ofDigits 10 ds)) = some v) (hr : Follows r) :
    decimal? minus (t ++ r) = some (v, r) := by
  unfold signed at hv
  unfold decimal?
  rw [whole?_append ht hr.stopsDigits]
  simp only [Option.bind_eq_bind, Option.bind_some]
  split
  · exact absurd rfl (hr.ne_cons (by decide) _)
  · exact absurd rfl (hr.ne_cons (by decide) _)
  · exact absurd rfl (hr.ne_cons (by decide) _)
  · simp only [hv, Option.bind_some]
    rfl

/-- A fraction or a power stops the digits before it. -/
theorem Grammar.Power.stopsDigits {e : Int} {p r : List Char} (hp : Power e p) (hr : Follows r) :
    StopsDigits digit? (p ++ r) := by
  cases hp with
  | none => exact hr.stopsDigits
  | digits hl => obtain rfl | rfl := hl <;> exact stopsDigits_cons rfl (by decide) _

/-- A power of ten right behind the integral part. -/
theorem decimal?_power {minus : Bool} {s r : List Char} {ds : List Nat} {l : Char}
    (h : whole? s = some (ds, l :: r)) (hl : l = 'e' ∨ l = 'E') : decimal? minus s =
      (power? r).bind fun p => (float? minus (ofDigits 10 ds) p.1).bind fun v => some (v, p.2) := by
  unfold decimal?
  rw [h]
  obtain rfl | rfl := hl <;> rfl

/-- A power of ten behind a fraction. -/
theorem decimal?_fraction_power {minus : Bool} {s r r' : List Char} {ds fs : List Nat} {l : Char}
    (h : whole? s = some (ds, '.' :: r)) (hf : digits? digit? r = some (fs, l :: r'))
    (hl : l = 'e' ∨ l = 'E') : decimal? minus s =
      (power? r').bind fun p =>
        (float? minus (ofDigits 10 (ds ++ fs)) (p.1 - fs.length)).bind fun v => some (v, p.2) := by
  unfold decimal?
  rw [h]
  simp only [Option.bind_eq_bind, Option.bind_some, hf]
  obtain rfl | rfl := hl <;> rfl

theorem decimal?_fraction {minus : Bool} {s r r' : List Char} {ds fs : List Nat}
    (h : whole? s = some (ds, '.' :: r)) (hf : digits? digit? r = some (fs, r'))
    (hr : Follows r') : decimal? minus s =
      (float? minus (ofDigits 10 (ds ++ fs)) (-fs.length)).bind fun v => some (v, r') := by
  unfold decimal?
  rw [h]
  simp only [Option.bind_eq_bind, Option.bind_some, hf]
  split
  · exact absurd rfl (hr.ne_cons (by decide) _)
  · exact absurd rfl (hr.ne_cons (by decide) _)
  · rfl

theorem decimal?_float {minus : Bool} {ds fs : List Nat} {e : Int} {t u p r : List Char} {v : Value}
    (ht : Whole ds t) (hu : Fraction fs u) (hp : Power e p) (hne : u ++ p ≠ [])
    (hv : float? minus (ofDigits 10 (ds ++ fs)) (e - fs.length) = some v) (hr : Follows r) :
    decimal? minus (t ++ (u ++ (p ++ r))) = some (v, r) := by
  cases hu with
  | none =>
    cases hp with
    | none => exact absurd rfl hne
    | @digits l minus ds' s' t' hl hs' ht' =>
      have hstop : StopsDigits digit? (l :: (s' ++ (t' ++ r))) := by
        obtain rfl | rfl := hl <;> exact stopsDigits_cons rfl (by decide) _
      rw [List.append_nil, List.length_nil, Int.ofNat_zero, Int.sub_zero] at hv
      rw [List.nil_append, List.cons_append, List.append_assoc,
        decimal?_power (whole?_append ht hstop) hl, power?_append hs' ht' hr.stopsDigits,
        Option.bind_some, hv, Option.bind_some]
  | @digits fs f hf =>
    have hwhole := whole?_append ht (stopsDigits_cons (c := '.') rfl (by decide) (f ++ (p ++ r)))
    have hfraction := digits?_append rfl hf (hp.stopsDigits hr)
    cases hp with
    | none =>
      rw [Int.zero_sub] at hv
      rw [List.cons_append, decimal?_fraction hwhole hfraction hr, hv, Option.bind_some,
        List.nil_append]
    | @digits l minus ds' s' t' hl hs' ht' =>
      rw [List.cons_append, List.append_assoc] at hwhole hfraction
      rw [List.cons_append, List.cons_append, List.append_assoc,
        decimal?_fraction_power hwhole hfraction hl, power?_append hs' ht' hr.stopsDigits,
        Option.bind_some, hv, Option.bind_some]

theorem number?_sound {s r : List Char} {v : Value} (h : number? s = some (v, r)) :
    ∃ t, Number v t ∧ s = t ++ r := by
  unfold number? at h
  split at h
  · obtain ⟨t, ht, rfl⟩ := based?_sound h (l := 'x') (by simp)
    exact ⟨_, ht, rfl⟩
  · obtain ⟨t, ht, rfl⟩ := based?_sound h (l := 'o') (by simp)
    exact ⟨_, ht, rfl⟩
  · obtain ⟨t, ht, rfl⟩ := based?_sound h (l := 'b') (by simp)
    exact ⟨_, ht, rfl⟩
  · obtain ⟨u, hu, hs⟩ := sign_sound s
    dsimp only at h
    split at h
    · rename_i heq
      cases h
      rw [heq] at hs
      exact ⟨_, .infinite hu, by simpa using hs⟩
    · rename_i heq
      cases h
      rw [heq] at hs
      exact ⟨_, .nan hu, by simpa using hs⟩
    · obtain ⟨t, ht, hr⟩ := decimal?_sound h hu
      exact ⟨_, ht, by rw [hs, hr, List.append_assoc]⟩

/-- A text that stands behind the integral part of a number. -/
def FollowsWhole (q : List Char) : Prop :=
  ∀ c ∈ q.head?, c = '.' ∨ c = 'e' ∨ c = 'E' ∨ endsValue c

theorem Follows.followsWhole {r : List Char} (h : Follows r) : FollowsWhole r :=
  fun c hc => .inr (.inr (.inr (h.1 c hc)))

theorem followsWhole_float {fs : List Nat} {e : Int} {u p r : List Char} (hu : Fraction fs u)
    (hp : Power e p) (hr : Follows r) : FollowsWhole (u ++ (p ++ r)) := by
  intro c hc
  cases hu with
  | digits => exact .inl (Option.some.inj hc).symm
  | none =>
    cases hp with
    | none => exact hr.followsWhole c hc
    | digits hl =>
      cases hc
      rcases hl with rfl | rfl
      · exact .inr (.inl rfl)
      · exact .inr (.inr (.inl rfl))

theorem FollowsWhole.head_ne {q : List Char} (h : FollowsWhole q) {c d : Char} (hc : c ∈ q.head?)
    (hd : d ≠ '.' ∧ d ≠ 'e' ∧ d ≠ 'E' ∧ endsValue d = false) : c ≠ d := by
  intro heq
  subst heq
  rcases h c hc with h | h | h | h
  · exact hd.1 h
  · exact hd.2.1 h
  · exact hd.2.2.1 h
  · rw [hd.2.2.2] at h
    cases h

/-- What decimals begin with, signs apart, is no letter that names another base. -/
theorem Grammar.Whole.ne_based {ds : List Nat} {t q : List Char} (h : Whole ds t)
    (hq : FollowsWhole q) {l : Char} (hl : l = 'x' ∨ l = 'o' ∨ l = 'b') (r : List Char) :
    t ++ q ≠ '0' :: l :: r := by
  intro heq
  cases h with
  | zero =>
    refine hq.head_ne (c := l) (d := l) ?_ ?_ rfl
    · rw [show q = l :: r from (List.cons.inj heq).2]
      rfl
    · obtain rfl | rfl | rfl := hl <;> decide
  | digits hzero h =>
    obtain ⟨c, t', d, rfl, -⟩ := h.exists_cons
    rw [(List.cons.inj heq).1] at hzero
    exact hzero rfl

theorem number?_decimal {minus : Bool} {ds : List Nat} {s t q r : List Char} {v : Value}
    (hs : Sign minus s) (ht : Whole ds t) (hq : FollowsWhole q)
    (h : decimal? minus (t ++ q) = some (v, r)) : number? (s ++ (t ++ q)) = some (v, r) := by
  have hbased {l : Char} (hl : l = 'x' ∨ l = 'o' ∨ l = 'b') (r : List Char) :
      s ++ (t ++ q) ≠ '0' :: l :: r := by
    intro heq
    cases hs with
    | none => exact ht.ne_based hq hl r heq
    | plus | minus => cases heq
  obtain ⟨c, t', rfl, hc⟩ := ht.exists_cons
  obtain ⟨hminus, hrest⟩ := sign_append hs (r := c :: t' ++ q) (ne_sign_of_isDigit hc)
  rw [number?.eq_4 _ (hbased (.inl rfl)) (hbased (.inr (.inl rfl))) (hbased (.inr (.inr rfl)))]
  dsimp only
  rw [hrest]
  split
  · rename_i heq
    exact absurd (List.cons.inj heq).1 (ne_of_holds hc (by decide))
  · rename_i heq
    exact absurd (List.cons.inj heq).1 (ne_of_holds hc (by decide))
  · rw [hminus]
    exact h

theorem number?_append {v : Value} {t r : List Char} (h : Number v t) (hr : Follows r) :
    number? (t ++ r) = some (v, r) := by
  cases h with
  | integer hs ht hv =>
    rw [List.append_assoc]
    exact number?_decimal hs ht hr.followsWhole (decimal?_integer ht hv hr)
  | based hl ht hv =>
    simp only [List.mem_cons, Prod.mk.injEq, List.not_mem_nil, or_false] at hl
    obtain ⟨rfl, rfl⟩ | ⟨rfl, rfl⟩ | ⟨rfl, rfl⟩ := hl <;> exact based?_append ht hv hr
  | float hs ht hu hp hne hv =>
    rw [List.append_assoc, List.append_assoc, List.append_assoc]
    exact number?_decimal hs ht (followsWhole_float hu hp hr) (decimal?_float ht hu hp hne hv hr)
  | infinite hs => cases hs <;> rfl
  | nan hs => cases hs <;> rfl

/-! ### Numbers begin no dates -/

/-- A text that begins no date and no time: it begins with digits only if neither a hyphen nor a
colon follows them. -/
def BeginsNoDate (s : List Char) : Prop :=
  ∀ p c t, p ≠ [] → (∀ d ∈ p, d.isDigit) → s = p ++ c :: t → c ≠ '-' ∧ c ≠ ':'

theorem beginsNoDate_of_head {s : List Char} (h : ∀ c ∈ s.head?, c.isDigit = false) :
    BeginsNoDate s := by
  intro p c t hne hp heq
  obtain ⟨d, p, rfl⟩ := List.exists_cons_of_ne_nil hne
  have hd := hp d List.mem_cons_self
  rw [h d (by rw [heq]; rfl)] at hd
  cases hd

theorem beginsNoDate_of_dropWhile {s : List Char}
    (h : ∀ c ∈ (s.dropWhile Char.isDigit).head?, c ≠ '-' ∧ c ≠ ':') : BeginsNoDate s := by
  intro p c t _ hp heq
  cases hc : c.isDigit with
  | true => exact ⟨ne_of_holds hc (by decide), ne_of_holds hc (by decide)⟩
  | false =>
    apply h c
    rw [heq, List.dropWhile_append_of_pos hp, List.dropWhile_cons_of_neg (by rw [hc]; decide)]
    rfl

theorem FollowsWhole.dropWhile {q : List Char} (h : FollowsWhole q) :
    q.dropWhile Char.isDigit = q := by
  cases q with
  | nil => rfl
  | cons c q =>
    apply List.dropWhile_cons_of_neg
    rcases h c rfl with rfl | rfl | rfl | hc
    · decide
    · decide
    · decide
    · intro hd
      have hnone := digit?_eq_none_of_endsValue hc
      unfold digit? at hnone
      rw [if_pos hd] at hnone
      cases hnone

theorem beginsNoDate_whole {ds : List Nat} {t q : List Char} (h : Whole ds t)
    (hq : FollowsWhole q) : BeginsNoDate (t ++ q) := by
  refine beginsNoDate_of_dropWhile fun c hc => ?_
  have hnext : c = '_' ∨ c ∈ (q.dropWhile Char.isDigit).head? := by
    cases h with
    | zero => exact .inr hc
    | digits _ h => exact h.head_dropWhile hc
  rw [hq.dropWhile] at hnext
  rcases hnext with rfl | hnext
  · decide
  · exact ⟨hq.head_ne hnext (by decide), hq.head_ne hnext (by decide)⟩

theorem beginsNoDate_sign {minus : Bool} {s r : List Char} (hs : Sign minus s)
    (hr : BeginsNoDate r) : BeginsNoDate (s ++ r) := by
  cases hs with
  | none => exact hr
  | plus | minus =>
    refine beginsNoDate_of_head fun c hc => ?_
    cases hc
    rfl

theorem Grammar.Number.beginsNoDate {v : Value} {t r : List Char} (h : Number v t)
    (hr : Follows r) : BeginsNoDate (t ++ r) := by
  cases h with
  | integer hs ht =>
    rw [List.append_assoc]
    exact beginsNoDate_sign hs (beginsNoDate_whole ht hr.followsWhole)
  | float hs ht hu hp =>
    rw [List.append_assoc, List.append_assoc, List.append_assoc]
    exact beginsNoDate_sign hs (beginsNoDate_whole ht (followsWhole_float hu hp hr))
  | based hl =>
    refine beginsNoDate_of_dropWhile fun c hc => ?_
    simp only [List.mem_cons, Prod.mk.injEq, List.not_mem_nil, or_false] at hl
    obtain ⟨rfl, rfl⟩ | ⟨rfl, rfl⟩ | ⟨rfl, rfl⟩ := hl <;> cases hc <;> decide
  | infinite hs | nan hs =>
    rw [List.append_assoc]
    refine beginsNoDate_sign hs (beginsNoDate_of_head fun c hc => ?_)
    cases hc
    rfl

end BuiltinLink.Toml
