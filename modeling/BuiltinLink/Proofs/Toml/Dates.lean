import BuiltinLink.Proofs.Toml.Numbers

/-!
The readers of dates and times take exactly what the grammar allows. They are tried before the
reader of numbers, so a number must begin no date.
-/

namespace BuiltinLink.Toml

open Grammar

/-! ### Dates -/

theorem twoDigits?_eq_some_iff {low high n : Nat} {s r : List Char} :
    twoDigits? low high s = some (n, r) ↔ ∃ t, TwoDigits low high n t ∧ s = t ++ r := by
  constructor
  · intro h
    revert h
    fun_cases twoDigits? low high s with
    | case1 a b r' =>
      intro h
      obtain ⟨x, hx, h⟩ := Option.bind_eq_some_iff.1 h
      obtain ⟨y, hy, h⟩ := Option.bind_eq_some_iff.1 h
      dsimp only at h
      split at h
      · rename_i hrange
        cases h
        exact ⟨[a, b], ⟨a, b, x, y, rfl, hx, hy, rfl, hrange⟩, rfl⟩
      · cases h
    | case2 => intro h; cases h
  · intro h
    obtain ⟨t, ⟨a, b, x, y, rfl, hx, hy, rfl, hrange⟩, rfl⟩ := h
    rw [List.cons_append, List.cons_append, List.nil_append, twoDigits?.eq_1, hx, hy]
    exact if_pos hrange

theorem twoDigits?_append {low high n : Nat} {t : List Char} (h : TwoDigits low high n t)
    (r : List Char) : twoDigits? low high (t ++ r) = some (n, r) :=
  twoDigits?_eq_some_iff.2 ⟨t, h, rfl⟩

theorem Grammar.TwoDigits.isDigit {low high n : Nat} {t : List Char} (h : TwoDigits low high n t) :
    t ≠ [] ∧ ∀ c ∈ t, c.isDigit := by
  obtain ⟨a, b, x, y, rfl, hx, hy, -⟩ := h
  refine ⟨List.cons_ne_nil _ _, fun c hc => ?_⟩
  simp only [List.mem_cons, List.not_mem_nil, or_false] at hc
  rcases hc with rfl | rfl
  · exact isDigit_of_digit? hx
  · exact isDigit_of_digit? hy

theorem after?_cons (c : Char) (r : List Char) : after? c (c :: r) = some r :=
  if_pos rfl

theorem eq_cons_of_after? {c : Char} {s r : List Char} (h : after? c s = some r) : s = c :: r := by
  revert h
  fun_cases after? c s with
  | case1 => intro h; rw [Option.some.inj h]
  | case2 => intro h; cases h
  | case3 => intro h; cases h

theorem date?_sound {s r : List Char} (h : date? s = some r) : ∃ t, Date t ∧ s = t ++ r := by
  obtain ⟨⟨century, r₁⟩, hcentury, h⟩ := Option.bind_eq_some_iff.1 h
  obtain ⟨⟨year, r₂⟩, hyear, h⟩ := Option.bind_eq_some_iff.1 h
  obtain ⟨r₃, hr₃, h⟩ := Option.bind_eq_some_iff.1 h
  obtain ⟨⟨month, r₄⟩, hmonth, h⟩ := Option.bind_eq_some_iff.1 h
  obtain ⟨r₅, hr₅, h⟩ := Option.bind_eq_some_iff.1 h
  obtain ⟨⟨day, r₆⟩, hday, h⟩ := Option.bind_eq_some_iff.1 h
  cases h
  obtain ⟨c, hc, rfl⟩ := twoDigits?_eq_some_iff.1 hcentury
  obtain ⟨y, hy, rfl⟩ := twoDigits?_eq_some_iff.1 hyear
  obtain ⟨m, hm, rfl⟩ := twoDigits?_eq_some_iff.1 hmonth
  obtain ⟨d, hd, rfl⟩ := twoDigits?_eq_some_iff.1 hday
  rw [eq_cons_of_after? hr₃, eq_cons_of_after? hr₅]
  exact ⟨_, ⟨century, year, month, day, c, y, m, d, hc, hy, hm, hd, rfl⟩, by simp⟩

theorem date?_append {t : List Char} (h : Date t) (r : List Char) : date? (t ++ r) = some r := by
  obtain ⟨century, year, month, day, c, y, m, d, hc, hy, hm, hd, rfl⟩ := h
  simp only [List.append_assoc, List.cons_append, date?, twoDigits?_append hc, twoDigits?_append hy,
    twoDigits?_append hm, twoDigits?_append hd, after?_cons, Option.bind_eq_bind, Option.bind_some,
    Option.pure_def]

/-! ### Times -/

theorem time?_sound {s r : List Char} (h : time? s = some r) : ∃ t, Time t ∧ s = t ++ r := by
  obtain ⟨⟨hour, r₁⟩, hhour, h⟩ := Option.bind_eq_some_iff.1 h
  obtain ⟨r₂, hr₂, h⟩ := Option.bind_eq_some_iff.1 h
  obtain ⟨⟨minute, r₃⟩, hminute, h⟩ := Option.bind_eq_some_iff.1 h
  obtain ⟨r₄, hr₄, h⟩ := Option.bind_eq_some_iff.1 h
  obtain ⟨⟨second, r₅⟩, hsecond, h⟩ := Option.bind_eq_some_iff.1 h
  have hfraction : ∃ f, SecondFraction f ∧ r₅ = f ++ r := by
    dsimp only at h
    split at h
    · rename_i c r'
      split at h
      · rename_i hc
        cases h
        have hdigits : ∀ d ∈ r'.takeWhile Char.isDigit, d.isDigit :=
          List.all_eq_true.1 List.all_takeWhile
        refine ⟨'.' :: c :: r'.takeWhile Char.isDigit,
          .inr ⟨c, _, rfl, List.forall_mem_cons.2 ⟨hc, hdigits⟩⟩, ?_⟩
        rw [List.cons_append, List.cons_append, List.takeWhile_append_dropWhile]
      · cases h
        exact ⟨[], .inl rfl, rfl⟩
    · cases h
      exact ⟨[], .inl rfl, rfl⟩
  obtain ⟨f, hf, rfl⟩ := hfraction
  obtain ⟨t, ht, rfl⟩ := twoDigits?_eq_some_iff.1 hhour
  obtain ⟨m, hm, rfl⟩ := twoDigits?_eq_some_iff.1 hminute
  obtain ⟨u, hu, rfl⟩ := twoDigits?_eq_some_iff.1 hsecond
  rw [eq_cons_of_after? hr₂, eq_cons_of_after? hr₄]
  exact ⟨_, ⟨hour, minute, second, t, m, u, f, ht, hm, hu, hf, rfl⟩, by simp⟩

theorem time?_append {t : List Char} (h : Time t) {r : List Char}
    (hr : ∀ c ∈ r.head?, c ≠ '.' ∧ c.isDigit = false) : time? (t ++ r) = some r := by
  obtain ⟨hour, minute, second, h, m, s, f, hh, hm, hs, hf, rfl⟩ := h
  simp only [List.append_assoc, List.cons_append, time?, twoDigits?_append hh, twoDigits?_append hm,
    twoDigits?_append hs, after?_cons, Option.bind_eq_bind, Option.bind_some]
  rcases hf with rfl | ⟨c, u, rfl, hu⟩
  · rw [List.nil_append]
    split
    · exact absurd rfl (hr _ rfl).1
    · rfl
  · obtain ⟨hc, hu⟩ := List.forall_mem_cons.1 hu
    rw [List.cons_append, List.cons_append]
    simp only [if_pos hc, List.dropWhile_append_of_pos hu]
    cases r with
    | nil => rfl
    | cons d r =>
      rw [List.dropWhile_cons_of_neg (by rw [(hr d rfl).2]; decide)]
      rfl

/-- Either sign is followed by hours and minutes. -/
theorem offset?_sign {sign : Char} (h : sign = '+' ∨ sign = '-') (s : List Char) :
    offset? (sign :: s) = (twoDigits? 0 23 s).bind fun p =>
      (after? ':' p.2).bind fun r => (twoDigits? 0 59 r).bind fun p => some p.2 := by
  obtain rfl | rfl := h <;> rfl

theorem exists_of_offset? {s r : List Char} {sign : Char} (hsign : sign = '+' ∨ sign = '-')
    (h : offset? (sign :: s) = some r) : ∃ t, Offset t ∧ sign :: s = t ++ r := by
  rw [offset?_sign hsign] at h
  obtain ⟨⟨hour, r₁⟩, hhour, h⟩ := Option.bind_eq_some_iff.1 h
  obtain ⟨r₂, hr₂, h⟩ := Option.bind_eq_some_iff.1 h
  obtain ⟨⟨minute, r₃⟩, hminute, h⟩ := Option.bind_eq_some_iff.1 h
  cases h
  obtain ⟨t, ht, rfl⟩ := twoDigits?_eq_some_iff.1 hhour
  obtain ⟨m, hm, rfl⟩ := twoDigits?_eq_some_iff.1 hminute
  dsimp only at hr₂ ⊢
  rw [eq_cons_of_after? hr₂]
  exact ⟨_, .inr (.inr (.inr ⟨sign, hour, minute, t, m, hsign, ht, hm, rfl⟩)), by simp⟩

theorem offset?_sound {s r : List Char} (h : offset? s = some r) :
    ∃ t, Offset t ∧ s = t ++ r := by
  revert h
  fun_cases offset? s with
  | case1 => intro h; cases h; exact ⟨['Z'], .inr (.inl rfl), rfl⟩
  | case2 => intro h; cases h; exact ⟨['z'], .inr (.inr (.inl rfl)), rfl⟩
  | case3 => exact exists_of_offset? (.inl rfl)
  | case4 => exact exists_of_offset? (.inr rfl)
  | case5 => intro h; cases h; exact ⟨[], .inl rfl, rfl⟩

theorem offset?_append {t : List Char} (h : Offset t) {r : List Char} (hr : Follows r) :
    offset? (t ++ r) = some r := by
  rcases h with rfl | rfl | rfl | ⟨sign, hour, minute, h, m, hsign, hh, hm, rfl⟩
  · refine offset?.eq_5 r ?_ ?_ ?_ ?_
    all_goals exact fun r' => hr.ne_cons (by decide) r'
  · rfl
  · rfl
  · simp only [List.append_assoc, List.cons_append, offset?_sign hsign, twoDigits?_append hh,
      twoDigits?_append hm, after?_cons, Option.bind_some]

/-! ### Dates with times -/

theorem datetime?_sound {s r : List Char} (h : datetime? s = some r) :
    ∃ t, Datetime t ∧ s = t ++ r := by
  unfold datetime? at h
  split at h
  · rename_i r₀ hdate
    obtain ⟨d, hd, rfl⟩ := date?_sound hdate
    split at h
    · rename_i c r'
      split at h
      · rename_i hc
        split at h
        · rename_i r'' htime
          obtain ⟨t, ht, rfl⟩ := time?_sound htime
          obtain ⟨o, ho, rfl⟩ := offset?_sound h
          exact ⟨_, .both hd hc ht ho, by simp⟩
        · cases h
          exact ⟨d, .date hd, rfl⟩
      · cases h
        exact ⟨d, .date hd, rfl⟩
    · cases h
      exact ⟨d, .date hd, rfl⟩
  · obtain ⟨t, ht, hs⟩ := time?_sound h
    exact ⟨t, .time ht, hs⟩

/-- A time begins with two digits and a colon, a date with four digits. -/
theorem date?_time {t : List Char} (h : Time t) (r : List Char) : date? (t ++ r) = none := by
  cases hdate : date? (t ++ r) with
  | none => rfl
  | some r' =>
    obtain ⟨hour, minute, second, h, m, s, f, ⟨a, b, -, -, rfl, -⟩, -, -, -, rfl⟩ := h
    obtain ⟨d, ⟨_, _, _, _, c, y, _, _, ⟨a', b', -, -, rfl, -⟩, ⟨e, e', x, -, rfl, he, -⟩, -, -, rfl⟩,
      heq⟩ := date?_sound hdate
    simp only [List.cons_append, List.nil_append, List.cons.injEq] at heq
    rw [← heq.2.2.1] at he
    cases he

theorem isDigit_of_endsValue {c : Char} (h : endsValue c) : c.isDigit = false := by
  have hnone := digit?_eq_none_of_endsValue h
  unfold digit? at hnone
  split at hnone
  · cases hnone
  · exact Bool.eq_false_iff.2 ‹_›

theorem Follows.stopsTime {r : List Char} (h : Follows r) :
    ∀ c ∈ r.head?, c ≠ '.' ∧ c.isDigit = false :=
  fun c hc => ⟨h.head_ne hc (by decide), isDigit_of_endsValue (h.1 c hc)⟩

theorem Grammar.Offset.stopsTime {o r : List Char} (ho : Offset o) (hr : Follows r) :
    ∀ c ∈ (o ++ r).head?, c ≠ '.' ∧ c.isDigit = false := by
  rcases ho with rfl | rfl | rfl | ⟨sign, _, _, _, _, rfl | rfl, -, -, rfl⟩
  · exact hr.stopsTime
  all_goals
    intro c hc
    cases hc
    decide

theorem time?_eq_none {s : List Char} (h : ∀ c ∈ s.head?, c.isDigit = false) : time? s = none := by
  cases htime : time? s with
  | none => rfl
  | some r =>
    obtain ⟨t, ⟨_, _, _, _, _, _, _, ⟨a, b, x, -, rfl, ha, -⟩, -, -, -, rfl⟩, rfl⟩ :=
      time?_sound htime
    have := isDigit_of_digit? ha
    rw [h a rfl] at this
    cases this

theorem datetime?_append {t r : List Char} (h : Datetime t) (hr : Follows r) :
    datetime? (t ++ r) = some r := by
  unfold datetime?
  cases h with
  | date h =>
    rw [date?_append h]
    cases r with
    | nil => rfl
    | cons c r =>
      dsimp only
      split
      · rename_i hc
        rcases hc with rfl | rfl | rfl
        · exact absurd rfl (hr.ne_cons (by decide) r)
        · exact absurd rfl (hr.ne_cons (by decide) r)
        · rw [time?_eq_none (hr.2 r rfl)]
      · rfl
  | time h =>
    rw [date?_time h]
    exact time?_append h hr.stopsTime
  | both hd hc ht ho =>
    rw [List.append_assoc, date?_append hd, List.cons_append, List.append_assoc]
    dsimp only
    rw [if_pos hc, time?_append ht (ho.stopsTime hr)]
    exact offset?_append ho hr

theorem datetime?_eq_none {s : List Char} (h : BeginsNoDate s) : datetime? s = none := by
  have hdate : date? s = none := by
    cases hd : date? s with
    | none => rfl
    | some r =>
      obtain ⟨t, ⟨_, _, _, _, c, y, m, d, hc, hy, -, -, rfl⟩, hs⟩ := date?_sound hd
      refine absurd rfl (h (c ++ y) '-' (m ++ '-' :: d ++ r) ?_ ?_ ?_).1
      · simp [hc.isDigit.1]
      · exact List.forall_mem_append.2 ⟨hc.isDigit.2, hy.isDigit.2⟩
      · simp [hs]
  unfold datetime?
  rw [hdate]
  dsimp only
  cases ht : time? s with
  | none => rfl
  | some r =>
    obtain ⟨t, ⟨_, _, _, d, m, u, f, hd, -, -, -, rfl⟩, hs⟩ := time?_sound ht
    refine absurd rfl (h d ':' (m ++ ':' :: (u ++ f) ++ r) hd.isDigit.1 hd.isDigit.2 ?_).2
    simp [hs]

/-! ### Numbers and dates -/

theorem scalarNumber?_sound {s r : List Char} {v : Value} (h : scalarNumber? s = some (v, r)) :
    ∃ t, (Number v t ∨ v = .datetime ∧ Datetime t) ∧ s = t ++ r := by
  unfold scalarNumber? at h
  split at h
  · rename_i hdatetime
    cases h
    obtain ⟨t, ht, hs⟩ := datetime?_sound hdatetime
    exact ⟨t, .inr ⟨rfl, ht⟩, hs⟩
  · obtain ⟨t, ht, hs⟩ := number?_sound h
    exact ⟨t, .inl ht, hs⟩

theorem scalarNumber?_number {v : Value} {t r : List Char} (h : Number v t) (hr : Follows r) :
    scalarNumber? (t ++ r) = some (v, r) := by
  unfold scalarNumber?
  rw [datetime?_eq_none (h.beginsNoDate hr)]
  exact number?_append h hr

theorem scalarNumber?_datetime {t r : List Char} (h : Datetime t) (hr : Follows r) :
    scalarNumber? (t ++ r) = some (.datetime, r) := by
  unfold scalarNumber?
  rw [datetime?_append h hr]

end BuiltinLink.Toml
