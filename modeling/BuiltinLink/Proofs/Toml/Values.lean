import BuiltinLink.Proofs.Toml.Builder
import BuiltinLink.Proofs.Toml.Dates
import BuiltinLink.Proofs.Toml.Keys

/-!
The readers of values take exactly what the grammar of values allows. Arrays and tables between
braces are read by the reader of their members, which is right as far as the members nest; so the
reader of values is, by induction on how deep they may nest.
-/

namespace BuiltinLink.Toml

open Grammar

/-! ### Values that hold no others -/

/-- The characters that a number, a date or a time begins with. -/
def beginsNumber (c : Char) : Bool :=
  c.isDigit || c ∈ ['+', '-', 'i', 'n']

theorem beginsNumber_of_isDigit {c : Char} (h : c.isDigit) : beginsNumber c := by
  unfold beginsNumber
  rw [h]
  rfl

theorem Grammar.Number.exists_cons {v : Value} {t : List Char} (h : Number v t) :
    ∃ c t', t = c :: t' ∧ beginsNumber c := by
  cases h with
  | based => exact ⟨_, _, rfl, by decide⟩
  | integer hs ht | float hs ht =>
    obtain ⟨c, t', rfl, hc⟩ := ht.exists_cons
    cases hs with
    | none => exact ⟨_, _, rfl, beginsNumber_of_isDigit hc⟩
    | plus | minus => exact ⟨_, _, rfl, by decide⟩
  | infinite hs | nan hs => cases hs <;> exact ⟨_, _, rfl, by decide⟩

theorem Grammar.TwoDigits.exists_cons {low high n : Nat} {t : List Char}
    (h : TwoDigits low high n t) : ∃ c t', t = c :: t' ∧ beginsNumber c := by
  obtain ⟨a, b, x, y, rfl, ha, -⟩ := h
  exact ⟨a, [b], rfl, beginsNumber_of_isDigit (isDigit_of_digit? ha)⟩

theorem Grammar.Date.exists_cons {t : List Char} (h : Date t) :
    ∃ c t', t = c :: t' ∧ beginsNumber c := by
  obtain ⟨_, _, _, _, c, y, m, d, hc, -, -, -, rfl⟩ := h
  obtain ⟨a, c', rfl, ha⟩ := hc.exists_cons
  exact ⟨a, _, rfl, ha⟩

theorem Grammar.Time.exists_cons {t : List Char} (h : Time t) :
    ∃ c t', t = c :: t' ∧ beginsNumber c := by
  obtain ⟨_, _, _, u, m, s, f, hu, -, -, -, rfl⟩ := h
  obtain ⟨a, u', rfl, ha⟩ := hu.exists_cons
  exact ⟨a, _, rfl, ha⟩

theorem Grammar.Datetime.exists_cons {t : List Char} (h : Datetime t) :
    ∃ c t', t = c :: t' ∧ beginsNumber c := by
  cases h with
  | date h => exact h.exists_cons
  | time h => exact h.exists_cons
  | both hd =>
    obtain ⟨c, d', rfl, hc⟩ := hd.exists_cons
    exact ⟨c, _, rfl, hc⟩

theorem string?_eq_none {c : Char} (h : c ≠ '"' ∧ c ≠ '\'') (r : List Char) :
    string? (c :: r) = none := by
  apply string?.eq_5
  all_goals
    intro r' heq
    have hc := (List.cons.inj heq).1
  · exact h.1 hc
  · exact h.2 hc
  · exact h.1 hc
  · exact h.2 hc

theorem scalar?_other {c : Char} (h : c ≠ 't' ∧ c ≠ 'f') (r : List Char) :
    scalar? (c :: r) =
      match string? (c :: r) with
      | some (t, r) => some (.string (String.ofList t), r)
      | none => scalarNumber? (c :: r) :=
  scalar?.eq_3 _ (fun _ heq => h.1 (List.cons.inj heq).1) fun _ heq => h.2 (List.cons.inj heq).1

/-- What begins as a number or a date is read as one. -/
theorem scalar?_number {c : Char} (h : beginsNumber c) (r : List Char) :
    scalar? (c :: r) = scalarNumber? (c :: r) := by
  have hstring := string?_eq_none
    ⟨ne_of_holds h (by decide), ne_of_holds h (by decide)⟩ r
  rw [scalar?_other ⟨ne_of_holds h (by decide), ne_of_holds h (by decide)⟩, hstring]

theorem scalar?_sound {s r : List Char} {v : Value} (h : scalar? s = some (v, r)) :
    ∃ t, Scalar v t ∧ s = t ++ r := by
  unfold scalar? at h
  split at h
  · cases h
    exact ⟨_, .true, rfl⟩
  · cases h
    exact ⟨_, .false, rfl⟩
  · split at h
    · rename_i hs
      cases h
      obtain ⟨t, ht, hs⟩ := string?_sound hs
      exact ⟨t, .string ht, hs⟩
    · obtain ⟨t, ht | ⟨rfl, ht⟩, hs⟩ := scalarNumber?_sound h
      · exact ⟨t, .number ht, hs⟩
      · exact ⟨t, .datetime ht, hs⟩

theorem Follows.quotes {r : List Char} (h : Follows r) {q : Char} (hq : endsValue q = false) :
    quotes q r = 0 := by
  cases r with
  | nil => rfl
  | cons c r => exact quotes_cons_of_ne (h.head_ne rfl hq) r

theorem Grammar.StringText.exists_cons {cs t : List Char} (h : StringText cs t) :
    ∃ q escapes t', t = q :: t' ∧ Quote q escapes := by
  cases h with
  | single hq | multiline hq | trimmed hq => exact ⟨_, _, _, rfl, hq⟩

theorem scalar?_append {v : Value} {t r : List Char} (h : Scalar v t) (hr : Follows r) :
    scalar? (t ++ r) = some (v, r) := by
  cases h with
  | true => rfl
  | false => rfl
  | string h =>
    have hs := string?_append h (hr.quotes (by decide)) (hr.quotes (by decide))
    obtain ⟨q, escapes, t', rfl, hq⟩ := h.exists_cons
    rw [List.cons_append] at hs ⊢
    rw [scalar?_other (by cases hq <;> decide), hs]
  | number h =>
    have hs := scalarNumber?_number h hr
    obtain ⟨c, t', rfl, hc⟩ := h.exists_cons
    rw [List.cons_append] at hs ⊢
    rw [scalar?_number hc, hs]
  | datetime h =>
    have hs := scalarNumber?_datetime h hr
    obtain ⟨c, t', rfl, hc⟩ := h.exists_cons
    rw [List.cons_append] at hs ⊢
    rw [scalar?_number hc, hs]

/-! ### The reader of members -/

/-- The characters that a value begins with. -/
def beginsValue (c : Char) : Bool :=
  beginsNumber c || c ∈ ['t', 'f', '"', '\'', '[', '\x7b']

theorem isInk_of_beginsValue {c : Char} (h : beginsValue c) : isInk c :=
  isInk_of_holds h rfl

theorem beginsValue_of_beginsNumber {c : Char} (h : beginsNumber c) : beginsValue c := by
  unfold beginsValue
  rw [h]
  rfl

theorem Grammar.Scalar.exists_cons {v : Value} {t : List Char} (h : Scalar v t) :
    ∃ c t', t = c :: t' ∧ beginsValue c ∧ c ≠ '[' ∧ c ≠ '\x7b' := by
  cases h with
  | true | false => exact ⟨_, _, rfl, by decide, by decide, by decide⟩
  | string h =>
    obtain ⟨q, escapes, t', rfl, hq⟩ := h.exists_cons
    cases hq <;> exact ⟨_, _, rfl, by decide, by decide, by decide⟩
  | number h =>
    obtain ⟨c, t', rfl, hc⟩ := h.exists_cons
    exact ⟨c, t', rfl, beginsValue_of_beginsNumber hc, ne_of_holds hc (by decide),
      ne_of_holds hc (by decide)⟩
  | datetime h =>
    obtain ⟨c, t', rfl, hc⟩ := h.exists_cons
    exact ⟨c, t', rfl, beginsValue_of_beginsNumber hc, ne_of_holds hc (by decide),
      ne_of_holds hc (by decide)⟩

/-- A reader reads a language of values that can be assigned: it takes only texts of the language,
and each of them if what follows does not go on with a value. -/
structure Reader.Reads (value : Reader Value) (P : Value → List Char → Prop) : Prop where
  sound : ∀ {s r v}, value.read s = some (v, r) → ∃ t, P v t ∧ s = t ++ r
  complete : ∀ {v t r}, P v t → Follows r → value.read (t ++ r) = some (v, r)
  begins : ∀ {v t}, P v t → ∃ c t', t = c :: t' ∧ beginsValue c
  written : ∀ {v t}, P v t → Written v

section

variable {value : Reader Value} {P : Value → List Char → Prop}

/-! ### Arrays -/

theorem follows_cons {c : Char} (h : endsValue c) (hc : c ≠ ' ') (r : List Char) :
    Follows (c :: r) := by
  refine ⟨fun d hd => ?_, fun r' heq => absurd (List.cons.inj heq).1 hc⟩
  cases hd
  exact h

theorem endsValue_of_isBlank {c : Char} (h : isBlank c) : endsValue c := by
  simp only [isBlank, Bool.or_eq_true, beq_iff_eq] at h
  obtain rfl | rfl := h <;> decide

/-- Blanks before a text that may follow a value may follow it, too. -/
theorem Follows.blank {c : Char} {r : List Char} (h : Follows r) (hc : isBlank c) :
    Follows (c :: r) := by
  refine ⟨fun d hd => ?_, fun r' heq d hd => ?_⟩
  · cases hd
    exact endsValue_of_isBlank hc
  · rw [← (List.cons.inj heq).2] at hd
    exact isDigit_of_endsValue (h.1 d hd)

theorem Follows.blanks {b r : List Char} (h : Follows r) (hb : Blanks b) : Follows (b ++ r) := by
  induction b with
  | nil => exact h
  | cons c b ih =>
    obtain ⟨hc, hb⟩ := List.forall_mem_cons.1 hb
    exact (ih hb).blank hc

theorem follows_newline {e : List Char} (he : Newline e) (r : List Char) : Follows (e ++ r) := by
  obtain rfl | rfl := he <;> exact follows_cons (by decide) (by decide) _

theorem follows_comment {c : List Char} (hc : Comment c) {r : List Char} (hr : Follows r) :
    Follows (c ++ r) := by
  rcases hc with rfl | ⟨u, rfl, -⟩
  · exact hr
  · exact follows_cons (by decide) (by decide) _

theorem Follows.filler {f r : List Char} (h : Follows r) (hf : Filler f) : Follows (f ++ r) := by
  induction hf with
  | nil => exact h
  | blank hc _ ih => exact ih.blank hc
  | newline hc he =>
    rw [List.append_assoc, List.append_assoc]
    exact follows_comment hc (follows_newline he _)

theorem items?_sound (hvalue : value.Reads P) {s r : List Char} {vs : List Value}
    (h : items? value s = some (vs, r)) : ∃ u, Items P vs u ∧ s = u ++ ']' :: r := by
  fun_induction items? value s generalizing vs r with
  | case1 s r' hs =>
    cases h
    obtain ⟨f, hf, heq, -⟩ := exists_filler s
    exact ⟨f, .nil hf, by rw [← hs, ← heq]⟩
  | case2 => cases h
  | case3 s v r₀ r' hr _ hv ih =>
    obtain ⟨p, hp, hq⟩ := Option.map_eq_some_iff.1 h
    cases hq
    obtain ⟨f, hf, hs, -⟩ := exists_filler s
    obtain ⟨g, hg, hr₀, -⟩ := exists_filler r₀
    obtain ⟨t, ht, hst⟩ := hvalue.sound hv
    obtain ⟨u, hu, hr'⟩ := ih hp
    refine ⟨_, .comma hf ht hg hu, ?_⟩
    rw [hs, hst, hr₀, hr, hr']
    simp
  | case4 s v r₀ r' hr _ hv =>
    cases h
    obtain ⟨f, hf, hs, -⟩ := exists_filler s
    obtain ⟨g, hg, hr₀, -⟩ := exists_filler r₀
    obtain ⟨t, ht, hst⟩ := hvalue.sound hv
    refine ⟨_, .last hf ht hg, ?_⟩
    rw [hs, hst, hr₀, hr]
    simp
  | case5 => cases h

theorem Reader.Reads.skipFiller (hvalue : value.Reads P) {v : Value} {f t : List Char}
    (hf : Filler f) (ht : P v t) (r : List Char) :
    skipFiller (f ++ (t ++ r)) = t ++ r ∧ (t ++ r).head? ≠ some ']' := by
  obtain ⟨c, t', rfl, hc⟩ := hvalue.begins ht
  constructor
  · rw [skipFiller_append hf, List.cons_append, skipFiller_of_ink (isInk_of_beginsValue hc)]
  · intro h
    exact ne_of_holds hc (by decide) (Option.some.inj h)

theorem items?_comma (hvalue : value.Reads P) {v : Value} {f t g : List Char} (hf : Filler f)
    (ht : P v t) (hg : Filler g) (r : List Char) :
    items? value (f ++ (t ++ (g ++ ',' :: r))) =
      (items? value r).map fun p => (v :: p.1, p.2) := by
  obtain ⟨hskip, hne⟩ := hvalue.skipFiller hf ht (g ++ ',' :: r)
  have hread := hvalue.complete ht (r := g ++ ',' :: r)
    ((follows_cons (by decide) (by decide) r).filler hg)
  refine items?_more hskip hne hread ?_
  rw [skipFiller_append hg, skipFiller_of_ink (c := ',') rfl]

theorem items?_append (hvalue : value.Reads P) {vs : List Value} {u : List Char}
    (h : Items P vs u) (r : List Char) : items? value (u ++ ']' :: r) = some (vs, r) := by
  induction h with
  | nil hf =>
    refine items?_close ?_
    rw [skipFiller_append hf, skipFiller_of_ink (c := ']') rfl]
  | @last v f t g hf ht hg =>
    obtain ⟨hskip, hne⟩ := hvalue.skipFiller hf ht (g ++ ']' :: r)
    have hread := hvalue.complete ht (r := g ++ ']' :: r)
      ((follows_cons (by decide) (by decide) r).filler hg)
    rw [List.append_assoc, List.append_assoc]
    refine items?_last hskip hne hread ?_
    rw [skipFiller_append hg, skipFiller_of_ink (c := ']') rfl]
  | comma hf ht hg _ ih =>
    rw [List.append_assoc, List.append_assoc, List.append_assoc, List.cons_append,
      items?_comma hvalue hf ht hg, ih]
    rfl

/-! ### Tables between braces -/

/-- The most parts that a key may have, and the most that values may nest. -/
abbrev bound : Nat :=
  depthLimit - 1

theorem le_bound_iff {n : Nat} : n ≤ bound ↔ n < depthLimit :=
  Nat.le_sub_one_iff_lt (by decide)

theorem assignment?_sound (hvalue : value.Reads P) {s r : List Char} {a : Assignment}
    (h : assignment? value s = some (a, r)) : ∃ t, Pair bound P a t ∧ s = t ++ r := by
  unfold assignment? at h
  split at h
  · rename_i k r₀ hk
    obtain ⟨p, hp, hq⟩ := Option.map_eq_some_iff.1 h
    cases hq
    obtain ⟨u, hu, hlt, hs⟩ := boundedKey?_sound hk
    obtain ⟨b, hb, hr₀, -⟩ := exists_blanks r₀
    obtain ⟨t, ht, hst⟩ := hvalue.sound hp
    refine ⟨_, ⟨u, b, t, hu, le_bound_iff.2 hlt, hb, ht, rfl⟩, ?_⟩
    rw [hs, hr₀, hst]
    simp
  · cases h

theorem assignment?_append (hvalue : value.Reads P) {a : Assignment} {t r : List Char}
    (h : Pair bound P a t) (hr : Follows r) : assignment? value (t ++ r) = some (a, r) := by
  obtain ⟨k, b, u, hk, hle, hb, hu, rfl⟩ := h
  have hkey := boundedKey?_append hk (le_bound_iff.1 hle) (r := '=' :: (b ++ (u ++ r)))
    (followsKey_cons (by decide) _)
  have hread := hvalue.complete hu hr
  obtain ⟨c, u', rfl, hc⟩ := hvalue.begins hu
  rw [List.append_assoc, List.cons_append, List.append_assoc, assignment?.eq_1, hkey]
  rw [List.cons_append] at hread ⊢
  simp only [skipBlanks_append hb, skipBlanks_of_not_blank (isBlank_of_isInk (isInk_of_beginsValue hc)),
    hread, Option.map_some]

theorem Grammar.Pair.blanks {b t : List Char} {parts : Nat} {a : Assignment} (hb : Blanks b)
    (h : Pair parts P a t) : Pair parts P a (b ++ t) := by
  obtain ⟨k, b', u, hk, hle, hb', hu, rfl⟩ := h
  exact ⟨b ++ k, b', u, hk.blanks hb, hle, hb', hu, by simp⟩

theorem Grammar.Pairs.blanks {b t : List Char} {parts : Nat} {l : List Assignment} (hb : Blanks b)
    (h : Pairs parts P l t) : Pairs parts P l (b ++ t) := by
  cases h with
  | last ht hb' =>
    rw [← List.append_assoc]
    exact .last (ht.blanks hb) hb'
  | comma ht hb' h =>
    rw [← List.append_assoc]
    exact .comma (ht.blanks hb) hb' h

theorem pairs?_sound (hvalue : value.Reads P) {s r : List Char} {l : List Assignment}
    (h : pairs? value s = some (l, r)) : ∃ t, Pairs bound P l t ∧ s = t ++ '\x7d' :: r := by
  fun_induction pairs? value s generalizing l r with
  | case1 => cases h
  | case2 s a r₀ ha r' hr ih =>
    obtain ⟨p, hp, hq⟩ := Option.map_eq_some_iff.1 h
    cases hq
    obtain ⟨t, ht, hs⟩ := assignment?_sound hvalue ha
    obtain ⟨b, hb, hr₀, -⟩ := exists_blanks r₀
    obtain ⟨u, hu, hr'⟩ := ih hp
    refine ⟨_, .comma ht hb hu, ?_⟩
    rw [hs, hr₀, hr, hr']
    simp
  | case3 s a r₀ ha r' hr =>
    cases h
    obtain ⟨t, ht, hs⟩ := assignment?_sound hvalue ha
    obtain ⟨b, hb, hr₀, -⟩ := exists_blanks r₀
    refine ⟨_, .last ht hb, ?_⟩
    rw [hs, hr₀, hr]
    simp
  | case4 => cases h

theorem pairs?_append (hvalue : value.Reads P) {l : List Assignment} {t : List Char}
    (h : Pairs bound P l t) (r : List Char) : pairs? value (t ++ '\x7d' :: r) = some (l, r) := by
  induction h with
  | @last a t b ht hb =>
    have hpair := assignment?_append hvalue ht (r := b ++ '\x7d' :: r)
      ((follows_cons (by decide) (by decide) r).blanks hb)
    rw [List.append_assoc, pairs?_eq, hpair]
    simp only [skipBlanks_append hb, skipBlanks_of_not_blank (c := '\x7d') rfl]
  | @comma a l t b u ht hb _ ih =>
    have hpair := assignment?_append hvalue ht (r := b ++ ',' :: (u ++ '\x7d' :: r))
      ((follows_cons (by decide) (by decide) _).blanks hb)
    rw [List.append_assoc, List.append_assoc, List.cons_append, pairs?_eq, hpair]
    simp only [skipBlanks_append hb, skipBlanks_of_not_blank (c := ',') rfl, ih, Option.map_some]

theorem Reader.Reads.written_pairs (hvalue : value.Reads P) {parts : Nat} {l : List Assignment}
    {t : List Char} (h : Pairs parts P l t) : ∀ a ∈ l, Written a.value :=
  fun a ha => (h.exists_text a ha).elim fun _ hu => hvalue.written hu

theorem braces?_sound (hvalue : value.Reads P) {s r : List Char} {v : Value}
    (h : braces? value s = some (v, r)) : ∃ u, Braces bound P v u ∧ s = u ++ '\x7d' :: r := by
  obtain ⟨b, hb, hs, -⟩ := exists_blanks s
  unfold braces? at h
  split at h
  · rename_i heq
    cases h
    exact ⟨b, .inl ⟨rfl, hb⟩, by rw [← heq, ← hs]⟩
  · obtain ⟨⟨l, r'⟩, hl, h⟩ := Option.bind_eq_some_iff.1 h
    obtain ⟨w, hw, h⟩ := Option.bind_eq_some_iff.1 h
    cases h
    obtain ⟨t, ht, hst⟩ := pairs?_sound hvalue hl
    obtain ⟨es, hes, rfl⟩ := (inlineTable?_eq_some_iff (hvalue.written_pairs ht)).1 hw
    exact ⟨b ++ t, .inr ⟨l, es, ht.blanks hb, hes, rfl⟩, by rw [List.append_assoc, ← hst, ← hs]⟩

theorem Grammar.Pairs.exists_blanks {parts : Nat} {l : List Assignment} {t : List Char}
    (h : Pairs parts P l t) :
    ∃ b c u, Blanks b ∧ t = b ++ c :: u ∧ beginsKey c ∧ Pairs parts P l (c :: u) := by
  cases h with
  | last ht hb' =>
    obtain ⟨k, b', u, hk, hle, hb₀, hu, rfl⟩ := ht
    obtain ⟨b, c, k', hb, rfl, hc, hk'⟩ := hk.exists_blanks
    refine ⟨b, c, _, hb, ?_, hc, .last ⟨_, b', u, hk', hle, hb₀, hu, rfl⟩ hb'⟩
    simp
  | comma ht hb' h =>
    obtain ⟨k, b', u, hk, hle, hb₀, hu, rfl⟩ := ht
    obtain ⟨b, c, k', hb, rfl, hc, hk'⟩ := hk.exists_blanks
    refine ⟨b, c, _, hb, ?_, hc, .comma ⟨_, b', u, hk', hle, hb₀, hu, rfl⟩ hb' h⟩
    simp

theorem braces?_append (hvalue : value.Reads P) {v : Value} {u : List Char}
    (h : Braces bound P v u) (r : List Char) :
    braces? value (u ++ '\x7d' :: r) = some (v, r) := by
  unfold braces?
  rcases h with ⟨rfl, hu⟩ | ⟨l, es, hu, hes, rfl⟩
  · rw [skipBlanks_append hu, skipBlanks_of_not_blank (c := '\x7d') rfl]
    rfl
  · have hv := (inlineTable?_eq_some_iff (hvalue.written_pairs hu)).2 ⟨es, hes, rfl⟩
    obtain ⟨b, c, u', hb, rfl, hc, hu'⟩ := hu.exists_blanks
    have hpairs := pairs?_append hvalue hu' r
    rw [List.append_assoc, skipBlanks_append hb, List.cons_append,
      skipBlanks_of_not_blank (isBlank_of_isInk (isInk_of_beginsKey hc))]
    split
    · rename_i heq
      exact absurd (List.cons.inj heq).1 (ne_of_holds hc (by decide))
    · exact Option.bind_eq_some_iff.2
        ⟨(l, r), hpairs, Option.bind_eq_some_iff.2 ⟨_, hv, rfl⟩⟩

end

/-! ### All values -/

theorem value_read_of_scalar {v : Value} {t r : List Char} (h : Scalar v t) (hr : Follows r)
    (depth : Nat) : (value depth).read (t ++ r) = some (v, r) := by
  have hread := scalar?_append h hr
  obtain ⟨c, t', rfl, -, hbracket, hbrace⟩ := h.exists_cons
  rw [List.cons_append] at hread ⊢
  rw [value_read_scalar depth _ hbracket hbrace, hread]

/-- Values are read as the grammar has them, as deep as they may nest. -/
theorem reads_value (depth : Nat) : (value depth).Reads (ValueText bound depth) := by
  induction depth with
  | zero =>
    refine ⟨scalar?_sound, scalar?_append, fun h => ?_, ValueText.written⟩
    obtain ⟨c, t', rfl, hc, -⟩ := h.exists_cons
    exact ⟨c, t', rfl, hc⟩
  | succ depth ih =>
    refine ⟨?sound, ?complete, ?begins, ValueText.written⟩
    case sound =>
      intro s r v h
      unfold value at h
      dsimp only at h
      split at h
      · obtain ⟨p, hp, hq⟩ := Option.map_eq_some_iff.1 h
        cases hq
        obtain ⟨u, hu, rfl⟩ := items?_sound ih hp
        exact ⟨_, .inr (.inl ⟨p.1, u, rfl, rfl, hu⟩), by simp⟩
      · obtain ⟨u, hu, rfl⟩ := braces?_sound ih h
        exact ⟨_, .inr (.inr ⟨u, rfl, hu⟩), by simp⟩
      · obtain ⟨t, ht, hs⟩ := scalar?_sound h
        exact ⟨t, .inl ht, hs⟩
    case complete =>
      intro v t r h hr
      rcases h with h | ⟨vs, u, rfl, rfl, hu⟩ | ⟨u, rfl, hu⟩
      · exact value_read_of_scalar h hr (depth + 1)
      · rw [List.cons_append, List.append_assoc, List.singleton_append, value_read_array,
          items?_append ih hu]
        rfl
      · rw [List.cons_append, List.append_assoc, List.singleton_append, value_read_braces,
          braces?_append ih hu]
    case begins =>
      intro v t h
      rcases h with h | ⟨vs, u, rfl, rfl, hu⟩ | ⟨u, rfl, hu⟩
      · obtain ⟨c, t', rfl, hc, -⟩ := h.exists_cons
        exact ⟨c, t', rfl, hc⟩
      · exact ⟨'[', _, rfl, by decide⟩
      · exact ⟨'\x7b', _, rfl, by decide⟩

end BuiltinLink.Toml
