import BuiltinLink.Proofs.Toml.Layout
import BuiltinLink.Proofs.Toml.Text

/-!
The readers of strings take exactly what the grammar of strings allows. Over several lines all
depends on how many quotes stand ahead: never two, which would close the string too early if one
more came before them, and never more than five.
-/

namespace BuiltinLink.Toml

open Grammar

/-! ### Escapes -/

theorem numbered?_eq_some_iff {n : Nat} {s r : List Char} {c : Char} :
    Text.numbered? n s = some (c, r) ↔
      ∃ t ds, t.length = n ∧ s = t ++ r ∧ t.mapM Text.hexValue? = some ds ∧
        (ofDigits 16 ds).isValidChar ∧ c = Char.ofNat (ofDigits 16 ds) := by
  unfold Text.numbered?
  constructor
  · intro h
    split at h
    · rename_i hlength
      obtain ⟨ds, hds, h⟩ := Option.bind_eq_some_iff.1 h
      dsimp only at h
      split at h
      · rename_i hvalid
        cases h
        exact ⟨s.take n, ds, hlength, (List.take_append_drop n s).symm, hds, hvalid, rfl⟩
      · cases h
    · cases h
  · intro h'
    rcases h' with ⟨t, ds, rfl, rfl, hds, hvalid, rfl⟩
    rw [List.take_left, if_pos rfl, List.drop_left, hds]
    exact if_pos hvalid

theorem escape?_sound {s r : List Char} {c : Char} (h : escape? s = some (c, r)) :
    ∃ e, Escape c e ∧ s = e ++ r := by
  revert h
  fun_cases escape? s with
  | case8 r' =>
    intro h
    obtain ⟨t, ds, hlength, rfl, hds, hvalid, rfl⟩ := numbered?_eq_some_iff.1 h
    exact ⟨'u' :: t, .number (.inl ⟨rfl, hlength⟩) hds hvalid, rfl⟩
  | case9 r' =>
    intro h
    obtain ⟨t, ds, hlength, rfl, hds, hvalid, rfl⟩ := numbered?_eq_some_iff.1 h
    exact ⟨'U' :: t, .number (.inr ⟨rfl, hlength⟩) hds hvalid, rfl⟩
  | case10 => intro h; cases h
  | _ =>
    intro h
    cases h
    exact ⟨_, .letter (by decide), rfl⟩

theorem escape?_append {c : Char} {e : List Char} (h : Escape c e) (r : List Char) :
    escape? (e ++ r) = some (c, r) := by
  cases h with
  | letter h =>
    simp only [letters, List.mem_cons, Prod.mk.injEq, List.not_mem_nil, or_false] at h
    obtain ⟨rfl, rfl⟩ | ⟨rfl, rfl⟩ | ⟨rfl, rfl⟩ | ⟨rfl, rfl⟩ | ⟨rfl, rfl⟩ | ⟨rfl, rfl⟩ |
      ⟨rfl, rfl⟩ := h <;> rfl
  | number hlength hds hvalid =>
    rcases hlength with ⟨rfl, hlength⟩ | ⟨rfl, hlength⟩
    · exact numbered?_eq_some_iff.2 ⟨_, _, hlength, rfl, hds, hvalid, rfl⟩
    · exact numbered?_eq_some_iff.2 ⟨_, _, hlength, rfl, hds, hvalid, rfl⟩

/-! ### Strings on one line -/

theorem exists_of_map_cons {o : Option (List Char × List Char)} {c : Char} {cs r : List Char}
    (h : o.map (cons c) = some (cs, r)) : ∃ cs', o = some (cs', r) ∧ cs = c :: cs' := by
  obtain ⟨p, hp, hq⟩ := Option.map_eq_some_iff.1 h
  cases hq
  exact ⟨p.1, hp, rfl⟩

theorem basic?_sound {s cs r : List Char} (h : basic? s = some (cs, r)) :
    ∃ t, Single '"' true cs t ∧ s = t ++ '"' :: r := by
  fun_induction basic? s generalizing cs r with
  | case1 => cases h
  | case2 =>
    cases h
    exact ⟨[], .nil, rfl⟩
  | case3 r₀ c r' he ih =>
    obtain ⟨cs', hcs, rfl⟩ := exists_of_map_cons h
    obtain ⟨e, hescape, rfl⟩ := escape?_sound he
    obtain ⟨t, ht, rfl⟩ := ih hcs
    exact ⟨_, .escape rfl hescape ht, by simp⟩
  | case4 => cases h
  | case5 c r' hq hb hc ih =>
    obtain ⟨cs', hcs, rfl⟩ := exists_of_map_cons h
    obtain ⟨t, ht, rfl⟩ := ih hcs
    exact ⟨_, .text hc hq (fun _ => hb) ht, rfl⟩
  | case6 => cases h

theorem basic?_append {cs t : List Char} (h : Single '"' true cs t) (r : List Char) :
    basic? (t ++ '"' :: r) = some (cs, r) := by
  induction h with
  | nil => exact basic?_close r
  | text hc hq hb _ ih =>
    rw [List.cons_append, basic?_text _ hc hq (hb rfl), ih]
    rfl
  | escape _ he _ ih =>
    rw [List.cons_append, List.append_assoc, basic?_escape (escape?_append he _), ih]
    rfl

theorem literal?_sound {s cs r : List Char} (h : literal? s = some (cs, r)) :
    ∃ t, Single '\'' false cs t ∧ s = t ++ '\'' :: r := by
  fun_induction literal? s generalizing cs r with
  | case1 => cases h
  | case2 =>
    cases h
    exact ⟨[], .nil, rfl⟩
  | case3 c r' hq hc ih =>
    obtain ⟨cs', hcs, rfl⟩ := exists_of_map_cons h
    obtain ⟨t, ht, rfl⟩ := ih hcs
    exact ⟨_, .text hc hq (fun h => by cases h) ht, rfl⟩
  | case4 => cases h

theorem literal?_append {cs t : List Char} (h : Single '\'' false cs t) (r : List Char) :
    literal? (t ++ '\'' :: r) = some (cs, r) := by
  induction h with
  | nil => exact literal?_close r
  | text hc hq _ _ ih =>
    rw [List.cons_append, literal?_text _ hc hq, ih]
    rfl
  | escape hescapes => cases hescapes

/-! ### Quotes ahead of the reader -/

/-- Behind `run` quotes of a text, what the quotes ahead of the reader may be: so few that they
belong to the text with those behind, or closing quotes with at most two of the text before them. -/
def QuotesAhead (q : Char) (run : Nat) (s : List Char) : Prop :=
  quotes q s ≤ 2 - run ∨ 3 ≤ quotes q s ∧ quotes q s ≤ 5 - run

theorem quotesAhead_of_none {q : Char} {s : List Char} (h : quotes q s = 0) (run : Nat) :
    QuotesAhead q run s := by
  left
  omega

theorem quotesAhead_close {q : Char} {run : Nat} {r : List Char} (h : run ≤ 2)
    (hr : quotes q r = 0) : QuotesAhead q run ([q, q, q] ++ r) := by
  right
  simp only [List.cons_append, List.nil_append, quotes_cons_self, hr]
  omega

theorem quotesAhead_cons {q : Char} {run : Nat} {s : List Char} (h : run < 2)
    (hs : QuotesAhead q (run + 1) s) : QuotesAhead q run (q :: s) := by
  unfold QuotesAhead at hs ⊢
  rw [quotes_cons_self]
  omega

theorem Grammar.Quote.ne {q : Char} {escapes : Bool} (h : Quote q escapes) :
    q ≠ '\\' ∧ q ≠ '\n' ∧ q ≠ '\r' := by
  cases h <;> decide

theorem quotes_newline {q : Char} {escapes : Bool} (hq : Quote q escapes) {e : List Char}
    (he : Newline e) (r : List Char) : quotes q (e ++ r) = 0 := by
  obtain ⟨-, hn, hr⟩ := hq.ne
  rcases he with rfl | rfl
  · exact quotes_cons_of_ne hn.symm _
  · exact quotes_cons_of_ne hr.symm _

theorem Grammar.Multiline.quotesAhead {q : Char} {escapes : Bool} (hq : Quote q escapes) {run : Nat}
    {cs t : List Char} (h : Multiline q escapes run cs t) (hrun : run ≤ 2) {r : List Char}
    (hr : quotes q r = 0) : QuotesAhead q run (t ++ ([q, q, q] ++ r)) := by
  induction h with
  | nil => exact quotesAhead_close hrun hr
  | quote hlt _ ih => exact quotesAhead_cons hlt (ih hlt)
  | text _ hne => exact quotesAhead_of_none (quotes_cons_of_ne hne _) _
  | newline he =>
    rw [List.append_assoc]
    exact quotesAhead_of_none (quotes_newline hq he _) _
  | escape | join => exact quotesAhead_of_none (quotes_cons_of_ne hq.ne.1.symm _) _

theorem close?_three {q : Char} {r : List Char} (hr : quotes q r = 0) :
    close? q (q :: q :: q :: r) = some ([], r) := by
  have hq : quotes q (q :: q :: q :: r) = 3 := by
    simp only [quotes_cons_self, hr]
  rw [close?_of_le (by omega) (by omega), hq]
  rfl

theorem eq_replicate_append {q : Char} {n : Nat} {s : List Char} (h : n ≤ quotes q s) :
    s = List.replicate n q ++ s.drop n := by
  induction n generalizing s with
  | zero => rfl
  | succ n ih =>
    obtain ⟨t, rfl⟩ := exists_of_quotes_pos (Nat.lt_of_lt_of_le n.succ_pos h)
    rw [quotes_cons_self] at h
    rw [List.replicate_succ, List.cons_append, List.drop_succ_cons]
    exact congrArg _ (ih (Nat.le_of_succ_le_succ h))

/-- Closing quotes are three, behind at most two that belong to the text. -/
theorem close?_sound {q : Char} {s cs r : List Char} (h : close? q s = some (cs, r)) :
    3 ≤ quotes q s ∧ ∃ k ≤ 2, cs = List.replicate k q ∧ s = cs ++ ([q, q, q] ++ r) := by
  rw [close?_eq] at h
  split at h
  · cases h
  · rename_i hlt
    cases h
    have hs := eq_replicate_append (q := q) (s := s) (n := min (quotes q s) 5 - 3 + 3) (by omega)
    refine ⟨by omega, min (quotes q s) 5 - 3, by omega, rfl, ?_⟩
    rw [← List.replicate_append_replicate, List.append_assoc] at hs
    exact hs

theorem multiline_replicate {q : Char} {escapes : Bool} {run k : Nat} (h : run + k ≤ 2) :
    Multiline q escapes run (List.replicate k q) (List.replicate k q) := by
  induction k generalizing run with
  | zero => exact .nil run
  | succ k ih => exact .quote (by omega) (ih (by omega))

/-! ### Strings over several lines -/

/-- A text that begins with no line end where it is read begins with no character of one. -/
theorem Grammar.Multiline.head_ne {q : Char} {escapes : Bool} (hq : Quote q escapes) {run : Nat}
    {cs t r : List Char} (h : Multiline q escapes run cs t) (hn : newline? (t ++ r) = none) :
    ∀ c ∈ t.head?, c ≠ '\n' ∧ c ≠ '\r' := by
  intro c hc
  cases h with
  | nil => cases hc
  | quote =>
    cases hc
    exact hq.ne.2
  | text htext =>
    cases hc
    constructor <;> rintro rfl <;> exact absurd htext (by decide)
  | newline he =>
    rw [List.append_assoc, newline?_append he] at hn
    cases hn
  | escape | join =>
    cases hc
    decide

theorem multilineBasic?_sound {s cs r : List Char} {run : Nat}
    (hrun : run = 0 ∨ run + quotes '"' s ≤ 2) (h : multilineBasic? s = some (cs, r)) :
    ∃ t, Multiline '"' true run cs t ∧ s = t ++ (['"', '"', '"'] ++ r) := by
  fun_induction multilineBasic? s generalizing run cs r with
  | case1 => cases h
  | case2 r₀ r' hn ih =>
    obtain ⟨b, hb, hr₀, -⟩ := exists_blanks r₀
    obtain ⟨e, he, hr'⟩ := newline?_eq_some_iff.1 hn
    obtain ⟨w, hw, hr'', htrimmed⟩ := exists_blankLines r'
    obtain ⟨t, ht, hs⟩ := ih (.inl rfl) h
    rw [hs] at htrimmed
    refine ⟨'\\' :: (b ++ (e ++ (w ++ t))), .join rfl hb he hw ?_ ht, ?_⟩
    · intro c hc
      refine ⟨htrimmed.1 c ?_, Multiline.head_ne .basic ht htrimmed.2 c hc⟩
      rw [List.head?_append, Option.mem_def.1 hc]
      rfl
    · rw [hr₀, hr', hr'', hs]
      simp
  | case3 r₀ _ c r' he ih =>
    obtain ⟨cs', hcs, rfl⟩ := exists_of_map_cons h
    obtain ⟨e, hescape, rfl⟩ := escape?_sound he
    obtain ⟨t, ht, rfl⟩ := ih (.inl rfl) hcs
    exact ⟨_, .escape rfl hescape ht, by simp⟩
  | case4 => cases h
  | case5 r' ih =>
    obtain ⟨cs', hcs, rfl⟩ := exists_of_map_cons h
    obtain ⟨t, ht, rfl⟩ := ih (.inl rfl) hcs
    exact ⟨_, .newline (.inr rfl) ht, rfl⟩
  | case6 r' p _ _ hp =>
    cases h
    obtain ⟨hq, k, hk, rfl, hs⟩ := close?_sound hp
    exact ⟨_, multiline_replicate (by omega), hs⟩
  | case7 r' _ _ hclose ih =>
    obtain ⟨cs', hcs, rfl⟩ := exists_of_map_cons h
    have hq := quotes_cons_self '"' r'
    have hlt := close?_eq_none_iff.1 hclose
    obtain ⟨t, ht, rfl⟩ := ih (.inr (show run + 1 + quotes '"' r' ≤ 2 by omega)) hcs
    exact ⟨_, .quote (by omega) ht, rfl⟩
  | case8 c r' hb _ hq hc ih =>
    obtain ⟨cs', hcs, rfl⟩ := exists_of_map_cons h
    obtain ⟨t, ht, rfl⟩ := ih (.inl rfl) hcs
    rcases hc with rfl | hc
    · exact ⟨_, .newline (.inl rfl) ht, rfl⟩
    · exact ⟨_, .text hc hq (fun _ => hb) ht, rfl⟩
  | case9 => cases h

theorem multilineLiteral?_sound {s cs r : List Char} {run : Nat}
    (hrun : run = 0 ∨ run + quotes '\'' s ≤ 2) (h : multilineLiteral? s = some (cs, r)) :
    ∃ t, Multiline '\'' false run cs t ∧ s = t ++ (['\'', '\'', '\''] ++ r) := by
  fun_induction multilineLiteral? s generalizing run cs r with
  | case1 => cases h
  | case2 r' ih =>
    obtain ⟨cs', hcs, rfl⟩ := exists_of_map_cons h
    obtain ⟨t, ht, rfl⟩ := ih (.inl rfl) hcs
    exact ⟨_, .newline (.inr rfl) ht, rfl⟩
  | case3 r' _ p hp =>
    cases h
    obtain ⟨hq, k, hk, rfl, hs⟩ := close?_sound hp
    exact ⟨_, multiline_replicate (by omega), hs⟩
  | case4 r' _ hclose ih =>
    obtain ⟨cs', hcs, rfl⟩ := exists_of_map_cons h
    have hq := quotes_cons_self '\'' r'
    have hlt := close?_eq_none_iff.1 hclose
    obtain ⟨t, ht, rfl⟩ := ih (.inr (show run + 1 + quotes '\'' r' ≤ 2 by omega)) hcs
    exact ⟨_, .quote (by omega) ht, rfl⟩
  | case5 c r' _ hq hc ih =>
    obtain ⟨cs', hcs, rfl⟩ := exists_of_map_cons h
    obtain ⟨t, ht, rfl⟩ := ih (.inl rfl) hcs
    rcases hc with rfl | hc
    · exact ⟨_, .newline (.inl rfl) ht, rfl⟩
    · exact ⟨_, .text hc hq (fun h => by cases h) ht, rfl⟩
  | case6 => cases h

/-- What stands behind the layout that a backslash takes away. -/
theorem trimmed_of_multiline {q : Char} {escapes : Bool} (hq : Quote q escapes) {t r : List Char}
    (hmax : ∀ c ∈ t.head?, isBlank c = false ∧ c ≠ '\n' ∧ c ≠ '\r') :
    Trimmed (t ++ ([q, q, q] ++ r)) := by
  have hhead : ∀ c ∈ (t ++ ([q, q, q] ++ r)).head?, isBlank c = false ∧ c ≠ '\n' ∧ c ≠ '\r' := by
    cases t with
    | nil =>
      intro c hc
      cases hc
      cases hq <;> decide
    | cons c t => exact hmax
  refine ⟨fun c hc => (hhead c hc).1, ?_⟩
  cases hn : newline? (t ++ ([q, q, q] ++ r)) with
  | none => rfl
  | some r' =>
    obtain ⟨e, he, heq⟩ := newline?_eq_some_iff.1 hn
    rw [heq] at hhead
    rcases he with rfl | rfl
    · exact absurd rfl (hhead _ rfl).2.1
    · exact absurd rfl (hhead _ rfl).2.2

theorem multilineBasic?_append {run : Nat} {cs t : List Char} (h : Multiline '"' true run cs t)
    (hrun : run ≤ 2) {r : List Char} (hr : quotes '"' r = 0) :
    multilineBasic? (t ++ (['"', '"', '"'] ++ r)) = some (cs, r) := by
  induction h with
  | nil => exact multilineBasic?_close (close?_three hr)
  | @quote run cs t hlt h ih =>
    have hq := h.quotesAhead .basic hlt hr
    unfold QuotesAhead at hq
    rw [List.cons_append, multilineBasic?_quote (by omega), ih hlt]
    rfl
  | text hc hq hb _ ih =>
    rw [List.cons_append, multilineBasic?_text _ (.inr hc) hq (hb rfl), ih (by decide)]
    rfl
  | newline he _ ih =>
    rw [List.append_assoc, multilineBasic?_newline he, ih (by decide)]
    rfl
  | escape _ he _ ih =>
    rw [List.cons_append, List.append_assoc, multilineBasic?_escape (escape?_append he _),
      ih (by decide)]
    rfl
  | @join run b e w cs t _ hb he hw hmax _ ih =>
    have hn : newline? (skipBlanks (b ++ (e ++ (w ++ (t ++ (['"', '"', '"'] ++ r)))))) =
        some (w ++ (t ++ (['"', '"', '"'] ++ r))) := by
      rw [skipBlanks_append hb, skipBlanks_eq_self, newline?_append he]
      intro c hc
      obtain rfl | rfl := he <;> cases hc <;> decide
    have ht := skipBlankLines_eq_self (trimmed_of_multiline (r := r) .basic hmax)
    rw [List.cons_append, List.append_assoc, List.append_assoc, List.append_assoc,
      multilineBasic?_join hn, skipBlankLines_append hw, ht, ih (by decide)]

theorem multilineLiteral?_append {run : Nat} {cs t : List Char}
    (h : Multiline '\'' false run cs t) (hrun : run ≤ 2) {r : List Char}
    (hr : quotes '\'' r = 0) :
    multilineLiteral? (t ++ (['\'', '\'', '\''] ++ r)) = some (cs, r) := by
  induction h with
  | nil => exact multilineLiteral?_close (close?_three hr)
  | @quote run cs t hlt h ih =>
    have hq := h.quotesAhead .literal hlt hr
    unfold QuotesAhead at hq
    rw [List.cons_append, multilineLiteral?_quote (by omega), ih hlt]
    rfl
  | text hc hq _ _ ih =>
    rw [List.cons_append, multilineLiteral?_text _ (.inr hc) hq, ih (by decide)]
    rfl
  | newline he _ ih =>
    rw [List.append_assoc, multilineLiteral?_newline he, ih (by decide)]
    rfl
  | escape hescapes | join hescapes => cases hescapes

/-! ### All forms -/

theorem string?_basic {r : List Char} (h : quotes '"' r ≤ 1) : string? ('"' :: r) = basic? r := by
  refine string?.eq_3 r fun r' hr => ?_
  rw [hr, quotes_cons_self, quotes_cons_self] at h
  omega

theorem string?_literal {r : List Char} (h : quotes '\'' r ≤ 1) :
    string? ('\'' :: r) = literal? r := by
  refine string?.eq_4 r fun r' hr => ?_
  rw [hr, quotes_cons_self, quotes_cons_self] at h
  omega

theorem quotes_single {q : Char} {escapes : Bool} (hq : Quote q escapes) {cs t r : List Char}
    (h : Single q escapes cs t) (hr : quotes q r = 0) : quotes q (t ++ q :: r) ≤ 1 := by
  cases h with
  | nil =>
    have h := quotes_cons_self q r
    rw [List.nil_append]
    omega
  | text _ hne =>
    rw [List.cons_append, quotes_cons_of_ne hne]
    decide
  | escape =>
    rw [List.cons_append, quotes_cons_of_ne hq.ne.1.symm]
    decide

theorem skipNewline_newline {e : List Char} (he : Newline e) (r : List Char) :
    skipNewline (e ++ r) = r := by
  unfold skipNewline
  rw [newline?_append he]
  rfl

theorem skipNewline_eq_self {r : List Char} (h : newline? r = none) : skipNewline r = r := by
  unfold skipNewline
  rw [h]
  rfl

/-- A multiline string is read behind its opening quotes, and a line end there does not count. -/
theorem stringText_of_skipNewline {q : Char} {escapes : Bool} (hq : Quote q escapes)
    {s cs t r : List Char} (ht : Multiline q escapes 0 cs t)
    (hs : skipNewline s = t ++ ([q, q, q] ++ r)) :
    ∃ u, StringText cs u ∧ q :: q :: q :: s = u ++ r := by
  cases hn : newline? s with
  | none =>
    rw [skipNewline_eq_self hn] at hs
    rw [hs] at hn
    exact ⟨_, .multiline hq (ht.head_ne hq hn) ht, by simp [hs]⟩
  | some s' =>
    obtain ⟨e, he, rfl⟩ := newline?_eq_some_iff.1 hn
    rw [skipNewline_newline he] at hs
    exact ⟨_, .trimmed hq he ht, by simp [hs]⟩

theorem string?_sound {s cs r : List Char} (h : string? s = some (cs, r)) :
    ∃ t, StringText cs t ∧ s = t ++ r := by
  revert h
  fun_cases string? s with
  | case1 r' =>
    intro h
    obtain ⟨t, ht, hs⟩ := multilineBasic?_sound (.inl rfl) h
    exact stringText_of_skipNewline .basic ht hs
  | case2 r' =>
    intro h
    obtain ⟨t, ht, hs⟩ := multilineLiteral?_sound (.inl rfl) h
    exact stringText_of_skipNewline .literal ht hs
  | case3 r' =>
    intro h
    obtain ⟨t, ht, rfl⟩ := basic?_sound h
    exact ⟨_, .single .basic ht, by simp⟩
  | case4 r' =>
    intro h
    obtain ⟨t, ht, rfl⟩ := literal?_sound h
    exact ⟨_, .single .literal ht, by simp⟩
  | case5 => intro h; cases h

theorem newline?_eq_none_of_head {s : List Char} (h : ∀ c ∈ s.head?, c ≠ '\n' ∧ c ≠ '\r') :
    newline? s = none := by
  cases hn : newline? s with
  | none => rfl
  | some r =>
    obtain ⟨e, rfl | rfl, rfl⟩ := newline?_eq_some_iff.1 hn
    · exact absurd rfl (h _ rfl).1
    · exact absurd rfl (h _ rfl).2

/-- A string is read up to its closing quotes if no further quote follows. -/
theorem string?_append {cs t : List Char} (h : StringText cs t) {r : List Char}
    (hd : quotes '"' r = 0) (hs : quotes '\'' r = 0) : string? (t ++ r) = some (cs, r) := by
  cases h with
  | single hq ht =>
    rw [List.cons_append, List.append_assoc, List.singleton_append]
    cases hq with
    | basic => rw [string?_basic (quotes_single .basic ht hd), basic?_append ht]
    | literal => rw [string?_literal (quotes_single .literal ht hs), literal?_append ht]
  | @multiline q escapes cs t hq hmax ht =>
    have hskip : skipNewline (t ++ ([q, q, q] ++ r)) = t ++ ([q, q, q] ++ r) := by
      refine skipNewline_eq_self (newline?_eq_none_of_head ?_)
      cases t with
      | nil =>
        intro c hc
        cases hc
        exact hq.ne.2
      | cons c t => exact hmax
    rw [List.append_assoc, List.append_assoc]
    cases hq with
    | basic =>
      change multilineBasic? (skipNewline (t ++ _)) = _
      rw [hskip, multilineBasic?_append ht (by decide) hd]
    | literal =>
      change multilineLiteral? (skipNewline (t ++ _)) = _
      rw [hskip, multilineLiteral?_append ht (by decide) hs]
  | @trimmed q escapes e cs t hq he ht =>
    rw [List.append_assoc, List.append_assoc, List.append_assoc]
    cases hq with
    | basic =>
      change multilineBasic? (skipNewline (e ++ _)) = _
      rw [skipNewline_newline he, multilineBasic?_append ht (by decide) hd]
    | literal =>
      change multilineLiteral? (skipNewline (e ++ _)) = _
      rw [skipNewline_newline he, multilineLiteral?_append ht (by decide) hs]

end BuiltinLink.Toml
