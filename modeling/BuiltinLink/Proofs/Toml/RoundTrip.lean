import BuiltinLink.Proofs.Toml.Language
import BuiltinLink.Proofs.Toml.Quoting

/-!
Documents are read as they were written: the grammar has what is written as the tables that it was
written from, each one header with its lines, and the root that is built from them has one entry for
each table, in order.
-/

namespace BuiltinLink.Toml

open Grammar

/-! ### Numbers -/

theorem isDigit_toDigits (n : Nat) : ∀ c ∈ Nat.toDigits 10 n, c.isDigit := by
  intro c hc
  exact Nat.isDigit_of_mem_toDigits (by decide) (by decide) hc

theorem ofDigits_toDigits (n : Nat) :
    ofDigits 10 ((Nat.toDigits 10 n).map fun c => c.toNat - 48) = n := by
  have h : Nat.ofDigitChars 10 (Nat.toDigits 10 n) 0 = n := Nat.ofDigitChars_ten_toDigits
  unfold Nat.ofDigitChars at h
  unfold ofDigits
  rw [List.foldl_map, show (fun n (c : Char) => n * 10 + (c.toNat - 48)) =
    fun n c => 10 * n + (c.toNat - '0'.toNat) by funext n c; rw [Nat.mul_comm]; rfl]
  exact h

/-- Only zero is written with a zero in front. -/
theorem toDigits_head? (n : Nat) (h : (Nat.toDigits 10 n).head? = some '0') : n = 0 := by
  induction n using Nat.strongRecOn with
  | ind n ih =>
    rw [Nat.toDigits_eq_if (by decide)] at h
    split at h
    · rename_i hn
      interval_cases n <;> first | rfl | exact absurd h (by decide)
    · rename_i hn
      obtain ⟨d, ds, hd⟩ := List.exists_cons_of_ne_nil (Nat.toDigits_ne_nil (n := n / 10) (b := 10))
      have := ih (n / 10) (by omega) (by rw [hd] at h ⊢; exact h)
      omega

theorem digits_of_isDigit {t : List Char} (hne : t ≠ []) (h : ∀ c ∈ t, c.isDigit) :
    Digits digit? (t.map fun c => c.toNat - 48) t := by
  induction t with
  | nil => exact absurd rfl hne
  | cons c t ih =>
    obtain ⟨hc, ht⟩ := List.forall_mem_cons.1 h
    cases t with
    | nil => exact .last (if_pos hc)
    | cons d t => exact .digit (if_pos hc) (ih (List.cons_ne_nil d t) ht)

theorem whole_toDigits (n : Nat) :
    Whole ((Nat.toDigits 10 n).map fun c => c.toNat - 48) (Nat.toDigits 10 n) := by
  by_cases hn : n = 0
  · rw [hn]
    exact .zero
  · exact .digits (fun h => hn (toDigits_head? n h))
      (digits_of_isDigit Nat.toDigits_ne_nil (isDigit_toDigits n))

theorem number_toDigits {n : Nat} (h : n < 0x8000000000000000) :
    Number (.integer n) (Nat.toDigits 10 n) := by
  apply Number.integer .none (whole_toDigits n)
  rw [ofDigits_toDigits]
  exact if_pos (by simp only [signed, Bool.false_eq_true, if_false]; omega)

/-! ### Values -/

theorem Grammar.Items.blank {P : Value → List Char → Prop} {vs : List Value} {t : List Char}
    (h : Items P vs t) : Items P vs (' ' :: t) := by
  cases h with
  | nil hf => exact .nil (.blank rfl hf)
  | last hf ht hg => exact .last (.blank rfl hf) ht hg
  | comma hf ht hg h => exact .comma (.blank rfl hf) ht hg h

/-- The values whose numbers fit 64 bits with sign. -/
def Plain.Fits : Plain → Prop
  | .naturals l => ∀ n ∈ l, n < 0x8000000000000000
  | _ => True

@[simp] theorem Plain.fits_string (s : String) : (Plain.string s).Fits := trivial

@[simp] theorem Plain.fits_boolean (b : Bool) : (Plain.boolean b).Fits := trivial

theorem items_intercalate {P : Value → List Char → Prop} {l : List Nat}
    (h : ∀ n ∈ l, P (.integer n) (Nat.toDigits 10 n)) :
    Items P (l.map fun n : Nat => .integer n)
      ([',', ' '].intercalate (l.map (Nat.toDigits 10))) := by
  induction l with
  | nil => exact .nil .nil
  | cons n l ih =>
    obtain ⟨hn, hl⟩ := List.forall_mem_cons.1 h
    cases l with
    | nil =>
      have hlast := Items.last .nil hn .nil
      rw [List.nil_append, List.append_nil] at hlast
      rw [List.map_singleton, List.map_singleton, List.intercalate_singleton]
      exact hlast
    | cons m l =>
      rw [List.map_cons (f := Nat.toDigits 10), List.map_cons (f := Nat.toDigits 10),
        List.intercalate_cons_cons, List.append_assoc]
      exact .comma .nil hn .nil (ih hl).blank

theorem valueText_write {p : Plain} (h : p.Fits) (parts depth : Nat) :
    ValueText parts (depth + 1) p.toValue p.write := by
  cases p with
  | string s =>
    have hs := Scalar.string (stringText_writeString s.toList)
    rw [String.ofList_toList] at hs
    exact .inl hs
  | boolean b => cases b <;> exact .inl (by constructor)
  | naturals l =>
    have hscalar {n : Nat} (hn : n ∈ l) : Scalar (.integer n) (Nat.toDigits 10 n) :=
      .number (number_toDigits (h n hn))
    refine .inr (.inl ⟨_, _, rfl, rfl, items_intercalate fun n hn => ?_⟩)
    cases depth with
    | zero => exact hscalar hn
    | succ depth => exact .inl (hscalar hn)

/-! ### Lines -/

/-- The names that stand as keys without quotes. -/
def Bare (k : String) : Prop :=
  k.toList ≠ [] ∧ ∀ c ∈ k.toList, isBare c

instance (k : String) : Decidable (Bare k) :=
  decidable_of_iff (k.toList ≠ [] ∧ k.toList.all isBare = true)
    (and_congr .rfl List.all_eq_true)

theorem keyPath_bare {k : String} (h : Bare k) {b : List Char} (hb : Blanks b) :
    KeyPath [k] (k.toList ++ b) := by
  have hkey := SimpleKey.bare h.1 h.2
  rw [String.ofList_toList] at hkey
  exact .last (b := []) blanks_nil hkey hb

theorem blanks_space : Blanks [' '] :=
  fun c hc => by rw [List.mem_singleton.1 hc]; rfl

theorem lineText_entry {k : String} {p : Plain} (hk : Bare k) (hp : p.Fits) :
    LineText bound bound (.assignment ⟨[], k, p.toValue⟩)
      (k.toList ++ [' ', '=', ' '] ++ p.write) := by
  refine .assignment ⟨k.toList ++ [' '], [' '], p.write, keyPath_bare hk blanks_space,
    show 1 ≤ bound by decide, blanks_space, valueText_write hp bound (bound - 1), ?_⟩
  simp

/-- A line is written without layout around it. -/
theorem Grammar.LineText.line {parts depth : Nat} {l : Line} {ls : List Line} {t u : List Char}
    (ht : LineText parts depth l t) (h : Lines parts depth ls u) :
    Lines parts depth (l :: ls) (t ++ '\n' :: u) := by
  have hline := Expression.line blanks_nil ht blanks_nil (.inl rfl)
  rw [List.nil_append, List.append_nil, List.append_nil] at hline
  exact .newline hline (.inl rfl) h

/-! ### Tables -/

namespace PlainTable

/-- Tables that a document can hold as they are: names and keys stand without quotes, no key stands
twice, numbers fit 64 bits. -/
structure WellFormed (t : PlainTable) : Prop where
  name : Bare t.name
  keys : ∀ e ∈ t.entries, Bare e.1
  fits : ∀ e ∈ t.entries, e.2.Fits
  nodup : (t.entries.map Prod.fst).Nodup

/-- The assignments of a table. -/
def body (t : PlainTable) : List Assignment :=
  t.entries.map fun e => ⟨[], e.1, e.2.toValue⟩

/-- The lines of a table. -/
def lines (t : PlainTable) : List Line :=
  .header ⟨[], t.name, false⟩ :: t.body.map .assignment

theorem lines_entries {es : List (String × Plain)} (hk : ∀ e ∈ es, Bare e.1)
    (hp : ∀ e ∈ es, e.2.Fits) {ls : List Line} {u : List Char} (h : Lines bound bound ls u) :
    Lines bound bound (es.map (fun e => .assignment ⟨[], e.1, e.2.toValue⟩) ++ ls)
      ((es.flatMap fun e => e.1.toList ++ [' ', '=', ' '] ++ e.2.write ++ ['\n']) ++ u) := by
  induction es with
  | nil => exact h
  | cons e es ih =>
    obtain ⟨hke, hkes⟩ := List.forall_mem_cons.1 hk
    obtain ⟨hpe, hpes⟩ := List.forall_mem_cons.1 hp
    have hline := (lineText_entry hke hpe).line (ih hkes hpes)
    rw [List.flatMap_cons, List.append_assoc, List.append_assoc]
    exact hline

theorem lines_write {t : PlainTable} (ht : t.WellFormed) {ls : List Line} {u : List Char}
    (h : Lines bound bound ls u) : Lines bound bound (t.lines ++ ls) (t.write ++ u) := by
  have hkey : KeyPath ([] ++ [t.name]) (t.name.toList ++ []) := keyPath_bare ht.name blanks_nil
  rw [List.append_nil] at hkey
  have hheader : LineText bound bound (.header ⟨[], t.name, false⟩)
      ('[' :: (t.name.toList ++ [']'])) :=
    .header hkey (by decide)
  have hlines := hheader.line (lines_entries ht.keys ht.fits h)
  unfold write lines body
  simpa [Function.comp_def] using hlines

/-- A table as a section of its own. -/
def toSection (t : PlainTable) : Section :=
  ⟨⟨[], t.name, false⟩, t.body⟩

theorem lookup_concat_eq_none {es : Entries} {k k' : String} {v : Value} (h : es.lookup k = none)
    (hne : k ≠ k') : (es ++ [(k', v)]).lookup k = none := by
  have hk : (k == k') = false := beq_eq_false_iff_ne.2 hne
  rw [List.lookup_append, h, Option.none_or, List.lookup_cons, hk, List.lookup_nil]

theorem assignAll_body {kind : TableKind} {es : Entries} {l : List (String × Plain)}
    (hkind : kind ≠ .dotted) (hnodup : (l.map Prod.fst).Nodup)
    (hnew : ∀ e ∈ l, es.lookup e.1 = none) :
    Entries.assignAll kind es (l.map fun e => ⟨[], e.1, e.2.toValue⟩) =
      some (es ++ l.map fun e => (e.1, e.2.toValue)) := by
  induction l generalizing es with
  | nil => simp [Entries.assignAll]
  | cons e l ih =>
    obtain ⟨he, hl⟩ := List.forall_mem_cons.1 hnew
    rw [List.map_cons, List.nodup_cons] at hnodup
    have hassign : Entries.assign kind es ⟨[], e.1, e.2.toValue⟩ =
        some (es ++ [(e.1, e.2.toValue)]) := by
      simp [Entries.assign, Entries.alter, hkind, he]
    have hnew' : ∀ e' ∈ l, (es ++ [(e.1, e.2.toValue)]).lookup e'.1 = none := by
      intro e' he'
      have hne : e'.1 ≠ e.1 := by
        intro h
        exact hnodup.1 (List.mem_map.2 ⟨e', he', h⟩)
      exact lookup_concat_eq_none (hl e' he') hne
    have hrest := ih hnodup.2 hnew'
    unfold Entries.assignAll at hrest ⊢
    rw [List.map_cons, List.foldlM_cons, hassign]
    simpa using hrest

theorem addTo_toSection {t : PlainTable} (h : t.WellFormed) {root : Entries}
    (hnew : root.lookup t.name = none) :
    Section.addTo root t.toSection = some (root ++ [t.toEntry]) := by
  have hbody : Entries.assignAll .headed [] t.body = some _ :=
    assignAll_body (by decide) h.nodup fun _ _ => rfl
  unfold Section.addTo Entries.alter
  simp only [toSection, Bool.false_eq_true, if_false]
  rw [hnew]
  dsimp only
  rw [hbody]
  rfl

end PlainTable

theorem lines_writeTables {l : List PlainTable} (h : ∀ t ∈ l, t.WellFormed) :
    Lines bound bound (l.flatMap PlainTable.lines) (writeTables l) := by
  unfold writeTables
  induction l with
  | nil => exact lines_empty bound bound
  | cons t l ih =>
    obtain ⟨ht, hl⟩ := List.forall_mem_cons.1 h
    cases l with
    | nil =>
      have hlines := PlainTable.lines_write ht (lines_empty bound bound)
      rw [List.append_nil, List.append_nil] at hlines
      simpa using hlines
    | cons u l =>
      have hblank : Lines bound bound _ ('\n' :: _) :=
        .newline (.empty blanks_nil (.inl rfl)) (.inl rfl) (ih hl)
      rw [List.map_cons, List.map_cons, List.intercalate_cons_cons, List.append_assoc,
        List.flatMap_cons]
      exact PlainTable.lines_write ht hblank

theorem ofLines_body (l : List Assignment) (ls : List Line) :
    Document.ofLines (l.map .assignment ++ ls) =
      ⟨l ++ (Document.ofLines ls).root, (Document.ofLines ls).sections⟩ := by
  induction l with
  | nil => rfl
  | cons a l ih =>
    rw [List.map_cons, List.cons_append, Document.ofLines, ih]
    rfl

theorem ofLines_flatMap_lines (l : List PlainTable) :
    Document.ofLines (l.flatMap PlainTable.lines) = ⟨[], l.map PlainTable.toSection⟩ := by
  induction l with
  | nil => rfl
  | cons t l ih =>
    rw [List.flatMap_cons, PlainTable.lines, List.cons_append, Document.ofLines, ofLines_body, ih]
    simp [PlainTable.toSection]

theorem foldlM_addTo {l : List PlainTable} (h : ∀ t ∈ l, t.WellFormed)
    (hnodup : (l.map PlainTable.name).Nodup) {root : Entries}
    (hnew : ∀ t ∈ l, root.lookup t.name = none) :
    (l.map PlainTable.toSection).foldlM Section.addTo root =
      some (root ++ l.map PlainTable.toEntry) := by
  induction l generalizing root with
  | nil => simp
  | cons t l ih =>
    obtain ⟨ht, hl⟩ := List.forall_mem_cons.1 h
    obtain ⟨htnew, hlnew⟩ := List.forall_mem_cons.1 hnew
    rw [List.map_cons, List.nodup_cons] at hnodup
    have hnew' : ∀ u ∈ l, (root ++ [t.toEntry]).lookup u.name = none := by
      intro u hu
      have hne : u.name ≠ t.name := by
        intro heq
        exact hnodup.1 (List.mem_map.2 ⟨u, hu, heq⟩)
      exact PlainTable.lookup_concat_eq_none (hlnew u hu) hne
    have hrest := ih hl hnodup.2 hnew'
    rw [List.map_cons, List.foldlM_cons, PlainTable.addTo_toSection ht htnew]
    simpa using hrest

/-- What is written as a document is read as its tables, in order. -/
theorem parse?_writeTables {l : List PlainTable} (h : ∀ t ∈ l, t.WellFormed)
    (hnodup : (l.map PlainTable.name).Nodup) :
    parse? (writeTables l) = some (l.map PlainTable.toEntry) := by
  have hlines := lines_writeTables h
  refine parse?_eq_some_iff.2 ⟨_, _, .inl rfl, hlines, hlines.defines_iff.2 ?_⟩
  rw [ofLines_flatMap_lines]
  unfold Document.entries?
  exact foldlM_addTo h hnodup fun _ _ => rfl

end BuiltinLink.Toml
