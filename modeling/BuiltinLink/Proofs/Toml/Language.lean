import BuiltinLink.Proofs.Toml.Bounds
import BuiltinLink.Proofs.Toml.Values

/-!
A text is read as a document with a root exactly if the grammar has it so within the bounds of the
reader. The reader takes the layout before a line at once, however many lines it spans, while the
grammar has an empty line for each; so layout is put before the lines of the grammar, and the reader
passes over it, one line end after the other.
-/

namespace BuiltinLink.Toml

open Grammar

/-! ### Headers -/

theorem header?_sound {s r : List Char} {h : Header} {depth : Nat} (hread : header? s = some (h, r)) :
    ∃ t, LineText bound depth (.header h) t ∧ s = t ++ r := by
  revert hread
  fun_cases header? s with
  | case1 r₀ k r' hk =>
    intro hread
    cases hread
    obtain ⟨t, ht, hlt, rfl⟩ := boundedKey?_sound hk
    exact ⟨_, .member ht (le_bound_iff.2 hlt), by simp⟩
  | case3 r₀ _ k r' hk =>
    intro hread
    cases hread
    obtain ⟨t, ht, hlt, rfl⟩ := boundedKey?_sound hk
    exact ⟨_, .header ht (le_bound_iff.2 hlt), by simp⟩
  | _ => intro hread; cases hread

theorem blanks_nil : Blanks [] :=
  fun _ hc => absurd hc List.not_mem_nil

theorem Grammar.KeyPath.head_ne {ks : List String} {k : List Char} (hk : KeyPath ks k)
    (r r' : List Char) : k ++ r ≠ '[' :: r' := by
  obtain ⟨b, c, u, hb, rfl, hc, -⟩ := hk.exists_blanks
  intro heq
  cases b with
  | nil => exact ne_of_holds hc (by decide) (List.cons.inj heq).1
  | cons d b =>
    have hd := hb d List.mem_cons_self
    rw [(List.cons.inj heq).1] at hd
    cases hd

theorem header?_table {path : List String} {key : String} {k : List Char}
    (hk : KeyPath (path ++ [key]) k) (hle : path.length + 1 ≤ bound) (r : List Char) :
    header? ('[' :: (k ++ ']' :: r)) = some (⟨path, key, false⟩, r) := by
  have hkey := boundedKey?_append hk (le_bound_iff.1 hle) (r := ']' :: r)
    (followsKey_cons (by decide) r)
  rw [header?.eq_2 _ (hk.head_ne _), hkey]
  rfl

theorem header?_member {path : List String} {key : String} {k : List Char}
    (hk : KeyPath (path ++ [key]) k) (hle : path.length + 1 ≤ bound) (r : List Char) :
    header? ('[' :: '[' :: (k ++ ']' :: ']' :: r)) = some (⟨path, key, true⟩, r) := by
  have hkey := boundedKey?_append hk (le_bound_iff.1 hle) (r := ']' :: ']' :: r)
    (followsKey_cons (by decide) _)
  rw [header?.eq_1, hkey]
  rfl

/-! ### Lines -/

theorem line?_sound {s r : List Char} {l : Line} (h : line? s = some (l, r)) :
    ∃ t, LineText bound bound l t ∧ s = t ++ r := by
  unfold line? at h
  split at h
  · obtain ⟨p, hp, hq⟩ := Option.map_eq_some_iff.1 h
    cases hq
    exact header?_sound hp
  · obtain ⟨p, hp, hq⟩ := Option.map_eq_some_iff.1 h
    cases hq
    obtain ⟨t, ht, hs⟩ := assignment?_sound (reads_value bound) hp
    exact ⟨t, .assignment ht, hs⟩

/-- The blanks before a line can be split off. What is left begins with ink. -/
theorem Grammar.LineText.exists_blanks {parts depth : Nat} {l : Line} {t : List Char}
    (h : LineText parts depth l t) :
    ∃ b c u, Blanks b ∧ t = b ++ c :: u ∧ isInk c ∧ LineText parts depth l (c :: u) := by
  cases h with
  | assignment h =>
    obtain ⟨k, b', u, hk, hle, hb', hu, rfl⟩ := h
    obtain ⟨b, c, k', hb, rfl, hc, hk'⟩ := hk.exists_blanks
    exact ⟨b, c, k' ++ '=' :: (b' ++ u), hb, by simp, isInk_of_beginsKey hc,
      .assignment ⟨c :: k', b', u, hk', hle, hb', hu, rfl⟩⟩
  | header hk hle => exact ⟨[], '[', _, blanks_nil, rfl, rfl, .header hk hle⟩
  | member hk hle => exact ⟨[], '[', _, blanks_nil, rfl, rfl, .member hk hle⟩

theorem line?_append {l : Line} {c : Char} {t r : List Char}
    (h : LineText bound bound l (c :: t)) (hc : isInk c) (hr : Follows r) :
    line? (c :: (t ++ r)) = some (l, r) := by
  cases h with
  | assignment h =>
    have hread := assignment?_append (reads_value bound) h hr
    rw [List.cons_append] at hread
    obtain ⟨k, b', u, hk, -, -, -, heq⟩ := h
    obtain ⟨b, d, k', hb, rfl, hd, -⟩ := hk.exists_blanks
    have hne : c ≠ '[' := by
      cases b with
      | nil =>
        rw [(List.cons.inj heq).1]
        exact ne_of_holds hd (by decide)
      | cons e b =>
        have he := hb e List.mem_cons_self
        rw [← (List.cons.inj heq).1, isBlank_of_isInk hc] at he
        cases he
    rw [line?.eq_2 _ fun _ h => hne (List.cons.inj h).1]
    change (assignment? (value bound) _).map _ = _
    rw [hread]
    rfl
  | header hk hle =>
    rw [List.append_assoc, List.singleton_append, line?.eq_1, header?_table hk hle]
    rfl
  | member hk hle =>
    rw [List.cons_append, List.append_assoc, List.cons_append, List.singleton_append, line?.eq_1,
      header?_member hk hle]
    rfl

/-! ### Layout before lines -/

theorem Grammar.Expression.blank {parts depth : Nat} {l : Option Line} {c : Char} {t : List Char}
    (hc : isBlank c) (h : Expression parts depth l t) : Expression parts depth l (c :: t) := by
  cases h with
  | @empty b _ hb hcomment =>
    exact .empty (b := c :: b) (List.forall_mem_cons.2 ⟨hc, hb⟩) hcomment
  | @line _ b _ _ _ hb ht hb' hcomment =>
    exact .line (b := c :: b) (List.forall_mem_cons.2 ⟨hc, hb⟩) ht hb' hcomment

theorem Grammar.Lines.blank {parts depth : Nat} {ls : List Line} {c : Char} {t : List Char}
    (hc : isBlank c) (h : Lines parts depth ls t) : Lines parts depth ls (c :: t) := by
  cases h with
  | last ht => exact .last (ht.blank hc)
  | newline ht he h =>
    rw [← List.cons_append]
    exact .newline (ht.blank hc) he h

theorem Grammar.Lines.filler {parts depth : Nat} {ls : List Line} {f t : List Char}
    (hf : Filler f) (h : Lines parts depth ls t) : Lines parts depth ls (f ++ t) := by
  induction hf with
  | nil => exact h
  | blank hc _ ih => exact ih.blank hc
  | newline hc he _ ih =>
    rw [List.append_assoc, List.append_assoc]
    exact .newline (.empty blanks_nil hc) he ih

theorem lines?_filler {f : List Char} (hf : Filler f) (s : List Char) :
    lines? (f ++ s) = lines? s := by
  rw [lines?_eq, lines?_eq s, skipFiller_append hf]

theorem filler_of_blanks {b : List Char} (h : Blanks b) : Filler b := by
  induction b with
  | nil => exact .nil
  | cons c b ih =>
    obtain ⟨hc, hb⟩ := List.forall_mem_cons.1 h
    exact .blank hc (ih hb)

/-! ### The end of a document -/

theorem lines_empty (parts depth : Nat) : Lines parts depth [] [] :=
  .last (.empty blanks_nil (.inl rfl))

/-- Behind a line the text ends, and with it the lines, or the grammar has the lines of what
follows. -/
theorem lines_of_endLine? {parts depth : Nat} {l : Option Line} {ls : List Line}
    {t s r : List Char} (hs : endLine? s = some r)
    (hline : ∀ b c, Blanks b → Comment c → Expression parts depth l (t ++ (b ++ c)))
    (hr : Lines parts depth ls r) (hempty : r = [] → ls = []) :
    Lines parts depth (l.toList ++ ls) (t ++ s) := by
  obtain ⟨b, c, hb, hc, ⟨rfl, rfl⟩ | ⟨e, he, rfl⟩⟩ := endLine?_sound hs
  · rw [hempty rfl, List.append_nil]
    exact .last (hline b c hb hc)
  · have h := Lines.newline (hline b c hb hc) he hr
    simpa only [List.append_assoc] using h

theorem lines?_nil : lines? [] = some [] :=
  lines?_end (by rw [skipFiller_eq]; rfl)

theorem lines?_sound {s : List Char} {ls : List Line} (h : lines? s = some ls) :
    Lines bound bound ls s := by
  fun_induction lines? s generalizing ls with
  | case1 s hs =>
    cases h
    obtain ⟨f, hf, heq, -⟩ := exists_filler s
    rw [heq, hs]
    exact (lines_empty bound bound).filler hf
  | case2 s s' hs hend =>
    cases h
    obtain ⟨f, hf, heq, -⟩ := exists_filler s
    rw [heq, hs]
    have h := lines_of_endLine? (l := none) (t := []) hend (fun b c => .empty)
      (lines_empty bound bound) fun _ => rfl
    exact h.filler hf
  | case3 => cases h
  | case4 => cases h
  | case5 => cases h
  | case6 s c s' hs hc l r hl r' hr ih =>
    obtain ⟨ls', hls', rfl⟩ := Option.map_eq_some_iff.1 h
    obtain ⟨f, hf, heq, -⟩ := exists_filler s
    obtain ⟨t, ht, hst⟩ := line?_sound hl
    rw [heq, hs, hst]
    apply Lines.filler hf
    refine lines_of_endLine? (l := some l) hr (fun b c hb hc => .line blanks_nil ht hb hc)
      (ih hls') fun hnil => ?_
    rw [hnil, lines?_nil] at hls'
    exact (Option.some.inj hls').symm

theorem skipFiller_comment {c : List Char} (hc : Comment c) : skipFiller c = c := by
  rcases hc with rfl | ⟨u, rfl, hu⟩
  · rw [skipFiller_eq]
    rfl
  · have hend := dropWhile_isText_append hu (r := []) fun _ hc => by cases hc
    rw [List.append_nil] at hend
    refine skipFiller_eq_self ⟨⟨fun c hc => ?_, rfl⟩, ?_⟩
    · cases hc
      rfl
    · rintro r ⟨⟩
      rw [hend]
      rfl

theorem lines?_comment {c : List Char} (hc : Comment c) : lines? c = some [] := by
  have hend := endLine?_last blanks_nil hc
  have hskip := skipFiller_comment hc
  rcases hc with rfl | ⟨u, rfl, -⟩
  · exact lines?_nil
  · rw [lines?_eq, hskip]
    simp only [if_true]
    rw [List.nil_append] at hend
    rw [hend]

/-- A line is read with the rest of its text line. -/
theorem lines?_cons {l : Line} {b t s r : List Char} (hb : Blanks b)
    (ht : LineText bound bound l t) (hs : Follows s) (hr : endLine? s = some r) :
    lines? (b ++ (t ++ s)) = (lines? r).map (l :: ·) := by
  obtain ⟨b', c, u, hb', rfl, hc, hu⟩ := ht.exists_blanks
  have hhash : c ≠ '#' := by
    intro heq
    subst heq
    cases hc
  rw [lines?_filler (filler_of_blanks hb), List.append_assoc, lines?_filler (filler_of_blanks hb')]
  exact lines?_line (skipFiller_of_ink hc _) hhash (line?_append hu hc hs) hr

theorem follows_nil : Follows [] := by
  refine ⟨fun c hc => ?_, fun r heq => ?_⟩
  · cases hc
  · cases heq

theorem lines?_of_lines {s : List Char} {ls : List Line} (h : Lines bound bound ls s) :
    lines? s = some ls := by
  induction h with
  | last ht =>
    cases ht with
    | empty hb hc => rw [lines?_filler (filler_of_blanks hb), lines?_comment hc]; rfl
    | @line l b t b' c hb ht hb' hc =>
      have hfollows := (follows_comment hc follows_nil).blanks hb'
      rw [List.append_nil] at hfollows
      rw [lines?_cons hb ht hfollows (endLine?_last hb' hc), lines?_nil]
      rfl
  | @newline l ls t e u ht he _ ih =>
    cases ht with
    | empty hb hc =>
      have hfiller : Filler _ := .newline hc he .nil
      rw [List.append_nil] at hfiller
      rw [List.append_assoc, lines?_filler (filler_of_blanks hb), ← List.append_assoc,
        lines?_filler hfiller, ih]
      rfl
    | @line l b t b' c hb ht hb' hc =>
      have hfollows := (follows_comment hc (follows_newline he u)).blanks hb'
      rw [List.append_assoc, List.append_assoc, List.append_assoc,
        lines?_cons hb ht hfollows (endLine?_line hb' hc he u), ih]
      rfl

/-! ### Documents -/

/-- A byte order mark begins no line, so no document has two. -/
theorem lines?_mark (r : List Char) : lines? ('\ufeff' :: r) = none := by
  have hkey : boundedKey? ('\ufeff' :: r) = none := by
    unfold boundedKey?
    rw [keyPath?_eq]
    rfl
  have hline : line? ('\ufeff' :: r) = none := by
    rw [line?.eq_2 _ fun _ h => absurd (List.cons.inj h).1 (by decide)]
    unfold assignment?
    rw [hkey]
    rfl
  rw [lines?_eq, skipFiller_of_ink rfl]
  simp only [hline]
  rfl

/-- A text is made of lines in at most one way, and does not begin with a mark then. -/
theorem documentText_iff_of_lines {rules : List Use → Use → Prop} {s : List Char} {ls : List Line}
    {es : Entries} (h : Lines bound bound ls s) :
    DocumentText rules bound bound es s ↔ Defines rules (Document.ofLines ls) es := by
  have hls := lines?_of_lines h
  constructor
  · rintro ⟨ls', t, rfl | rfl, ht, hes⟩
    · cases hls.symm.trans (lines?_of_lines ht)
      exact hes
    · rw [lines?_mark] at hls
      cases hls
  · exact fun hes => ⟨ls, s, .inl rfl, h, hes⟩

/-- The reader of documents takes exactly the documents by its rules, within its bounds. -/
theorem parse?_eq_some_iff {s : List Char} {es : Entries} :
    parse? s = some es ↔ DocumentText Accepted bound bound es s := by
  constructor
  · intro h
    obtain ⟨ls, hls, hes⟩ := Option.bind_eq_some_iff.1 h
    have ht := lines?_sound hls
    refine ⟨ls, skipMark s, ?_, ht, ht.defines_iff.2 hes⟩
    fun_cases skipMark s with
    | case1 => exact .inr rfl
    | case2 => exact .inl rfl
  · intro h
    rcases h with ⟨ls, t, hs, ht, hes⟩
    have hls := lines?_of_lines ht
    have hmark : skipMark s = t := by
      rcases hs with rfl | rfl
      · refine skipMark.eq_2 s fun r hr => ?_
        rw [hr, lines?_mark] at hls
        cases hls
      · rfl
    rw [← hmark] at hls
    exact Option.bind_eq_some_iff.2 ⟨ls, hls, ht.defines_iff.1 hes⟩

theorem parse?_of_lines {s : List Char} {ls : List Line} (h : Lines bound bound ls s) :
    parse? s = (Document.ofLines ls).entries? := by
  ext es
  rw [parse?_eq_some_iff, documentText_iff_of_lines h, h.defines_iff]

/-- A short text does not reach any bounds. -/
theorem isDocument_iff_of_lines {s : List Char} {ls : List Line} {es : Entries}
    (h : Lines bound bound ls s) (hs : s.countP nests < bound) :
    IsDocument es s ↔ Defines Standard (Document.ofLines ls) es := by
  rw [← documentText_iff_of_lines h]
  exact ⟨fun ⟨_, _, h⟩ => h.narrow hs (Nat.le_of_lt hs), fun h => ⟨_, _, h⟩⟩

end BuiltinLink.Toml
