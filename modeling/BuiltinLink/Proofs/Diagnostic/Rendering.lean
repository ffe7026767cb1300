import BuiltinLink.Diagnostic.Report
import BuiltinLink.Proofs.Text.Joined
import Mathlib.Data.List.Basic
import Mathlib.Data.List.Induction

/-!
What a rendered diagnostic shows. A label is as long as its text has bytes and is laid along the text
character by character, so on a text of one line it stays within the text iff the text is ASCII. Then
all of the diagnostic is shown. A label that ends one character behind the text is not drawn, and
neither is the text; one that ends farther behind leaves nothing but the heading.
-/

namespace BuiltinLink

/-! ### Texts of one line -/

namespace Text

/-- A text that stands on one line as it is: no character of it ends a line, none is a tab, and the
last one shows. -/
structure OneLine (s : List Char) : Prop where
  ne_nil : s ≠ []
  no_end : ∀ c ∈ s, endsLine c = false
  no_tab : '\t' ∉ s
  last_shows : s.getLast?.any isBlank = false

instance (s : List Char) : Decidable (OneLine s) :=
  decidable_of_iff (s ≠ [] ∧ (s.all fun c => !endsLine c) = true ∧ '\t' ∉ s ∧
      s.getLast?.any isBlank = false)
    ⟨fun ⟨hne, hend, htab, hlast⟩ => ⟨hne, by simpa using hend, htab, hlast⟩,
      fun ⟨hne, hend, htab, hlast⟩ => ⟨hne, by simpa using hend, htab, hlast⟩⟩

/-- A text of characters that take one byte each. -/
def IsAscii (s : List Char) : Prop :=
  ∀ c ∈ s, c.toNat < 0x80

instance (s : List Char) : Decidable (IsAscii s) :=
  List.decidableBAll (fun c : Char => c.toNat < 0x80) s

theorem OneLine.lines_eq {s : List Char} (h : OneLine s) : lines s = [s] := by
  obtain ⟨hne, hend, -, -⟩ := h
  fun_induction lines s with
  | case1 => exact absurd rfl hne
  | case2 r ih => exact absurd (hend '\r' List.mem_cons_self) (by decide)
  | case3 c r _ hc ih => exact absurd hc (by simp [hend c List.mem_cons_self])
  | case4 c r _ hc ih =>
    cases r with
    | nil => rfl
    | cons d r =>
      rw [ih (List.cons_ne_nil d r) fun x hx => hend x (List.mem_cons_of_mem c hx)]
      rfl

theorem OneLine.trimEnd_eq {s : List Char} (h : OneLine s) : trimEnd s = s := by
  obtain ⟨r, c, rfl⟩ := (List.eq_nil_or_concat s).resolve_left h.ne_nil
  have hc : isBlank c = false := by simpa using h.last_shows
  simp [trimEnd, hc]

theorem byteLength_cons (c : Char) (s : List Char) :
    byteLength (c :: s) = c.utf8Size + byteLength s := by
  simp [byteLength, encode, String.length_utf8EncodeChar]

theorem length_le_byteLength (s : List Char) : s.length ≤ byteLength s := by
  induction s with
  | nil => exact Nat.zero_le _
  | cons c s ih =>
    have hpos := c.utf8Size_pos
    rw [byteLength_cons, List.length_cons]
    omega

/-- A text has no more bytes than characters iff it is ASCII. -/
theorem byteLength_le_length_iff {s : List Char} : byteLength s ≤ s.length ↔ IsAscii s := by
  induction s with
  | nil => exact iff_of_true (Nat.le_refl 0) fun _ h => nomatch h
  | cons c s ih =>
    have hone : c.utf8Size = 1 ↔ c.toNat < 0x80 :=
      Char.utf8Size_eq_one_iff.trans (UInt32.le_iff_toNat_le.trans Nat.lt_succ_iff.symm)
    have hcons : IsAscii (c :: s) ↔ c.utf8Size = 1 ∧ IsAscii s :=
      List.forall_mem_cons.trans (and_congr_left' hone.symm)
    have hpos := c.utf8Size_pos
    have hle := length_le_byteLength s
    rw [hcons, ← ih, byteLength_cons, List.length_cons]
    omega

end Text

open Text

/-! ### The label -/

/-- A label on a text of one line touches that line, unless it ends more than one character behind
the text. -/
theorem Label.on?_of_oneLine {s : List Char} (h : OneLine s) :
    Label.on? s =
      if s.length + 1 < byteLength s then none else some ⟨byteLength s, ⟨0, s⟩, [], none⟩ := by
  have hplaced : PlacedLine.place 0 (lines s) = [⟨0, s⟩] := by
    rw [h.lines_eq]
    rfl
  have hbound : s.length < byteLength s - 1 ↔ s.length + 1 < byteLength s := by omega
  unfold on? linesTo
  simp only [hplaced, hbound]
  by_cases hlong : s.length + 1 < byteLength s <;> simp [hlong]

theorem Cell.shown_ofChar {c : Char} (htab : c ≠ '\t') (hend : endsLine c = false)
    (hascii : c.toNat < 0x80) (column : Nat) : (ofChar column c).shown = [c] := by
  unfold ofChar
  rw [if_neg htab]
  split
  · rename_i hblank
    -- The blanks of ASCII are tabs, line ends and this one.
    have htab' : c.toNat ≠ '\t'.toNat := fun heq => htab (Char.toNat_inj.1 heq)
    have hspace : c = ' ' := by
      apply Char.toNat_inj.1
      simp [isBlank, endsLine] at hblank hend htab' ⊢
      omega
    rw [hspace]
  · rfl

theorem Cell.flatMap_shown_ofLine {s : List Char} (h : OneLine s) (hascii : IsAscii s) :
    (ofLine s).flatMap shown = s := by
  have hcells : ∀ r : List Char, (∀ c ∈ r, c ∈ s) → (r.mapIdx ofChar).flatMap shown = r := by
    intro r hr
    induction r using List.reverseRecOn with
    | nil => rfl
    | append_singleton r c ih =>
      have hc : c ∈ s := hr c (by simp)
      rw [List.mapIdx_concat, List.flatMap_append, ih fun x hx => hr x (by simp [hx])]
      simp [shown_ofChar (fun htab => h.no_tab (htab ▸ hc)) (h.no_end c hc) (hascii c hc)]
  rw [ofLine, h.trimEnd_eq]
  exact hcells s fun _ hc => hc

/-! ### Lines without colours -/

namespace Styled

theorem write_plain (l : Styled) : write false l = l.flatMap Span.text ++ ['\n'] := by
  have hspan : Span.write false = Span.text := by
    funext s
    unfold Span.write
    cases s.colour <;> rfl
  rw [write, hspan]

@[simp] theorem flatMap_text_each (c : Colour) (s : List Char) :
    (each c s).flatMap Span.text = s := by
  simp [each, List.flatMap_map, Span.inColour]

end Styled

namespace Report.Drawing

theorem flatMap_text_text (d : Drawing) (p : PlacedLine) :
    (d.text p).flatMap Span.text = (Cell.ofLine p.text).flatMap Cell.shown := by
  unfold text
  generalize Cell.ofLine p.text = cells
  induction cells using List.reverseRecOn with
  | nil => rfl
  | append_singleton cells c ih =>
    rw [List.mapIdx_concat, List.flatten_append, List.flatMap_append, ih]
    simp

end Report.Drawing

namespace Diagnostic

/-- Each line of a report stands in the rendered text. -/
theorem infix_render {d : Diagnostic} {line : Styled} (h : line ∈ d.report) {s : List Char}
    (hs : s <:+: line.flatMap Span.text) : s <:+: (d.render false).toList := by
  have hline : s <:+: Styled.write false line := by
    rw [Styled.write_plain]
    exact hs.trans (List.prefix_append _ _).isInfix
  obtain ⟨l₁, l₂, hreport⟩ := List.append_of_mem h
  rw [render, String.toList_ofList, hreport, List.flatMap_append, List.flatMap_cons]
  exact hline.trans ⟨l₁.flatMap (Styled.write false), l₂.flatMap (Styled.write false), by simp⟩

/-! ### The lines of a report -/

/-- The message behind its code. -/
def headline (d : Diagnostic) : String :=
  match d.code with
  | some c => "[" ++ c.text ++ "] " ++ d.message
  | none => d.message

/-- The drawing of a label that touches one line. -/
def drawing (d : Diagnostic) : Report.Drawing :=
  ⟨⟨byteLength d.labelled.toList, ⟨0, d.labelled.toList⟩, [], none⟩, d.severity.labelColour,
    d.labelText.toList⟩

theorem text_headingLine (d : Diagnostic) :
    d.headingLine.flatMap Span.text = d.severity.heading ++ ' ' :: d.headline.toList := by
  unfold headingLine headline
  cases d.code <;> simp [Span.inColour, Span.plain]

theorem second_of_headingLine (d : Diagnostic) :
    (d.headingLine.flatMap Span.text)[1]? ≠ some '1' := by
  have hheading : ∃ a b r, d.severity.heading = a :: b :: r ∧ b ≠ '1' := by
    cases d.severity <;> exact ⟨_, _, _, rfl, by decide⟩
  obtain ⟨a, b, r, hr, hb⟩ := hheading
  rw [text_headingLine, hr]
  simpa using hb

theorem report_of_oneLine {d : Diagnostic} (h : OneLine d.labelled.toList) :
    d.report = d.headingLine ::
      if d.labelled.toList.length + 1 < byteLength d.labelled.toList then []
      else d.drawing.top ++ d.drawing.single ++ d.drawing.remarks "Help" d.suggestions ++
        d.drawing.remarks "Note" d.notes ++ [d.drawing.bottom] := by
  unfold report
  rw [Label.on?_of_oneLine h]
  by_cases hlong : d.labelled.toList.length + 1 < byteLength d.labelled.toList
  · rw [if_pos hlong, if_pos hlong]
  · rw [if_neg hlong, if_neg hlong]
    rfl

end Diagnostic

namespace Report.Drawing

/-- A label within its line is drawn below the line, with its message at the end. -/
theorem single_of_le {w : Drawing} (h : w.label.extent ≤ w.label.first.text.length) :
    ∃ rule bend,
      w.single = [w.numbered 0 ++ w.text w.label.first, rule, bend ++ [w.messageSpan]] := by
  unfold single
  rw [if_pos h]
  exact ⟨_, _, rfl⟩

theorem infix_remarks (w : Drawing) (word : String) {text : String} {texts : List String}
    (h : text ∈ texts) : ∃ line ∈ w.remarks word texts, text.toList <:+: line.flatMap Span.text := by
  unfold remarks
  rw [if_neg (List.ne_nil_of_mem h)]
  refine ⟨_, List.mem_cons_of_mem _ List.mem_cons_self, ?_⟩
  have hjoined : text.toList <:+: ("\n".intercalate texts).toList := by
    rw [String.toList_intercalate]
    exact infix_intercalate (List.mem_map_of_mem h)
  have hend : ("\n".intercalate texts).toList <:+
      [Span.inColour wordColour word.toList,
        Span.plain (": " ++ "\n".intercalate texts).toList].flatMap Span.text :=
    ⟨word.toList ++ ": ".toList, by simp [Span.plain, Span.inColour]⟩
  rw [List.flatMap_append]
  exact hjoined.trans (hend.trans (List.suffix_append _ _)).isInfix

theorem text_numbered {w : Drawing} (h : w.label.lastIndex = 0) :
    (w.numbered 0).flatMap Span.text = " 1 │ ".toList := by
  have hdigits : Nat.toDigits 10 (0 + 1) = ['1'] := rfl
  unfold numbered digits
  simp [h, hdigits, Span.blanks, Span.plain, Span.inColour]

/-! The character behind the first one of a line. -/

theorem second_of_top {w : Drawing} {line : Styled} (h : line ∈ w.top) :
    (line.flatMap Span.text)[1]? = some ' ' := by
  rcases List.mem_pair.1 h with rfl | rfl <;> rfl

theorem second_of_margin (w : Drawing) (bar : Char) :
    ((w.margin bar).flatMap Span.text)[1]? = some ' ' :=
  rfl

theorem second_of_remarks {w : Drawing} {word : String} {texts : List String} {line : Styled}
    (h : line ∈ w.remarks word texts) : (line.flatMap Span.text)[1]? = some ' ' := by
  unfold remarks at h
  by_cases htexts : texts = []
  · simp [htexts] at h
  · rw [if_neg htexts] at h
    rcases List.mem_pair.1 h with rfl | rfl <;> rfl

theorem second_of_bottom (w : Drawing) : (w.bottom.flatMap Span.text)[1]? = some '─' :=
  rfl

end Report.Drawing

namespace Diagnostic

/-- A line of the report shows the labelled text behind the number of the line. -/
def ShowsText (d : Diagnostic) : Prop :=
  ∃ line ∈ d.report, line.flatMap Span.text = " 1 │ ".toList ++ d.labelled.toList

/-- The rendered text has everything that the diagnostic says. -/
structure ShownInFull (d : Diagnostic) : Prop where
  headline : d.headline.toList <:+: (d.render false).toList
  labelled : d.labelled.toList <:+: (d.render false).toList
  labelText : d.labelText.toList <:+: (d.render false).toList
  notes : ∀ s ∈ d.notes, s.toList <:+: (d.render false).toList
  suggestions : ∀ s ∈ d.suggestions, s.toList <:+: (d.render false).toList

section

variable {d : Diagnostic} (h : OneLine d.labelled.toList)

include h

theorem report_of_one_over
    (hone : byteLength d.labelled.toList = d.labelled.toList.length + 1) :
    d.report = d.headingLine :: (d.drawing.top ++ [d.drawing.margin '│'] ++
      d.drawing.remarks "Help" d.suggestions ++ d.drawing.remarks "Note" d.notes ++
      [d.drawing.bottom]) := by
  have hsingle : d.drawing.single = [d.drawing.margin '│'] := by
    unfold Report.Drawing.single
    exact if_neg (show ¬byteLength d.labelled.toList ≤ d.labelled.toList.length by omega)
  rw [report_of_oneLine h, if_neg (by omega), hsingle]

theorem report_of_over (hover : d.labelled.toList.length + 1 < byteLength d.labelled.toList) :
    d.report = [d.headingLine] := by
  rw [report_of_oneLine h, if_pos hover]

/-- The line of the labelled text, if the label ends within it. -/
theorem showsText_of_le (hfit : byteLength d.labelled.toList ≤ d.labelled.toList.length) :
    d.ShowsText := by
  obtain ⟨rule, bend, hsingle⟩ := Report.Drawing.single_of_le (w := d.drawing) hfit
  refine ⟨d.drawing.numbered 0 ++ d.drawing.text d.drawing.label.first, ?_, ?_⟩
  · rw [report_of_oneLine h, if_neg (by omega)]
    simp [hsingle]
  · have hshown := Cell.flatMap_shown_ofLine h (byteLength_le_length_iff.1 hfit)
    rw [List.flatMap_append, Report.Drawing.flatMap_text_text, Report.Drawing.text_numbered rfl]
    exact congrArg (" 1 │ ".toList ++ ·) hshown

/-- No other line of a report looks like that of the labelled text: its second character is not a
digit. -/
theorem showsText_iff :
    d.ShowsText ↔ byteLength d.labelled.toList ≤ d.labelled.toList.length := by
  refine ⟨fun ⟨line, hline, htext⟩ => ?_, showsText_of_le h⟩
  have hsecond : (line.flatMap Span.text)[1]? = some '1' := by
    rw [htext]
    rfl
  by_contra hlong
  by_cases hover : d.labelled.toList.length + 1 < byteLength d.labelled.toList
  · rw [report_of_over h hover, List.mem_singleton] at hline
    exact second_of_headingLine d (hline ▸ hsecond)
  · rw [report_of_one_over h (by omega), List.mem_cons, List.mem_append, List.mem_append,
      List.mem_append, List.mem_append, List.mem_singleton, List.mem_singleton] at hline
    rcases hline with rfl | (((htop | rfl) | hhelp) | hnote) | rfl
    · exact second_of_headingLine d hsecond
    · exact absurd ((Report.Drawing.second_of_top htop).symm.trans hsecond) (by decide)
    · exact absurd ((Report.Drawing.second_of_margin d.drawing '│').symm.trans hsecond) (by decide)
    · exact absurd ((Report.Drawing.second_of_remarks hhelp).symm.trans hsecond) (by decide)
    · exact absurd ((Report.Drawing.second_of_remarks hnote).symm.trans hsecond) (by decide)
    · exact absurd ((Report.Drawing.second_of_bottom d.drawing).symm.trans hsecond) (by decide)

/-- Within ASCII the label is drawn, and so are the text, help and notes. -/
theorem shownInFull_of_isAscii (hascii : IsAscii d.labelled.toList) : d.ShownInFull := by
  have hfit := byteLength_le_length_iff.2 hascii
  have hreport := report_of_oneLine h
  rw [if_neg (by omega)] at hreport
  refine ⟨?_, ?_, ?_, ?_, ?_⟩
  · have hline : d.headingLine ∈ d.report := by simp [hreport]
    apply infix_render hline
    rw [text_headingLine]
    exact ⟨d.severity.heading ++ [' '], [], by simp⟩
  · obtain ⟨line, hline, htext⟩ := showsText_of_le h hfit
    apply infix_render hline
    rw [htext]
    exact (List.suffix_append _ _).isInfix
  · obtain ⟨rule, bend, hsingle⟩ := Report.Drawing.single_of_le (w := d.drawing) hfit
    have hline : bend ++ [d.drawing.messageSpan] ∈ d.report := by simp [hreport, hsingle]
    apply infix_render hline
    rw [List.flatMap_append]
    exact ⟨bend.flatMap Span.text ++ [' '], [],
      by simp [Report.Drawing.messageSpan, Span.plain, drawing]⟩
  · intro s hs
    obtain ⟨line, hline, hinfix⟩ := d.drawing.infix_remarks "Note" hs
    exact infix_render (by simp [hreport, hline]) hinfix
  · intro s hs
    obtain ⟨line, hline, hinfix⟩ := d.drawing.infix_remarks "Help" hs
    exact infix_render (by simp [hreport, hline]) hinfix

end

theorem render_of_report_eq {d : Diagnostic} (h : d.report = [d.headingLine]) :
    (d.render false).toList = d.severity.heading ++ ' ' :: d.headline.toList ++ ['\n'] := by
  rw [render, h, String.toList_ofList, List.flatMap_singleton, Styled.write_plain, text_headingLine]

/-- A diagnostic about a text of one line draws the text iff it is ASCII, and then shows all it says.
Otherwise the label ends behind the text, since it counts bytes: one place behind it the text and the
label are missing, and farther behind it all but the heading is. -/
theorem shown_in_full_within_ascii (d : Diagnostic) (h : OneLine d.labelled.toList) :
    let s := d.labelled.toList
    (byteLength s ≤ s.length ↔ IsAscii s) ∧
    (d.ShowsText ↔ IsAscii s) ∧
    (IsAscii s → d.ShownInFull) ∧
    (byteLength s = s.length + 1 →
      d.report = d.headingLine :: (d.drawing.top ++ [d.drawing.margin '│'] ++
        d.drawing.remarks "Help" d.suggestions ++ d.drawing.remarks "Note" d.notes ++
        [d.drawing.bottom])) ∧
    (s.length + 1 < byteLength s →
      (d.render false).toList = d.severity.heading ++ ' ' :: d.headline.toList ++ ['\n']) := by
  intro s
  refine ⟨byteLength_le_length_iff, ?_, shownInFull_of_isAscii h, report_of_one_over h, ?_⟩
  · rw [showsText_iff h]
    exact byteLength_le_length_iff
  · intro hover
    exact render_of_report_eq (report_of_over h hover)

theorem shown_in_full_intrinsic :
    let d := (((error "cannot call").withCode .unrepresentableParamType).withSubject
      "llvm.x86.sse.foo").withNote "parameter type is `i24`"
    OneLine d.labelled.toList ∧ IsAscii d.labelled.toList ∧ d.ShowsText ∧ d.ShownInFull := by
  intro d
  have h : OneLine d.labelled.toList := by decide
  have hascii : IsAscii d.labelled.toList := by decide
  obtain ⟨-, hshows, hfull, -⟩ := shown_in_full_within_ascii d h
  exact ⟨h, hascii, hshows.2 hascii, hfull hascii⟩

/-- Two characters of two bytes in the subject: the subject, the label and the note are gone. -/
theorem note_of_wide_subject_is_lost :
    let d := ((error "cannot load").withSubject "größe").withNote "file is empty"
    (∀ s ∈ [d.message, d.labelled] ++ d.notes, OneLine s.toList) ∧
      d.render false = "Error: cannot load\n" ∧ ¬d.ShownInFull := by
  intro d
  have htexts : ∀ s ∈ ["cannot load", "größe", "file is empty"], OneLine s.toList := by
    simp only [List.forall_mem_cons]
    exact ⟨by decide, by decide, by decide, fun _ h => nomatch h⟩
  have hsubject : OneLine d.labelled.toList := htexts "größe" (by simp)
  have hover : "größe".toList.length + 1 < byteLength "größe".toList := by decide
  have hheading : Severity.error.heading ++ ' ' :: "cannot load".toList ++ ['\n'] =
      "Error: cannot load\n".toList := by decide
  have hrender : d.render false = "Error: cannot load\n" :=
    String.toList_inj.1 ((render_of_report_eq (report_of_over hsubject hover)).trans hheading)
  refine ⟨htexts, hrender, fun hfull => ?_⟩
  have hmember : 'f' ∈ "file is empty".toList := by decide
  have hnote := (hfull.notes "file is empty" List.mem_cons_self).subset hmember
  rw [hrender] at hnote
  exact absurd hnote (by decide)

end Diagnostic

end BuiltinLink
