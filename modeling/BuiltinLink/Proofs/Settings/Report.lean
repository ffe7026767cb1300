import BuiltinLink.Proofs.Settings.Edits
import BuiltinLink.Proofs.Settings.Language
import BuiltinLink.Proofs.Toml.Order

/-!
What is reported of a text that does not describe settings. A text that is not a document, by the
rules and within the bounds of the reader, is a syntax error, whatever else is wrong with it. Of a
document that does not describe settings the first fault is reported, and only of one that does
describe settings, that its target does not exist.
-/

namespace BuiltinLink

open Toml Toml.Grammar

namespace Settings

/-- A fault of a document that stands before all its others. -/
def IsFirstFault (es : Entries) (p : Position) (f : ShapeFault) : Prop :=
  (p, f) ∈ documentFaults es ∧ ∀ o ∈ documentFaults es, o = (p, f) ∨ Before es p o.1

theorem isFirstFault_iff {es : Entries} (hes : es.Distinct) {p : Position} {f : ShapeFault} :
    IsFirstFault es p f ↔ (documentFaults es).head? = some (p, f) := by
  unfold IsFirstFault
  have hbefore := documentFaults_before es
  generalize documentFaults es = l at hbefore ⊢
  cases l with
  | nil => simp
  | cons o l =>
    obtain ⟨ho, -⟩ := List.pairwise_cons.1 hbefore
    constructor
    · intro ⟨hmem, hfirst⟩
      rcases hfirst o List.mem_cons_self with heq | hlater
      · rw [heq, List.head?_cons]
      · rcases List.mem_cons.1 hmem with heq | hl
        · rw [heq, List.head?_cons]
        · exact absurd hlater (Before.asymm hes (ho _ hl))
    · intro heq
      cases heq
      refine ⟨List.mem_cons_self, fun o' ho' => ?_⟩
      rcases List.mem_cons.1 ho' with heq | hl
      · exact .inl heq
      · exact .inr (ho o' hl)

theorem firstFault?_eq_some_iff {es : Entries} (hes : es.Distinct) {f : ShapeFault} :
    firstFault? (documentFaults es) = some f ↔ ∃ p, IsFirstFault es p f := by
  simp only [isFirstFault_iff hes, firstFault?, Option.map_eq_some_iff, Prod.exists,
    exists_eq_right]

/-- A document without faults describes settings. -/
theorem firstFault?_eq_none_iff {es : Entries} (hes : es.Distinct) :
    firstFault? (documentFaults es) = none ↔ ∃ parts link, Describes es parts link := by
  simp only [← reported?_ofEntries hes, reported?_eq_none_iff, Prod.exists,
    ofEntries_eq_ok_iff hes]

/-- When the first fault is mended, the next one stands behind it. -/
theorem Gone.before {es es' : Entries} {p q : Position} {f : ShapeFault}
    (h : Gone p (documentFaults es) (documentFaults es'))
    (hfirst : (documentFaults es).head? = some (q, f)) {o : Position × ShapeFault}
    (ho : o ∈ documentFaults es') : o ∈ documentFaults es ∧ Before es q o.1 := by
  obtain ⟨lost, hne, heq, -⟩ := h
  have hbefore := documentFaults_before es
  rw [heq] at hbefore hfirst ⊢
  cases lost with
  | nil => exact absurd rfl hne
  | cons first lost =>
    cases hfirst
    exact ⟨List.mem_append_right _ ho,
      (List.pairwise_cons.1 hbefore).1 o (List.mem_append_right _ ho)⟩

end Settings

namespace LinkSettings

open Settings

variable {t t' : String} {es es' : Entries}

/-! ### Kinds of errors -/

theorem ofContents_eq_error_iff {parts : TargetParts} {link : LinkSection} {e : TargetError} :
    ofContents parts link = .error e ↔ Target.ofParts parts.isa parts.os parts.arch = .error e := by
  simp [ofContents, bind_eq_error_iff, pure, Except.pure]

/-- A document is refused for its shape, or if its shape is right, for its target. -/
theorem ofText_eq_error_iff (hes : parse? t.toList = some es) {e : SettingsError} :
    ofText t = .error e ↔ (∃ f, ofEntries es = .error f ∧ .shape f = e) ∨
      ∃ parts link, ofEntries es = .ok (parts, link) ∧
        ∃ e', Target.ofParts parts.isa parts.os parts.arch = .error e' ∧ .target e' = e := by
  simp only [ofText_of_parse? hes, bind_eq_error_iff, mapError_eq_error_iff, mapError_eq_ok_iff,
    ofContents_eq_error_iff, Prod.exists]

theorem ofText_eq_notToml_iff : ofText t = .error .notToml ↔ parse? t.toList = none := by
  cases hes : parse? t.toList with
  | none =>
    unfold ofText
    rw [hes]
    exact iff_of_true rfl rfl
  | some es => simp [ofText_eq_error_iff hes]

theorem ofText_eq_shape_iff (hes : parse? t.toList = some es) {f : ShapeFault} :
    ofText t = .error (.shape f) ↔ firstFault? (documentFaults es) = some f := by
  rw [← reported?_ofEntries (parse?_eq_some_iff.1 hes).distinct, reported?_eq_some_iff,
    ofText_eq_error_iff hes]
  simp

theorem ofText_eq_target_iff (hes : parse? t.toList = some es) {e : TargetError} :
    ofText t = .error (.target e) ↔ ∃ parts link, Describes es parts link ∧
      Target.ofParts parts.isa parts.os parts.arch = .error e := by
  simp only [← ofEntries_eq_ok_iff (parse?_eq_some_iff.1 hes).distinct]
  rw [ofText_eq_error_iff hes]
  simp

/-! ### Which fault is reported -/

/-- What is reported of a document. -/
structure ReportsFirst (t : String) (es : Entries) : Prop where
  /-- No place stands both before and behind another. -/
  places : (positions (.table .headed es)).Nodup
  /-- A fault is reported exactly if it is the first. -/
  shape : ∀ f, ofText t = .error (.shape f) ↔ ∃ p, IsFirstFault es p f
  /-- A document without a first fault describes settings. -/
  faultless : (∃ p f, IsFirstFault es p f) ↔ ¬∃ parts link, Describes es parts link
  /-- Only of such a document it is reported that its target does not exist. -/
  target : ∀ e, ofText t = .error (.target e) ↔ ∃ parts link, Describes es parts link ∧
    Target.ofParts parts.isa parts.os parts.arch = .error e

/-- How the reports of two documents compare, of which one has a fault at some place or below it. -/
structure ReportsLikewise (t t' : String) (es es' : Entries) (p q : Position) (f : ShapeFault) :
    Prop where
  /-- What stands behind a fault has no influence on the report. -/
  same : AgreeUpTo p (.table .headed es) (.table .headed es') → (p ++ q, f) ∈ documentFaults es →
    ∃ g, ofText t = .error (.shape g) ∧ ofText t' = .error (.shape g)
  /-- When the first fault is mended, the document describes settings, or another of its faults is
  reported, which stands at a later place. -/
  later : IsFirstFault es (p ++ q) f →
    Mended settingsSchema p (.table .headed es) (.table .headed es') →
    (∃ parts link, Describes es' parts link) ∨ ∃ p' f', (p', f') ∈ documentFaults es ∧
      Before es (p ++ q) p' ∧ IsFirstFault es' p' f' ∧ ofText t' = .error (.shape f')

/-- How lines order the keys of the tables that they define. -/
structure LinesOrderKeys : Prop where
  /-- Lines put keys behind those that are there before them, but move tables that they give a
  header. -/
  lines : ∀ ls ls' es es', Defines Accepted (Document.ofLines ls) es →
    Defines Accepted (Document.ofLines (ls ++ ls')) es' →
    KeepsOrder (Document.ownHeaders ls') [] (.table .headed es) (.table .headed es')
  /-- A table stands last when it gets its header. -/
  header : ∀ ls h es, Defines Accepted (Document.ofLines (ls ++ [.header h])) es →
    h.member = false → ∃ p, pathOf p = h.path ∧
      (keysAt p (.table .headed es)).getLast? = some h.key
  /-- Between braces all keys stay where they are. -/
  braces : ∀ l l' es es', Defines Standard ⟨l, []⟩ es → Defines Standard ⟨l ++ l', []⟩ es' →
    KeepsOrder [] [] (.table .inline es) (.table .inline es')

theorem reportsFirst (hes : DocumentText Accepted bound bound es t.toList) : ReportsFirst t es where
  places := nodup_positions (hes.distinct.table _)
  shape f := by
    rw [ofText_eq_shape_iff (parse?_eq_some_iff.2 hes), firstFault?_eq_some_iff hes.distinct]
  faultless := by
    rw [exists_comm]
    simp only [← firstFault?_eq_some_iff hes.distinct, ← firstFault?_eq_none_iff hes.distinct]
    exact Option.ne_none_iff_exists'.symm
  target _ := ofText_eq_target_iff (parse?_eq_some_iff.2 hes)

theorem reportsLikewise (hes : DocumentText Accepted bound bound es t.toList)
    (hes' : DocumentText Accepted bound bound es' t'.toList) (p q : Position) (f : ShapeFault) :
    ReportsLikewise t t' es es' p q f where
  same h ho := by
    obtain ⟨g, hg⟩ := Option.isSome_iff_exists.1 (isSome_firstFault? ho)
    have hg' : firstFault? (documentFaults es') = some g :=
      (h.firstFault?_eq (hes.distinct.table _) ho).trans hg
    exact ⟨g, (ofText_eq_shape_iff (parse?_eq_some_iff.2 hes)).2 hg,
      (ofText_eq_shape_iff (parse?_eq_some_iff.2 hes')).2 hg'⟩
  later hfirst h := by
    have hhead := (isFirstFault_iff hes.distinct).1 hfirst
    have hgone := h.gone (hes.distinct.table _) hhead
    cases hf' : firstFault? (documentFaults es') with
    | none => exact .inl ((firstFault?_eq_none_iff hes'.distinct).1 hf')
    | some f' =>
      obtain ⟨p', hfirst'⟩ := (firstFault?_eq_some_iff hes'.distinct).1 hf'
      obtain ⟨hmem, hbefore⟩ := Gone.before hgone hhead hfirst'.1
      exact .inr ⟨p', f', hmem, hbefore, hfirst',
        (ofText_eq_shape_iff (parse?_eq_some_iff.2 hes')).2 hf'⟩

theorem linesOrderKeys : LinesOrderKeys where
  lines _ _ _ _ h h' := Document.keepsOrder_append ((defines_iff h.written).1 h)
    ((defines_iff h'.written).1 h')
  header _ _ _ h hm := Document.exists_position_header ((defines_iff h.written).1 h) hm
  braces l l' es es' h h' := by
    have hwritten {l : List Assignment} {es : Entries} (h : Defines Standard ⟨l, []⟩ es) :
        ∀ a ∈ l, Written a.value := by
      simpa [assignments] using h.written
    exact keepsOrder_inlineTable? ((inlineTable?_eq_some_iff (hwritten h)).2 ⟨es, h, rfl⟩)
      ((inlineTable?_eq_some_iff (hwritten h')).2 ⟨es', h', rfl⟩)

/-- Of a document that does not describe settings the first fault is reported, in the order of its
tree. A text that is not a document, by the rules and within the bounds of the reader, is a syntax
error, and that a target does not exist is reported only of a document without faults. -/
theorem first_fault_is_reported :
    (∀ t, ofText t = .error .notToml ↔ ¬∃ es, DocumentText Accepted bound bound es t.toList) ∧
      (∀ t es, DocumentText Accepted bound bound es t.toList → ReportsFirst t es) ∧
      (∀ t t' es es', DocumentText Accepted bound bound es t.toList →
        DocumentText Accepted bound bound es' t'.toList →
        ∀ p q f, ReportsLikewise t t' es es' p q f) ∧
      LinesOrderKeys := by
  refine ⟨fun t => ?_, fun _ _ => reportsFirst, fun _ _ _ _ => reportsLikewise, linesOrderKeys⟩
  simp only [ofText_eq_notToml_iff, ← parse?_eq_some_iff, Option.eq_none_iff_forall_ne_some,
    not_exists, ne_eq]

/-! ### Faults that do not come first, or cannot be reached -/

/-- An unknown key with arrays nested below it. -/
def deepUnknown (n : Nat) : List Char :=
  'x' :: '=' :: nest n

theorem keyPath_x : KeyPath ["x"] ['x'] :=
  keyPath_of_simpleKey (simpleKey_bare rfl)

theorem isDocument_deepUnknown (n : Nat) : IsDocument [("x", nested n)] (deepUnknown n) := by
  have hline : LineText 1 (n + 1) (.assignment ⟨[], "x", nested n⟩) (deepUnknown n) :=
    .assignment ⟨_, [], _, keyPath_x, Nat.le_refl 1, blanks_nil, valueText_nest 1 n, rfl⟩
  have hlines := Lines.last (expression_of_lineText hline)
  have hdefines : Defines Accepted _ [("x", nested n)] := hlines.defines_iff.2 rfl
  exact ⟨1, n + 1, _, _, .inl rfl, hlines, defines_standard_iff.2 hdefines⟩

theorem lines?_deepUnknown {n : Nat} (h : bound ≤ n) : lines? (deepUnknown n) = none := by
  have hread := read_nest h []
  rw [List.append_nil] at hread
  obtain ⟨t, ht⟩ := exists_nest_cons n
  unfold deepUnknown
  rw [ht] at hread ⊢
  exact lines?_of_read_eq_none keyPath_x rfl (by decide) rfl hread

/-- A document of the language whose first fault is not seen, since the text is refused. -/
def Unseen (t : String) (es : Entries) (p : Position) (f : ShapeFault) : Prop :=
  IsDocument es t.toList ∧ IsFirstFault es p f ∧ ofText t = .error .notToml

/-- Entries below a target that only longer headers have named. -/
def aboveTarget (es : Entries) : Entries :=
  [("target", .table .implied es)]

theorem unseen_deepUnknown : Unseen (String.ofList (deepUnknown 79)) [("x", nested 79)] [.key "x"]
    (.unknownField "x" Draft.fields) := by
  unfold Unseen
  rw [ofText_eq_notToml_iff, String.toList_ofList]
  obtain ⟨parts, depth, htext⟩ := isDocument_deepUnknown 79
  refine ⟨⟨parts, depth, htext⟩, (isFirstFault_iff htext.distinct).2 rfl, ?_⟩
  change (lines? (deepUnknown 79)).bind _ = none
  rw [lines?_deepUnknown (Nat.le_refl 79)]
  rfl

/-- By the rules of the language, a dotted key may add to a table that only a longer header has
named. -/
theorem defines_impliedLines :
    Defines Standard (Document.ofLines impliedLines) (aboveTarget impliedEntries) := by
  have hscript : documentScript (Document.ofLines impliedLines) [rootMention] =
      impliedMentions [.key "target"] := by
    cbv
  refine ⟨lineTexts_implied.lines.written, ?_, ?_⟩
  · rw [hscript]
    simp [impliedMentions, Grammar.under, Allowed, view, behind, uses, rootMention]
  · rw [hscript]
    exact .table .headed rfl (List.forall_mem_singleton.2
      (.table (.implied (by simp [Grammar.under])) rfl
        (List.forall_mem_singleton.2 says_implied)))

theorem unseen_implied : Unseen ("\n".intercalate impliedTexts) (aboveTarget impliedEntries)
    [.value "target", .key "a"] (.unknownField "a" TargetDraft.fields) := by
  have htext := (documentText_iff_of_lines lineTexts_implied.lines).2 defines_impliedLines
  refine ⟨⟨_, _, htext⟩, (isFirstFault_iff htext.distinct).2 rfl, ?_⟩
  rw [ofText_eq_notToml_iff, parse?_of_lines lineTexts_implied.lines]
  rfl

/-- By the rules of the language, no dotted key passes an array of tables. The reader takes the text
for a document, and reports a fault of its shape. -/
theorem passed_is_no_document (es : Entries) :
    ¬ IsDocument es ("\n".intercalate passedTexts).toList := by
  have hshort : ("\n".intercalate passedTexts).toList.countP nests < bound := by
    simp [passedTexts]
    decide
  have hscript : documentScript (Document.ofLines passedLines) [rootMention] =
      passedMentions [.key "target"] := by
    cbv
  rw [isDocument_iff_of_lines lineTexts_passed.lines hshort]
  rintro ⟨-, hallowed, -⟩
  rw [hscript] at hallowed
  simp [passedMentions, Grammar.under, Allowed, view, behind, uses, rootMention] at hallowed

theorem ofText_passed : ofText ("\n".intercalate passedTexts) =
    .error (.shape (.unknownField "a" TargetDraft.fields)) := by
  have hes : parse? ("\n".intercalate passedTexts).toList = some (aboveTarget passedEntries) := by
    rw [parse?_of_lines lineTexts_passed.lines]
    rfl
  rw [ofText_eq_shape_iff hes]
  rfl

/-! #### Headers that come late -/

/-- A header below the target, a header in the settings beside it, whose key is unknown there, and a
header for the target itself. -/
def lateTexts : List String :=
  ["[target.isa]", "[link.a]", "[target]"]

def lateLines : List Line :=
  [.header ⟨["target"], "isa", false⟩, .header ⟨["link"], "a", false⟩,
    .header ⟨[], "target", false⟩]

/-- The target as it stands before the other settings. -/
def earlyEntries : Entries :=
  [("target", .table .implied [("isa", .table .headed [])])]

/-- The target stands behind the other settings, where its own header is. -/
def lateEntries : Entries :=
  [("link", .table .implied [("a", .table .headed [])]),
    ("target", .table .headed [("isa", .table .headed [])])]

theorem lineTexts_late : LineTexts lateLines lateTexts := by
  have hisa : KeyPath (["target"] ++ ["isa"]) "target.isa".toList :=
    keyPath_cons rfl (keyPath_of_simpleKey (simpleKey_bare rfl))
  have ha : KeyPath (["link"] ++ ["a"]) "link.a".toList :=
    keyPath_cons rfl (keyPath_of_simpleKey (simpleKey_bare rfl))
  have htarget : KeyPath ([] ++ ["target"]) "target".toList := keyPath_target
  exact .cons (.header hisa (by decide)) (.cons (.header ha (by decide))
    (.cons (.header htarget (by decide)) .nil))

/-- A table that gets its header late loses its place. -/
structure MovedBack (ls ls' : List Line) (es es' : Entries) : Prop where
  before : Defines Accepted (Document.ofLines ls) es
  after : Defines Accepted (Document.ofLines (ls ++ ls')) es'
  moved : ¬ KeepsOrder [] [] (.table .headed es) (.table .headed es')

theorem movedBack_late :
    MovedBack (lateLines.take 1) (lateLines.drop 1) earlyEntries lateEntries := by
  have hwritten (ls : List Line) (h : ∀ a, .assignment a ∉ ls) :
      ∀ a ∈ assignments (Document.ofLines ls), Written a.value :=
    fun a ha => absurd (mem_assignments_ofLines.1 ha) (h a)
  refine ⟨(defines_iff (hwritten _ ?_)).2 rfl, (defines_iff (hwritten _ ?_)).2 rfl, fun h => ?_⟩
  · simp [lateLines]
  · simp [lateLines]
  · exact absurd (h []) (by decide)

theorem ofText_late : ofText ("\n".intercalate lateTexts) =
    .error (.shape (.unknownField "a" LinkSection.fields)) := by
  have hes : parse? ("\n".intercalate lateTexts).toList = some lateEntries := by
    rw [parse?_of_lines lineTexts_late.lines]
    rfl
  rw [ofText_eq_shape_iff hes]
  rfl

theorem isFirstFault_reverse_late :
    IsFirstFault lateEntries.reverse [.value "target", .value "isa"] .noVariant := by
  have hdistinct : lateEntries.Distinct :=
    (parse?_eq_some_iff.1 ((parse?_of_lines lineTexts_late.lines).trans rfl)).distinct
  refine (isFirstFault_iff ⟨by decide, fun e he => ?_⟩).2 rfl
  exact hdistinct.values e (List.mem_reverse.1 he)

/-- Bounds, rules for dotted keys and headers all keep the first fault to appear in a document from
being reported. Where arrays nest eighty deep, or a dotted key adds to a table that only a longer
header has named, the text is refused, and the unknown key above is not seen. Where a dotted key
passes an array of tables, the unknown key above is reported, although the text is no document. And
a target that appears first, but gets its header only behind the other settings, is judged behind
them: the unknown key there is reported, not that the target names no instruction set. -/
theorem first_to_appear_is_not_reported :
    Unseen (String.ofList (deepUnknown 79)) [("x", nested 79)] [.key "x"]
        (.unknownField "x" Draft.fields) ∧
      Unseen ("\n".intercalate impliedTexts) (aboveTarget impliedEntries)
        [.value "target", .key "a"] (.unknownField "a" TargetDraft.fields) ∧
      ((¬∃ es, IsDocument es ("\n".intercalate passedTexts).toList) ∧
        ofText ("\n".intercalate passedTexts) =
          .error (.shape (.unknownField "a" TargetDraft.fields))) ∧
      LineTexts lateLines lateTexts ∧
      MovedBack (lateLines.take 1) (lateLines.drop 1) earlyEntries lateEntries ∧
      IsFirstFault lateEntries.reverse [.value "target", .value "isa"] .noVariant ∧
      ofText ("\n".intercalate lateTexts) =
        .error (.shape (.unknownField "a" LinkSection.fields)) :=
  ⟨unseen_deepUnknown, unseen_implied, ⟨fun ⟨es, h⟩ => passed_is_no_document es h, ofText_passed⟩,
    lineTexts_late, movedBack_late, isFirstFault_reverse_late, ofText_late⟩

end LinkSettings

end BuiltinLink
