import BuiltinLink.Proofs.Settings.Description
import BuiltinLink.Proofs.Toml.Language
import Mathlib.Data.List.Forall2

/-!
The language of link settings: the documents of the grammar whose entries describe settings. The
reader accepts the texts of its language and no others, and reads each as the settings it describes.

The language of the reader is not quite TOML. Arrays and braces may not nest deeper than its bound,
nor may keys have more parts; and its rules for dotted keys are its own. So there are documents that
describe settings and are refused, and there is a text that is accepted and is no document.
-/

namespace BuiltinLink.LinkSettings

open Toml Toml.Grammar

/-- A text is accepted exactly if it is a document by the rules and within the bounds of the reader,
and its entries describe settings. These are the settings that are read. -/
theorem accepts_exactly_described_documents (t : String) (s : LinkSettings) : ofText t = .ok s ↔
    ∃ es, DocumentText Accepted bound bound es t.toList ∧
      Settings.Describes es s.toParts s.toSection := by
  simp only [ofText_eq_ok_iff, parse?_eq_some_iff]

/-! ### Documents beyond the bounds -/

/-- Brackets around brackets, `n` of them around the innermost. -/
def nest : Nat → List Char
  | 0 => ['[', ']']
  | n + 1 => '[' :: (nest n ++ [']'])

/-- The arrays of nested brackets. -/
def nested : Nat → Value
  | 0 => .array .inline []
  | n + 1 => .array .inline [nested n]

theorem valueText_nest (parts n : Nat) : ValueText parts (n + 1) (nested n) (nest n) := by
  induction n with
  | zero => exact .inr (.inl ⟨[], [], rfl, rfl, .nil .nil⟩)
  | succ n ih =>
    refine .inr (.inl ⟨[nested n], nest n, rfl, rfl, ?_⟩)
    have h := Items.last .nil ih .nil
    rwa [List.append_nil] at h

theorem exists_nest_cons (n : Nat) : ∃ t, nest n = '[' :: t := by
  cases n <;> exact ⟨_, rfl⟩

theorem scalar?_bracket (r : List Char) : scalar? ('[' :: r) = none := by
  cases h : scalar? ('[' :: r) with
  | none => rfl
  | some p =>
    obtain ⟨t, ht, heq⟩ := scalar?_sound h
    obtain ⟨c, t', rfl, -, hc, -⟩ := ht.exists_cons
    exact absurd (List.cons.inj heq).1.symm hc

theorem read_nest {depth n : Nat} (h : depth ≤ n) (r : List Char) :
    (value depth).read (nest n ++ r) = none := by
  induction depth generalizing n r with
  | zero =>
    obtain ⟨t, ht⟩ := exists_nest_cons n
    rw [ht]
    exact scalar?_bracket _
  | succ depth ih =>
    obtain ⟨n, rfl⟩ := Nat.exists_eq_succ_of_ne_zero (Nat.ne_zero_of_lt h)
    have hread := ih (Nat.le_of_succ_le_succ h) (']' :: r)
    have hitems : items? (value depth) (nest n ++ ']' :: r) = none := by
      obtain ⟨t, ht⟩ := exists_nest_cons n
      rw [ht, List.cons_append] at hread ⊢
      exact items?_none (skipFiller_of_ink rfl _) (by simp) hread
    have hnest : nest (n + 1) ++ r = '[' :: (nest n ++ ']' :: r) := by
      simp [nest]
    rw [hnest, value_read_array, hitems]
    rfl

/-- A text between double quotes. -/
def quoted (s : String) : List Char :=
  '"' :: (s.toList ++ ['"'])

/-- The parts of a target, and nested arrays behind them, where they do not count. -/
def deepItems (n : Nat) : List Char :=
  quoted "sse2-i32x4" ++ ',' :: (quoted "linux" ++ ',' :: (quoted "x86" ++ ',' :: nest n))

/-- A target given as an array of these. -/
def deepTarget (n : Nat) : List Char :=
  ['t', 'a', 'r', 'g', 'e', 't'] ++ '=' :: '[' :: (deepItems n ++ [']'])

/-- The entries of such a document. -/
def deepEntries (n : Nat) : Entries :=
  [("target", .array .inline [.string "sse2-i32x4", .string "linux", .string "x86", nested n])]

/-- Settings for the target of these parts. -/
def sampleSettings : LinkSettings where
  target := ⟨.sse2I32x4, .linux, .x86, by decide⟩

theorem scalar_quoted {s : String} (h : ∀ c ∈ s.toList, isText c ∧ c ≠ '"' ∧ c ≠ '\\') :
    Scalar (.string s) (quoted s) := by
  have hsingle : Single '"' true s.toList s.toList := by
    generalize s.toList = t at h
    induction t with
    | nil => exact .nil
    | cons c t ih =>
      obtain ⟨⟨hc, hq, hb⟩, ht⟩ := List.forall_mem_cons.1 h
      exact .text hc hq (fun _ => hb) (ih ht)
  have hscalar := Scalar.string (.single .basic hsingle)
  rwa [String.ofList_toList] at hscalar

theorem valueText_quoted {parts depth : Nat} {s : String}
    (h : ∀ c ∈ s.toList, isText c ∧ c ≠ '"' ∧ c ≠ '\\') :
    ValueText parts depth (.string s) (quoted s) :=
  valueText_of_scalar (scalar_quoted h)

theorem valueText_deepItems (parts n : Nat) : ValueText parts (n + 2)
    (.array .inline [.string "sse2-i32x4", .string "linux", .string "x86", nested n])
    ('[' :: (deepItems n ++ [']'])) := by
  have hlast := Items.last .nil (valueText_nest parts n) .nil
  rw [List.append_nil] at hlast
  exact .inr (.inl ⟨_, _, rfl, rfl, .comma .nil (valueText_quoted (by simp; decide)) .nil
    (.comma .nil (valueText_quoted (by simp; decide)) .nil
      (.comma .nil (valueText_quoted (by simp; decide)) .nil hlast))⟩)

theorem simpleKey_bare {c : Char} {t : List Char} (h : (c :: t).all isBare) :
    SimpleKey (String.ofList (c :: t)) (c :: t) :=
  .bare (List.cons_ne_nil _ _) (List.all_eq_true.1 h)

theorem keyPath_of_simpleKey {k : String} {t : List Char} (h : SimpleKey k t) : KeyPath [k] t := by
  have hlast := KeyPath.last blanks_nil h blanks_nil
  rwa [List.nil_append, List.append_nil] at hlast

theorem keyPath_cons {c : Char} {t u : List Char} {ks : List String} (ht : (c :: t).all isBare)
    (hu : KeyPath ks u) : KeyPath (String.ofList (c :: t) :: ks) (c :: (t ++ '.' :: u)) :=
  .dot (b := []) blanks_nil (simpleKey_bare ht) blanks_nil hu

theorem keyPath_target : KeyPath ["target"] ['t', 'a', 'r', 'g', 'e', 't'] :=
  keyPath_of_simpleKey (simpleKey_bare rfl)

theorem expression_of_lineText {parts depth : Nat} {l : Line} {t : List Char}
    (h : LineText parts depth l t) : Expression parts depth (some l) t := by
  have hexpression := Expression.line blanks_nil h blanks_nil (.inl rfl)
  rwa [List.nil_append, List.append_nil, List.append_nil] at hexpression

theorem isDocument_deepTarget (n : Nat) : IsDocument (deepEntries n) (deepTarget n) := by
  have hline : LineText 1 (n + 2) (.assignment ⟨[], "target", _⟩) (deepTarget n) :=
    .assignment ⟨_, [], _, keyPath_target, Nat.le_refl 1, blanks_nil, valueText_deepItems 1 n, rfl⟩
  have hlines := Lines.last (expression_of_lineText hline)
  have hdefines : Defines Accepted _ (deepEntries n) := hlines.defines_iff.2 rfl
  exact ⟨1, n + 2, _, _, .inl rfl, hlines, defines_standard_iff.2 hdefines⟩

theorem items?_deepItems {depth n : Nat} (h : depth ≤ n) (r : List Char) :
    items? (value depth) (deepItems n ++ ']' :: r) = none := by
  have hread := read_nest h (']' :: r)
  have hnest : items? (value depth) (nest n ++ ']' :: r) = none := by
    obtain ⟨t, ht⟩ := exists_nest_cons n
    rw [ht, List.cons_append] at hread ⊢
    exact items?_none (skipFiller_of_ink rfl _) (by simp) hread
  have hcomma {v : Value} {t : List Char} (ht : ValueText bound depth v t) (s : List Char)
      (hs : items? (value depth) s = none) : items? (value depth) (t ++ ',' :: s) = none := by
    have h := items?_comma (reads_value depth) .nil ht .nil s
    rw [hs] at h
    exact h
  simp only [deepItems, List.append_assoc, List.cons_append]
  apply hcomma (valueText_quoted (by simp; decide)) _
  apply hcomma (valueText_quoted (by simp; decide)) _
  exact hcomma (valueText_quoted (by simp; decide)) _ hnest

/-- A text is refused if its first line assigns a value that cannot be read. -/
theorem lines?_of_read_eq_none {key : String} {c d : Char} {k r : List Char}
    (hk : KeyPath [key] (c :: k)) (hc : isInk c) (hhash : c ≠ '#') (hd : isBlank d = false)
    (hread : anyValue.read (d :: r) = none) : lines? (c :: (k ++ '=' :: d :: r)) = none := by
  have hpath : KeyPath ([] ++ [key]) (c :: k) := hk
  have hkey := boundedKey?_append hpath (by decide) (r := '=' :: d :: r)
    (followsKey_cons (by decide) _)
  have hline : line? (c :: (k ++ '=' :: d :: r)) = none := by
    rw [← List.cons_append, line?.eq_2 _ (hk.head_ne _), assignment?.eq_1, hkey]
    simp only [skipBlanks_of_not_blank hd, hread, Option.map_none]
  rw [lines?_eq, skipFiller_of_ink hc]
  simp only [hline, if_neg hhash]

theorem lines?_deepTarget {n : Nat} (h : bound ≤ n + 1) : lines? (deepTarget n) = none := by
  refine lines?_of_read_eq_none keyPath_target rfl (by decide) rfl ?_
  change (value (bound - 1 + 1)).read _ = none
  rw [value_read_array, items?_deepItems (by omega)]
  rfl

theorem describes_deepEntries (n : Nat) :
    Settings.Describes (deepEntries n) sampleSettings.toParts sampleSettings.toSection where
  keys := by simp [deepEntries]
  target := ⟨_, rfl, _, .inr ⟨.inline, _, rfl, rfl⟩, ⟨_, rfl, .inl rfl⟩, ⟨_, rfl, .inl rfl⟩,
    ⟨_, rfl, .inl rfl⟩⟩
  link := rfl

theorem ofText_deepTarget {s : LinkSettings} : ofText (String.ofList (deepTarget 78)) ≠ .ok s := by
  intro h
  obtain ⟨es, hes, -⟩ := ofText_eq_ok_iff.1 h
  rw [String.toList_ofList] at hes
  obtain ⟨ls, hls, -⟩ := Option.bind_eq_some_iff.1 hes
  change lines? (deepTarget 78) = some ls at hls
  rw [lines?_deepTarget (by decide)] at hls
  cases hls

/-! ### Dotted keys below headers -/

/-- A table `b` that only a longer header names, and a dotted key that puts a value into it. -/
def impliedTexts : List String :=
  ["[target.a.b.c]", "[target.a]", "b.d=1"]

def impliedLines : List Line :=
  [.header ⟨["target", "a", "b"], "c", false⟩, .header ⟨["target"], "a", false⟩,
    .assignment ⟨["b"], "d", .integer 1⟩]

/-- An array `b` of tables, and a dotted key that passes it. -/
def passedTexts : List String :=
  ["[[target.a.b]]", "[target.a]", "b.x.y=1"]

def passedLines : List Line :=
  [.header ⟨["target", "a"], "b", true⟩, .header ⟨["target"], "a", false⟩,
    .assignment ⟨["b", "x"], "y", .integer 1⟩]

/-- A target given as an array of tables, the last of which does not count. -/
def membersTexts : List String :=
  ["[[target]]", "sse2-i32x4={}", "[[target]]", "linux={}", "[[target]]", "x86={}", "[[target]]"]

def membersLines : List Line :=
  [.header ⟨[], "target", true⟩, .assignment ⟨[], "sse2-i32x4", .table .inline []⟩,
    .header ⟨[], "target", true⟩, .assignment ⟨[], "linux", .table .inline []⟩,
    .header ⟨[], "target", true⟩, .assignment ⟨[], "x86", .table .inline []⟩,
    .header ⟨[], "target", true⟩]

/-- Each text holds the line of its place. -/
abbrev LineTexts : List Line → List String → Prop :=
  List.Forall₂ fun l s => LineText bound bound l s.toList

theorem LineTexts.append {ls ls' : List Line} {l l' : List String} (h : LineTexts ls l)
    (h' : LineTexts ls' l') : LineTexts (ls ++ ls') (l ++ l') :=
  List.rel_append h h'

theorem LineTexts.lines {ls : List Line} {l : List String} (h : LineTexts ls l) :
    Lines bound bound ls ("\n".intercalate l).toList := by
  rw [String.toList_intercalate]
  induction h with
  | nil => exact lines_empty bound bound
  | @cons line s ls l hline h ih =>
    cases l with
    | nil =>
      cases h
      rw [List.map_singleton, List.intercalate_singleton]
      exact .last (expression_of_lineText hline)
    | cons s' l =>
      rw [List.map_cons, List.map_cons, List.intercalate_cons_cons, List.append_assoc]
      exact .newline (expression_of_lineText hline) (.inl rfl) ih

theorem valueText_one (parts depth : Nat) : ValueText parts depth (.integer 1) ['1'] := by
  have hone : integer? (signed false (ofDigits 10 [1])) = some (.integer 1) := by
    simp [integer?, signed, ofDigits]
  exact valueText_of_scalar (.number (.integer .none (.digits (by decide) (.last rfl)) hone))

theorem lineText_headerA : LineText bound bound (.header ⟨["target"], "a", false⟩)
    "[target.a]".toList := by
  have hkey : KeyPath (["target"] ++ ["a"]) "target.a".toList :=
    keyPath_cons rfl (keyPath_of_simpleKey (simpleKey_bare rfl))
  exact .header hkey (by decide)

theorem lineTexts_implied : LineTexts impliedLines impliedTexts := by
  have hc : KeyPath (["target", "a", "b"] ++ ["c"]) "target.a.b.c".toList :=
    keyPath_cons rfl (keyPath_cons rfl
      (keyPath_cons rfl (keyPath_of_simpleKey (simpleKey_bare rfl))))
  have hd : KeyPath (["b"] ++ ["d"]) "b.d".toList :=
    keyPath_cons rfl (keyPath_of_simpleKey (simpleKey_bare rfl))
  exact .cons (.header hc (by decide)) (.cons lineText_headerA
    (.cons (.assignment ⟨_, [], _, hd, by decide, blanks_nil, valueText_one _ _, rfl⟩) .nil))

theorem lineTexts_passed : LineTexts passedLines passedTexts := by
  have hb : KeyPath (["target", "a"] ++ ["b"]) "target.a.b".toList :=
    keyPath_cons rfl (keyPath_cons rfl (keyPath_of_simpleKey (simpleKey_bare rfl)))
  have hy : KeyPath (["b", "x"] ++ ["y"]) "b.x.y".toList :=
    keyPath_cons rfl (keyPath_cons rfl (keyPath_of_simpleKey (simpleKey_bare rfl)))
  exact .cons (.member hb (by decide)) (.cons lineText_headerA
    (.cons (.assignment ⟨_, [], _, hy, by decide, blanks_nil, valueText_one _ _, rfl⟩) .nil))

theorem lineTexts_members : LineTexts membersLines membersTexts := by
  have htarget : KeyPath ([] ++ ["target"]) "target".toList := keyPath_target
  have hmember : LineText bound bound (.header ⟨[], "target", true⟩) "[[target]]".toList :=
    .member htarget (by decide)
  have hempty : ValueText bound bound (.table .inline []) ['\x7b', '\x7d'] :=
    .inr (.inr ⟨[], rfl, .inl ⟨rfl, blanks_nil⟩⟩)
  have hle : ([] : List String).length + 1 ≤ bound := by decide
  have hvariant {k : String} {c : Char} {t : List Char} (hk : SimpleKey k (c :: t)) :
      LineText bound bound (.assignment ⟨[], k, .table .inline []⟩)
        (c :: (t ++ ['=', '\x7b', '\x7d'])) :=
    .assignment ⟨_, [], _, keyPath_of_simpleKey hk, hle, blanks_nil, hempty, rfl⟩
  exact .cons hmember (.cons (hvariant (simpleKey_bare rfl)) (.cons hmember
    (.cons (hvariant (simpleKey_bare rfl)) (.cons hmember (.cons (hvariant (simpleKey_bare rfl))
      (.cons hmember .nil))))))

/-! #### What they define -/

def membersMentions : List Mention :=
  [⟨[.key "target"], .member⟩, ⟨[.key "target", .member 0], .header⟩,
    ⟨[.key "target", .member 0, .key "sse2-i32x4"], .value (.table .inline [])⟩,
    ⟨[.key "target"], .member⟩, ⟨[.key "target", .member 1], .header⟩,
    ⟨[.key "target", .member 1, .key "linux"], .value (.table .inline [])⟩,
    ⟨[.key "target"], .member⟩, ⟨[.key "target", .member 2], .header⟩,
    ⟨[.key "target", .member 2, .key "x86"], .value (.table .inline [])⟩,
    ⟨[.key "target"], .member⟩, ⟨[.key "target", .member 3], .header⟩]

/-- What the lines mention below a place that stands for the target. -/
def impliedMentions (p : Grammar.Place) : List Mention :=
  ⟨[.key "target"], .above⟩ ::
    (under p [⟨[.key "a"], .above⟩, ⟨[.key "a", .key "b"], .above⟩,
        ⟨[.key "a", .key "b", .key "c"], .header⟩] ++
      ⟨[.key "target"], .above⟩ ::
        under p [⟨[.key "a"], .header⟩, ⟨[.key "a", .key "b"], .through⟩,
          ⟨[.key "a", .key "b"], .into⟩, ⟨[.key "a", .key "b", .key "d"], .value (.integer 1)⟩])

def passedMentions (p : Grammar.Place) : List Mention :=
  ⟨[.key "target"], .above⟩ ::
    (under p [⟨[.key "a"], .above⟩, ⟨[.key "a", .key "b"], .member⟩,
        ⟨[.key "a", .key "b", .member 0], .header⟩] ++
      ⟨[.key "target"], .above⟩ ::
        under p [⟨[.key "a"], .header⟩, ⟨[.key "a", .key "b"], .through⟩,
          ⟨[.key "a", .key "b", .member 0, .key "x"], .through⟩,
          ⟨[.key "a", .key "b", .member 0, .key "x"], .into⟩,
          ⟨[.key "a", .key "b", .member 0, .key "x", .key "y"], .value (.integer 1)⟩])

/-- The entries of a target of four members. -/
def membersEntries (last : Entries) : Entries :=
  [("target", .array .headed ([[("sse2-i32x4", .table .inline [])],
    [("linux", .table .inline [])], [("x86", .table .inline [])], last].map (.table .headed)))]

def impliedEntries : Entries :=
  [("a", .table .headed [("b", .table .implied [("c", .table .headed []), ("d", .integer 1)])])]

def passedEntries : Entries :=
  [("a", .table .headed
    [("b", .array .headed [.table .headed [("x", .table .dotted [("y", .integer 1)])]])])]

theorem allowed_members : Allowed Standard [rootMention] membersMentions := by
  simp [membersMentions, Allowed, view, behind, uses, rootMention]

theorem allowed_implied : Allowed Standard (rootMention :: membersMentions)
    (impliedMentions [.key "target", .member 3]) := by
  simp [membersMentions, impliedMentions, under, Allowed, view, behind, uses, rootMention]

/-- By the rules of the language no dotted key passes an array of tables. -/
theorem not_allowed_passed : ¬ Allowed Standard (rootMention :: membersMentions)
    (passedMentions [.key "target", .member 3]) := by
  simp [membersMentions, passedMentions, under, Allowed, view, behind, uses, rootMention]

theorem says_variant (k : String) : Says [⟨[], .header⟩, ⟨[.key k], .value (.table .inline [])⟩]
    (.table .headed [(k, .table .inline [])]) := by
  have hvalue : Says [⟨[], .value (.table .inline [])⟩] (.table .inline []) := .value rfl
  refine .table .headed rfl (List.forall_mem_singleton.2 ?_)
  simpa [behind] using hvalue

theorem says_implied : Says
    [⟨[], .above⟩, ⟨[.key "b"], .above⟩, ⟨[.key "b", .key "c"], .header⟩, ⟨[], .header⟩,
      ⟨[.key "b"], .through⟩, ⟨[.key "b"], .into⟩, ⟨[.key "b", .key "d"], .value (.integer 1)⟩]
    (.table .headed [("b", .table .implied [("c", .table .headed []), ("d", .integer 1)])]) := by
  have hb : Says [⟨[], .above⟩, ⟨[.key "c"], .header⟩, ⟨[], .through⟩, ⟨[], .into⟩,
      ⟨[.key "d"], .value (.integer 1)⟩]
      (.table .implied [("c", .table .headed []), ("d", .integer 1)]) :=
    .table (.implied (by simp)) rfl
      (List.forall_mem_cons.2 ⟨holds_header.toSays, List.forall_mem_singleton.2 (.value trivial)⟩)
  exact .table (.late (by simp)) rfl (List.forall_mem_singleton.2 hb)

theorem says_members :
    Says (rootMention :: (membersMentions ++ impliedMentions [.key "target", .member 3]))
      (.table .headed (membersEntries impliedEntries)) := by
  refine .table .headed rfl (List.forall_mem_singleton.2
    (.array rfl rfl (fun i es hi => ?_) fun i hi => ?_))
  · match i, hi with
    | 0, rfl => exact says_variant "sse2-i32x4"
    | 1, rfl => exact says_variant "linux"
    | 2, rfl => exact says_variant "x86"
    | 3, rfl => exact .table .headed rfl (List.forall_mem_singleton.2 says_implied)
  · simp only [List.length_cons, List.length_nil] at hi
    simp [behind, membersMentions, impliedMentions, under, rootMention]
    omega

theorem documentScript_implied :
    documentScript (Document.ofLines (membersLines ++ impliedLines)) [rootMention] =
      membersMentions ++ impliedMentions [.key "target", .member 3] := by
  cbv

theorem documentScript_passed :
    documentScript (Document.ofLines (membersLines ++ passedLines)) [rootMention] =
      membersMentions ++ passedMentions [.key "target", .member 3] := by
  cbv

theorem defines_implied : Defines Standard (Document.ofLines (membersLines ++ impliedLines))
    (membersEntries impliedEntries) where
  written := (lineTexts_members.append lineTexts_implied).lines.written
  allowed := by
    rw [documentScript_implied]
    exact allowed_append.2 ⟨allowed_members, allowed_implied⟩
  root := says_members

theorem not_defines_passed (es : Entries) :
    ¬ Defines Standard (Document.ofLines (membersLines ++ passedLines)) es := by
  rintro ⟨-, hallowed, -⟩
  rw [documentScript_passed] at hallowed
  exact not_allowed_passed (allowed_append.1 hallowed).2

theorem describes_membersEntries (last : Entries) : Settings.Describes (membersEntries last)
    sampleSettings.toParts sampleSettings.toSection where
  keys := by simp [membersEntries]
  target := ⟨_, rfl, _, .inr ⟨.headed, _, rfl, rfl⟩, ⟨_, rfl, .inr ⟨_, _, rfl, .inl ⟨_, rfl⟩⟩⟩,
    ⟨_, rfl, .inr ⟨_, _, rfl, .inl ⟨_, rfl⟩⟩⟩, ⟨_, rfl, .inr ⟨_, _, rfl, .inl ⟨_, rfl⟩⟩⟩⟩
  link := rfl

/-! ### Where the reader differs from the language -/

/-- A text that is a document of the language and describes the settings, but is refused. -/
def Missed (t : String) (s : LinkSettings) : Prop :=
  (∃ es, IsDocument es t.toList ∧ Settings.Describes es s.toParts s.toSection) ∧
    ∀ s', ofText t ≠ .ok s'

/-- A text that is read as the settings, but is no document of the language. -/
def Surplus (t : String) (s : LinkSettings) : Prop :=
  ofText t = .ok s ∧ ¬∃ es, IsDocument es t.toList

theorem missed_deepTarget : Missed (String.ofList (deepTarget 78)) sampleSettings := by
  refine ⟨⟨deepEntries 78, ?_, describes_deepEntries 78⟩, fun _ => ofText_deepTarget⟩
  rw [String.toList_ofList]
  exact isDocument_deepTarget 78

theorem missed_implied :
    Missed ("\n".intercalate (membersTexts ++ impliedTexts)) sampleSettings := by
  have hlines := (lineTexts_members.append lineTexts_implied).lines
  refine ⟨⟨_, ⟨_, _, (documentText_iff_of_lines hlines).2 defines_implied⟩,
    describes_membersEntries _⟩, fun _ h => ?_⟩
  obtain ⟨es, hes, -⟩ := ofText_eq_ok_iff.1 h
  rw [parse?_of_lines hlines] at hes
  cases hes

theorem surplus_passed :
    Surplus ("\n".intercalate (membersTexts ++ passedTexts)) sampleSettings := by
  have hlines := (lineTexts_members.append lineTexts_passed).lines
  constructor
  · have hes : (Document.ofLines (membersLines ++ passedLines)).entries? =
        some (membersEntries passedEntries) := rfl
    exact ofText_eq_ok_iff.2
      ⟨_, (parse?_of_lines hlines).trans hes, describes_membersEntries passedEntries⟩
  · have hshort : ("\n".intercalate (membersTexts ++ passedTexts)).toList.countP nests < bound := by
      simp [membersTexts, passedTexts]
      decide
    rintro ⟨es, hes⟩
    exact not_defines_passed es ((isDocument_iff_of_lines hlines hshort).1 hes)

/-- The reader knows bounds where the language has none: a target with arrays eighty deep behind its
parts is a document that describes settings, and it is refused. By its rules for dotted keys it also
refuses such a document where a dotted key adds to a table that only a longer header has named, and
accepts a text that is no document where a dotted key passes an array of tables. -/
theorem reader_differs_from_language :
    Missed (String.ofList (deepTarget 78)) sampleSettings ∧
      Missed ("\n".intercalate (membersTexts ++ impliedTexts)) sampleSettings ∧
      Surplus ("\n".intercalate (membersTexts ++ passedTexts)) sampleSettings :=
  ⟨missed_deepTarget, missed_implied, surplus_passed⟩

end BuiltinLink.LinkSettings
