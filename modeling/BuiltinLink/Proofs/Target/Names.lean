import BuiltinLink.Proofs.Settings.Changes
import BuiltinLink.Proofs.Text.Folded
import Mathlib.Data.List.Nodup
import Mathlib.Data.List.Pairwise

/-!
Which texts are read as the names of instruction sets, systems and architectures. A reader takes
exactly the spellings of a member with blanks around them and letters of either case, and refuses
any other text as it was given. Documents are stricter and agree with that: what stands for a member
there is its name, which is what is written and what every reader takes.
-/

namespace BuiltinLink

open Toml

namespace Vocabulary

variable {α : Type} [Vocabulary α] {aliases : α → List String}

/-- The texts that spell a member: its name and its aliases. -/
def spellings (aliases : α → List String) (a : α) : List String :=
  name a :: aliases a

/-- Whether a text, without the blanks at its ends and with its Latin capitals lowered, spells a
member. -/
def Denotes (aliases : α → List String) (s : String) (a : α) : Prop :=
  ∃ t, Text.Stripped s.toList t ∧ String.ofList (t.map Char.toLower) ∈ spellings aliases a

theorem denotes_iff {s : String} {a : α} :
    Denotes aliases s a ↔ Text.fold s ∈ spellings aliases a := by
  constructor
  · intro ⟨t, ht, hmem⟩
    rw [Text.fold, ht.trim_eq]
    exact hmem
  · intro h
    exact ⟨Text.trim s.toList, Text.stripped_trim s.toList, h⟩

/-! ### Plain characters -/

/-- The characters of names: small Latin letters, digits and some punctuation. -/
def isPlain (c : Char) : Bool :=
  c.isLower || c.isDigit || c == '-' || c == '.' || c == '_'

theorem toNat_of_isPlain {c : Char} (h : isPlain c = true) :
    (97 ≤ c.toNat ∧ c.toNat ≤ 122) ∨ (48 ≤ c.toNat ∧ c.toNat ≤ 57) ∨ c.toNat = 45 ∨
      c.toNat = 46 ∨ c.toNat = 95 := by
  unfold isPlain Char.isLower Char.isDigit at h
  simp only [Bool.or_eq_true, Bool.and_eq_true, decide_eq_true_eq, beq_iff_eq] at h
  rcases h with (((h | h) | rfl) | rfl) | rfl
  · exact .inl h
  · exact .inr (.inl h)
  · decide
  · decide
  · decide

theorem isBlank_of_isPlain {c : Char} (h : isPlain c = true) : Text.isBlank c = false := by
  have hc := toNat_of_isPlain h
  rw [Bool.eq_false_iff, Text.isBlank]
  simp only [ne_eq, Bool.or_eq_true, Bool.and_eq_true, decide_eq_true_eq, beq_iff_eq]
  omega

theorem toLower_of_isPlain {c : Char} (h : isPlain c = true) : c.toLower = c := by
  have hc := toNat_of_isPlain h
  apply Char.toNat_inj.1
  rw [Text.toNat_toLower, if_neg (by omega)]

theorem fold_of_isPlain {s : String} (h : ∀ c ∈ s.toList, isPlain c = true) : Text.fold s = s := by
  have hstripped : Text.Stripped s.toList s.toList := by
    refine ⟨[], [], by simp, by simp, by simp, ?_, ?_⟩
    · exact fun c hc => isBlank_of_isPlain (h c (List.mem_of_mem_head? hc))
    · exact fun c hc => isBlank_of_isPlain (h c (List.mem_of_mem_getLast? hc))
  have hlower : s.toList.map Char.toLower = s.toList := by
    conv_rhs => rw [← List.map_id s.toList]
    exact List.map_congr_left fun c hc => toLower_of_isPlain (h c hc)
  rw [Text.fold, hstripped.trim_eq, hlower, String.ofList_toList]

theorem needsEscape_of_isPlain {c : Char} (h : isPlain c = true) : needsEscape c = false := by
  have hc := toNat_of_isPlain h
  rw [Bool.eq_false_iff, needsEscape]
  simp only [ne_eq, Bool.or_eq_true, Bool.and_eq_true, decide_eq_true_eq, beq_iff_eq]
  omega

theorem escaped_of_isPlain {c : Char} (h : isPlain c = true) : escaped c = [c] := by
  fun_cases escaped c with
  | case6 c =>
    rename_i hescape
    rw [needsEscape_of_isPlain h] at hescape
    cases hescape
  | case7 => rfl
  | _ => cases h

theorem basicText_of_isPlain {s : List Char} (h : ∀ c ∈ s, isPlain c = true) :
    basicText s = s := by
  induction s with
  | nil => rfl
  | cons c s ih =>
    obtain ⟨hc, hs⟩ := List.forall_mem_cons.1 h
    have hrest := ih hs
    unfold basicText at hrest ⊢
    rw [List.flatMap_cons, hrest]
    split
    · cases hc
    · cases hc
    · rw [escaped_of_isPlain hc]
      rfl

/-- Plain characters stand in quotes as they are. -/
theorem writeString_of_isPlain {s : List Char} (h : ∀ c ∈ s, isPlain c = true) :
    writeString s = '"' :: (s ++ ['"']) := by
  have hescapes : s.any needsEscape = false :=
    List.any_eq_false.2 fun c hc => by simp [needsEscape_of_isPlain (h c hc)]
  have hfree (q : Char) (hq : isPlain q = false) : q ∉ s := by
    intro hmem
    rw [h q hmem] at hq
    cases hq
  have hdouble : longestRun '"' 0 s = 0 :=
    longestRun_eq_zero_iff.2 fun c hc hq => hfree '"' (by decide) (hq ▸ hc)
  have hquoting : quotingFor s = .basic := by
    simp [quotingFor, hescapes, hdouble, hfree '\\' (by decide), hfree '\n' (by decide)]
  rw [writeString, hquoting, writeStringAs, basicText_of_isPlain h]

/-! ### Distinctive spellings -/

/-- A look-up that knows exactly the spellings of each member, all of plain characters. No text
spells two members then. -/
structure Distinctive (aliases : α → List String) (find : String → Option α) : Prop where
  find_iff : ∀ w a, find w = some a ↔ w ∈ spellings aliases a
  plain : ∀ a, ∀ w ∈ spellings aliases a, w.toList.all isPlain = true

namespace Distinctive

variable {find : String → Option α} (h : Distinctive aliases find)

include h

theorem isPlain_of_mem {w : String} {a : α} (hw : w ∈ spellings aliases a) :
    ∀ c ∈ w.toList, isPlain c = true :=
  List.all_eq_true.1 (h.plain a w hw)

theorem find_fold_iff {s : String} {a : α} :
    find (Text.fold s) = some a ↔ Denotes aliases s a := by
  rw [denotes_iff, h.find_iff]

theorem denotes_name (a : α) : Denotes aliases (name a) a := by
  have hname : name a ∈ spellings aliases a := List.mem_cons_self
  rw [denotes_iff, fold_of_isPlain (h.isPlain_of_mem hname)]
  exact hname

/-- A name is written in quotes, without escapes. -/
theorem write_name (a : α) :
    (Plain.string (name a)).write = '"' :: ((name a).toList ++ ['"']) :=
  writeString_of_isPlain (h.isPlain_of_mem List.mem_cons_self)

/-- What is left of a text that spells a member is ASCII: no other letter is lowered to one of a
name. -/
theorem lt_of_denotes {s : String} {a : α} (hs : Denotes aliases s a) {t : List Char}
    (ht : Text.Stripped s.toList t) : ∀ c ∈ t, c.toNat < 128 := by
  obtain ⟨t', ht', hmem⟩ := hs
  rw [← ht.trim_eq, ht'.trim_eq]
  intro c hc
  have hplain : isPlain c.toLower = true := by
    apply h.isPlain_of_mem hmem
    rw [String.toList_ofList]
    exact List.mem_map_of_mem hc
  have hlower := toNat_of_isPlain hplain
  exact Text.toNat_lt_of_toLower (by omega)

end Distinctive

/-! ### Readers -/

/-- The text by which a value of a document may name a member: that of a string, or the only key of
a table. -/
def nameText? : Value → Option String
  | .string s => some s
  | .table _ [(k, _)] => some k
  | _ => none

section Readers

variable [DocumentNames α]

/-- What a reader of names does: it takes the spellings of each member, whatever blanks stand around
them and in whichever case their Latin letters are, and it refuses all else as it was given. -/
structure ReadsLeniently (aliases : α → List String) (refusal : String → TargetError)
    (read : String → Except TargetError α) : Prop where
  ok_iff : ∀ s a, read s = .ok a ↔ Denotes aliases s a
  error_iff : ∀ s e, read s = .error e ↔ e = refusal s ∧ ∀ a, ¬ Denotes aliases s a
  unique : ∀ s a b, Denotes aliases s a → Denotes aliases s b → a = b
  /-- Blanks at the ends do not count. -/
  pad : ∀ before s after : String, (∀ c ∈ before.toList, Text.isBlank c = true) →
    (∀ c ∈ after.toList, Text.isBlank c = true) →
      ∀ a, read (before ++ s ++ after) = .ok a ↔ read s = .ok a
  /-- The case of Latin letters does not count. -/
  recase : ∀ s t, Text.SameLetters s t → ∀ a, read s = .ok a ↔ read t = .ok a
  /-- Between the blanks there are Latin letters and other ASCII characters only. -/
  ascii : ∀ s a, read s = .ok a → ∀ t, Text.Stripped s.toList t → ∀ c ∈ t, c.toNat < 128
  name : ∀ a, read (name a) = .ok a
  /-- What names a member in a document is its name, and read as that member. -/
  entry : ∀ v a, Settings.variant α v = .ok a →
    ∃ n, nameText? v = some n ∧ n = Vocabulary.name a ∧ read n = .ok a

/-- Whether the text under a key of a document is read as `a`. -/
def ReadAs (read : String → Except TargetError α) (es : Entries) (key : String) (a : α) : Prop :=
  ∃ v n, es.lookup key = some v ∧ nameText? v = some n ∧ read n = .ok a

variable [CanonicalInDocuments α]

theorem ReadsLeniently.readAs {refusal : String → TargetError}
    {read : String → Except TargetError α} (h : ReadsLeniently aliases refusal read)
    {es : Entries} {key : String} {a : α}
    (hnames : ∃ v, es.lookup key = some v ∧ Settings.Names v a) : ReadAs read es key a := by
  obtain ⟨v, hv, hnames⟩ := hnames
  obtain ⟨n, hn, -, hread⟩ := h.entry v a (Settings.variant_eq_ok_iff.2 hnames)
  exact ⟨v, n, hv, hn, hread⟩

/-- A reader that looks a folded text up among distinctive spellings. -/
theorem Distinctive.readsLeniently {find : String → Option α} (h : Distinctive aliases find)
    {refusal : String → TargetError} {read : String → Except TargetError α}
    (hread : ∀ s, read s = (find (Text.fold s)).elim (.error (refusal s)) .ok) :
    ReadsLeniently aliases refusal read := by
  have hok (s : String) (a : α) : read s = .ok a ↔ Denotes aliases s a := by
    rw [hread, ← h.find_fold_iff]
    cases find (Text.fold s) <;> simp
  have hname (a : α) : read (name a) = .ok a := (hok _ a).2 (h.denotes_name a)
  exact {
    ok_iff := hok
    error_iff := by
      intro s e
      have hnone : (∀ a, ¬ Denotes aliases s a) ↔ find (Text.fold s) = none := by
        rw [Option.eq_none_iff_forall_ne_some]
        exact forall_congr' fun a => not_congr h.find_fold_iff.symm
      rw [hread, hnone]
      cases find (Text.fold s) <;> simp [eq_comm]
    unique := by
      intro s a b ha hb
      rw [← h.find_fold_iff] at ha hb
      exact Option.some.inj (ha.symm.trans hb)
    pad := by
      intro before s after hbefore hafter a
      rw [hok, hok, denotes_iff, denotes_iff, Text.fold_append hbefore hafter]
    recase := by
      intro s t hst a
      rw [hok, hok, denotes_iff, denotes_iff, Text.fold_eq_of_sameLetters hst]
    ascii := by
      intro s a hs t ht
      exact h.lt_of_denotes ((hok s a).1 hs) ht
    name := hname
    entry := by
      intro v a hv
      rcases Settings.variant_eq_ok_iff.1 hv with rfl | ⟨kind, w, rfl, -⟩
      · exact ⟨_, rfl, rfl, hname a⟩
      · exact ⟨_, rfl, rfl, hname a⟩ }

end Readers

end Vocabulary

open Vocabulary

/-! ### The three readers -/

/-- Further spellings that are read but never written. -/
def Os.aliases : Os → List String
  | windows => ["win"]
  | macos => ["darwin"]
  | _ => []

/-- Further spellings that are read but never written. -/
def Arch.aliases : Arch → List String
  | x86 => ["i686"]
  | x8664 => ["x86_64", "amd64"]
  | arm => ["armv7"]
  | aarch64 => ["arm64"]

theorem isa_distinctive : Distinctive (fun _ : Isa => []) ofName? where
  find_iff w isa := by
    rw [ofName?_eq_some_iff, spellings, List.mem_singleton, eq_comm]
  plain isa := by cases isa <;> decide

theorem os_distinctive : Distinctive Os.aliases Os.ofFolded? where
  find_iff w os := by
    constructor
    · intro h
      unfold Os.ofFolded? at h
      split at h <;> cases h <;> decide
    · have hall : ∀ w ∈ spellings Os.aliases os, Os.ofFolded? w = some os := by
        cases os <;> decide
      exact hall w
  plain os := by cases os <;> decide

theorem arch_distinctive : Distinctive Arch.aliases Arch.ofFolded? where
  find_iff w arch := by
    constructor
    · intro h
      unfold Arch.ofFolded? at h
      split at h <;> cases h <;> decide
    · have hall : ∀ w ∈ spellings Arch.aliases arch, Arch.ofFolded? w = some arch := by
        cases arch <;> decide
      exact hall w
  plain arch := by cases arch <;> decide

theorem Isa.readsLeniently : ReadsLeniently (fun _ => []) .unknownIsa Isa.read := by
  apply isa_distinctive.readsLeniently
  intro s
  unfold Isa.read
  cases (ofName? (Text.fold s) : Option Isa) <;> rfl

theorem Os.readsLeniently : ReadsLeniently Os.aliases .unknownOs Os.read := by
  apply os_distinctive.readsLeniently
  intro s
  unfold Os.read
  cases Os.ofFolded? (Text.fold s) <;> rfl

theorem Arch.readsLeniently : ReadsLeniently Arch.aliases .unknownArch Arch.read := by
  apply arch_distinctive.readsLeniently
  intro s
  unfold Arch.read
  cases Arch.ofFolded? (Text.fold s) <;> rfl

/-! ### Documents -/

/-- The lines of a written document that name the parts of a target. -/
def targetLines (t : Target) : String :=
  "[target]\nisa = \"" ++ name t.isa ++ "\"\nos = \"" ++ name t.os ++ "\"\narch = \"" ++
    name t.arch ++ "\"\n"

theorem write_targetTable (t : Target) :
    (LinkSettings.targetTable t).write = (targetLines t).toList := by
  have hisa := isa_distinctive.write_name t.isa
  have hos := os_distinctive.write_name t.os
  have harch := arch_distinctive.write_name t.arch
  unfold targetLines LinkSettings.targetTable PlainTable.write
  simp [CanonicalInDocuments.documentName_eq, hisa, hos, harch]

/-- The text of settings begins with the names of the target's parts. -/
theorem exists_targetLines {s : LinkSettings} {text : String} (h : s.toText = .ok text) :
    ∃ rest, text = targetLines s.target ++ rest := by
  obtain ⟨dir, rfl⟩ := LinkSettings.exists_dir_of_toText h
  refine ⟨String.ofList ('\n' :: (s.linkTable dir).write), ?_⟩
  rw [← String.toList_inj, String.toList_append, ← write_targetTable, String.toList_ofList,
    String.toList_ofList, writeTables, List.map_cons, List.map_cons, List.map_nil]
  simp [List.intercalate, List.intersperse]

/-- Settings whose directory is a text, or that have none, are written. -/
theorem toText_eq_targetLines {s : LinkSettings}
    (hdir : ∀ d, s.dumpDir = some d → d.bytes.toByteArray.IsValidUTF8) :
    ∃ rest, s.toText = .ok (targetLines s.target ++ rest) := by
  cases htext : s.toText with
  | ok text =>
    obtain ⟨rest, rfl⟩ := exists_targetLines htext
    exact ⟨rest, rfl⟩
  | error e =>
    obtain ⟨d, hd, hinvalid⟩ := s.toText_eq_error_iff.1 ⟨e, htext⟩
    exact absurd (hdir d hd) hinvalid

/-- Names are read leniently and written in one way, and documents, which have tables of names of
their own, agree with that: where settings are read from a text, each part of the target is what its
text there is read as, and where settings can be written, which fails for a directory that is no
text only, the text begins with the canonical names of the parts. -/
theorem names_read_leniently :
    ReadsLeniently (fun _ => []) .unknownIsa Isa.read ∧
    ReadsLeniently Os.aliases .unknownOs Os.read ∧
    ReadsLeniently Arch.aliases .unknownArch Arch.read ∧
    (∀ text settings, LinkSettings.ofText text = .ok settings →
      ∃ es v fields, parse? text.toList = some es ∧ es.lookup "target" = some v ∧
        Settings.FieldsOf ["isa", "os", "arch"] v fields ∧
        ReadAs Isa.read fields "isa" settings.target.isa ∧
        ReadAs Os.read fields "os" settings.target.os ∧
        ReadAs Arch.read fields "arch" settings.target.arch) ∧
    (∀ settings : LinkSettings,
      (∀ d, settings.dumpDir = some d → d.bytes.toByteArray.IsValidUTF8) →
        ∃ rest, settings.toText = .ok (targetLines settings.target ++ rest)) ∧
    (∀ settings text, LinkSettings.toText settings = .ok text →
      ∃ rest, text = targetLines settings.target ++ rest) := by
  refine ⟨Isa.readsLeniently, Os.readsLeniently, Arch.readsLeniently, ?_, ?_, ?_⟩
  · intro text settings h
    obtain ⟨es, hes, hdescribes⟩ := LinkSettings.ofText_eq_ok_iff.1 h
    obtain ⟨v, hv, fields, hfields, hisa, hos, harch⟩ := hdescribes.target
    exact ⟨es, v, fields, hes, hv, hfields, Isa.readsLeniently.readAs hisa,
      Os.readsLeniently.readAs hos, Arch.readsLeniently.readAs harch⟩
  · intro settings hdir
    exact toText_eq_targetLines hdir
  · intro settings text h
    exact exists_targetLines h

-- A no-break space and capitals do not count; the Kelvin sign is no capital of `k`.
example : Arch.read "\u00a0AMD64\n" = .ok .x8664 := by decide
example : Isa.read "avx512s\u212ax-x16" = .error (.unknownIsa "avx512s\u212ax-x16") := by decide

end BuiltinLink
