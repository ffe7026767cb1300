import BuiltinLink.Toml.Key
import BuiltinLink.Toml.Number
import BuiltinLink.Toml.Table

/-!
Reading a TOML document. Arrays and tables between braces nest at most 79 deep and keys have at most
79 parts, so reading a value is structural on how deep it may still nest.
-/

namespace BuiltinLink.Toml

/-- Reads something from the beginning of a text, and takes at least one character for it. -/
structure Reader (α : Type) where
  /-- What was read and what follows it. -/
  read : List Char → Option (α × List Char)
  shortens : ∀ {s r a}, read s = some (a, r) → r.length < s.length

/-- The least depth, in brackets and braces or in the parts of a key, that is refused. -/
def depthLimit : Nat := 80

/-- A key of fewer parts than the limit, split before its last part. -/
def boundedKey? (s : List Char) : Option ((List String × String) × List Char) :=
  match keyPath? s with
  | some (ks, r) =>
    if ks.length < depthLimit then ks.getLast?.map fun k => ((ks.dropLast, k), r) else none
  | none => none

theorem boundedKey?_length {s r : List Char} {k : List String × String}
    (h : boundedKey? s = some (k, r)) : r.length < s.length := by
  simp only [boundedKey?] at h
  split at h
  · rename_i hk
    split at h
    · obtain ⟨l, -, hl⟩ := Option.map_eq_some_iff.1 h
      simp only [Prod.mk.injEq] at hl
      exact hl.2 ▸ keyPath?_length hk
    · simp at h
  · simp at h

/-- A key, an equals sign and a value. -/
def assignment? (value : Reader Value) (s : List Char) : Option (Assignment × List Char) :=
  match boundedKey? s with
  | some (k, '=' :: r) =>
    (value.read (skipBlanks r)).map fun p => (⟨k.1, k.2, p.1⟩, p.2)
  | _ => none

theorem assignment?_length {value : Reader Value} {s r : List Char} {a : Assignment}
    (h : assignment? value s = some (a, r)) : r.length < s.length := by
  simp only [assignment?] at h
  split at h
  · rename_i k r₀ hk
    obtain ⟨p, hp, hq⟩ := Option.map_eq_some_iff.1 h
    simp only [Prod.mk.injEq] at hq
    have h₁ := boundedKey?_length hk
    have h₂ := value.shortens hp
    have h₃ := skipBlanks_length r₀
    simp only [List.length_cons] at h₁
    rw [← hq.2]
    omega
  · simp at h

/-- The items of an array, read after the opening bracket or a comma. Lines may end between items,
and a comma may stand behind the last. -/
def items? (value : Reader Value) (s : List Char) : Option (List Value × List Char) :=
  match _h : skipFiller s with
  | ']' :: r => some ([], r)
  | s' =>
    match _hv : value.read s' with
    | none => none
    | some (v, r) =>
      match _hr : skipFiller r with
      | ',' :: r' => (items? value r').map fun p => (v :: p.1, p.2)
      | ']' :: r' => some ([v], r')
      | _ => none
termination_by s.length
decreasing_by
  have h₁ := skipFiller_length s
  have h₂ := value.shortens _hv
  have h₃ := skipFiller_length r
  rw [_h] at h₁
  rw [_hr] at h₃
  simp only [List.length_cons] at h₃
  omega

theorem items?_length {value : Reader Value} {s r : List Char} {vs : List Value}
    (h : items? value s = some (vs, r)) : r.length < s.length := by
  fun_induction items? value s generalizing vs r with
  | case1 s r' hs =>
    cases h
    have := skipFiller_length s
    rw [hs] at this
    exact this
  | case2 => simp at h
  | case3 s v r₀ r' hr _ hv ih =>
    obtain ⟨p, hp, hq⟩ := Option.map_eq_some_iff.1 h
    simp only [Prod.mk.injEq] at hq
    have h₀ := @ih p.2 p.1 hp
    have h₁ := skipFiller_length s
    have h₂ := value.shortens hv
    have h₃ := skipFiller_length r₀
    rw [hr] at h₃
    simp only [List.length_cons] at h₃
    rw [← hq.2]
    omega
  | case4 s v r₀ r' hr _ hv =>
    cases h
    have h₁ := skipFiller_length s
    have h₂ := value.shortens hv
    have h₃ := skipFiller_length r₀
    rw [hr] at h₃
    simp only [List.length_cons] at h₃
    omega
  | case5 => simp at h

/-- The assignments between braces, at least one, on one line and without a comma at the end. -/
def pairs? (value : Reader Value) (s : List Char) : Option (List Assignment × List Char) :=
  match _h : assignment? value s with
  | none => none
  | some (a, r) =>
    match _hr : skipBlanks r with
    | ',' :: r' => (pairs? value r').map fun p => (a :: p.1, p.2)
    | '\x7d' :: r' => some ([a], r')
    | _ => none
termination_by s.length
decreasing_by
  have h₁ := assignment?_length _h
  have h₂ := skipBlanks_length r
  rw [_hr] at h₂
  simp only [List.length_cons] at h₂
  omega

theorem pairs?_length {value : Reader Value} {s r : List Char} {l : List Assignment}
    (h : pairs? value s = some (l, r)) : r.length < s.length := by
  fun_induction pairs? value s generalizing l r with
  | case1 => simp at h
  | case2 s a r₀ ha r' hr ih =>
    obtain ⟨p, hp, hq⟩ := Option.map_eq_some_iff.1 h
    simp only [Prod.mk.injEq] at hq
    have h₀ := ih (l := p.1) (r := p.2) hp
    have h₁ := assignment?_length ha
    have h₂ := skipBlanks_length r₀
    rw [hr] at h₂
    simp only [List.length_cons] at h₂
    rw [← hq.2]
    omega
  | case3 s a r₀ ha r' hr =>
    cases h
    have h₁ := assignment?_length ha
    have h₂ := skipBlanks_length r₀
    rw [hr] at h₂
    simp only [List.length_cons] at h₂
    omega
  | case4 => simp at h

/-- The table between braces, read after the opening one. -/
def braces? (value : Reader Value) (s : List Char) : Option (Value × List Char) :=
  match skipBlanks s with
  | '\x7d' :: r => some (.table .inline [], r)
  | s' => do
    let (l, r) ← pairs? value s'
    return (← inlineTable? l, r)

theorem braces?_length {value : Reader Value} {s r : List Char} {v : Value}
    (h : braces? value s = some (v, r)) : r.length < s.length := by
  have hs := skipBlanks_length s
  simp only [braces?] at h
  split at h
  · rename_i r' hr
    cases h
    rw [hr] at hs
    exact hs
  · obtain ⟨p, hp, h⟩ := Option.bind_eq_some_iff.1 h
    obtain ⟨w, -, h⟩ := Option.bind_eq_some_iff.1 h
    cases h
    exact Nat.lt_of_lt_of_le (pairs?_length hp) hs

/-- A value that holds no others. -/
def scalar? (s : List Char) : Option (Value × List Char) :=
  match s with
  | 't' :: 'r' :: 'u' :: 'e' :: r => some (.boolean true, r)
  | 'f' :: 'a' :: 'l' :: 's' :: 'e' :: r => some (.boolean false, r)
  | s =>
    match string? s with
    | some (t, r) => some (.string (String.ofList t), r)
    | none => scalarNumber? s

theorem scalar?_length {s r : List Char} {v : Value} (h : scalar? s = some (v, r)) :
    r.length < s.length := by
  simp only [scalar?] at h
  split at h
  · cases h; simp only [List.length_cons]; omega
  · cases h; simp only [List.length_cons]; omega
  · split at h
    · rename_i hs
      cases h
      exact string?_length hs
    · exact scalarNumber?_length h

/-- A value that holds others at most `depth` deep. -/
def value : (depth : Nat) → Reader Value
  | 0 => ⟨scalar?, scalar?_length⟩
  | depth + 1 =>
    { read := fun s =>
        match s with
        | '[' :: r => (items? (value depth) r).map fun p => (.array .inline p.1, p.2)
        | '\x7b' :: r => braces? (value depth) r
        | s => scalar? s
      shortens := by
        intro s r a h
        split at h
        · obtain ⟨p, hp, hq⟩ := Option.map_eq_some_iff.1 h
          simp only [Prod.mk.injEq] at hq
          exact hq.2 ▸ Nat.lt_succ_of_lt (items?_length hp)
        · exact Nat.lt_succ_of_lt (braces?_length h)
        · exact scalar?_length h }

/-- A value wherever a document may have one. -/
def anyValue : Reader Value :=
  value (depthLimit - 1)

/-- A header, from its opening bracket on. -/
def header? (s : List Char) : Option (Header × List Char) :=
  match s with
  | '[' :: '[' :: r =>
    match boundedKey? r with
    | some (k, ']' :: ']' :: r') => some (⟨k.1, k.2, true⟩, r')
    | _ => none
  | '[' :: r =>
    match boundedKey? r with
    | some (k, ']' :: r') => some (⟨k.1, k.2, false⟩, r')
    | _ => none
  | _ => none

theorem header?_length {s r : List Char} {hd : Header} (h : header? s = some (hd, r)) :
    r.length < s.length := by
  simp only [header?] at h
  split at h
  · split at h
    · rename_i hk
      cases h
      have := boundedKey?_length hk
      simp only [List.length_cons] at this ⊢
      omega
    · simp at h
  · split at h
    · rename_i hk
      cases h
      have := boundedKey?_length hk
      simp only [List.length_cons] at this ⊢
      omega
    · simp at h
  · simp at h

/-- A line of a document that says something. -/
inductive Line where
  | header (h : Header)
  | assignment (a : Assignment)

/-- A header or an assignment. -/
def line? (s : List Char) : Option (Line × List Char) :=
  match s with
  | '[' :: _ => (header? s).map fun p => (.header p.1, p.2)
  | _ => (assignment? anyValue s).map fun p => (.assignment p.1, p.2)

theorem line?_length {s r : List Char} {l : Line} (h : line? s = some (l, r)) :
    r.length < s.length := by
  simp only [line?] at h
  split at h
  · obtain ⟨p, hp, hq⟩ := Option.map_eq_some_iff.1 h
    simp only [Prod.mk.injEq] at hq
    exact hq.2 ▸ header?_length hp
  · obtain ⟨p, hp, hq⟩ := Option.map_eq_some_iff.1 h
    simp only [Prod.mk.injEq] at hq
    exact hq.2 ▸ assignment?_length hp

/-- The lines of a document up to its end. -/
def lines? (s : List Char) : Option (List Line) :=
  match _h : skipFiller s with
  | [] => some []
  | c :: s' =>
    if c = '#' then
      match endLine? (c :: s') with
      | some [] => some []
      | _ => none
    else
      match _hl : line? (c :: s') with
      | none => none
      | some (l, r) =>
        match _hr : endLine? r with
        | none => none
        | some r' => (lines? r').map (l :: ·)
termination_by s.length
decreasing_by
  have h₁ := skipFiller_length s
  have h₂ := line?_length _hl
  have h₃ := endLine?_length _hr
  rw [_h] at h₁
  omega

/-- The lines up to the first header, and the sections that begin with each header. -/
def Document.ofLines : List Line → Document
  | [] => ⟨[], []⟩
  | .assignment a :: ls =>
    let d := ofLines ls
    ⟨a :: d.root, d.sections⟩
  | .header h :: ls =>
    let d := ofLines ls
    ⟨[], ⟨h, d.root⟩ :: d.sections⟩

/-- A byte order mark at the beginning of a text does not count. -/
def skipMark : List Char → List Char
  | '\ufeff' :: r => r
  | s => s

/-- The root table of a text; `none` if the text is no TOML document. -/
def parse? (s : List Char) : Option Entries := do
  let ls ← lines? (skipMark s)
  (Document.ofLines ls).entries?

end BuiltinLink.Toml
