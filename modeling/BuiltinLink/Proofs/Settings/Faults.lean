import BuiltinLink.Proofs.Settings.Record
import BuiltinLink.Proofs.Toml.Positions

/-!
All faults of a document, each judged by itself and given with its place. A schema says what a value
should be; its faults at a value are listed in document order, whether or not there are faults
before them. What a table or an array lacks stands at its end.
-/

namespace BuiltinLink.Settings

open Toml

/-! ### Single values -/

def booleanFault? : Value → Option ShapeFault
  | .boolean _ => none
  | v => some (.wrongType (.ofValue v) .boolean)

def indexFault? : Value → Option ShapeFault
  | .integer n => if 0 ≤ n ∧ n < 0x100000000 then none else some (.outOfRange n)
  | v => some (.wrongType (.ofValue v) .index)

def pathFault? : Value → Option ShapeFault
  | .string _ => none
  | v => some (.wrongType (.ofValue v) .path)

/-- A name that should be one of a closed set. -/
def nameFault? (names : List String) (s : String) : Option ShapeFault :=
  if s ∈ names then none else some (.unknownVariant s names)

/-- A value that should name a member of a closed set: alone, or as the only key of a table. Below
the key nothing but an empty table or array may stand. -/
def variantFault? (names : List String) : Value → Option ShapeFault
  | .string s => nameFault? names s
  | .table _ es =>
    match es with
    | [] => some .noVariant
    | [(k, v)] => (nameFault? names k).or ((payloadFault? v).map .payload)
    | _ => some .manyVariants
  | _ => some .notVariant

/-! ### Schemas -/

/-- What a value should be. -/
inductive Schema where
  /-- A value that is judged as a whole. -/
  | single (fault? : Value → Option ShapeFault)
  | list (item : Schema)
  /-- A table, or an array of the fields in their order; where nothing is expected only a table can
  stand. -/
  | record (keys : List String) (field : String → Schema) (required : List String)
      (expected : Option Expected)

/-- Faults with their places, in document order. -/
abbrev Faults := List (Position × ShapeFault)

/-- The fault at a place, if there is one. -/
def faultAt (p : Position) (fault? : Option ShapeFault) : Faults :=
  fault?.toList.map fun f => (p, f)

/-- The faults of a part of a value. -/
def under (s : Step) (l : Faults) : Faults :=
  l.map fun o => (s :: o.1, o.2)

namespace Schema

/-- What is wrong with a value itself, apart from its parts. -/
def selfFault? : Schema → Value → Option ShapeFault
  | single fault?, v => fault? v
  | list _, .array _ _ => none
  | list _, v => some (.wrongType (.ofValue v) .sequence)
  | record _ _ _ _, .table _ _ | record _ _ _ _, .array _ _ => none
  | record keys _ _ _, .datetime => some (.unknownField datetimeKey keys)
  | record _ _ _ expected, v => expected.map (.wrongType (.ofValue v))

/-- What a table or an array lacks. -/
def endFault? : Schema → Value → Option ShapeFault
  | record keys _ required _, .table _ es =>
    (keys.find? fun k => k ∈ required ∧ k ∉ es.map Prod.fst).map .missingField
  | record _ _ required _, .array _ items =>
    if items.length < required.length then some (.tooShort items.length) else none
  | _, _ => none

/-- What is wrong with a key. -/
def keyFault? : Schema → String → Option ShapeFault
  | record keys _ _ _, k => if k ∈ keys then none else some (.unknownField k keys)
  | _, _ => none

/-- What the value under a key should be. -/
def field? : Schema → String → Option Schema
  | record keys field _ _, k => if k ∈ keys then some (field k) else none
  | _, _ => none

/-- What an item should be. Items behind the last field of a record do not count. -/
def item? : Schema → Nat → Option Schema
  | single _, _ => none
  | list item, _ => some item
  | record keys field _ _, i => keys[i]?.map field

mutual

/-- All faults of a value: of itself, of its parts in their order, and what it lacks. -/
def faults (s : Schema) : Value → Faults
  | .array kind items => faultAt [] (s.selfFault? (.array kind items)) ++
      (itemFaults s 0 items ++ faultAt [.finish] (s.endFault? (.array kind items)))
  | .table kind es => faultAt [] (s.selfFault? (.table kind es)) ++
      (entryFaults s es ++ faultAt [.finish] (s.endFault? (.table kind es)))
  | v => faultAt [] (s.selfFault? v)

/-- The faults of items that are counted from `i` on. -/
def itemFaults (s : Schema) (i : Nat) : List Value → Faults
  | [] => []
  | v :: items =>
    (s.item? i).elim [] (fun item => under (.item i) (item.faults v)) ++
      itemFaults s (i + 1) items

def entryFaults (s : Schema) : List (String × Value) → Faults
  | [] => []
  | (k, v) :: es =>
    faultAt [.key k] (s.keyFault? k) ++
      ((s.field? k).elim [] (fun field => under (.value k) (field.faults v)) ++ entryFaults s es)

end

end Schema

/-! ### Link settings -/

def targetField : String → Schema
  | "isa" => .single (variantFault? (Vocabulary.names Isa))
  | "os" => .single (variantFault? (Vocabulary.names Os))
  | _ => .single (variantFault? (Vocabulary.names Arch))

def targetSchema : Schema :=
  .record TargetDraft.fields targetField TargetDraft.fields (some .target)

def linkField : String → Schema
  | "include-stdlib" | "multi-target" => .single booleanFault?
  | "debug-stages" | "disabled-stages" => .list (.single indexFault?)
  | _ => .single pathFault?

def linkSchema : Schema :=
  .record LinkSection.fields linkField [] (some .link)

def settingsField : String → Schema
  | "target" => targetSchema
  | _ => linkSchema

def settingsSchema : Schema :=
  .record Draft.fields settingsField ["target"] none

/-- All faults of a document. -/
def documentFaults (es : Entries) : Faults :=
  settingsSchema.faults (.table .headed es)

/-! ### Faults and places -/

section

variable {p : Position} {f : ShapeFault} {fault? : Option ShapeFault} {step : Step} {l : Faults}

theorem faultAt_sublist (p : Position) (fault? : Option ShapeFault) :
    ((faultAt p fault?).map Prod.fst).Sublist [p] := by
  cases fault? with
  | none => exact List.nil_sublist _
  | some f => exact .refl _

theorem mem_faultAt {o : Position × ShapeFault} :
    o ∈ faultAt p fault? ↔ o.1 = p ∧ fault? = some o.2 := by
  cases fault? with
  | none => simp [faultAt]
  | some f => simp [faultAt, Prod.ext_iff, eq_comm]

@[simp] theorem faultAt_none (p : Position) : faultAt p none = [] :=
  rfl

@[simp] theorem faultAt_some (p : Position) (f : ShapeFault) : faultAt p (some f) = [(p, f)] :=
  rfl

theorem map_under (step : Step) (l : Faults) :
    (under step l).map Prod.fst = (l.map Prod.fst).map (step :: ·) := by
  simp [under]

theorem mem_under {o : Position × ShapeFault} :
    o ∈ under step l ↔ ∃ p, o.1 = step :: p ∧ (p, o.2) ∈ l := by
  constructor
  · intro ho
    obtain ⟨⟨p, f⟩, hp, rfl⟩ := List.mem_map.1 ho
    exact ⟨p, rfl, hp⟩
  · rintro ⟨p, hp, hl⟩
    exact List.mem_map.2 ⟨(p, o.2), hl, Prod.ext hp.symm rfl⟩

end

namespace Schema

theorem itemFaults_append (s : Schema) (i : Nat) (l r : List Value) :
    s.itemFaults i (l ++ r) = s.itemFaults i l ++ s.itemFaults (i + l.length) r := by
  induction l generalizing i with
  | nil => simp [itemFaults]
  | cons v l ih =>
    rw [List.cons_append, itemFaults, itemFaults, ih, List.append_assoc, List.length_cons,
      Nat.add_right_comm, Nat.add_assoc]

theorem entryFaults_append (s : Schema) (l r : Entries) :
    s.entryFaults (l ++ r) = s.entryFaults l ++ s.entryFaults r := by
  induction l with
  | nil => rfl
  | cons e l ih =>
    obtain ⟨k, v⟩ := e
    rw [List.cons_append, entryFaults, entryFaults, ih, List.append_assoc, List.append_assoc]

/-- Where no items are expected, none is at fault. -/
theorem itemFaults_eq_nil {s : Schema} (h : ∀ i, s.item? i = none) (i : Nat) (items : List Value) :
    s.itemFaults i items = [] := by
  induction items generalizing i with
  | nil => rfl
  | cons v items ih => rw [itemFaults, h, ih, Option.elim_none, List.nil_append]

/-- Where no entries are expected, none is at fault. -/
theorem entryFaults_eq_nil {s : Schema} (hkey : ∀ k, s.keyFault? k = none)
    (hfield : ∀ k, s.field? k = none) (es : Entries) : s.entryFaults es = [] := by
  induction es with
  | nil => rfl
  | cons e es ih =>
    obtain ⟨k, v⟩ := e
    rw [entryFaults, hkey, hfield, ih, faultAt_none, Option.elim_none, List.nil_append,
      List.nil_append]

mutual

/-- The faults of a value are listed in document order. -/
theorem faults_sublist (s : Schema) (v : Value) :
    ((s.faults v).map Prod.fst).Sublist (positions v) := by
  match v with
  | .array kind items =>
    rw [faults, positions, List.map_append, List.map_append]
    exact (faultAt_sublist _ _).append ((itemFaults_sublist s 0 items).append (faultAt_sublist _ _))
  | .table kind es =>
    rw [faults, positions, List.map_append, List.map_append]
    exact (faultAt_sublist _ _).append ((entryFaults_sublist s es).append (faultAt_sublist _ _))
  | .string _ | .integer _ | .float _ | .boolean _ | .datetime => exact faultAt_sublist _ _

theorem itemFaults_sublist (s : Schema) (i : Nat) (items : List Value) :
    ((s.itemFaults i items).map Prod.fst).Sublist (itemPositions i items) := by
  match items with
  | [] => exact .slnil
  | v :: items =>
    rw [itemFaults, itemPositions, List.map_append]
    refine List.Sublist.append ?_ (itemFaults_sublist s (i + 1) items)
    cases s.item? i with
    | none => exact List.nil_sublist _
    | some item =>
      rw [Option.elim_some, map_under]
      exact (faults_sublist item v).map _

theorem entryFaults_sublist (s : Schema) (es : List (String × Value)) :
    ((s.entryFaults es).map Prod.fst).Sublist (entryPositions es) := by
  match es with
  | [] => exact .slnil
  | (k, v) :: es =>
    rw [entryFaults, entryPositions, List.map_append, List.map_append]
    have hkey := faultAt_sublist [.key k] (s.keyFault? k)
    refine List.Sublist.append hkey (List.Sublist.append ?_ (entryFaults_sublist s es))
    cases s.field? k with
    | none => exact List.nil_sublist _
    | some field =>
      rw [Option.elim_some, map_under]
      exact (faults_sublist field v).map _

end

end Schema

/-- The faults of a document are listed in document order. -/
theorem documentFaults_before (es : Entries) :
    (documentFaults es).Pairwise fun a b => Before es a.1 b.1 := by
  refine List.pairwise_iff_forall_sublist.2 fun {a b} hab => ?_
  exact (hab.map Prod.fst).trans (settingsSchema.faults_sublist _)

/-- What the target lacks stands behind its entries, and before an unknown key that follows it. -/
example : documentFaults [("target", .table .headed [("os", .integer 3)]), ("x", .boolean true)] =
    [([.value "target", .value "os"], .notVariant),
      ([.value "target", .finish], .missingField "isa"),
      ([.key "x"], .unknownField "x" Draft.fields)] := by
  decide

end BuiltinLink.Settings
