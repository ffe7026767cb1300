/-!
Closed sets of names. A `Vocabulary` lists the members of a finite type in their order of precedence
and gives each a written name of its own, so that a name denotes at most one member.
-/

namespace BuiltinLink

/-- A finite type whose members have written names, no two of them alike. -/
class Vocabulary (α : Type) where
  /-- Every member once, in order of precedence. -/
  members : List α
  /-- The canonical spelling. -/
  name : α → String
  mem_members : ∀ a, a ∈ members
  name_injective : ∀ a b, name a = name b → a = b

namespace Vocabulary

variable {α : Type} [Vocabulary α]

/-- The member spelt exactly `s`. -/
def ofName? (s : String) : Option α :=
  members.find? fun a => name a = s

theorem ofName?_eq_some_iff {s : String} {a : α} : ofName? s = some a ↔ name a = s := by
  constructor
  · intro h
    simpa using List.find?_some h
  · rintro rfl
    cases h : (ofName? (name a) : Option α) with
    | none =>
      have := List.find?_eq_none.1 h a (mem_members a)
      simp at this
    | some b =>
      have : name b = name a := by simpa using List.find?_some h
      rw [name_injective b a this]

/-- The canonical spellings, in order of precedence. -/
def names (α : Type) [Vocabulary α] : List String :=
  (members : List α).map name

/-- The place of a member in the order of precedence. -/
def rank [DecidableEq α] (a : α) : Nat :=
  members.idxOf a

/-- Arranges members by precedence. -/
def sort [DecidableEq α] (l : List α) : List α :=
  l.mergeSort fun a b => rank a ≤ rank b

end Vocabulary

end BuiltinLink
