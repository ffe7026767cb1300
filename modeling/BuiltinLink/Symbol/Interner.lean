/-!
Numbers for names. Each name has one number, given when the name is first met.
-/

namespace BuiltinLink

/-- The names met so far; the number of a name is its place in the list. -/
structure Interner where
  names : List String := []
  nodup : names.Nodup := by exact List.nodup_nil
deriving Repr

namespace Interner

/-- The number of a name that has been met. -/
def find? (t : Interner) (name : String) : Option Nat :=
  t.names.idxOf? name

/-- The name that has a number. -/
def name? (t : Interner) (n : Nat) : Option String :=
  t.names[n]?

theorem find?_eq_none_iff {t : Interner} {name : String} :
    t.find? name = none ↔ name ∉ t.names := by
  simp [find?]

/-- Adds a name that has not been met. -/
def add (t : Interner) (name : String) (h : name ∉ t.names) : Interner :=
  ⟨t.names ++ [name], List.nodup_append.2 ⟨t.nodup, by simp, by
    intro a ha b hb
    rw [List.mem_singleton.1 hb]
    exact fun e => h (e ▸ ha)⟩⟩

/-- The number of a name, which is given one if it has none. -/
def intern (t : Interner) (name : String) : Interner × Nat :=
  match h : t.find? name with
  | some n => (t, n)
  | none => (t.add name (find?_eq_none_iff.1 h), t.names.length)

/-- The number that a name is given leads back to the name. -/
theorem name?_intern (t : Interner) (name : String) :
    (t.intern name).1.name? (t.intern name).2 = some name := by
  simp only [intern]
  split
  · rename_i n h
    obtain ⟨hn, he, -⟩ := List.idxOf?_eq_some_iff.1 h
    simp [name?, hn, he]
  · simp [name?, add]

end Interner

end BuiltinLink
