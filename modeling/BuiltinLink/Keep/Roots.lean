/-!
The set of names that are protected from removal. It keeps the order of insertion.
-/

namespace BuiltinLink

/-- Protected names in the order of insertion, and the groups that were kept when they were
gathered. -/
structure Roots where
  names : List String := []
  nodup : names.Nodup := by exact List.nodup_nil
  retainedGroups : List String := []
deriving DecidableEq, Repr

namespace Roots

def contains (r : Roots) (name : String) : Bool :=
  r.names.contains name

theorem contains_iff {r : Roots} {name : String} : r.contains name = true ↔ name ∈ r.names := by
  simp [contains]

/-- Protects a name, and tells whether it was not protected before. -/
def insert (r : Roots) (name : String) : Roots × Bool :=
  if h : name ∈ r.names then (r, false)
  else
    (⟨r.names ++ [name], List.nodup_append.2 ⟨r.nodup, by simp, by
        intro a ha b hb
        rw [List.mem_singleton.1 hb]
        exact fun e => h (e ▸ ha)⟩, r.retainedGroups⟩, true)

@[simp] theorem names_insert (r : Roots) (name : String) :
    (r.insert name).1.names = if name ∈ r.names then r.names else r.names ++ [name] := by
  by_cases h : name ∈ r.names <;> simp [insert, h]

@[simp] theorem insert_snd (r : Roots) (name : String) :
    (r.insert name).2 = !r.contains name := by
  by_cases h : name ∈ r.names <;> simp [insert, contains, h]

def length (r : Roots) : Nat :=
  r.names.length

def isEmpty (r : Roots) : Bool :=
  r.names.isEmpty

end Roots

end BuiltinLink
