/-!
Finite sets of checkpoint indices. A set is kept as a strictly increasing list, so that a set has
one representation and is printed in one way.
-/

namespace BuiltinLink

/-- A finite set of checkpoint indices. -/
structure StageSet where
  /-- The members in increasing order. -/
  toList : List UInt32
  sorted : toList.Pairwise (· < ·)
deriving DecidableEq, Repr

namespace StageSet

def empty : StageSet :=
  ⟨[], .nil⟩

instance : EmptyCollection StageSet :=
  ⟨empty⟩

instance : Membership UInt32 StageSet :=
  ⟨fun s n => n ∈ s.toList⟩

instance (n : UInt32) (s : StageSet) : Decidable (n ∈ s) :=
  inferInstanceAs (Decidable (n ∈ s.toList))

@[simp] theorem mem_toList {n : UInt32} {s : StageSet} : n ∈ s.toList ↔ n ∈ s := .rfl

@[simp] theorem not_mem_empty (n : UInt32) : n ∉ (∅ : StageSet) := List.not_mem_nil

/-- Puts a number into an increasing list, unless it is there. -/
def place (n : UInt32) : List UInt32 → List UInt32
  | [] => [n]
  | m :: r => if n < m then n :: m :: r else if n = m then m :: r else m :: place n r

theorem mem_place {n x : UInt32} {l : List UInt32} : x ∈ place n l ↔ x = n ∨ x ∈ l := by
  induction l with
  | nil => simp [place]
  | cons m r ih =>
    simp only [place]
    split
    · simp
    · split
      · rename_i h
        simp [h]
      · simp only [List.mem_cons, ih]
        grind

theorem place_sorted {l : List UInt32} (n : UInt32) (h : l.Pairwise (· < ·)) :
    (place n l).Pairwise (· < ·) := by
  induction l with
  | nil => simp [place]
  | cons m r ih =>
    obtain ⟨hm, hr⟩ := List.pairwise_cons.1 h
    simp only [place]
    split
    · rename_i hn
      refine List.pairwise_cons.2 ⟨fun x hx => ?_, h⟩
      rcases List.mem_cons.1 hx with rfl | hx
      · exact hn
      · exact UInt32.lt_trans hn (hm x hx)
    · split
      · exact h
      · rename_i hn hne
        refine List.pairwise_cons.2 ⟨fun x hx => ?_, ih hr⟩
        rcases mem_place.1 hx with rfl | hx
        · exact UInt32.lt_of_le_of_ne (UInt32.not_lt.1 hn) (Ne.symm hne)
        · exact hm x hx

def insert (s : StageSet) (n : UInt32) : StageSet :=
  ⟨place n s.toList, place_sorted n s.sorted⟩

@[simp] theorem mem_insert {s : StageSet} {n x : UInt32} : x ∈ s.insert n ↔ x = n ∨ x ∈ s :=
  mem_place

def insertAll (s : StageSet) (l : List UInt32) : StageSet :=
  l.foldl insert s

@[simp] theorem mem_insertAll {s : StageSet} {l : List UInt32} {x : UInt32} :
    x ∈ s.insertAll l ↔ x ∈ s ∨ x ∈ l := by
  induction l generalizing s with
  | nil => simp [insertAll]
  | cons n r ih =>
    have := @ih (s.insert n)
    simp only [insertAll, List.foldl_cons, mem_insert, List.mem_cons] at this ⊢
    grind

def ofList (l : List UInt32) : StageSet :=
  empty.insertAll l

@[simp] theorem mem_ofList {l : List UInt32} {x : UInt32} : x ∈ ofList l ↔ x ∈ l := by
  rw [ofList, mem_insertAll]
  exact ⟨fun h => h.resolve_left (not_mem_empty x), .inr⟩

end StageSet

end BuiltinLink
