import BuiltinLink.Types.Source

/-!
Keys of low-level types. A key holds what can be told apart below the source language: scalars
without sign, whether there is a lane for each program instance, and the number of pointers. Keys
are listed up to a number of pointers, which may be the largest that can be counted.
-/

namespace BuiltinLink

inductive Scalar where
  | i1
  | i8
  | i16
  | i32
  | i64
  | f16
  | f32
  | f64
deriving DecidableEq, Repr

instance : Vocabulary Scalar where
  members := [.i1, .i8, .i16, .i32, .i64, .f16, .f32, .f64]
  name
    | .i1 => "i1"
    | .i8 => "i8"
    | .i16 => "i16"
    | .i32 => "i32"
    | .i64 => "i64"
    | .f16 => "f16"
    | .f32 => "f32"
    | .f64 => "f64"
  mem_members a := by cases a <;> decide
  name_injective a b := by cases a <;> cases b <;> decide

/-- The class of a low-level type. -/
inductive TypeKey where
  | void
  | value (scalar : Scalar) (variability : Variability) (depth : UInt8)
deriving DecidableEq, Repr

/-- The numbers of pointers from `next` to `last`. No number lies beyond the largest one, so that
the end is a mark of its own. -/
structure DepthRange where
  next : UInt8
  last : UInt8
  exhausted : Bool := false
deriving DecidableEq, Repr

namespace DepthRange

/-- The numbers of pointers up to a bound. -/
def upTo (n : UInt8) : DepthRange where
  next := 0
  last := n

/-- The next number of a range, and the range behind it. -/
def next? (r : DepthRange) : Option (UInt8 × DepthRange) :=
  if r.exhausted ∨ r.last < r.next then none
  else if r.next < r.last then some (r.next, { r with next := r.next + 1 })
  else some (r.next, { r with exhausted := true })

theorem next?_eq_some {r r' : DepthRange} {d : UInt8} (h : r.next? = some (d, r')) :
    d = r.next ∧ r.exhausted = false ∧
      (r.next.toNat < r.last.toNat ∧ r' = { r with next := r.next + 1 } ∨
        r.next.toNat = r.last.toNat ∧ r' = { r with exhausted := true }) := by
  unfold next? at h
  simp only [UInt8.lt_iff_toNat_lt] at h
  split at h
  · cases h
  · rename_i hlive
    have hfresh : r.exhausted = false := Bool.eq_false_iff.2 fun h => hlive (.inl h)
    split at h
    · rename_i hlt
      cases h
      exact ⟨rfl, hfresh, .inl ⟨hlt, rfl⟩⟩
    · cases h
      exact ⟨rfl, hfresh, .inr ⟨by omega, rfl⟩⟩

/-- How many numbers a range still has. -/
def remaining (r : DepthRange) : Nat :=
  if r.exhausted then 0 else r.last.toNat + 1 - r.next.toNat

theorem toNat_next_add_one {r : DepthRange} (h : r.next.toNat < r.last.toNat) :
    (r.next + 1).toNat = r.next.toNat + 1 := by
  have hlast := r.last.toNat_lt
  rw [UInt8.toNat_add, UInt8.toNat_one]
  omega

theorem remaining_eq_of_next? {r r' : DepthRange} {d : UInt8} (h : r.next? = some (d, r')) :
    r.remaining = r'.remaining + 1 := by
  obtain ⟨-, hfresh, ⟨hlt, rfl⟩ | ⟨heq, rfl⟩⟩ := next?_eq_some h
  · simp only [remaining, hfresh, toNat_next_add_one hlt, Bool.false_eq_true, if_false]
    omega
  · simp only [remaining, hfresh, Bool.false_eq_true, if_false, if_true]
    omega

/-- All numbers of a range, in order. -/
def depths (r : DepthRange) : List UInt8 :=
  match _h : r.next? with
  | none => []
  | some (d, r') => d :: r'.depths
termination_by r.remaining
decreasing_by
  rw [remaining_eq_of_next? _h]
  exact Nat.lt_succ_self _

end DepthRange

namespace TypeKey

/-- The place of a key in the order of keys: void first, then by scalar, variability and depth. -/
def rank : TypeKey → Nat
  | void => 0
  | value s v d => 1 + ((Vocabulary.rank s * 2 + Vocabulary.rank v) * 256 + d.toNat)

def sort (l : List TypeKey) : List TypeKey :=
  l.mergeSort fun a b => a.rank ≤ b.rank

/-- The keys of all values below a number of pointers. -/
def valuesAt (depth : UInt8) : List TypeKey :=
  (Vocabulary.members : List Variability).flatMap fun v =>
    (Vocabulary.members : List Scalar).map fun s => value s v depth

/-- Every key with at most so many pointers, the plainest first. -/
def upTo (maxDepth : UInt8) : List TypeKey :=
  void :: (DepthRange.upTo maxDepth).depths.flatMap valuesAt

end TypeKey

end BuiltinLink
