import BuiltinLink.Library.Registry

/-!
The current slot of each key. A registration gives its key a new empty slot, a request at most fills
the slot of its own key, and nothing else changes which slot is current or what it holds. All that
is said about histories and runs rests on these facts; `resolve` is not unfolded after them.
-/

namespace BuiltinLink.Registry

open Text

variable {σ : Type} [FileSystem σ]

/-! ### The last slot of a key -/

theorem lastSlot?_append (key : LibraryKey) (l : List Slot) (s : Slot) :
    lastSlot? key (l ++ [s]) = if s.key = key then some l.length else lastSlot? key l := by
  induction l with
  | nil => simp [lastSlot?]
  | cons t l ih =>
    simp only [List.cons_append, lastSlot?, ih]
    by_cases h : s.key = key
    · simp [h]
    · simp [h]

theorem lastSlot?_eq_none_iff {key : LibraryKey} {l : List Slot} :
    lastSlot? key l = none ↔ ∀ s ∈ l, s.key ≠ key := by
  induction l with
  | nil => simp [lastSlot?]
  | cons t l ih =>
    simp only [lastSlot?, List.forall_mem_cons, ← ih]
    cases lastSlot? key l with
    | none => by_cases h : t.key = key <;> simp [h]
    | some i => simp

/-- Which slot is the last of a key depends on the keys of the slots alone. -/
theorem lastSlot?_congr (key : LibraryKey) {l l' : List Slot}
    (h : l.map Slot.key = l'.map Slot.key) : lastSlot? key l = lastSlot? key l' := by
  induction l generalizing l' with
  | nil =>
    rw [List.map_nil, eq_comm, List.map_eq_nil_iff] at h
    rw [h]
  | cons s l ih =>
    cases l' with
    | nil => simp at h
    | cons s' l' =>
      simp only [List.map_cons, List.cons.injEq] at h
      simp only [lastSlot?, ih h.2, h.1]

theorem lastSlot?_getElem? {key : LibraryKey} {l : List Slot} {i : Nat}
    (h : lastSlot? key l = some i) : ∃ s, l[i]? = some s ∧ s.key = key := by
  induction l generalizing i with
  | nil => simp [lastSlot?] at h
  | cons t l ih =>
    simp only [lastSlot?] at h
    cases hl : lastSlot? key l with
    | some j =>
      simp only [hl, Option.some.injEq] at h
      subst h
      simpa using ih hl
    | none =>
      simp only [hl] at h
      split at h
      · rename_i hk
        cases h
        exact ⟨t, rfl, hk⟩
      · simp at h

/-! ### The current slot -/

/-- The current slot of a key, with its number. -/
def current? (r : Registry) (key : LibraryKey) : Option (Nat × Slot) :=
  (r.fetch? key).bind fun i => r.slots[i]?.map (i, ·)

/-- The library that is kept for a key. -/
def loaded? (r : Registry) (key : LibraryKey) : Option Library :=
  (r.current? key).bind fun c => c.2.loaded

theorem current?_eq_some_iff {r : Registry} {key : LibraryKey} {i : Nat} {s : Slot} :
    r.current? key = some (i, s) ↔ r.fetch? key = some i ∧ r.slots[i]? = some s := by
  simp only [current?, Option.bind_eq_some_iff, Option.map_eq_some_iff, Prod.mk.injEq]
  constructor
  · intro h'
    rcases h' with ⟨j, hj, t, ht, rfl, rfl⟩
    exact ⟨hj, ht⟩
  · intro h'
    rcases h' with ⟨hi, hs⟩
    exact ⟨i, hi, s, hs, rfl, rfl⟩

theorem current?_key {r : Registry} {key : LibraryKey} {i : Nat} {s : Slot}
    (h : r.current? key = some (i, s)) : s.key = key := by
  obtain ⟨hi, hs⟩ := current?_eq_some_iff.1 h
  obtain ⟨t, ht, hk⟩ := lastSlot?_getElem? hi
  rw [hs, Option.some.injEq] at ht
  rw [ht, hk]

theorem current?_eq_none_iff {r : Registry} {key : LibraryKey} :
    r.current? key = none ↔ r.fetch? key = none := by
  constructor
  · intro h
    cases hf : r.fetch? key with
    | none => rfl
    | some i =>
      obtain ⟨s, hs, -⟩ := lastSlot?_getElem? hf
      rw [current?_eq_some_iff.2 ⟨hf, hs⟩] at h
      exact absurd h (Option.some_ne_none _)
  · intro h
    rw [current?, h]
    rfl

@[simp] theorem current?_register_self (r : Registry) (key : LibraryKey) (source : Source) :
    (r.register key source).current? key = some (r.slots.length, ⟨key, source, none⟩) := by
  refine current?_eq_some_iff.2 ⟨?_, ?_⟩
  · rw [fetch?, slots_register, lastSlot?_append, if_pos rfl]
  · rw [slots_register, List.getElem?_concat_length]

theorem current?_register_of_ne {key key' : LibraryKey} (h : key ≠ key') (r : Registry)
    (source : Source) : (r.register key source).current? key' = r.current? key' := by
  have hf : (r.register key source).fetch? key' = r.fetch? key' := by
    rw [fetch?, slots_register, lastSlot?_append, if_neg h]
    rfl
  cases hc : r.fetch? key' with
  | none => rw [current?_eq_none_iff.2 hc, current?_eq_none_iff, hf, hc]
  | some i =>
    have hi := fetch?_lt hc
    rw [current?, current?, hf, hc, slots_register, Option.bind_some, Option.bind_some,
      List.getElem?_append_left hi]

/-- A new slot holds no library. -/
theorem loaded_register_iff {r : Registry} {key : LibraryKey} {source : Source} {i : Nat}
    {l : Library} : (∃ s, (r.register key source).slots[i]? = some s ∧ s.loaded = some l) ↔
      ∃ s, r.slots[i]? = some s ∧ s.loaded = some l := by
  rw [slots_register]
  constructor
  · intro h
    rcases h with ⟨s, hs, hl⟩
    rw [List.getElem?_append] at hs
    split at hs
    · exact ⟨s, hs, hl⟩
    · rw [List.getElem?_singleton] at hs
      split at hs
      · cases hs
        simp at hl
      · simp at hs
  · intro h
    rcases h with ⟨s, hs, hl⟩
    exact ⟨s, List.getElem?_append_left (List.getElem?_eq_some_iff.1 hs).1 ▸ hs, hl⟩

/-! ### Filling a slot -/

/-- A slot that is filled holds the library, and the other slots what they held. -/
theorem loaded_store_iff {r : Registry} {i : Nat} {l : Library} {sl : Slot}
    (hs : r.slots[i]? = some sl) (hempty : sl.loaded = none) {x : Resolved} :
    (∃ s, (r.store i l).slots[x.slot]? = some s ∧ s.loaded = some x.library) ↔
      (∃ s, r.slots[x.slot]? = some s ∧ s.loaded = some x.library) ∨ x = ⟨i, l⟩ := by
  obtain ⟨j, l'⟩ := x
  simp only [store, List.getElem?_modify, Resolved.mk.injEq]
  by_cases hj : i = j
  · subst hj
    simp [hs, hempty, eq_comm]
  · simp [hj, Ne.symm hj]

@[simp] theorem map_key_store (r : Registry) (i : Nat) (l : Library) :
    (r.store i l).slots.map Slot.key = r.slots.map Slot.key := by
  refine List.ext_getElem? fun j => ?_
  simp only [store, List.getElem?_map, List.getElem?_modify]
  cases r.slots[j]? with
  | none => rfl
  | some s => by_cases h : i = j <;> simp [h]

theorem fetch?_store (r : Registry) (i : Nat) (l : Library) (key : LibraryKey) :
    (r.store i l).fetch? key = r.fetch? key :=
  lastSlot?_congr key (map_key_store r i l)

/-- Filling the current slot of a key changes the current slot of no other key. -/
theorem current?_store {r : Registry} {key : LibraryKey} {i : Nat} {s : Slot}
    (h : r.current? key = some (i, s)) (l : Library) (key' : LibraryKey) :
    (r.store i l).current? key' =
      if key' = key then some (i, { s with loaded := some l }) else r.current? key' := by
  obtain ⟨hi, hs⟩ := current?_eq_some_iff.1 h
  by_cases hk : key' = key
  · subst hk
    rw [if_pos rfl, current?_eq_some_iff, fetch?_store]
    refine ⟨hi, ?_⟩
    simp [store, hs]
  · rw [if_neg hk, current?, current?, fetch?_store]
    cases hj : r.fetch? key' with
    | none => rfl
    | some j =>
      -- The two slots are different because their keys are.
      have hne : i ≠ j := by
        intro heq
        subst heq
        obtain ⟨t, ht, htk⟩ := lastSlot?_getElem? hj
        rw [hs, Option.some.injEq] at ht
        exact hk (by rw [← htk, ← ht, current?_key h])
      simp [store, hne]

/-! ### Requests -/

variable {files : σ} {r : Registry} {key : LibraryKey}

/-- A request looks at the current slot of its key alone. -/
theorem resolve_eq (files : σ) (r : Registry) (key : LibraryKey) :
    r.resolve files key =
      match r.current? key with
      | none => (r, .error (.cause (.missingLibrary key)))
      | some (i, s) =>
        match s.loaded with
        | some l => (r, .ok ⟨i, l⟩)
        | none =>
          match s.source.read files with
          | .ok image => (r.store i ⟨key, image⟩, .ok ⟨i, ⟨key, image⟩⟩)
          | .error (p, e) => (r, .error (.cause (.libraryIo key.libraryName p e))) := by
  unfold resolve
  split
  · rename_i i hi
    have hlt := fetch?_lt hi
    have hc : r.current? key = some (i, r.slots[i]) :=
      current?_eq_some_iff.2 ⟨hi, List.getElem?_eq_getElem hlt⟩
    rw [hc]
    unfold fill
    cases hl : r.slots[i].loaded with
    | some l => simp [hl]
    | none =>
      simp only [hl, Slot.read, current?_key hc]
      rcases r.slots[i].source.read files with ⟨p, e⟩ | image <;> rfl
  · rename_i hi
    rw [current?_eq_none_iff.2 hi]

theorem resolve_of_none (h : r.current? key = none) :
    r.resolve files key = (r, .error (.cause (.missingLibrary key))) := by
  rw [resolve_eq, h]

theorem resolve_of_loaded {i : Nat} {s : Slot} {l : Library} (h : r.current? key = some (i, s))
    (hl : s.loaded = some l) : r.resolve files key = (r, .ok ⟨i, l⟩) := by
  rw [resolve_eq, h]
  simp only [hl]

theorem resolve_of_read {i : Nat} {s : Slot} {image : Bytes} (h : r.current? key = some (i, s))
    (hl : s.loaded = none) (hr : s.source.read files = .ok image) :
    r.resolve files key = (r.store i ⟨key, image⟩, .ok ⟨i, ⟨key, image⟩⟩) := by
  rw [resolve_eq, h]
  simp only [hl, hr]

theorem resolve_of_unread {i : Nat} {s : Slot} {p : Path} {e : FileError}
    (h : r.current? key = some (i, s)) (hl : s.loaded = none)
    (hr : s.source.read files = .error (p, e)) :
    r.resolve files key = (r, .error (.cause (.libraryIo key.libraryName p e))) := by
  rw [resolve_eq, h]
  simp only [hl, hr]

/-- All that a request can do: the answer to it and the registry afterwards. -/
inductive Outcome (files : σ) (r : Registry) (key : LibraryKey) :
    Registry × Except LinkError Resolved → Prop
  /-- The key has no slot. -/
  | missing : r.current? key = none →
      Outcome files r key (r, .error (.cause (.missingLibrary key)))
  /-- The slot holds a library. -/
  | kept {i : Nat} {s : Slot} {l : Library} :
      r.current? key = some (i, s) → s.loaded = some l → Outcome files r key (r, .ok ⟨i, l⟩)
  /-- The slot is empty and its source can be read. -/
  | filled {i : Nat} {s : Slot} {image : Bytes} :
      r.current? key = some (i, s) → s.loaded = none → s.source.read files = .ok image →
      Outcome files r key (r.store i ⟨key, image⟩, .ok ⟨i, ⟨key, image⟩⟩)
  /-- The slot is empty and its source cannot be read. -/
  | unreadable {i : Nat} {s : Slot} {p : Path} {e : FileError} :
      r.current? key = some (i, s) → s.loaded = none → s.source.read files = .error (p, e) →
      Outcome files r key (r, .error (.cause (.libraryIo key.libraryName p e)))

theorem resolve_outcome (files : σ) (r : Registry) (key : LibraryKey) :
    Outcome files r key (r.resolve files key) := by
  cases hc : r.current? key with
  | none =>
    rw [resolve_of_none hc]
    exact .missing hc
  | some c =>
    obtain ⟨i, s⟩ := c
    cases hl : s.loaded with
    | some l =>
      rw [resolve_of_loaded hc hl]
      exact .kept hc hl
    | none =>
      cases hr : s.source.read files with
      | ok image =>
        rw [resolve_of_read hc hl hr]
        exact .filled hc hl hr
      | error f =>
        rw [resolve_of_unread hc hl hr]
        exact .unreadable hc hl hr

/-- A request that fails leaves the registry as it was. -/
theorem resolve_of_error {e : LinkError} (h : (r.resolve files key).2 = .error e) :
    (r.resolve files key).1 = r := by
  have ho := resolve_outcome files r key
  generalize r.resolve files key = out at ho h ⊢
  cases ho with
  | missing | unreadable => rfl
  | kept | filled => simp at h

/-- A failure is no failure of a stage. -/
theorem exists_cause_of_error {e : LinkError} (h : (r.resolve files key).2 = .error e) :
    ∃ c, e = .cause c := by
  have ho := resolve_outcome files r key
  generalize r.resolve files key = out at ho h
  cases ho with
  | missing | unreadable =>
    simp only [Except.error.injEq] at h
    exact ⟨_, h.symm⟩
  | kept | filled => simp at h

/-- A request that succeeds leaves its library in the current slot of the key. -/
theorem current?_resolve_of_ok {x : Resolved} (h : (r.resolve files key).2 = .ok x) :
    ∃ s, r.current? key = some (x.slot, s) ∧ (r.resolve files key).1.current? key =
      some (x.slot, { s with loaded := some x.library }) := by
  have ho := resolve_outcome files r key
  generalize r.resolve files key = out at ho h ⊢
  cases ho with
  | missing | unreadable => simp at h
  | @kept i s l hc hl =>
    simp only [Except.ok.injEq] at h
    subst h
    refine ⟨s, hc, ?_⟩
    rw [hc, ← hl]
  | @filled i s image hc hl hr =>
    simp only [Except.ok.injEq] at h
    subst h
    refine ⟨s, hc, ?_⟩
    rw [current?_store hc, if_pos rfl]

/-- A request for one key does not change the current slot of another. -/
theorem current?_resolve_of_ne {key' : LibraryKey} (h : key' ≠ key) :
    (r.resolve files key).1.current? key' = r.current? key' := by
  have ho := resolve_outcome files r key
  generalize r.resolve files key = out at ho ⊢
  cases ho with
  | missing | kept | unreadable => rfl
  | filled hc => rw [current?_store hc, if_neg h]

/-- A request opens no slot. -/
@[simp] theorem map_key_resolve (files : σ) (r : Registry) (key : LibraryKey) :
    (r.resolve files key).1.slots.map Slot.key = r.slots.map Slot.key := by
  have ho := resolve_outcome files r key
  generalize r.resolve files key = out at ho ⊢
  cases ho with
  | missing | kept | unreadable => rfl
  | filled => rw [map_key_store]

/-- A request loads an image exactly if it succeeds and no library was kept for its key. -/
theorem loads_resolve (files : σ) (r : Registry) (key : LibraryKey) :
    (r.resolve files key).1.loads =
      r.loads + if (r.resolve files key).2.isOk ∧ r.loaded? key = none then 1 else 0 := by
  have ho := resolve_outcome files r key
  generalize r.resolve files key = out at ho ⊢
  cases ho with
  | missing | unreadable => simp [Except.isOk, Except.toBool]
  | kept hc hl => simp [loaded?, hc, hl]
  | filled hc hl => simp [loaded?, hc, hl, store, Except.isOk, Except.toBool]

end BuiltinLink.Registry
