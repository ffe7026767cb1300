import BuiltinLink.Proofs.Library.Slots
import Mathlib.Data.List.Induction

/-!
Requests of many threads at one time. A request takes two steps, each of them atomic: a thread
fetches the current slot of its key, and later it takes the library of that slot, which it loads if
the slot is empty. That the second step is one step is the contract of a cell that is initialised
once: of the threads that find it empty one at a time tries to fill it, and the others go on when it
has succeeded or failed. Steps of other threads, registrations and changes of the files come
between the two steps in any order; in particular the key may be registered again, so that a thread
takes or loads the library of a slot that is no longer current.

A run is the list of its events. Here is what one event can do to the threads and to the registry,
and that the slots after a run are those that its registrations opened.
-/

namespace BuiltinLink

open Text

variable {σ : Type} [FileSystem σ]

/-- Only the source of a file fails to be read. -/
theorem Source.read_eq_error_iff {files : σ} {source : Source} {path : Path}
    {e : FileError} : source.read files = .error (path, e) ↔
      source = .file path ∧ FileSystem.read files path = .error e := by
  constructor
  · intro h
    cases source with
    | memory image => cases h
    | file path' =>
      cases hr : FileSystem.read files path' with
      | ok image =>
        simp only [read, hr, Except.mapError] at h
        cases h
      | error e' =>
        simp only [read, hr, Except.mapError] at h
        cases h
        exact ⟨rfl, hr⟩
  · intro h'
    rcases h' with ⟨rfl, he⟩
    simp only [read, he, Except.mapError]

/-- All that can come of taking the library of a slot, or loading it. -/
inductive Registry.Filling (files : σ) (r : Registry) (i : Nat) :
    Registry × Except LinkError Resolved → Prop
  | kept {s : Slot} {l : Library} : r.slots[i]? = some s → s.loaded = some l →
      Filling files r i (r, .ok ⟨i, l⟩)
  | loaded {s : Slot} {image : Bytes} : r.slots[i]? = some s → s.loaded = none →
      s.source.read files = .ok image →
      Filling files r i (r.store i ⟨s.key, image⟩, .ok ⟨i, ⟨s.key, image⟩⟩)
  | unreadable {s : Slot} {path : Path} {e : FileError} : r.slots[i]? = some s →
      s.loaded = none → s.source.read files = .error (path, e) →
      Filling files r i (r, .error (.cause (.libraryIo s.key.libraryName path e)))

namespace Registry

theorem filling_fill (files : σ) (r : Registry) (i : Nat) (h : i < r.slots.length) :
    Filling files r i (r.fill files i h) := by
  have hs : r.slots[i]? = some r.slots[i] := List.getElem?_eq_getElem h
  unfold fill
  cases hl : r.slots[i].loaded with
  | some l => exact .kept hs hl
  | none =>
    simp only [Slot.read]
    cases hr : r.slots[i].source.read files with
    | ok image => exact .loaded hs hl hr
    | error f => exact .unreadable hs hl hr

@[simp] theorem length_store (r : Registry) (i : Nat) (l : Library) :
    (r.store i l).slots.length = r.slots.length :=
  List.length_modify ..

theorem Filling.length_eq {files : σ} {r : Registry} {i : Nat}
    {out : Registry × Except LinkError Resolved} (h : Filling files r i out) :
    out.1.slots.length = r.slots.length := by
  cases h with
  | kept => rfl
  | loaded => exact length_store ..
  | unreadable => rfl

end Registry

namespace Flight

/-- A thread that asks for the library of a key. -/
inductive Thread where
  /-- The key had no slot. -/
  | missing (key : LibraryKey)
  /-- The slot has been fetched. -/
  | waiting (key : LibraryKey) (slot : Nat)
  | answered (key : LibraryKey) (slot : Nat) (answer : Except LinkError Resolved)
deriving DecidableEq

/-- The answer that a thread has. -/
def Thread.answer? : Thread → Option (Except LinkError Resolved)
  | missing key => some (.error (.cause (.missingLibrary key)))
  | waiting _ _ => none
  | answered _ _ answer => some answer

/-- A thread after its first step. -/
def Thread.first (r : Registry) (key : LibraryKey) : Thread :=
  match r.fetch? key with
  | some i => .waiting key i
  | none => .missing key

/-- A registry among files and the threads that have asked it, in the order of their first steps. -/
structure State (σ : Type) where
  files : σ
  registry : Registry := {}
  threads : List Thread := []
  /-- What has been fetched are slots of the registry: slots are replaced, but never lost. -/
  inRange : ∀ key i, .waiting key i ∈ threads → i < registry.slots.length := by simp

inductive Event (σ : Type) where
  /-- A new thread fetches the slot of a key. -/
  | fetch (key : LibraryKey)
  /-- A thread that waits takes the library of its slot, or loads it. -/
  | fill (thread : Nat)
  | register (key : LibraryKey) (source : Source)
  /-- Files have been created, changed or deleted. -/
  | files (now : σ)
deriving DecidableEq

namespace State

omit [FileSystem σ] in
theorem inRange_concat (s : State σ) {t : Thread}
    (ht : ∀ key i, t = .waiting key i → i < s.registry.slots.length) (key : LibraryKey) (i : Nat)
    (h : .waiting key i ∈ s.threads ++ [t]) : i < s.registry.slots.length := by
  rcases List.mem_append.1 h with h | h
  · exact s.inRange key i h
  · exact ht key i (List.mem_singleton.1 h).symm

/-- The first step of a new thread. -/
def fetch (s : State σ) (key : LibraryKey) : State σ :=
  match h : s.registry.fetch? key with
  | some i =>
    { s with
      threads := s.threads ++ [.waiting key i]
      inRange := s.inRange_concat fun _ _ heq => by
        cases heq
        exact Registry.fetch?_lt h }
  | none =>
    { s with
      threads := s.threads ++ [.missing key]
      inRange := s.inRange_concat fun _ _ heq => by cases heq }

/-- The second step of a thread. A thread that does not wait has none. -/
def fill (s : State σ) (t : Nat) : State σ :=
  match h : s.threads[t]? with
  | some (.waiting key i) =>
    let hi := s.inRange key i (List.mem_of_getElem? h)
    let out := s.registry.fill s.files i hi
    { s with
      registry := out.1
      threads := s.threads.set t (.answered key i out.2)
      inRange := by
        intro key' j hj
        rw [(Registry.filling_fill s.files s.registry i hi).length_eq]
        rcases List.mem_or_eq_of_mem_set hj with hj | hj
        · exact s.inRange key' j hj
        · cases hj }
  | _ => s

def step (s : State σ) : Event σ → State σ
  | .fetch key => s.fetch key
  | .fill t => s.fill t
  | .register key source =>
    { s with
      registry := s.registry.register key source
      inRange := fun key' i hi => by
        rw [Registry.slots_register, List.length_append]
        exact Nat.lt_add_right _ (s.inRange key' i hi) }
  | .files now => { s with files := now }

end State

/-- What is after all events of a run. It begins with an empty registry, no threads and the files
`init`. -/
def state (init : σ) (h : List (Event σ)) : State σ :=
  h.foldl State.step { files := init }

/-- The registrations of a run in order; each opens a slot of its own. -/
def registrations (h : List (Event σ)) : List (LibraryKey × Source) :=
  h.filterMap fun
    | .register key source => some (key, source)
    | _ => none

/-- The registration of a key that is in force after a run is the last one. -/
structure InForce (h : List (Event σ)) (key : LibraryKey) (i : Nat) (source : Source) : Prop where
  registered : (registrations h)[i]? = some (key, source)
  last : ∀ j source', (registrations h)[j]? = some (key, source') → j ≤ i

/-- After `h`, thread `t` has fetched slot `i` and not taken its library. -/
def Waits (init : σ) (h : List (Event σ)) (t : Nat) (key : LibraryKey) (i : Nat) : Prop :=
  (state init h).threads[t]? = some (.waiting key i)

/-! ### Steps -/

section Step

variable {s : State σ} {t : Nat} {key : LibraryKey} {i : Nat}

omit [FileSystem σ] in
theorem State.threads_fetch (s : State σ) (key : LibraryKey) :
    (s.fetch key).threads = s.threads ++ [.first s.registry key] := by
  unfold fetch Thread.first
  split <;> rename_i h <;> simp only [h]

omit [FileSystem σ] in
@[simp] theorem State.registry_fetch (s : State σ) (key : LibraryKey) :
    (s.fetch key).registry = s.registry := by
  unfold fetch
  split <;> rfl

theorem State.fill_eq (h : s.threads[t]? = some (.waiting key i)) :
    ∃ hi, (s.fill t).registry = (s.registry.fill s.files i hi).1 ∧
      (s.fill t).threads = s.threads.set t (.answered key i (s.registry.fill s.files i hi).2) := by
  unfold fill
  split
  · rename_i key' j hj
    cases hj.symm.trans h
    exact ⟨s.inRange key i (List.mem_of_getElem? h), rfl, rfl⟩
  · rename_i hn
    exact absurd h (hn key i)

/-- The second step of a thread that waits fills its slot, and gives the answer to it alone. -/
theorem State.fill_of_waiting (h : s.threads[t]? = some (.waiting key i)) :
    ∃ out, Registry.Filling s.files s.registry i out ∧ (s.fill t).registry = out.1 ∧
      (s.fill t).threads = s.threads.set t (.answered key i out.2) := by
  obtain ⟨hi, hregistry, hthreads⟩ := fill_eq h
  exact ⟨_, Registry.filling_fill .., hregistry, hthreads⟩

theorem State.fill_of_not_waiting (h : ∀ key i, s.threads[t]? ≠ some (.waiting key i)) :
    s.fill t = s := by
  unfold fill
  split
  · rename_i key i hi
    exact absurd hi (h key i)
  · rfl

end Step

/-- All that an event can do to the registry. -/
inductive State.Effect (s : State σ) : Event σ → Registry → Prop
  | none {e : Event σ} : registrations [e] = [] → Effect s e s.registry
  | registered (key : LibraryKey) (source : Source) :
      Effect s (.register key source) (s.registry.register key source)
  /-- A thread loads the library of the slot that it has fetched. -/
  | loaded {t : Nat} {key : LibraryKey} {i : Nat} {sl : Slot} {image : Bytes} :
      s.threads[t]? = some (.waiting key i) → s.registry.slots[i]? = some sl →
      sl.loaded = Option.none → sl.source.read s.files = .ok image →
      Effect s (.fill t) (s.registry.store i ⟨sl.key, image⟩)

theorem State.effect_step (s : State σ) (e : Event σ) : s.Effect e (s.step e).registry := by
  cases e with
  | fetch key =>
    rw [step, registry_fetch]
    exact .none rfl
  | register key source => exact .registered key source
  | files => exact .none rfl
  | fill t =>
    by_cases ht : ∃ key i, s.threads[t]? = some (.waiting key i)
    · obtain ⟨key, i, ht⟩ := ht
      obtain ⟨out, hout, hregistry, -⟩ := fill_of_waiting ht
      rw [step, hregistry]
      cases hout with
      | kept => exact .none rfl
      | unreadable => exact .none rfl
      | loaded hs hempty hread => exact .loaded ht hs hempty hread
    · rw [step, fill_of_not_waiting fun key i hi => ht ⟨key, i, hi⟩]
      exact .none rfl

variable {init : σ}

theorem state_concat (init : σ) (h : List (Event σ)) (e : Event σ) :
    state init (h ++ [e]) = (state init h).step e := by
  unfold state
  rw [List.foldl_append]
  rfl

omit [FileSystem σ] in
theorem registrations_concat (h : List (Event σ)) (e : Event σ) :
    registrations (h ++ [e]) = registrations h ++ registrations [e] :=
  List.filterMap_append

/-- A thread stays as it is, but for the second step of one that waits. -/
theorem State.thread_step (s : State σ) (e : Event σ) {t : Nat} {th : Thread}
    (h : s.threads[t]? = some th) :
    (s.step e).threads[t]? = some th ∨ ∃ key i answer, th = .waiting key i ∧ e = .fill t ∧
      (s.step e).threads[t]? = some (.answered key i answer) := by
  have hlt := (List.getElem?_eq_some_iff.1 h).1
  cases e with
  | fetch key =>
    rw [step, threads_fetch, List.getElem?_append_left hlt]
    exact .inl h
  | fill u =>
    by_cases hu : ∃ key i, s.threads[u]? = some (.waiting key i)
    · obtain ⟨key, i, hu⟩ := hu
      obtain ⟨out, -, -, hthreads⟩ := fill_of_waiting hu
      rw [step, hthreads]
      by_cases hut : u = t
      · subst hut
        cases hu.symm.trans h
        exact .inr ⟨key, i, out.2, rfl, rfl, List.getElem?_set_self hlt⟩
      · rw [List.getElem?_set_ne hut]
        exact .inl h
    · rw [step, fill_of_not_waiting fun key i hi => hu ⟨key, i, hi⟩]
      exact .inl h
  | register => exact .inl h
  | files => exact .inl h

/-- Where a thread comes from: it was there, or it was there and waited, or it is new. -/
theorem State.thread_of_step {s : State σ} {e : Event σ} {t : Nat} {th : Thread}
    (h : (s.step e).threads[t]? = some th) :
    s.threads[t]? = some th ∨
      (∃ key i answer, th = .answered key i answer ∧ e = .fill t ∧
        s.threads[t]? = some (.waiting key i)) ∨
      ∃ key, e = .fetch key ∧ t = s.threads.length ∧ th = .first s.registry key := by
  cases e with
  | fetch key =>
    rw [step, threads_fetch] at h
    by_cases hlt : t < s.threads.length
    · rw [List.getElem?_append_left hlt] at h
      exact .inl h
    · have hlast := (List.getElem?_eq_some_iff.1 h).1
      rw [List.length_append, List.length_singleton] at hlast
      obtain rfl : t = s.threads.length := by omega
      rw [List.getElem?_concat_length] at h
      exact .inr (.inr ⟨key, rfl, rfl, (Option.some.inj h).symm⟩)
  | fill u =>
    by_cases hu : ∃ key i, s.threads[u]? = some (.waiting key i)
    · obtain ⟨key, i, hu⟩ := hu
      obtain ⟨out, -, -, hthreads⟩ := fill_of_waiting hu
      rw [step, hthreads] at h
      by_cases hut : u = t
      · subst hut
        rw [List.getElem?_set_self (List.getElem?_eq_some_iff.1 hu).1] at h
        exact .inr (.inl ⟨key, i, out.2, (Option.some.inj h).symm, rfl, hu⟩)
      · rw [List.getElem?_set_ne hut] at h
        exact .inl h
    · rw [step, fill_of_not_waiting fun key i hi => hu ⟨key, i, hi⟩] at h
      exact .inl h
  | register => exact .inl h
  | files => exact .inl h

/-! ### Slots and registrations -/

/-- What was registered with a slot. -/
def registration (s : Slot) : LibraryKey × Source :=
  (s.key, s.source)

theorem map_registration_store (r : Registry) (i : Nat) (l : Library) :
    (r.store i l).slots.map registration = r.slots.map registration := by
  refine List.ext_getElem? fun j => ?_
  simp only [Registry.store, List.getElem?_map, List.getElem?_modify]
  cases r.slots[j]? with
  | none => rfl
  | some s => by_cases h : i = j <;> simp [h, registration]

theorem State.map_registration_step (s : State σ) (e : Event σ) :
    (s.step e).registry.slots.map registration =
      s.registry.slots.map registration ++ registrations [e] := by
  have he := s.effect_step e
  generalize (s.step e).registry = r at he ⊢
  cases he with
  | none hnone => rw [hnone, List.append_nil]
  | registered key source => simp [registrations, registration]
  | loaded => simp [registrations, map_registration_store]

/-- The slots after a run are those that its registrations opened. -/
theorem map_registration_state (init : σ) (h : List (Event σ)) :
    (state init h).registry.slots.map registration = registrations h := by
  induction h using List.reverseRecOn with
  | nil => rfl
  | append_singleton h e ih =>
    rw [state_concat, State.map_registration_step, ih, registrations_concat]

theorem registrations_getElem? (init : σ) (h : List (Event σ)) (i : Nat) :
    (registrations h)[i]? = ((state init h).registry.slots[i]?).map registration := by
  rw [← map_registration_state, List.getElem?_map]

omit [FileSystem σ] in
theorem registrations_of_prefix {h p : List (Event σ)} (hp : p <+: h) {i : Nat}
    {r : LibraryKey × Source} (hr : (registrations p)[i]? = some r) :
    (registrations h)[i]? = some r := by
  obtain ⟨q, hq⟩ := hp.filterMap _
  have heq : registrations h = registrations p ++ q := hq.symm
  rw [heq, List.getElem?_append_left (List.getElem?_eq_some_iff.1 hr).1]
  exact hr

theorem lastSlot?_ge {key : LibraryKey} {l : List Slot} {i j : Nat} {s : Slot}
    (h : Registry.lastSlot? key l = some i) (hj : l[j]? = some s) (hs : s.key = key) : j ≤ i := by
  induction l generalizing i j with
  | nil => simp at hj
  | cons s' l ih =>
    cases j with
    | zero => exact Nat.zero_le i
    | succ j =>
      rw [List.getElem?_cons_succ] at hj
      simp only [Registry.lastSlot?] at h
      cases hl : Registry.lastSlot? key l with
      | some i' =>
        rw [hl] at h
        cases h
        exact Nat.succ_le_succ (ih hl hj)
      | none => exact absurd hs (Registry.lastSlot?_eq_none_iff.1 hl s (List.mem_of_getElem? hj))

/-- What is fetched is the slot of the registration in force. -/
theorem inForce_of_fetch? {h : List (Event σ)} {key : LibraryKey} {i : Nat}
    (hf : (state init h).registry.fetch? key = some i) : ∃ source, InForce h key i source := by
  obtain ⟨s, hs, hkey⟩ := Registry.lastSlot?_getElem? hf
  refine ⟨s.source, ?_, fun j source' hj => ?_⟩
  · rw [registrations_getElem?, hs, ← hkey]
    rfl
  · rw [registrations_getElem?, Option.map_eq_some_iff] at hj
    obtain ⟨s', hs', hreg⟩ := hj
    exact lastSlot?_ge hf hs' (congrArg Prod.fst hreg)

theorem not_mem_of_fetch? {h : List (Event σ)} {key : LibraryKey}
    (hf : (state init h).registry.fetch? key = none) (source : Source) :
    (key, source) ∉ registrations h := by
  rw [← map_registration_state, List.mem_map]
  intro h'
  rcases h' with ⟨s, hs, hreg⟩
  exact Registry.lastSlot?_eq_none_iff.1 hf s hs (congrArg Prod.fst hreg)

/-- A thread that waits has fetched a slot that was opened for its key. -/
theorem Waits.registered {h : List (Event σ)} {t : Nat} {key : LibraryKey} {i : Nat}
    (hw : Waits init h t key i) : ∃ source, (registrations h)[i]? = some (key, source) := by
  induction h using List.reverseRecOn with
  | nil => simp [Waits, state] at hw
  | append_singleton h e ih =>
    have hbefore : ∃ source, (registrations h)[i]? = some (key, source) := by
      unfold Waits at hw
      rw [state_concat] at hw
      rcases State.thread_of_step hw with hold | ⟨_, _, _, hth, -, -⟩ | ⟨key', -, -, hth⟩
      · exact ih hold
      · cases hth
      · unfold Thread.first at hth
        split at hth
        · rename_i j hf
          cases hth
          obtain ⟨source, hs⟩ := inForce_of_fetch? hf
          exact ⟨source, hs.registered⟩
        · cases hth
    obtain ⟨source, hs⟩ := hbefore
    exact ⟨source, registrations_of_prefix (List.prefix_append h [e]) hs⟩

end Flight

end BuiltinLink
