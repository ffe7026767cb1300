import BuiltinLink.Files.Tree
import BuiltinLink.Proofs.Library.Slots
import Mathlib.Data.Finset.Card
import Mathlib.Data.List.Induction

/-!
What a registry answers is determined by the history of calls and of the files. Calls on a registry
and changes of the files come in any order; the answer to a request depends on the last registration
of its key, on whether a request since then has been served, and, if none has, on what the source of
that registration holds now.

The proofs follow the slot that the last registration opened: it stays current until the key is
registered again, once it holds a library it keeps it, and a request that fails leaves it empty.
-/

namespace BuiltinLink.History

/-- A call on the registry, or a change of the files. Images and texts given in memory and files are
registered alike, each as a source. -/
inductive Event (σ : Type) where
  | register (key : LibraryKey) (source : Source)
  | resolve (key : LibraryKey)
  | contains (key : LibraryKey)
  | length
  | loads
  /-- Files have been created, changed or deleted. -/
  | files (now : σ)

inductive Answer where
  | done
  | library (answer : Except LinkError Resolved)
  | truth (b : Bool)
  | number (n : Nat)
deriving DecidableEq

/-- A registry among files. -/
structure World (σ : Type) where
  files : σ
  registry : Registry := {}

variable {σ : Type} [FileSystem σ]

/-- What an event does and answers. -/
def World.step (w : World σ) : Event σ → World σ × Answer
  | .register key source => ({ w with registry := w.registry.register key source }, .done)
  | .resolve key =>
    let out := w.registry.resolve w.files key
    ({ w with registry := out.1 }, .library out.2)
  | .contains key => (w, .truth (w.registry.contains key))
  | .length => (w, .number w.registry.length)
  | .loads => (w, .number w.registry.loads)
  | .files now => ({ w with files := now }, .done)

def World.after (w : World σ) : List (Event σ) → World σ
  | [] => w
  | e :: h => (w.step e).1.after h

def World.answers (w : World σ) : List (Event σ) → List Answer
  | [] => []
  | e :: h => (w.step e).2 :: (w.step e).1.answers h

/-- The registry and the files after `h`. In the beginning the registry is empty and the files are
`init`. -/
def world (init : σ) (h : List (Event σ)) : World σ :=
  World.after ⟨init, {}⟩ h

/-- The answer to a request for `key` after `h`. -/
def answerTo (init : σ) (h : List (Event σ)) (key : LibraryKey) : Except LinkError Resolved :=
  ((world init h).registry.resolve (world init h).files key).2

/-- The keys registered in a history, in order. -/
def registeredKeys (h : List (Event σ)) : List LibraryKey :=
  h.filterMap fun
    | .register key _ => some key
    | _ => none

def Answer.library? : Answer → Option Resolved
  | .library (.ok x) => some x
  | _ => none

/-- The libraries handed out in a history, in order. -/
def handedOut (init : σ) (h : List (Event σ)) : List Resolved :=
  (World.answers ⟨init, {}⟩ h).filterMap Answer.library?

/-- `key` was last registered with `source`, after `before`; then came `since`. -/
structure LastRegistration (h : List (Event σ)) (key : LibraryKey) (source : Source)
    (before since : List (Event σ)) : Prop where
  split : h = before ++ .register key source :: since
  last : key ∉ registeredKeys since

/-- After `before`, a request for `key` during `since` was served with `x`. -/
def Served (init : σ) (before : List (Event σ)) (key : LibraryKey) (since : List (Event σ))
    (x : Resolved) : Prop :=
  ∃ a b, since = a ++ .resolve key :: b ∧ answerTo init (before ++ a) key = .ok x

/-- The library for a key with a given image. -/
structure Holds (x : Resolved) (key : LibraryKey) (image : Text.Bytes) : Prop where
  key_eq : x.library.key = key
  name_eq : x.library.name = key.libraryName
  format_eq : x.library.format = .detect image
  image_eq : x.library.image = image

/-- The answer to a request that reads the source as it is now. -/
def ReadsNow (files : σ) (key : LibraryKey) (source : Source)
    (answer : Except LinkError Resolved) : Prop :=
  match source with
  | .memory image => ∃ x, answer = .ok x ∧ Holds x key image
  | .file path =>
    match FileSystem.read files path with
    | .ok image => ∃ x, answer = .ok x ∧ Holds x key image
    | .error e => answer = .error (.cause (.libraryIo key.libraryName path e))

/-! ### Runs -/

theorem World.after_append (w : World σ) (a b : List (Event σ)) :
    w.after (a ++ b) = (w.after a).after b := by
  induction a generalizing w with
  | nil => rfl
  | cons e a ih => exact ih _

theorem World.answers_append (w : World σ) (a b : List (Event σ)) :
    w.answers (a ++ b) = w.answers a ++ (w.after a).answers b := by
  induction a generalizing w with
  | nil => rfl
  | cons e a ih =>
    rw [List.cons_append, World.answers, ih]
    rfl

variable {init : σ}

theorem world_append (a b : List (Event σ)) :
    world init (a ++ b) = (world init a).after b :=
  World.after_append _ a b

/-- A request that fails leaves the world as it was. -/
theorem World.step_of_error {w : World σ} {key : LibraryKey} {e : LinkError}
    (h : (w.registry.resolve w.files key).2 = .error e) :
    w.step (.resolve key) = (w, .library (.error e)) := by
  simp only [step, Registry.resolve_of_error h, h]

/-! ### Keys -/

theorem World.map_key_step (w : World σ) (e : Event σ) :
    (w.step e).1.registry.slots.map Slot.key =
      w.registry.slots.map Slot.key ++ registeredKeys [e] := by
  cases e with
  | register key source => simp [step, registeredKeys]
  | resolve key => simp [step, registeredKeys]
  | contains | length | loads | files => simp [step, registeredKeys]

theorem map_key_world (init : σ) (h : List (Event σ)) :
    (world init h).registry.slots.map Slot.key = registeredKeys h := by
  induction h using List.reverseRecOn with
  | nil => rfl
  | append_singleton h e ih =>
    rw [world_append, World.after, World.after, World.map_key_step, ih, registeredKeys,
      registeredKeys, registeredKeys, List.filterMap_append]

theorem current?_world_eq_none_iff {h : List (Event σ)} {key : LibraryKey} :
    (world init h).registry.current? key = none ↔ key ∉ registeredKeys h := by
  rw [Registry.current?_eq_none_iff, Registry.fetch?, Registry.lastSlot?_eq_none_iff,
    ← map_key_world, List.mem_map, not_exists]
  exact ⟨fun hs s hk => hs s hk.1 hk.2, fun hs s hm hk => hs s ⟨hm, hk⟩⟩

theorem contains_world_iff {h : List (Event σ)} {key : LibraryKey} :
    (world init h).registry.contains key = true ↔ key ∈ registeredKeys h := by
  rw [← map_key_world init, Registry.contains, List.any_eq_true, List.mem_map]
  simp only [decide_eq_true_eq]

theorem length_eraseDups {α : Type} [DecidableEq α] (l : List α) :
    l.eraseDups.length = l.toFinset.card := by
  induction l using List.reverseRecOn with
  | nil => rfl
  | append_singleton l a ih =>
    rw [List.eraseDups_append, List.length_append, ih, List.toFinset_append]
    by_cases ha : a ∈ l
    · simp [List.removeAll, ha]
    · simp [List.removeAll, ha, List.eraseDups_cons]

theorem length_world (init : σ) (h : List (Event σ)) :
    (world init h).registry.length = (registeredKeys h).toFinset.card := by
  rw [Registry.length, Registry.keys, map_key_world, length_eraseDups]

/-! ### The slot of the last registration -/

section Slot

variable {w : World σ} {key : LibraryKey} {i : Nat} {s : Slot}

omit [FileSystem σ] in
theorem mem_registeredKeys_cons {e : Event σ} {h : List (Event σ)} :
    key ∈ registeredKeys (e :: h) ↔ key ∈ registeredKeys [e] ∨ key ∈ registeredKeys h := by
  rw [registeredKeys, ← List.singleton_append, List.filterMap_append, List.mem_append]
  rfl

/-- Registrations and requests for other keys, and all other events, leave the current slot of a key
as it is. -/
theorem World.current?_step {e : Event σ} (he : key ∉ registeredKeys [e])
    (hr : e = .resolve key →
      (w.registry.resolve w.files key).1.current? key = w.registry.current? key) :
    (w.step e).1.registry.current? key = w.registry.current? key := by
  cases e with
  | register key' source =>
    have hne : key' ≠ key := by
      intro heq
      subst heq
      exact he (by simp [registeredKeys])
    rw [step, Registry.current?_register_of_ne hne]
  | resolve key' =>
    by_cases hk : key = key'
    · subst hk
      exact hr rfl
    · rw [step, Registry.current?_resolve_of_ne hk]
  | contains | length | loads | files => rfl

/-- A slot that holds a library stays as it is until its key is registered again. -/
theorem World.after_of_loaded {since : List (Event σ)} {l : Library}
    (hs : key ∉ registeredKeys since) (hc : w.registry.current? key = some (i, s))
    (hl : s.loaded = some l) : (w.after since).registry.current? key = some (i, s) := by
  induction since generalizing w with
  | nil => exact hc
  | cons e since ih =>
    rw [mem_registeredKeys_cons, not_or] at hs
    apply ih hs.2
    rw [current?_step hs.1, hc]
    intro _
    rw [Registry.resolve_of_loaded hc hl]

/-- An empty slot stays empty as long as every request for its key fails. -/
theorem World.after_of_empty {since : List (Event σ)} (hs : key ∉ registeredKeys since)
    (hfail : ∀ a b, since = a ++ .resolve key :: b → ∀ x,
      ((w.after a).registry.resolve (w.after a).files key).2 ≠ .ok x)
    (hc : w.registry.current? key = some (i, s)) :
    (w.after since).registry.current? key = some (i, s) := by
  induction since generalizing w with
  | nil => exact hc
  | cons e since ih =>
    rw [mem_registeredKeys_cons, not_or] at hs
    apply ih hs.2 (fun a b hab x => hfail (e :: a) b (by rw [hab, List.cons_append]) x)
    rw [current?_step hs.1, hc]
    intro heq
    subst heq
    cases ha : (w.registry.resolve w.files key).2 with
    | ok x => exact absurd ha (hfail [] since rfl x)
    | error f => rw [Registry.resolve_of_error ha]

end Slot

variable {h : List (Event σ)} {key : LibraryKey} {source : Source} {before since : List (Event σ)}

omit [FileSystem σ] in
theorem exists_lastRegistration (hk : key ∈ registeredKeys h) :
    ∃ source before since, LastRegistration h key source before since := by
  induction h with
  | nil => simp [registeredKeys] at hk
  | cons e h ih =>
    by_cases hh : key ∈ registeredKeys h
    · obtain ⟨source, before, since, hr⟩ := ih hh
      exact ⟨source, e :: before, since, by rw [hr.split, List.cons_append], hr.last⟩
    · have he := (mem_registeredKeys_cons.1 hk).resolve_right hh
      cases e with
      | register key' source =>
        rw [registeredKeys, List.filterMap_cons, List.filterMap_nil, List.mem_singleton] at he
        exact ⟨source, [], h, by rw [he, List.nil_append], hh⟩
      | resolve | contains | length | loads | files => simp [registeredKeys] at he

/-- A request that was served since the last registration settles all later ones. -/
theorem LastRegistration.answerTo_of_served (hr : LastRegistration h key source before since)
    {x : Resolved} (hx : Served init (before ++ [.register key source]) key since x) :
    answerTo init h key = .ok x := by
  obtain ⟨a, b, hab, ha⟩ := hx
  have hb : key ∉ registeredKeys b := by
    intro hb
    apply hr.last
    rw [hab, registeredKeys, List.filterMap_append, List.mem_append, ← registeredKeys,
      ← registeredKeys, mem_registeredKeys_cons]
    exact .inr (.inr hb)
  obtain ⟨s, -, hs⟩ := Registry.current?_resolve_of_ok ha
  have hw : world init h =
      ((world init (before ++ [.register key source] ++ a)).step (.resolve key)).1.after b := by
    rw [hr.split, hab, List.append_cons, ← List.append_assoc, world_append]
    rfl
  have hend : (world init h).registry.current? key = _ := hw ▸ World.after_of_loaded hb hs rfl
  rw [answerTo, Registry.resolve_of_loaded hend rfl]

/-- As long as no request has been served, each one reads the source anew. -/
theorem LastRegistration.answerTo_of_not_served
    (hr : LastRegistration h key source before since)
    (hx : ¬ ∃ x, Served init (before ++ [.register key source]) key since x) :
    ReadsNow (world init h).files key source (answerTo init h key) := by
  have hw : world init h = (world init (before ++ [.register key source])).after since := by
    rw [hr.split, List.append_cons, world_append]
  have hc : (world init (before ++ [.register key source])).registry.current? key =
      some ((world init before).registry.slots.length, ⟨key, source, none⟩) := by
    rw [world_append]
    exact Registry.current?_register_self _ _ _
  have hend := World.after_of_empty hr.last
    (fun a b hab x ha => hx ⟨x, a, b, hab, by rw [answerTo, world_append]; exact ha⟩) hc
  rw [← hw] at hend
  rw [answerTo]
  cases source with
  | memory image =>
    rw [Registry.resolve_of_read hend rfl rfl]
    exact ⟨_, rfl, rfl, rfl, rfl, rfl⟩
  | file path =>
    rw [ReadsNow]
    cases hf : FileSystem.read (world init h).files path with
    | ok image =>
      rw [Registry.resolve_of_read hend rfl (by rw [Source.read, hf]; rfl)]
      exact ⟨_, rfl, rfl, rfl, rfl, rfl⟩
    | error e => rw [Registry.resolve_of_unread hend rfl (by rw [Source.read, hf]; rfl)]

theorem answerTo_eq_missing_iff :
    answerTo init h key = .error (.cause (.missingLibrary key)) ↔ key ∉ registeredKeys h := by
  rw [← current?_world_eq_none_iff, answerTo]
  constructor
  · intro ha
    have ho := Registry.resolve_outcome (world init h).files (world init h).registry key
    generalize (world init h).registry.resolve (world init h).files key = out at ho ha
    cases ho with
    | missing hc => exact hc
    | kept | filled | unreadable => simp at ha
  · intro hc
    rw [Registry.resolve_of_none hc]

/-! ### Loads -/

theorem handedOut_append_singleton (init : σ) (h : List (Event σ)) (e : Event σ) :
    handedOut init (h ++ [e]) = handedOut init h ++ ((world init h).step e).2.library?.toList := by
  rw [handedOut, World.answers_append, List.filterMap_append]
  rw [World.answers, World.answers, world, List.filterMap_cons, List.filterMap_nil]
  cases (((World.after ⟨init, {}⟩ h).step e).2).library? <;> rfl

/-- The libraries handed out are those that slots hold, be these current or not. -/
theorem mem_handedOut_iff {x : Resolved} :
    x ∈ handedOut init h ↔
      ∃ s, (world init h).registry.slots[x.slot]? = some s ∧ s.loaded = some x.library := by
  induction h using List.reverseRecOn with
  | nil => simp [handedOut, World.answers, world, World.after]
  | append_singleton h e ih =>
    rw [handedOut_append_singleton, List.mem_append, ih, world_append, World.after, World.after]
    cases e with
    | register key source =>
      simp only [World.step, Answer.library?, Option.toList_none, List.not_mem_nil, or_false]
      exact Registry.loaded_register_iff.symm
    | resolve key =>
      simp only [World.step]
      have ho := Registry.resolve_outcome (world init h).files (world init h).registry key
      generalize (world init h).registry.resolve (world init h).files key = out at ho ⊢
      cases ho with
      | missing | unreadable => simp [Answer.library?]
      | @kept i s l hc hl =>
        obtain ⟨-, hs⟩ := Registry.current?_eq_some_iff.1 hc
        simp only [Answer.library?, Option.toList_some, List.mem_singleton, or_iff_left_iff_imp]
        intro heq
        subst heq
        exact ⟨s, hs, hl⟩
      | @filled i s image hc hl hr =>
        obtain ⟨-, hs⟩ := Registry.current?_eq_some_iff.1 hc
        obtain ⟨j, l⟩ := x
        simp only [Answer.library?, Option.toList_some, List.mem_singleton, Registry.store,
          List.getElem?_modify, Resolved.mk.injEq]
        by_cases hj : i = j
        · subst hj
          simp [hs, hl, eq_comm]
        · simp [hj, Ne.symm hj]
    | contains | length | loads | files => simp [World.step, Answer.library?]

/-- Each library is loaded once, however often it is handed out. -/
theorem loads_world (init : σ) (h : List (Event σ)) :
    (world init h).registry.loads = (handedOut init h).toFinset.card := by
  induction h using List.reverseRecOn with
  | nil => rfl
  | append_singleton h e ih =>
    rw [handedOut_append_singleton, world_append, World.after, World.after]
    cases e with
    | resolve key =>
      simp only [World.step]
      have ho := Registry.resolve_outcome (world init h).files (world init h).registry key
      generalize (world init h).registry.resolve (world init h).files key = out at ho ⊢
      cases ho with
      | missing | unreadable => simpa [Answer.library?] using ih
      | @kept i s l hc hl =>
        obtain ⟨-, hs⟩ := Registry.current?_eq_some_iff.1 hc
        have hm : (⟨i, l⟩ : Resolved) ∈ handedOut init h := mem_handedOut_iff.2 ⟨s, hs, hl⟩
        rw [ih, Answer.library?, Option.toList_some, List.toFinset_append]
        simp [hm]
      | @filled i s image hc hl hr =>
        obtain ⟨-, hs⟩ := Registry.current?_eq_some_iff.1 hc
        have hm : (⟨i, ⟨key, image⟩⟩ : Resolved) ∉ handedOut init h := by
          rw [mem_handedOut_iff]
          intro h'
          rcases h' with ⟨t, ht, hlt⟩
          rw [hs, Option.some.injEq] at ht
          rw [← ht, hl] at hlt
          simp at hlt
        rw [Registry.store, ih, Answer.library?, Option.toList_some, List.toFinset_append]
        rw [Finset.union_comm]
        simp [hm]
    | register | contains | length | loads | files =>
      simpa [World.step, Answer.library?, Registry.register] using ih

/-! ### The registry and its history -/

/-- What a registry answers to a request for `key` after `h`, and what it tells of itself then. -/
structure FollowsHistory (init : σ) (h : List (Event σ)) (key : LibraryKey) : Prop where
  missing_iff : answerTo init h key = .error (.cause (.missingLibrary key)) ↔
    key ∉ registeredKeys h
  registered_iff : key ∈ registeredKeys h ↔
    ∃ source before since, LastRegistration h key source before since
  /-- A library that was handed out since the last registration is handed out again. -/
  served : ∀ source before since, LastRegistration h key source before since →
    ∀ x, Served init (before ++ [.register key source]) key since x → answerTo init h key = .ok x
  /-- If there is none, the source is read as it is now. -/
  unserved : ∀ source before since, LastRegistration h key source before since →
    (¬ ∃ x, Served init (before ++ [.register key source]) key since x) →
      ReadsNow (world init h).files key source (answerTo init h key)
  /-- A request that fails can be left out of the history. -/
  failed : ∀ e, answerTo init h key = .error e → ∀ later,
    World.answers ⟨init, {}⟩ (h ++ .resolve key :: later) =
        World.answers ⟨init, {}⟩ h ++ .library (.error e) :: (world init h).answers later ∧
      World.answers ⟨init, {}⟩ (h ++ later) =
        World.answers ⟨init, {}⟩ h ++ (world init h).answers later
  contains_iff : (world init h).registry.contains key = true ↔ key ∈ registeredKeys h
  length_eq : (world init h).registry.length = (registeredKeys h).toFinset.card
  /-- Each library that was ever handed out has been loaded once. -/
  loads_eq : (world init h).registry.loads = (handedOut init h).toFinset.card

/-- After any history of calls and of the files, whatever files they are, the history alone decides
what a registry answers: the last registration of a key, what was handed out since, and if that is
nothing, what the source holds now. -/
theorem registry_refines_history (init : σ) (h : List (Event σ)) (key : LibraryKey) :
    FollowsHistory init h key where
  missing_iff := answerTo_eq_missing_iff
  registered_iff := by
    refine ⟨exists_lastRegistration, fun h' => ?_⟩
    obtain ⟨source, before, since, hr⟩ := h'
    rw [hr.split, registeredKeys, List.filterMap_append, List.filterMap_cons]
    exact List.mem_append_right _ List.mem_cons_self
  served := fun _ _ _ hr _ => hr.answerTo_of_served
  unserved := fun _ _ _ hr => hr.answerTo_of_not_served
  failed := by
    intro e he later
    constructor
    · rw [World.answers_append, World.answers]
      have hstep := World.step_of_error (w := world init h) he
      rw [← world, hstep]
    · rw [World.answers_append]
      rfl
  contains_iff := contains_world_iff
  length_eq := length_world init h
  loads_eq := loads_world init h

-- A file that comes to be after a failed request is read once, and need not stay.
example :
    World.answers ⟨({} : FileTree), {}⟩ [.register (.dispatch .linux) (.file ⟨[97]⟩),
      .resolve (.dispatch .linux), .files ⟨[([[97]], .file [1])]⟩, .resolve (.dispatch .linux),
      .files {}, .resolve (.dispatch .linux), .loads] =
    [.done, .library (.error (.cause (.libraryIo "dispatch-linux" ⟨[97]⟩ (.system .noEntry)))),
      .done, .library (.ok ⟨0, ⟨.dispatch .linux, [1]⟩⟩), .done,
      .library (.ok ⟨0, ⟨.dispatch .linux, [1]⟩⟩), .number 1] := by
  rfl

end BuiltinLink.History
