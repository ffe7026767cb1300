import BuiltinLink.Files.Tree
import BuiltinLink.Proofs.Library.Flight
import Mathlib.Data.Set.Card

/-!
However the steps of threads come between each other, a slot is loaded once at most, and all threads
that fetched it share the library. The proofs rest on one fact about runs: the libraries that have
been loaded are those that slots hold, be these slots current or not. So a load finds its slot
empty, and what has been loaded stays.
-/

namespace BuiltinLink.Flight

open Text

variable {σ : Type} [FileSystem σ]

/-- In the run `h` the event `e` comes directly after `p`. -/
def Happens (h p : List (Event σ)) (e : Event σ) : Prop :=
  p ++ [e] <+: h

/-- After `h`, thread `t` has the answer for the slot `i` that it fetched. -/
def Answered (init : σ) (h : List (Event σ)) (t : Nat) (key : LibraryKey) (i : Nat)
    (answer : Except LinkError Resolved) : Prop :=
  (state init h).threads[t]? = some (.answered key i answer)

/-- After `p`, the second step of thread `t` is a load for the slot that it fetched: it is counted,
and the thread has the library. -/
structure Loads (init : σ) (p : List (Event σ)) (t : Nat) (x : Resolved) : Prop where
  waits : ∃ key, Waits init p t key x.slot
  answered : ∃ key, Answered init (p ++ [.fill t]) t key x.slot (.ok x)
  counted : (state init (p ++ [.fill t])).registry.loads = (state init p).registry.loads + 1

/-- Some thread loads a library for a slot in the course of a run. -/
def LoadedIn (init : σ) (h : List (Event σ)) (x : Resolved) : Prop :=
  ∃ p t, Happens h p (.fill t) ∧ Loads init p t x

/-- The slots for which a library has been loaded. -/
def filledSlots (init : σ) (h : List (Event σ)) : Set Nat :=
  {i | ∃ x, LoadedIn init h x ∧ x.slot = i}

/-- In a run a library is loaded for a key, and its image is what the source holds at that time. -/
structure LoadedFrom (init : σ) (h : List (Event σ)) (x : Resolved) (key : LibraryKey)
    (source : Source) : Prop where
  key_eq : x.library.key = key
  read : ∃ p t, Happens h p (.fill t) ∧ Loads init p t x ∧
    source.read (state init p).files = .ok x.library.image

/-! ### Loads -/

section Loads

variable {init : σ} {h p : List (Event σ)} {e : Event σ} {t : Nat} {key : LibraryKey} {i : Nat}
  {x : Resolved}

omit [FileSystem σ] in
theorem happens_concat_iff {e' : Event σ} :
    Happens (h ++ [e']) p e ↔ Happens h p e ∨ p = h ∧ e = e' := by
  have hlast : p ++ [e] = h ++ [e'] ↔ p = h ∧ e = e' := by
    refine ⟨fun heq => ?_, fun heq => by rw [heq.1, heq.2]⟩
    obtain ⟨hp, he⟩ := List.append_inj' heq rfl
    exact ⟨hp, (List.cons.inj he).1⟩
  rw [Happens, List.prefix_concat_iff, hlast, or_comm, Happens]

/-- The second step of a thread that waits, in a run. -/
theorem Waits.filling (hw : Waits init p t key i) :
    ∃ out, Registry.Filling (state init p).files (state init p).registry i out ∧
      (state init (p ++ [.fill t])).registry = out.1 ∧
      Answered init (p ++ [.fill t]) t key i out.2 := by
  obtain ⟨out, hout, hregistry, hthreads⟩ := State.fill_of_waiting hw
  refine ⟨out, hout, ?_, ?_⟩
  · rw [state_concat]
    exact hregistry
  · unfold Answered
    rw [state_concat]
    refine (congrArg (·[t]?) hthreads).trans ?_
    exact List.getElem?_set_self (List.getElem?_eq_some_iff.1 hw).1

theorem Answered.unique {key' : LibraryKey} {i' : Nat} {answer answer' : Except LinkError Resolved}
    (ha : Answered init p t key i answer) (ha' : Answered init p t key' i' answer') :
    answer = answer' := by
  cases ha.symm.trans ha'
  rfl

/-- A load finds its slot empty, reads what was registered with it, and leaves the library there. -/
theorem Loads.outcome (hl : Loads init p t x) : ∃ s image,
    (state init p).registry.slots[x.slot]? = some s ∧ s.loaded = none ∧
    s.source.read (state init p).files = .ok image ∧ x.library = ⟨s.key, image⟩ ∧
    (state init (p ++ [.fill t])).registry = (state init p).registry.store x.slot x.library := by
  obtain ⟨key, hw⟩ := hl.waits
  obtain ⟨key', ha⟩ := hl.answered
  obtain ⟨out, hout, hregistry, hanswer⟩ := hw.filling
  have hcounted := hl.counted
  have hx := ha.unique hanswer
  rw [hregistry] at hcounted
  generalize hi : x.slot = i at hout
  cases hout with
  | kept => exact absurd hcounted (Nat.ne_add_one _)
  | unreadable => exact absurd hcounted (Nat.ne_add_one _)
  | @loaded s image hs hempty hread =>
    cases hx
    exact ⟨s, image, hs, hempty, hread, rfl, hregistry⟩

theorem loads_of_read {s : Slot} {image : Bytes} (hw : Waits init p t key i)
    (hs : (state init p).registry.slots[i]? = some s) (hempty : s.loaded = none)
    (hread : s.source.read (state init p).files = .ok image) :
    Loads init p t ⟨i, ⟨s.key, image⟩⟩ := by
  obtain ⟨out, hout, hregistry, hanswer⟩ := hw.filling
  cases hout with
  | kept hs' hl =>
    cases hs.symm.trans hs'
    cases hempty.symm.trans hl
  | unreadable hs' _ hr =>
    cases hs.symm.trans hs'
    cases hread.symm.trans hr
  | loaded hs' _ hr =>
    cases hs.symm.trans hs'
    cases hread.symm.trans hr
    exact ⟨⟨key, hw⟩, ⟨key, hanswer⟩, congrArg Registry.loads hregistry⟩

/-- One step loads one library at most. -/
theorem Loads.fill_iff {y : Resolved} (hl : Loads init p t y) :
    (∃ u, (.fill t : Event σ) = .fill u ∧ Loads init p u x) ↔ x = y := by
  constructor
  · intro h
    rcases h with ⟨u, heq, hu⟩
    cases heq
    obtain ⟨_, ha⟩ := hl.answered
    obtain ⟨_, ha'⟩ := hu.answered
    exact Except.ok.inj (ha'.unique ha)
  · intro heq
    exact ⟨t, rfl, heq ▸ hl⟩

theorem loadedIn_concat_iff :
    LoadedIn init (h ++ [e]) x ↔ LoadedIn init h x ∨ ∃ t, e = .fill t ∧ Loads init h t x := by
  constructor
  · intro h'
    rcases h' with ⟨p, t, hp, hl⟩
    rcases happens_concat_iff.1 hp with hp | ⟨rfl, rfl⟩
    · exact .inl ⟨p, t, hp, hl⟩
    · exact .inr ⟨t, rfl, hl⟩
  · intro h'
    rcases h' with ⟨p, t, hp, hl⟩ | ⟨t, rfl, hl⟩
    · exact ⟨p, t, happens_concat_iff.2 (.inl hp), hl⟩
    · exact ⟨h, t, happens_concat_iff.2 (.inr ⟨rfl, rfl⟩), hl⟩

/-- The libraries that have been loaded are those that slots hold. -/
theorem loadedIn_iff : LoadedIn init h x ↔
    ∃ s, (state init h).registry.slots[x.slot]? = some s ∧ s.loaded = some x.library := by
  induction h using List.reverseRecOn with
  | nil =>
    constructor
    · intro h'
      rcases h' with ⟨p, t, hp, -⟩
      exact absurd (List.prefix_nil.1 hp) (List.concat_ne_nil _ _)
    · intro h'
      rcases h' with ⟨s, hs, -⟩
      cases hs
  | append_singleton h e ih =>
    have he := (state init h).effect_step e
    rw [← state_concat] at he
    rw [loadedIn_concat_iff, ih]
    generalize hr : (state init (h ++ [e])).registry = r at he ⊢
    cases he with
    | none =>
      refine or_iff_left ?_
      rintro ⟨t, rfl, hl⟩
      have hcounted := hl.counted
      rw [hr] at hcounted
      exact absurd hcounted (Nat.ne_add_one _)
    | registered key source =>
      refine Iff.trans (or_iff_left ?_) Registry.loaded_register_iff.symm
      rintro ⟨t, ht, -⟩
      cases ht
    | @loaded t key i s image hw hs hempty hread =>
      rw [Registry.loaded_store_iff hs hempty, (loads_of_read hw hs hempty hread).fill_iff]

/-- What is loaded for a slot is what its registration names, as it is at that time. -/
theorem Loads.registered (hl : Loads init p t x) : ∃ source,
    (registrations p)[x.slot]? = some (x.library.key, source) ∧
      source.read (state init p).files = .ok x.library.image := by
  obtain ⟨s, image, hs, -, hread, hlib, -⟩ := hl.outcome
  refine ⟨s.source, ?_, ?_⟩
  · rw [registrations_getElem?, hs, hlib]
    rfl
  · rw [hread, hlib]

/-- What has been loaded stays, whatever comes after it. -/
theorem LoadedIn.of_prefix (hx : LoadedIn init p x) (hp : p <+: h) : LoadedIn init h x := by
  obtain ⟨q, u, hq, hl⟩ := hx
  exact ⟨q, u, hq.trans hp, hl⟩

/-- A slot holds one library. -/
theorem LoadedIn.unique {y : Resolved} (hx : LoadedIn init h x) (hy : LoadedIn init h y)
    (heq : x.slot = y.slot) : x = y := by
  obtain ⟨s, hs, hl⟩ := loadedIn_iff.1 hx
  obtain ⟨s', hs', hl'⟩ := loadedIn_iff.1 hy
  rw [heq, hs', Option.some.injEq] at hs
  subst hs
  rw [hl, Option.some.injEq] at hl'
  cases x
  cases y
  cases heq
  cases hl'
  rfl

/-- Nothing has been loaded for a slot before its load. -/
theorem Loads.slot_ne {y : Resolved} (hl : Loads init p t x) (hy : LoadedIn init p y) :
    y.slot ≠ x.slot := by
  obtain ⟨s, image, hs, hempty, -⟩ := hl.outcome
  obtain ⟨s', hs', hl'⟩ := loadedIn_iff.1 hy
  intro heq
  rw [heq, hs, Option.some.injEq] at hs'
  rw [← hs', hempty] at hl'
  cases hl'

/-- Of two loads for one slot in a run, neither comes before the other. -/
theorem Loads.eq_of_prefix {p' : List (Event σ)} {t' : Nat} {x' : Resolved}
    (hp : Happens h p (.fill t)) (hp' : Happens h p' (.fill t')) (hl : Loads init p t x)
    (hl' : Loads init p' t' x') (hslot : x.slot = x'.slot) (hle : p <+: p') : p = p' := by
  by_contra hne
  have hlt : p.length < p'.length := by
    refine Nat.lt_of_le_of_ne hle.length_le fun heq => hne (hle.eq_of_length heq)
  have hhappens : Happens p' p (.fill t) := by
    refine List.prefix_of_prefix_length_le hp ((List.prefix_append p' _).trans hp') ?_
    rw [List.length_append, List.length_singleton]
    exact hlt
  exact hl'.slot_ne ⟨p, t, hhappens, hl⟩ hslot

theorem Loads.unique {p' : List (Event σ)} {t' : Nat} {x' : Resolved}
    (hp : Happens h p (.fill t)) (hp' : Happens h p' (.fill t')) (hl : Loads init p t x)
    (hl' : Loads init p' t' x') (hslot : x.slot = x'.slot) : p = p' ∧ t = t' ∧ x = x' := by
  have hpp : p = p' := by
    have hle := (List.prefix_append p _).trans hp
    have hle' := (List.prefix_append p' _).trans hp'
    rcases List.prefix_or_prefix_of_prefix hle hle' with hle | hle
    · exact hl.eq_of_prefix hp hp' hl' hslot hle
    · exact (hl'.eq_of_prefix hp' hp hl hslot.symm hle).symm
  subst hpp
  have htt : (.fill t : Event σ) = .fill t' := by
    obtain ⟨r, hr⟩ := hp
    obtain ⟨r', hr'⟩ := hp'
    rw [← hr', List.append_assoc, List.append_assoc, List.append_cancel_left_eq] at hr
    exact (List.cons.inj hr).1
  cases htt
  have hx : LoadedIn init (p ++ [.fill t]) x := ⟨p, t, List.prefix_rfl, hl⟩
  exact ⟨rfl, rfl, hx.unique ⟨p, t, List.prefix_rfl, hl'⟩ hslot⟩

theorem filledSlots_of_same
    (hsame : (state init (h ++ [e])).registry.loads = (state init h).registry.loads) :
    filledSlots init (h ++ [e]) = filledSlots init h := by
  ext i
  refine exists_congr fun x => and_congr_left fun _ => loadedIn_concat_iff.trans (or_iff_left ?_)
  rintro ⟨t, rfl, hl⟩
  exact absurd (hsame.symm.trans hl.counted) (Nat.ne_add_one _)

theorem filledSlots_of_loads (hl : Loads init h t x) :
    filledSlots init (h ++ [.fill t]) = insert x.slot (filledSlots init h) := by
  have hx : LoadedIn init (h ++ [.fill t]) x := loadedIn_concat_iff.2 (.inr ⟨t, rfl, hl⟩)
  ext i
  constructor
  · rintro ⟨y, hy, rfl⟩
    rcases loadedIn_concat_iff.1 hy with hold | ⟨u, heq, hu⟩
    · exact .inr ⟨y, hold, rfl⟩
    · cases heq
      obtain ⟨_, ha⟩ := hl.answered
      obtain ⟨_, ha'⟩ := hu.answered
      exact .inl (congrArg Resolved.slot (Except.ok.inj (ha'.unique ha)))
  · rintro (rfl | ⟨y, hy, rfl⟩)
    · exact ⟨x, hx, rfl⟩
    · exact ⟨y, hy.of_prefix (List.prefix_append h _), rfl⟩

/-- The count of loads is the number of slots ever filled, replaced ones included. -/
theorem loads_state (init : σ) (h : List (Event σ)) :
    (filledSlots init h).Finite ∧ (state init h).registry.loads = (filledSlots init h).ncard := by
  induction h using List.reverseRecOn with
  | nil =>
    have hempty : filledSlots init [] = ∅ := by
      refine Set.eq_empty_iff_forall_notMem.2 fun i hi => ?_
      obtain ⟨x, hx, -⟩ := hi
      obtain ⟨s, hs, -⟩ := loadedIn_iff.1 hx
      cases hs
    rw [hempty, Set.ncard_empty]
    exact ⟨Set.finite_empty, rfl⟩
  | append_singleton h e ih =>
    have hkeep (hsame : (state init (h ++ [e])).registry.loads = (state init h).registry.loads) :
        (filledSlots init (h ++ [e])).Finite ∧
          (state init (h ++ [e])).registry.loads = (filledSlots init (h ++ [e])).ncard := by
      rw [filledSlots_of_same hsame, hsame]
      exact ih
    have he := (state init h).effect_step e
    rw [← state_concat] at he
    generalize hr : (state init (h ++ [e])).registry = r at he hkeep ⊢
    cases he with
    | none => exact hkeep rfl
    | registered => exact hkeep rfl
    | loaded hw hs hempty hread =>
      have hl := loads_of_read hw hs hempty hread
      have hnew : _ ∉ filledSlots init h := fun ⟨y, hy, heq⟩ => hl.slot_ne hy heq
      rw [filledSlots_of_loads hl, Set.ncard_insert_of_notMem hnew ih.1, ← ih.2]
      exact ⟨ih.1.insert _, rfl⟩

/-! ### Answers -/

/-- An answer comes from the second step of its thread. -/
theorem Answered.exists_step {answer : Except LinkError Resolved}
    (ha : Answered init h t key i answer) : ∃ p, Happens h p (.fill t) ∧ Waits init p t key i ∧
      Answered init (p ++ [.fill t]) t key i answer := by
  induction h using List.reverseRecOn with
  | nil => simp [Answered, state] at ha
  | append_singleton h e ih =>
    have hstep := ha
    unfold Answered at hstep
    rw [state_concat] at hstep
    rcases State.thread_of_step hstep with hold | ⟨key', i', _, hth, rfl, hw⟩ | ⟨key', -, -, hth⟩
    · obtain ⟨p, hp, hw, ha'⟩ := ih hold
      exact ⟨p, happens_concat_iff.2 (.inl hp), hw, ha'⟩
    · cases hth
      exact ⟨h, happens_concat_iff.2 (.inr ⟨rfl, rfl⟩), hw, ha⟩
    · unfold Thread.first at hth
      split at hth <;> cases hth

/-- An answer that is a library is the one that was loaded for the slot. -/
theorem Answered.loadedIn (ha : Answered init h t key i (.ok x)) :
    x.slot = i ∧ LoadedIn init h x := by
  obtain ⟨p, hp, hw, ha'⟩ := ha.exists_step
  obtain ⟨out, hout, -, hanswer⟩ := hw.filling
  have hx := ha'.unique hanswer
  cases hout with
  | kept hs hl =>
    cases hx
    have hloaded : LoadedIn init p ⟨i, _⟩ := loadedIn_iff.2 ⟨_, hs, hl⟩
    exact ⟨rfl, hloaded.of_prefix ((List.prefix_append p _).trans hp)⟩
  | loaded hs hempty hread =>
    cases hx
    exact ⟨rfl, p, t, hp, loads_of_read hw hs hempty hread⟩
  | unreadable => cases hx

/-- A thread that waits gets the library that has been loaded for its slot. -/
theorem Waits.answered_of_loadedIn (hw : Waits init p t key i) (hx : LoadedIn init p x)
    (hi : x.slot = i) : Answered init (p ++ [.fill t]) t key i (.ok x) := by
  obtain ⟨out, hout, -, hanswer⟩ := hw.filling
  obtain ⟨s, hs, hl⟩ := loadedIn_iff.1 hx
  subst hi
  cases hout with
  | kept hs' hl' =>
    cases hs.symm.trans hs'
    cases hl.symm.trans hl'
    exact hanswer
  | loaded hs' hempty =>
    cases hs.symm.trans hs'
    cases hl.symm.trans hempty
  | unreadable hs' hempty =>
    cases hs.symm.trans hs'
    cases hl.symm.trans hempty

/-- A thread that waits for a slot without a library loads what the source of the slot holds. -/
theorem Waits.loads (hw : Waits init p t key i) (hnone : ∀ x, LoadedIn init p x → x.slot ≠ i)
    {source : Source} {image : Bytes} (hreg : (registrations p)[i]? = some (key, source))
    (hread : source.read (state init p).files = .ok image) : Loads init p t ⟨i, ⟨key, image⟩⟩ := by
  rw [registrations_getElem? init, Option.map_eq_some_iff] at hreg
  obtain ⟨s, hs, heq⟩ := hreg
  cases heq
  have hempty : s.loaded = none := by
    cases hl : s.loaded with
    | none => rfl
    | some l => exact absurd rfl (hnone ⟨i, l⟩ (loadedIn_iff.2 ⟨s, hs, hl⟩))
  exact loads_of_read hw hs hempty hread

/-- A failure is that of the thread's own attempt to read what was registered with its slot. It is
made while the slot has no library, and leaves the registry as it is. -/
theorem Answered.own_failure {e : LinkError} (ha : Answered init h t key i (.error e)) :
    ∃ p path f, Happens h p (.fill t) ∧ Waits init p t key i ∧
      (∀ x, LoadedIn init p x → x.slot ≠ i) ∧ (registrations p)[i]? = some (key, .file path) ∧
      FileSystem.read (state init p).files path = .error f ∧
      e = .cause (.libraryIo key.libraryName path f) ∧
      (state init (p ++ [.fill t])).registry = (state init p).registry := by
  obtain ⟨p, hp, hw, ha'⟩ := ha.exists_step
  obtain ⟨out, hout, hregistry, hanswer⟩ := hw.filling
  have he := ha'.unique hanswer
  cases hout with
  | kept => cases he
  | loaded => cases he
  | @unreadable s path f hs hempty hread =>
    cases he
    obtain ⟨source, hreg⟩ := hw.registered
    rw [registrations_getElem?, hs, Option.map_some] at hreg
    cases hreg
    have hnone (x : Resolved) (hx : LoadedIn init p x) : x.slot ≠ i := by
      rintro rfl
      obtain ⟨s', hs', hl⟩ := loadedIn_iff.1 hx
      cases hs.symm.trans hs'
      cases hempty.symm.trans hl
    have hfile := Source.read_eq_error_iff.1 hread
    refine ⟨p, path, f, hp, hw, hnone, ?_, hfile.2, rfl, hregistry⟩
    rw [registrations_getElem?, hs, ← hfile.1]
    rfl

/-- A thread is as its first step left it, or it waited then and has its answer now. -/
theorem thread_of_prefix {th : Thread} (hp : p <+: h) (ht : (state init p).threads[t]? = some th) :
    (state init h).threads[t]? = some th ∨
      ∃ key i answer, th = .waiting key i ∧ Answered init h t key i answer := by
  obtain ⟨q, rfl⟩ := hp
  induction q using List.reverseRecOn with
  | nil =>
    rw [List.append_nil]
    exact .inl ht
  | append_singleton q e ih =>
    rw [← List.append_assoc]
    rcases ih with hold | ⟨key, i, answer, hth, ha⟩
    · rcases (state init (p ++ q)).thread_step e hold with hsame | ⟨key, i, answer, hth, -, hnew⟩
      · rw [← state_concat] at hsame
        exact .inl hsame
      · rw [← state_concat] at hnew
        exact .inr ⟨key, i, answer, hth, hnew⟩
    · right
      rcases (state init (p ++ q)).thread_step e ha with hsame | ⟨_, _, _, hwaiting, -⟩
      · rw [← state_concat] at hsame
        exact ⟨key, i, answer, hth, hsame⟩
      · cases hwaiting

/-- What becomes of a thread is settled by the registration in force at its first step. -/
theorem thread_of_fetch (hp : Happens h p (.fetch key)) :
    ((∀ source, (key, source) ∉ registrations p) ∧
      (state init h).threads[(state init p).threads.length]? = some (.missing key)) ∨
    ∃ i source, InForce p key i source ∧ (Waits init h (state init p).threads.length key i ∨
      ∃ answer, Answered init h (state init p).threads.length key i answer ∧
        ∀ x, answer = .ok x → x.slot = i ∧ LoadedFrom init h x key source) := by
  have hfirst : (state init (p ++ [.fetch key])).threads[(state init p).threads.length]? =
      some (.first (state init p).registry key) := by
    rw [state_concat, State.step, State.threads_fetch, List.getElem?_concat_length]
  have hthread := thread_of_prefix hp hfirst
  unfold Thread.first at hthread
  cases hf : (state init p).registry.fetch? key with
  | none =>
    simp only [hf] at hthread
    rcases hthread with hthread | ⟨_, _, _, hth, -⟩
    · exact .inl ⟨not_mem_of_fetch? hf, hthread⟩
    · cases hth
  | some i =>
    simp only [hf] at hthread
    obtain ⟨source, hforce⟩ := inForce_of_fetch? hf
    refine .inr ⟨i, source, hforce, ?_⟩
    rcases hthread with hthread | ⟨_, _, answer, hth, ha⟩
    · exact .inl hthread
    · cases hth
      refine .inr ⟨answer, ha, fun x hx => ?_⟩
      subst hx
      obtain ⟨hslot, q, u, hq, hl⟩ := ha.loadedIn
      -- The slot was opened before either of the two steps, so both see the same registration.
      obtain ⟨source', hreg, hread⟩ := hl.registered
      have hleft := registrations_of_prefix ((List.prefix_append p _).trans hp) hforce.registered
      have hright := registrations_of_prefix ((List.prefix_append q _).trans hq) hreg
      rw [hslot, hleft] at hright
      cases hright
      exact ⟨hslot, rfl, q, u, hq, hl, hread⟩

end Loads

/-- The two steps of a thread with nothing between them are a request. -/
theorem fetch_fill_eq_resolve (s : State σ) (key : LibraryKey) :
    let s' := (s.step (.fetch key)).step (.fill s.threads.length)
    (s'.registry, s'.threads[s.threads.length]?.bind Thread.answer?) =
      ((s.registry.resolve s.files key).1, some (s.registry.resolve s.files key).2) := by
  have hlast : (s.fetch key).threads[s.threads.length]? = some (.first s.registry key) := by
    rw [s.threads_fetch, List.getElem?_concat_length]
  have hfiles : (s.fetch key).files = s.files := by
    unfold State.fetch
    split <;> rfl
  unfold Thread.first at hlast
  unfold Registry.resolve
  split
  · rename_i i hf
    simp only [hf] at hlast
    obtain ⟨hi, hregistry, hthreads⟩ := State.fill_eq hlast
    simp only [hfiles, State.registry_fetch] at hregistry hthreads
    simp only [State.step, hregistry, hthreads]
    rw [List.getElem?_set_self (List.getElem?_eq_some_iff.1 hlast).1]
    rfl
  · rename_i hf
    simp only [hf] at hlast
    have hnone (key' : LibraryKey) (i : Nat) :
        (s.fetch key).threads[s.threads.length]? ≠ some (.waiting key' i) := by
      rw [hlast]
      exact fun h => by cases h
    simp only [State.step, State.fill_of_not_waiting hnone, State.registry_fetch, hlast]
    rfl

/-- What holds of the threads and the registry after the run `h`. -/
structure InSingleFlight (init : σ) (h : List (Event σ)) : Prop where
  /-- A slot has been loaded once at most. -/
  loaded_once : ∀ p p' t t' x x', Happens h p (.fill t) → Happens h p' (.fill t') →
    Loads init p t x → Loads init p' t' x' → x.slot = x'.slot → p = p' ∧ t = t' ∧ x = x'
  /-- A thread that got a library got the one that was loaded for the slot it fetched. -/
  shared : ∀ t key i x, Answered init h t key i (.ok x) → x.slot = i ∧ LoadedIn init h x
  /-- The count of loads is the number of slots ever filled, be they replaced since or not. -/
  counted : (filledSlots init h).Finite ∧
    (state init h).registry.loads = (filledSlots init h).ncard
  /-- A thread whose key was registered before its first step fetches the slot of the last of these
  registrations, and gets no library but one of that registration. -/
  fetched : ∀ p key, Happens h p (.fetch key) →
    ((∀ source, (key, source) ∉ registrations p) ∧
      (state init h).threads[(state init p).threads.length]? = some (.missing key)) ∨
    ∃ i source, InForce p key i source ∧ (Waits init h (state init p).threads.length key i ∨
      ∃ answer, Answered init h (state init p).threads.length key i answer ∧
        ∀ x, answer = .ok x → x.slot = i ∧ LoadedFrom init h x key source)
  /-- A thread fails only because its own attempt to read failed, which changes nothing. -/
  failed : ∀ t key i e, Answered init h t key i (.error e) →
    ∃ p path f, Happens h p (.fill t) ∧ Waits init p t key i ∧
      (∀ x, LoadedIn init p x → x.slot ≠ i) ∧ (registrations p)[i]? = some (key, .file path) ∧
      FileSystem.read (state init p).files path = .error f ∧
      e = .cause (.libraryIo key.libraryName path f) ∧
      (state init (p ++ [.fill t])).registry = (state init p).registry
  /-- A thread that waits gets the library of its slot if there is one. -/
  taken : ∀ t key i, Waits init h t key i → ∀ x, LoadedIn init h x → x.slot = i →
    Answered init (h ++ [.fill t]) t key i (.ok x)
  /-- If there is none, it loads what the source of the slot holds. -/
  loaded : ∀ t key i, Waits init h t key i → (∀ x, LoadedIn init h x → x.slot ≠ i) →
    ∀ source image, (registrations h)[i]? = some (key, source) →
      source.read (state init h).files = .ok image → Loads init h t ⟨i, ⟨key, image⟩⟩

/-- However the steps of threads, registrations and changes of the files come between each other,
whatever files they are, each slot is loaded in single flight. -/
theorem single_flight (init : σ) (h : List (Event σ)) : InSingleFlight init h where
  loaded_once := fun _ _ _ _ _ _ hp hp' hl hl' hslot => hl.unique hp hp' hl' hslot
  shared := fun _ _ _ _ ha => ha.loadedIn
  counted := loads_state init h
  fetched := fun _ _ hp => thread_of_fetch hp
  failed := fun _ _ _ _ ha => ha.own_failure
  taken := fun _ _ _ hw _ => hw.answered_of_loadedIn
  loaded := fun _ _ _ hw hnone _ _ => hw.loads hnone

-- The key is registered anew between the steps of the first thread. It loads the library that it
-- fetched, and the second thread loads the new one.
example :
    let s := state ({} : FileTree) [.register (.dispatch .linux) (.memory [1]),
      .fetch (.dispatch .linux), .register (.dispatch .linux) (.memory [2]),
      .fetch (.dispatch .linux), .fill 1, .fill 0]
    s.registry.loads = 2 ∧ s.threads =
      [.answered (.dispatch .linux) 0 (.ok ⟨0, ⟨.dispatch .linux, [1]⟩⟩),
        .answered (.dispatch .linux) 1 (.ok ⟨1, ⟨.dispatch .linux, [2]⟩⟩)] := by
  exact ⟨rfl, rfl⟩

end BuiltinLink.Flight
