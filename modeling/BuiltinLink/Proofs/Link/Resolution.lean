import BuiltinLink.Link.Pipeline
import BuiltinLink.Proofs.Library.Slots
import Mathlib.Data.List.Forall2

/-!
Resolving the libraries of a run. The roles of a run have different keys, so requests for them do
not disturb each other: the first role whose key cannot be resolved ends the run with the answer
that the registry gives for that key alone. The libraries of the roles before it stay loaded, and a
later run takes them as they are, whatever has become of their files.
-/

namespace BuiltinLink

variable {σ : Type} [FileSystem σ]

/-- The library of a key can be had. -/
def Registry.Available (r : Registry) (files : σ) (key : LibraryKey) : Prop :=
  ∃ x, (r.resolve files key).2 = .ok x

/-- `x` is the library in the current slot of a key. -/
def Registry.Keeps (r : Registry) (key : LibraryKey) (x : Resolved) : Prop :=
  ∃ s, r.current? key = some (x.slot, s) ∧ s.loaded = some x.library

/-- For the current slot of a key it makes no difference which of two states the files are in. -/
def Registry.SameSource (r : Registry) (files files' : σ) (key : LibraryKey) : Prop :=
  ∀ i s, r.current? key = some (i, s) → s.source.read files = s.source.read files'

namespace Registry

variable {files : σ} {r r' : Registry} {t : Target}

theorem ofTarget_role (role : Role) (t : Target) : (LibraryKey.ofTarget role t).role = role := by
  cases role <;> rfl

theorem ofTarget_inj {a b : Role} : LibraryKey.ofTarget a t = .ofTarget b t ↔ a = b := by
  constructor
  · intro h
    rw [← ofTarget_role a t, h, ofTarget_role]
  · intro heq
    subst heq
    rfl

/-! ### What an answer depends on -/

theorem resolve_snd_congr {key : LibraryKey} (h : r.current? key = r'.current? key) :
    (r.resolve files key).2 = (r'.resolve files key).2 := by
  rw [resolve_eq, resolve_eq, h]
  rcases r'.current? key with _ | ⟨i, s⟩
  · rfl
  · cases hl : s.loaded with
    | some l => simp [hl]
    | none =>
      simp only [hl]
      rcases s.source.read files with ⟨p, e⟩ | image <;> rfl

theorem resolve_files_congr {files' : σ} {key : LibraryKey}
    (h : r.loaded? key = none → r.SameSource files files' key) :
    r.resolve files key = r.resolve files' key := by
  rw [resolve_eq, resolve_eq]
  cases hc : r.current? key with
  | none => rfl
  | some c =>
    obtain ⟨i, s⟩ := c
    cases hl : s.loaded with
    | some l => simp [hl]
    | none =>
      have hs := h (by rw [loaded?, hc, Option.bind_some, hl]) i s hc
      simp only [hl, hs]

/-- The library that an answer holds, or the failure, depends on the current slot of the key up to
its number. -/
theorem library_resolve_congr {files' : σ} {key : LibraryKey}
    (h : (r'.current? key).map Prod.snd = (r.current? key).map Prod.snd)
    (hs : r.SameSource files files' key) :
    (r'.resolve files' key).2.map Resolved.library =
      (r.resolve files key).2.map Resolved.library := by
  rw [resolve_eq, resolve_eq]
  cases hc : r.current? key with
  | none =>
    rw [hc, Option.map_none, Option.map_eq_none_iff] at h
    rw [h]
  | some c =>
    obtain ⟨i, s⟩ := c
    rw [hc, Option.map_some, Option.map_eq_some_iff] at h
    obtain ⟨⟨j, s'⟩, hc', rfl⟩ := h
    rw [hc']
    cases hl : s'.loaded with
    | some l => simp [hl, Except.map]
    | none =>
      simp only [hl, hs i s' hc]
      rcases s'.source.read files' with ⟨p, e⟩ | image <;> rfl

/-! ### Several roles -/

theorem resolveFor_eq (files : σ) (stage : Stage) (key : LibraryKey) (r : Registry) :
    r.resolveFor files stage key =
      ((r.resolve files key).1, (r.resolve files key).2.mapError (·.inStage stage)) := by
  rw [resolveFor]
  rcases r.resolve files key with ⟨r', e | x⟩ <;> rfl

theorem resolveRoles_cons_of_ok {role : Role} {roles : List Role} {x : Resolved}
    (h : (r.resolve files (.ofTarget role t)).2 = .ok x) :
    r.resolveRoles files t (role :: roles) =
      (((r.resolve files (.ofTarget role t)).1.resolveRoles files t roles).1,
        ((r.resolve files (.ofTarget role t)).1.resolveRoles files t roles).2.map (x :: ·)) := by
  rw [resolveRoles, resolveFor_eq, h]
  simp only [Except.mapError]
  rcases ((r.resolve files (.ofTarget role t)).1.resolveRoles files t roles) with ⟨r', e | ls⟩ <;>
    rfl

theorem resolveRoles_cons_of_error {role : Role} {roles : List Role} {e : LinkError}
    (h : (r.resolve files (.ofTarget role t)).2 = .error e) :
    r.resolveRoles files t (role :: roles) = (r, .error (.staged (Stage.ofRole role) e)) := by
  obtain ⟨c, rfl⟩ := exists_cause_of_error h
  rw [resolveRoles, resolveFor_eq, h, resolve_of_error h]
  rfl

/-- Resolving some roles leaves the current slots of all other keys as they are. -/
theorem current?_resolveRoles {roles : List Role} {key : LibraryKey}
    (h : key ∉ roles.map (LibraryKey.ofTarget · t)) :
    (r.resolveRoles files t roles).1.current? key = r.current? key := by
  induction roles generalizing r with
  | nil => rfl
  | cons role roles ih =>
    rw [List.map_cons, List.mem_cons, not_or] at h
    cases ha : (r.resolve files (.ofTarget role t)).2 with
    | ok x => rw [resolveRoles_cons_of_ok ha, ih h.2, current?_resolve_of_ne h.1]
    | error e => rw [resolveRoles_cons_of_error ha]

theorem current?_resolve_ofTarget {role role' : Role} (h : role' ≠ role) :
    (r.resolve files (.ofTarget role t)).1.current? (.ofTarget role' t) =
      r.current? (.ofTarget role' t) :=
  current?_resolve_of_ne fun hk => h (ofTarget_inj.1 hk)

/-- A request for one role does not change the answer for another. -/
theorem resolve_resolve_of_ne {role role' : Role} (h : role' ≠ role) (files' : σ) :
    ((r.resolve files (.ofTarget role t)).1.resolve files' (.ofTarget role' t)).2 =
      (r.resolve files' (.ofTarget role' t)).2 :=
  resolve_snd_congr (current?_resolve_ofTarget h)

/-- Roles whose libraries can all be had, before and after they are resolved. -/
structure AllResolved (files : σ) (t : Target) (roles : List Role) (r r' : Registry)
    (ls : List Resolved) : Prop where
  /-- Each library is the one that the registry gives for its key alone, and stays in its slot. -/
  each : List.Forall₂ (fun role x => (r.resolve files (.ofTarget role t)).2 = .ok x ∧
    r'.Keeps (.ofTarget role t) x) roles ls
  /-- Each library that was not kept before was loaded once. -/
  loads : r'.loads = r.loads + roles.countP fun role => (r.loaded? (.ofTarget role t)).isNone

theorem resolveRoles_of_available {roles : List Role} (hn : roles.Nodup)
    (h : ∀ role ∈ roles, r.Available files (.ofTarget role t)) :
    ∃ ls, (r.resolveRoles files t roles).2 = .ok ls ∧
      AllResolved files t roles r (r.resolveRoles files t roles).1 ls := by
  induction roles generalizing r with
  | nil => exact ⟨[], rfl, .nil, rfl⟩
  | cons role roles ih =>
    obtain ⟨hrole, hn⟩ := List.nodup_cons.1 hn
    obtain ⟨x, hx⟩ := h role List.mem_cons_self
    have hne {q : Role} (hq : q ∈ roles) : q ≠ role := by
      intro heq
      subst heq
      exact hrole hq
    obtain ⟨ls, hls, ha⟩ := @ih (r.resolve files (.ofTarget role t)).1 hn fun q hq => by
      obtain ⟨y, hy⟩ := h q (List.mem_cons_of_mem role hq)
      exact ⟨y, by rw [resolve_resolve_of_ne (hne hq), hy]⟩
    obtain ⟨s, -, hs⟩ := current?_resolve_of_ok hx
    rw [resolveRoles_cons_of_ok hx]
    have hkeeps : { s with loaded := some x.library : Slot }.loaded = some x.library := rfl
    refine ⟨x :: ls, by rw [hls]; rfl, .cons ⟨hx, _, ?_, hkeeps⟩ ?_, ?_⟩
    · rw [current?_resolveRoles, hs]
      intro hm
      obtain ⟨q, hq, hk⟩ := List.mem_map.1 hm
      exact hne hq (ofTarget_inj.1 hk)
    · have hboth := (List.forall₂_and_left (p := (· ≠ role)) roles ls).2 ⟨fun _ => hne, ha.each⟩
      refine hboth.imp fun q y hy => ⟨?_, hy.2.2⟩
      rw [← hy.2.1, resolve_resolve_of_ne hy.1]
    · have hc : roles.countP (fun q => ((r.resolve files (.ofTarget role t)).1.loaded?
          (.ofTarget q t)).isNone) = roles.countP fun q => (r.loaded? (.ofTarget q t)).isNone := by
        refine List.countP_congr fun q hq => ?_
        rw [loaded?, current?_resolve_ofTarget (hne hq), ← loaded?]
      rw [ha.loads, hc, loads_resolve, hx, List.countP_cons]
      simp only [Except.isOk, Except.toBool, true_and, Option.isNone_iff_eq_none]
      omega

theorem AllResolved.exists_of_mem {roles : List Role} {ls : List Resolved}
    (h : AllResolved files t roles r r' ls) {role : Role} (hr : role ∈ roles) :
    ∃ x, (r.resolve files (.ofTarget role t)).2 = .ok x ∧ r'.Keeps (.ofTarget role t) x := by
  obtain ⟨n, hn, rfl⟩ := List.getElem_of_mem hr
  exact ⟨_, h.each.get hn (h.each.length_eq ▸ hn)⟩

/-- The first role whose library cannot be had ends the resolution in its stage, with what the
registry answers for its key alone. -/
theorem resolveRoles_of_error {before after : List Role} {role : Role} {e : LinkError}
    (hn : (before ++ role :: after).Nodup)
    (h : ∀ q ∈ before, r.Available files (.ofTarget q t))
    (he : (r.resolve files (.ofTarget role t)).2 = .error e) :
    r.resolveRoles files t (before ++ role :: after) =
      ((r.resolveRoles files t before).1, .error (.staged (Stage.ofRole role) e)) := by
  induction before generalizing r with
  | nil => rw [List.nil_append, resolveRoles_cons_of_error he, resolveRoles]
  | cons q before ih =>
    rw [List.cons_append] at hn ⊢
    obtain ⟨hq, hn⟩ := List.nodup_cons.1 hn
    obtain ⟨x, hx⟩ := h q List.mem_cons_self
    have hne {p : Role} (hp : p ∈ before ++ role :: after) : p ≠ q := by
      intro heq
      subst heq
      exact hq hp
    have hih := @ih (r.resolve files (.ofTarget q t)).1 hn
      (fun p hp => by
        obtain ⟨y, hy⟩ := h p (List.mem_cons_of_mem q hp)
        exact ⟨y, by rw [resolve_resolve_of_ne (hne (List.mem_append_left _ hp)), hy]⟩)
      (by rw [resolve_resolve_of_ne (hne (List.mem_append_right _ List.mem_cons_self)), he])
    rw [resolveRoles_cons_of_ok hx, resolveRoles_cons_of_ok hx, hih]
    rfl

/-- Either all libraries can be had or there is a first that cannot. -/
theorem available_or_first_error (files : σ) (r : Registry) (t : Target)
    (roles : List Role) :
    (∀ role ∈ roles, r.Available files (.ofTarget role t)) ∨
      ∃ before role after e, roles = before ++ role :: after ∧
        (∀ q ∈ before, r.Available files (.ofTarget q t)) ∧
        (r.resolve files (.ofTarget role t)).2 = .error e := by
  induction roles with
  | nil => simp
  | cons role roles ih =>
    cases hx : (r.resolve files (.ofTarget role t)).2 with
    | error e => exact .inr ⟨[], role, roles, e, rfl, by simp, hx⟩
    | ok x =>
      rcases ih with h | ⟨before, q, after, e, rfl, h, he⟩
      · exact .inl (List.forall_mem_cons.2 ⟨⟨x, hx⟩, h⟩)
      · exact .inr ⟨role :: before, q, after, e, rfl, List.forall_mem_cons.2 ⟨⟨x, hx⟩, h⟩, he⟩

theorem resolveRoles_eq_ok_iff {roles : List Role} (hn : roles.Nodup) :
    (∃ ls, (r.resolveRoles files t roles).2 = .ok ls) ↔
      ∀ role ∈ roles, r.Available files (.ofTarget role t) := by
  constructor
  · intro h'
    rcases h' with ⟨ls, hls⟩
    rcases available_or_first_error files r t roles with h | ⟨before, role, after, e, rfl, h, he⟩
    · exact h
    · rw [resolveRoles_of_error hn h he] at hls
      simp at hls
  · intro h
    obtain ⟨ls, hls, -⟩ := resolveRoles_of_available hn h
    exact ⟨ls, hls⟩

/-! ### Libraries that are kept -/

theorem current?_resolveRoles_of_loaded {roles : List Role} {key : LibraryKey} {i : Nat} {s : Slot}
    {l : Library} (hc : r.current? key = some (i, s)) (hl : s.loaded = some l) :
    (r.resolveRoles files t roles).1.current? key = some (i, s) := by
  induction roles generalizing r with
  | nil => exact hc
  | cons role roles ih =>
    cases ha : (r.resolve files (.ofTarget role t)).2 with
    | error e => rw [resolveRoles_cons_of_error ha, hc]
    | ok x =>
      rw [resolveRoles_cons_of_ok ha]
      apply ih
      by_cases hk : key = .ofTarget role t
      · subst hk
        rw [resolve_of_loaded hc hl, hc]
      · rw [current?_resolve_of_ne hk, hc]

/-- Files matter only to the roles that have no library yet. -/
theorem resolveRoles_files_congr {files' : σ} {roles : List Role} (hn : roles.Nodup)
    (h : ∀ q ∈ roles, r.loaded? (.ofTarget q t) = none →
      r.SameSource files files' (.ofTarget q t)) :
    r.resolveRoles files t roles = r.resolveRoles files' t roles := by
  induction roles generalizing r with
  | nil => rfl
  | cons role roles ih =>
    obtain ⟨hrole, hn⟩ := List.nodup_cons.1 hn
    have hr := resolve_files_congr (h role List.mem_cons_self)
    cases ha : (r.resolve files (.ofTarget role t)).2 with
    | error e =>
      rw [resolveRoles_cons_of_error ha, resolveRoles_cons_of_error (by rw [← hr, ha])]
    | ok x =>
      rw [resolveRoles_cons_of_ok ha, resolveRoles_cons_of_ok (by rw [← hr, ha]), ← hr]
      rw [@ih (r.resolve files (.ofTarget role t)).1 hn]
      intro q hq
      have hne : q ≠ role := by
        intro heq
        subst heq
        exact hrole hq
      have hs := h q (List.mem_cons_of_mem role hq)
      rw [loaded?, SameSource] at hs ⊢
      rw [current?_resolve_ofTarget hne]
      exact hs

/-- Exactly the libraries that come to be kept are loaded. -/
theorem loads_resolveRoles {roles : List Role} (hn : roles.Nodup) :
    (r.resolveRoles files t roles).1.loads = r.loads + roles.countP fun q =>
      (r.loaded? (.ofTarget q t)).isNone &&
        ((r.resolveRoles files t roles).1.loaded? (.ofTarget q t)).isSome := by
  -- Among roles that can all be had, being kept afterwards is no condition.
  have hall {l : List Role} (hl : l.Nodup) (h : ∀ q ∈ l, r.Available files (.ofTarget q t)) :
      (r.resolveRoles files t l).1.loads = r.loads + l.countP fun q =>
        (r.loaded? (.ofTarget q t)).isNone &&
          ((r.resolveRoles files t l).1.loaded? (.ofTarget q t)).isSome := by
    obtain ⟨ls, -, ha⟩ := resolveRoles_of_available hl h
    rw [ha.loads]
    congr 1
    refine List.countP_congr fun q hq => ?_
    obtain ⟨x, -, s, hs, hl⟩ := ha.exists_of_mem hq
    simp [loaded?, hs, hl]
  rcases available_or_first_error files r t roles with h | ⟨before, role, after, e, rfl, h, he⟩
  · exact hall hn h
  · rw [resolveRoles_of_error hn h he, List.countP_append, hall (List.nodup_append.1 hn).1 h]
    have hnone : (role :: after).countP (fun q => (r.loaded? (.ofTarget q t)).isNone &&
        ((r.resolveRoles files t before).1.loaded? (.ofTarget q t)).isSome) = 0 := by
      refine List.countP_eq_zero.2 fun q hq => ?_
      have hq' : LibraryKey.ofTarget q t ∉ before.map (LibraryKey.ofTarget · t) := by
        intro hm
        obtain ⟨p, hp, hk⟩ := List.mem_map.1 hm
        exact (List.nodup_append.1 hn).2.2 p hp q hq (ofTarget_inj.1 hk)
      rw [loaded?, loaded?, current?_resolveRoles hq']
      cases (r.current? (.ofTarget q t)).bind fun c => c.2.loaded <;> simp
    rw [hnone, Nat.add_zero]

/-- Which libraries the roles get, or how they fail, depends on their own slots alone. -/
theorem library_resolveRoles_congr {files' : σ} {roles : List Role} (hn : roles.Nodup)
    (h : ∀ q ∈ roles, (r'.current? (.ofTarget q t)).map Prod.snd =
      (r.current? (.ofTarget q t)).map Prod.snd ∧ r.SameSource files files' (.ofTarget q t)) :
    (r'.resolveRoles files' t roles).2.map (·.map Resolved.library) =
      (r.resolveRoles files t roles).2.map (·.map Resolved.library) := by
  induction roles generalizing r r' with
  | nil => rfl
  | cons role roles ih =>
    obtain ⟨hrole, hn⟩ := List.nodup_cons.1 hn
    have hl := library_resolve_congr (h role List.mem_cons_self).1 (h role List.mem_cons_self).2
    cases ha : (r.resolve files (.ofTarget role t)).2 with
    | error e =>
      cases ha' : (r'.resolve files' (.ofTarget role t)).2 with
      | ok x => simp [ha, ha', Except.map] at hl
      | error e' =>
        simp only [ha, ha', Except.map, Except.error.injEq] at hl
        rw [resolveRoles_cons_of_error ha, resolveRoles_cons_of_error ha', hl]
    | ok x =>
      cases ha' : (r'.resolve files' (.ofTarget role t)).2 with
      | error e => simp [ha, ha', Except.map] at hl
      | ok x' =>
        simp only [ha, ha', Except.map, Except.ok.injEq] at hl
        have hrest := @ih (r.resolve files (.ofTarget role t)).1
          (r'.resolve files' (.ofTarget role t)).1 hn fun q hq => by
            have hne : q ≠ role := by
              intro heq
              subst heq
              exact hrole hq
            have hs := h q (List.mem_cons_of_mem role hq)
            rw [SameSource] at hs ⊢
            rw [current?_resolve_ofTarget hne, current?_resolve_ofTarget hne]
            exact hs
        rw [resolveRoles_cons_of_ok ha, resolveRoles_cons_of_ok ha']
        revert hrest
        rcases ((r.resolve files (.ofTarget role t)).1.resolveRoles files t roles).2 with e | ls <;>
          rcases ((r'.resolve files' (.ofTarget role t)).1.resolveRoles files' t roles).2 with
            e' | ls' <;>
          simp [Except.map, hl]

/-- Registrations of some keys leave the current slots of all other keys as they are. -/
theorem current?_registerAll {l : List (LibraryKey × Source)} {key : LibraryKey}
    (h : ∀ p ∈ l, p.1 ≠ key) :
    (l.foldl (fun r p => r.register p.1 p.2) r).current? key = r.current? key := by
  induction l generalizing r with
  | nil => rfl
  | cons p l ih =>
    obtain ⟨hp, hl⟩ := List.forall_mem_cons.1 h
    rw [List.foldl_cons, ih hl, current?_register_of_ne hp]

end Registry

/-! ### Runs -/

namespace Run

theorem roles_eq (s : LinkSettings) :
    roles s = if s.includeStdlib then [.stdlib, .commonBuiltins, .targetBuiltins]
      else [.commonBuiltins, .targetBuiltins] := by
  rw [roles]
  split <;> rfl

theorem nodup_roles (s : LinkSettings) : (roles s).Nodup := by
  rw [roles_eq]
  split <;> decide

variable {μ : Type} {link : Linking μ σ} {s : LinkSettings} {w : Workpiece μ σ} {r : Registry}

theorem perform_of_ok {ls : List Resolved}
    (h : (start s w.checkpoint w.files r).libraries = .ok ls) :
    perform link s w r =
      ((start s w.checkpoint w.files r).registry, link s (ls.map Resolved.library) w) := by
  rw [perform]
  simp only [h]
  rfl

theorem perform_of_error {e : LinkError}
    (h : (start s w.checkpoint w.files r).libraries = .error e) :
    perform link s w r = ((start s w.checkpoint w.files r).registry, w, .error e) := by
  rw [perform]
  simp only [h]
  rfl

/-- What a run has done that `e` ended at `role`, after the roles `before`. -/
structure EndedAt (link : Linking μ σ) (s : LinkSettings) (w : Workpiece μ σ) (r : Registry)
    (before : List Role) (role : Role) (e : LinkError) : Prop where
  /-- The failure is that of the key alone, attributed to the stage. The module, the checkpoint and
  the files are as they were. -/
  outcome : (perform link s w r).2 = (w, .error (.staged (Stage.ofRole role) e))
  /-- The libraries before it have been loaded. -/
  kept : ∀ q ∈ before, ∃ x, (r.resolve w.files (.ofTarget q s.target)).2 = .ok x ∧
    (perform link s w r).1.Keeps (.ofTarget q s.target) x
  /-- Nothing else has. -/
  untouched : ∀ key, key ∉ before.map (LibraryKey.ofTarget · s.target) →
    (perform link s w r).1.current? key = r.current? key
  loads : (perform link s w r).1.loads =
    r.loads + before.countP fun q => (r.loaded? (.ofTarget q s.target)).isNone

/-- What a second run does after the roles `before` got their libraries from `r`, now that the
registry is `r'`. The roles `missing` are the others. -/
structure Resumes (link : Linking μ σ) (s : LinkSettings) (files : σ) (r : Registry)
    (before missing : List Role) (w : Workpiece μ σ) (r' : Registry) : Prop where
  /-- The roles `before` get the same libraries, not others that are equal to them. -/
  same : ∀ q ∈ before, (r'.resolve w.files (.ofTarget q s.target)).2 =
    (r.resolve files (.ofTarget q s.target)).2
  /-- Only the sources of the missing roles are read. -/
  reads : ∀ files', (∀ q ∈ missing, r'.SameSource w.files files' (.ofTarget q s.target)) →
    start s w.checkpoint files' r' = start s w.checkpoint w.files r'
  /-- Only missing libraries are loaded. -/
  loads : (perform link s w r').1.loads = r'.loads + missing.countP fun q =>
    (r'.loaded? (.ofTarget q s.target)).isNone &&
      ((perform link s w r').1.loaded? (.ofTarget q s.target)).isSome
  untouched : ∀ key, key ∉ missing.map (LibraryKey.ofTarget · s.target) →
    (perform link s w r').1.current? key = r'.current? key

theorem perform_fst : (perform link s w r).1 = (r.resolveRoles w.files s.target (roles s)).1 := by
  cases h : (start s w.checkpoint w.files r).libraries with
  | ok ls => rw [perform_of_ok h, start]
  | error e => rw [perform_of_error h, start]

section FirstError

variable {before after : List Role} {role : Role} {e : LinkError}

theorem endedAt_of_error (hroles : roles s = before ++ role :: after)
    (h : ∀ q ∈ before, r.Available w.files (.ofTarget q s.target))
    (he : (r.resolve w.files (.ofTarget role s.target)).2 = .error e) :
    EndedAt link s w r before role e := by
  have hn := hroles ▸ nodup_roles s
  have hall := Registry.resolveRoles_of_error hn h he
  obtain ⟨ls, -, ha⟩ := Registry.resolveRoles_of_available (List.nodup_append.1 hn).1 h
  have hfst : (perform link s w r).1 = (r.resolveRoles w.files s.target before).1 := by
    rw [perform_fst, hroles, hall]
  refine ⟨?_, fun q hq => ?_, fun key hk => ?_, ?_⟩
  · rw [perform_of_error]
    rw [start, hroles, hall]
  · rw [hfst]
    exact ha.exists_of_mem hq
  · rw [hfst, Registry.current?_resolveRoles hk]
  · rw [hfst, ha.loads]

/-- A later run resumes where this one ended, as long as the slots of the roles before are current.
-/
theorem EndedAt.resumes (h : EndedAt link s w r before role e)
    (hroles : roles s = before ++ role :: after) (w' : Workpiece μ σ) {r' : Registry}
    (hr' : ∀ q ∈ before, r'.current? (.ofTarget q s.target) =
      (perform link s w r).1.current? (.ofTarget q s.target)) :
    Resumes link s w.files r before (role :: after) w' r' := by
  have hkept : ∀ q ∈ before, ∃ x, (r.resolve w.files (.ofTarget q s.target)).2 = .ok x ∧
      r'.Keeps (.ofTarget q s.target) x := by
    intro q hq
    obtain ⟨x, hx, t, ht, hl⟩ := h.kept q hq
    exact ⟨x, hx, t, by rw [hr' q hq, ht], hl⟩
  have hloaded {q : Role} (hq : q ∈ before) : r'.loaded? (.ofTarget q s.target) ≠ none := by
    obtain ⟨x, -, t, ht, hl⟩ := hkept q hq
    rw [Registry.loaded?, ht, Option.bind_some, hl]
    exact Option.some_ne_none _
  refine ⟨fun q hq => ?_, fun files' hf => ?_, ?_, fun key hk => ?_⟩
  · obtain ⟨x, hx, t, ht, hl⟩ := hkept q hq
    rw [hx, Registry.resolve_of_loaded ht hl]
  · have hsame : r'.resolveRoles w'.files s.target (roles s) =
        r'.resolveRoles files' s.target (roles s) := by
      apply Registry.resolveRoles_files_congr (nodup_roles s)
      intro q hq hnone
      rw [hroles, List.mem_append] at hq
      exact hf q (hq.resolve_left fun hb => hloaded hb hnone)
    rw [start, start, hsame]
  · rw [perform_fst, Registry.loads_resolveRoles (nodup_roles s), hroles, List.countP_append,
      List.countP_eq_zero.2, Nat.zero_add]
    intro q hq
    simp [Option.isNone_iff_eq_none, hloaded hq]
  · rw [perform_fst]
    by_cases hb : key ∈ before.map (LibraryKey.ofTarget · s.target)
    · obtain ⟨q, hq, rfl⟩ := List.mem_map.1 hb
      obtain ⟨x, -, t, ht, hl⟩ := hkept q hq
      rw [Registry.current?_resolveRoles_of_loaded ht hl, ht]
    · refine Registry.current?_resolveRoles ?_
      rw [hroles, List.map_append, List.mem_append, not_or]
      exact ⟨hb, hk⟩

end FirstError

/-- A run resolves the standard library if it is included, the common builtins and the builtins of
the target in this order, and goes on to linking exactly if each of the three keys can be resolved.
Otherwise it ends in the stage of the first that cannot, and a later run resumes there once other
keys have been registered or files have changed. Without the standard library it makes no difference
what is registered for it, and nothing is loaded for it. -/
theorem run_resolves_libraries_first (link : Linking μ σ) (s : LinkSettings) (w : Workpiece μ σ)
    (r : Registry) :
    (roles s = if s.includeStdlib then [.stdlib, .commonBuiltins, .targetBuiltins]
      else [.commonBuiltins, .targetBuiltins]) ∧
    ((∃ ls, (start s w.checkpoint w.files r).libraries = .ok ls) ↔
      ∀ role ∈ roles s, r.Available w.files (.ofTarget role s.target)) ∧
    (∀ ls, (start s w.checkpoint w.files r).libraries = .ok ls →
      List.Forall₂ (fun role x => (r.resolve w.files (.ofTarget role s.target)).2 = .ok x)
          (roles s) ls ∧
        perform link s w r =
          ((start s w.checkpoint w.files r).registry, link s (ls.map Resolved.library) w)) ∧
    (∀ before role after e, roles s = before ++ role :: after →
      (∀ q ∈ before, r.Available w.files (.ofTarget q s.target)) →
      (r.resolve w.files (.ofTarget role s.target)).2 = .error e →
      EndedAt link s w r before role e ∧
      ∀ (registered : List (LibraryKey × Source)) (w' : Workpiece μ σ),
        (∀ p ∈ registered, p.1 ∉ before.map (LibraryKey.ofTarget · s.target)) →
        Resumes link s w.files r before (role :: after) w'
          (registered.foldl (fun r p => r.register p.1 p.2) (perform link s w r).1)) ∧
    (s.includeStdlib = false →
      (perform link s w r).1.current? (.ofTarget .stdlib s.target) =
        r.current? (.ofTarget .stdlib s.target) ∧
      ∀ (files' : σ) (r' : Registry), (∀ q ∈ roles s,
          (r'.current? (.ofTarget q s.target)).map Prod.snd =
            (r.current? (.ofTarget q s.target)).map Prod.snd ∧
          r.SameSource w.files files' (.ofTarget q s.target)) →
        (start s w.checkpoint files' r').libraries.map (·.map Resolved.library) =
          (start s w.checkpoint w.files r).libraries.map (·.map Resolved.library)) := by
  refine ⟨roles_eq s, Registry.resolveRoles_eq_ok_iff (nodup_roles s), fun ls hls => ?_,
    fun before role after e hroles h he => ?_, fun hs => ⟨?_, fun files' r' h => ?_⟩⟩
  · have h := (Registry.resolveRoles_eq_ok_iff (nodup_roles s)).1 ⟨ls, hls⟩
    obtain ⟨ls', hls', ha⟩ := Registry.resolveRoles_of_available (nodup_roles s) h
    rw [start, hls', Except.ok.injEq] at hls
    subst hls
    exact ⟨ha.each.imp fun _ _ hx => hx.1, perform_of_ok hls'⟩
  · have hended : EndedAt link s w r before role e := endedAt_of_error hroles h he
    refine ⟨hended, fun registered w' hreg => hended.resumes hroles w' fun q hq => ?_⟩
    refine Registry.current?_registerAll fun p hp hk => hreg p hp ?_
    exact List.mem_map.2 ⟨q, hq, hk.symm⟩
  · rw [perform_fst]
    refine Registry.current?_resolveRoles ?_
    rw [roles_eq, hs, List.mem_map]
    intro h'
    rcases h' with ⟨q, hq, hk⟩
    rw [Registry.ofTarget_inj.1 hk] at hq
    simp at hq
  · exact Registry.library_resolveRoles_congr (nodup_roles s) h

end Run

end BuiltinLink
