import BuiltinLink.Proofs.Library.History
import BuiltinLink.Proofs.Link.Resolution

/-!
Libraries of one target are never served to another. In a registry that is filled with images for
targets, whatever else is asked of it in between, a request gets the image that was given last for
its role and for a target that agrees in the parts that matter for the role; there is no other way
to an answer. A run therefore ends for want of a library if its own target was never provided for,
however many others were.

The proofs follow one key: the slot of its last registration serves the image of that registration,
loaded or not, until the key is registered again.
-/

namespace BuiltinLink

open Text

variable {σ : Type} [FileSystem σ]

/-- Two targets agree in the parts that matter for a role. -/
def Role.Shares (role : Role) (t u : Target) : Prop :=
  match role with
  | .dispatch => t.os = u.os
  | .commonBuiltins => t.os = u.os ∧ t.arch = u.arch
  | .stdlib | .targetBuiltins => t.isa = u.isa ∧ t.os = u.os ∧ t.arch = u.arch

theorem LibraryKey.ofTarget_eq_iff {q role : Role} {t u : Target} :
    ofTarget q t = ofTarget role u ↔ q = role ∧ role.Shares t u := by
  constructor
  · intro h
    have hq : q = role := by rw [← Registry.ofTarget_role q t, h, Registry.ofTarget_role]
    subst hq
    refine ⟨rfl, ?_⟩
    cases q <;> simpa [ofTarget, dispatch, Role.Shares] using h
  · intro h
    rcases h with ⟨rfl, h⟩
    cases q <;> simpa [ofTarget, dispatch, Role.Shares] using h

/-- The libraries for one instruction set are those of one target. -/
theorem Role.shares_iff_eq {role : Role} (hrole : role = .stdlib ∨ role = .targetBuiltins)
    {t u : Target} : role.Shares t u ↔ t = u := by
  have hparts : t = u ↔ t.isa = u.isa ∧ t.os = u.os ∧ t.arch = u.arch := by
    cases t
    cases u
    simp
  rw [hparts]
  rcases hrole with rfl | rfl <;> rfl

/-! ### A slot that serves an image -/

/-- The current slot of a key was opened for an image and holds that image if it holds one. -/
def Registry.Serves (r : Registry) (key : LibraryKey) (image : Bytes) : Prop :=
  ∃ i s, r.current? key = some (i, s) ∧ s.source = .memory image ∧
    ∀ l, s.loaded = some l → l = ⟨key, image⟩

section Serves

variable {r : Registry} {w : History.World σ} {key : LibraryKey} {image : Bytes}

theorem Registry.serves_register (r : Registry) (key : LibraryKey) (image : Bytes) :
    (r.register key (.memory image)).Serves key image :=
  ⟨_, _, current?_register_self r key (.memory image), rfl, by simp⟩

/-- A request is served the image, and so are later ones. -/
theorem Registry.Serves.resolve (h : r.Serves key image) (files : σ) :
    (∃ i, (r.resolve files key).2 = .ok ⟨i, ⟨key, image⟩⟩) ∧
      (r.resolve files key).1.Serves key image := by
  obtain ⟨i, s, hc, hs, hl⟩ := h
  cases hloaded : s.loaded with
  | some l =>
    rw [resolve_of_loaded hc hloaded, hl l hloaded]
    exact ⟨⟨i, rfl⟩, i, s, hc, hs, hl⟩
  | none =>
    have hread : s.source.read files = .ok image := by
      rw [hs]
      rfl
    rw [resolve_of_read hc hloaded hread]
    refine ⟨⟨i, rfl⟩, i, { s with loaded := some ⟨key, image⟩ }, ?_, hs, ?_⟩
    · rw [current?_store hc, if_pos rfl]
    · intro l hl'
      exact (Option.some.inj hl').symm

theorem History.World.serves_step (h : w.registry.Serves key image) {e : Event σ}
    (he : key ∉ registeredKeys [e]) : (w.step e).1.registry.Serves key image := by
  by_cases hr : e = .resolve key
  · subst hr
    exact (h.resolve w.files).2
  · obtain ⟨i, s, hc, hs⟩ := h
    exact ⟨i, s, by rw [current?_step he fun heq => absurd heq hr, hc], hs⟩

theorem History.World.serves_after {since : List (Event σ)} (h : w.registry.Serves key image)
    (hs : key ∉ registeredKeys since) : (w.after since).registry.Serves key image := by
  induction since generalizing w with
  | nil => exact h
  | cons e since ih =>
    rw [mem_registeredKeys_cons, not_or] at hs
    exact ih (serves_step h hs.1) hs.2

end Serves

/-! ### Registries filled for targets -/

/-- An image given as the library of a target for a role. -/
structure Provision where
  role : Role
  target : Target
  image : Bytes
deriving DecidableEq, Repr

namespace Provision

/-- The library is one for a role and a target. -/
def Meets (p : Provision) (role : Role) (u : Target) : Prop :=
  p.role = role ∧ role.Shares p.target u

def key (p : Provision) : LibraryKey :=
  .ofTarget p.role p.target

theorem key_eq_iff {p : Provision} {role : Role} {u : Target} :
    p.key = .ofTarget role u ↔ p.Meets role u :=
  LibraryKey.ofTarget_eq_iff

/-- A registry to which images for targets are given, and nothing else: any other event registers
nothing. -/
inductive Call (σ : Type) where
  | provide (p : Provision)
  | other (e : History.Event σ) (quiet : History.registeredKeys [e] = [])

def Call.event : Call σ → History.Event σ
  | provide p => .register p.key (.memory p.image)
  | other e _ => e

/-- The registry after some calls, beginning with an empty one among the files `init`. -/
def registry (init : σ) (h : List (Call σ)) : Registry :=
  (History.world init (h.map Call.event)).registry

/-- `p` was given last for a role and a target. -/
def Last (h : List (Call σ)) (role : Role) (u : Target) (p : Provision) : Prop :=
  p.Meets role u ∧ ∃ before since, h = before ++ .provide p :: since ∧
    ∀ q, .provide q ∈ since → ¬ q.Meets role u

variable {init : σ} {h : List (Call σ)} {role : Role} {u : Target}

omit [FileSystem σ] in
theorem mem_registeredKeys_map :
    .ofTarget role u ∈ History.registeredKeys (h.map Call.event) ↔
      ∃ p, .provide p ∈ h ∧ p.Meets role u := by
  induction h with
  | nil => simp [History.registeredKeys]
  | cons c h ih =>
    rw [List.map_cons, History.mem_registeredKeys_cons, ih]
    cases c with
    | provide p =>
      have hp : LibraryKey.ofTarget role u ∈
          History.registeredKeys [(Call.provide p : Call σ).event] ↔ p.Meets role u := by
        rw [← key_eq_iff, eq_comm]
        simp [History.registeredKeys, Call.event]
      rw [hp]
      constructor
      · rintro (h | ⟨q, hq, h⟩)
        · exact ⟨p, List.mem_cons_self, h⟩
        · exact ⟨q, List.mem_cons_of_mem _ hq, h⟩
      · rintro ⟨q, hq, h⟩
        rcases List.mem_cons.1 hq with heq | hq
        · exact .inl (Call.provide.inj heq ▸ h)
        · exact .inr ⟨q, hq, h⟩
    | other e quiet => simp [Call.event, quiet]

omit [FileSystem σ] in
theorem exists_last (hp : ∃ p, .provide p ∈ h ∧ p.Meets role u) : ∃ p, Last h role u p := by
  induction h with
  | nil => simp at hp
  | cons c h ih =>
    by_cases hh : ∃ p, .provide p ∈ h ∧ p.Meets role u
    · obtain ⟨p, hm, before, since, heq, hs⟩ := ih hh
      exact ⟨p, hm, c :: before, since, by rw [heq, List.cons_append], hs⟩
    · obtain ⟨p, hp, hm⟩ := hp
      have hc : Call.provide p = c := (List.mem_cons.1 hp).resolve_right fun hp => hh ⟨p, hp, hm⟩
      exact ⟨p, hm, [], h, by rw [hc, List.nil_append], fun q hq hq' => hh ⟨q, hq, hq'⟩⟩

theorem Last.serves {p : Provision} (hp : Last h role u p) :
    (registry init h).Serves (.ofTarget role u) p.image := by
  obtain ⟨hm, before, since, rfl, hs⟩ := hp
  rw [registry, List.map_append, List.map_cons, History.world_append, History.World.after,
    ← key_eq_iff.2 hm]
  refine History.World.serves_after (Registry.serves_register _ p.key p.image) ?_
  rw [key_eq_iff.2 hm, mem_registeredKeys_map]
  rintro ⟨q, hq, hq'⟩
  exact hs q hq hq'

theorem resolve_of_last {p : Provision} (hp : Last h role u p) (files : σ) :
    ∃ i, ((registry init h).resolve files (.ofTarget role u)).2 =
      .ok ⟨i, ⟨.ofTarget role u, p.image⟩⟩ :=
  (hp.serves.resolve files).1

theorem resolve_of_not_provided (hp : ¬ ∃ p, .provide p ∈ h ∧ p.Meets role u) (files : σ) :
    ((registry init h).resolve files (.ofTarget role u)).2 =
      .error (.cause (.missingLibrary (.ofTarget role u))) := by
  rw [← mem_registeredKeys_map, ← History.current?_world_eq_none_iff] at hp
  rw [registry, Registry.resolve_of_none hp]

theorem available_iff {files : σ} : (registry init h).Available files (.ofTarget role u) ↔
    ∃ p, .provide p ∈ h ∧ p.Meets role u := by
  constructor
  · rintro ⟨x, hx⟩
    by_contra hp
    rw [resolve_of_not_provided hp] at hx
    cases hx
  · intro hp
    obtain ⟨p, hp⟩ := exists_last hp
    obtain ⟨i, hi⟩ := resolve_of_last hp files
    exact ⟨_, hi⟩

/-! ### Runs -/

/-- A run that ended in a stage for want of the library of a role, and did nothing else. -/
def Wants {μ : Type} (link : Linking μ σ) (s : LinkSettings) (w : Workpiece μ σ) (r : Registry)
    (stage : Stage) (role : Role) : Prop :=
  (Run.perform link s w r).2 =
    (w, .error (.staged stage (.cause (.missingLibrary (.ofTarget role s.target)))))

variable {μ : Type} {link : Linking μ σ} {s : LinkSettings} {w : Workpiece μ σ}

theorem wants_of_not_provided {before after : List Role}
    (hroles : Run.roles s = before ++ role :: after)
    (hbefore : ∀ q ∈ before, ∃ p, .provide p ∈ h ∧ p.Meets q s.target)
    (hrole : ¬ ∃ p, .provide p ∈ h ∧ p.Meets role s.target) :
    Wants link s w (registry init h) (Stage.ofRole role) role :=
  (Run.endedAt_of_error hroles (fun q hq => available_iff.2 (hbefore q hq))
    (resolve_of_not_provided hrole w.files)).outcome

/-- Over all registries that are filled for targets: exactly what was given for the role and the
parts of the target that matter for it can be had, and what was given last is what one gets. A run
for a target without libraries of its own ends in its first stage that needs one, whatever other
targets have. -/
theorem libraries_stay_with_targets (init : σ) (h : List (Call σ)) :
    (∀ role u (files : σ),
      ((∃ x, ((registry init h).resolve files (.ofTarget role u)).2 = .ok x) ↔
        ∃ p, .provide p ∈ h ∧ p.Meets role u) ∧
      ∀ p, Last h role u p → ∃ i, ((registry init h).resolve files (.ofTarget role u)).2 =
        .ok ⟨i, ⟨.ofTarget role u, p.image⟩⟩) ∧
    (∀ role u, (∃ p, .provide p ∈ h ∧ p.Meets role u) → ∃ p, Last h role u p) ∧
    ∀ (μ : Type) (link : Linking μ σ) (s : LinkSettings) (w : Workpiece μ σ),
      (∀ p, .provide p ∈ h → p.target = s.target →
        p.role ≠ .stdlib ∧ p.role ≠ .targetBuiltins) →
      (s.includeStdlib = true → Wants link s w (registry init h) .linkStdlib .stdlib) ∧
      (s.includeStdlib = false →
        (∃ p, .provide p ∈ h ∧ p.role = .commonBuiltins ∧
          p.target.os = s.target.os ∧ p.target.arch = s.target.arch) →
        Wants link s w (registry init h) .linkTargetBuiltins .targetBuiltins) ∧
      (s.includeStdlib = false →
        (¬ ∃ p, .provide p ∈ h ∧ p.role = .commonBuiltins ∧
          p.target.os = s.target.os ∧ p.target.arch = s.target.arch) →
        Wants link s w (registry init h) .linkCommonBuiltins .commonBuiltins) := by
  refine ⟨fun role u files => ⟨available_iff, fun p hp => resolve_of_last hp files⟩,
    fun role u => exists_last, fun μ link s w hnone => ?_⟩
  have hstd : ¬ ∃ p, .provide p ∈ h ∧ p.Meets .stdlib s.target := by
    rintro ⟨p, hp, hrole, ht⟩
    exact (hnone p hp ((Role.shares_iff_eq (.inl rfl)).1 ht)).1 hrole
  have htarget : ¬ ∃ p, .provide p ∈ h ∧ p.Meets .targetBuiltins s.target := by
    rintro ⟨p, hp, hrole, ht⟩
    exact (hnone p hp ((Role.shares_iff_eq (.inr rfl)).1 ht)).2 hrole
  refine ⟨fun hs => ?_, fun hs hcommon => ?_, fun hs hcommon => ?_⟩
  · have hroles : Run.roles s = [] ++ .stdlib :: [.commonBuiltins, .targetBuiltins] := by
      rw [Run.roles_eq, hs]
      rfl
    exact wants_of_not_provided hroles (by simp) hstd
  · have hroles : Run.roles s = [.commonBuiltins] ++ .targetBuiltins :: [] := by
      rw [Run.roles_eq, hs]
      rfl
    refine wants_of_not_provided hroles (fun q hq => ?_) htarget
    rw [List.mem_singleton.1 hq]
    exact hcommon
  · have hroles : Run.roles s = [] ++ .commonBuiltins :: [.targetBuiltins] := by
      rw [Run.roles_eq, hs]
      rfl
    exact wants_of_not_provided hroles (by simp) hcommon

-- The common builtins of another instruction set serve, its builtins of the target do not.
example {μ : Type} (link : Linking μ σ) (w : Workpiece μ σ) :
    Wants link
      { target := ⟨.avx2I32x8, .linux, .x8664, by decide⟩, includeStdlib := false } w
      (registry init [
        .provide ⟨.commonBuiltins, ⟨.sse2I32x4, .linux, .x8664, by decide⟩, [1]⟩,
        .provide ⟨.targetBuiltins, ⟨.sse2I32x4, .linux, .x8664, by decide⟩, [2]⟩])
      .linkTargetBuiltins .targetBuiltins := by
  rfl

end Provision

end BuiltinLink
