import BuiltinLink.Proofs.Toml.Grammar
import BuiltinLink.Proofs.Toml.Rules

/-!
The reader builds the tables that its rules define, and refuses a document exactly if these do not
allow it. Each change of a table goes with the mentions of the line that makes it: if the rules
allow them, the table is afterwards as all mentions together say, and otherwise there is none. This
is shown for paths first, then for one assignment and for one header, and then for a document, line
by line.
-/

namespace BuiltinLink.Toml.Grammar

open Script

/-! ### What the reader does -/

/-- What becomes of a table when more is mentioned: the reader refuses what its rules do not allow,
and otherwise the table is as the mentions say. -/
def Outcome (ms l : List Mention) (kind : TableKind) : Option Entries → Prop
  | some es => Allowed Accepted ms l ∧ Quiet l ∧ Holds (ms ++ l) kind es
  | none => ¬ Allowed Accepted ms l

/-- The outcome of two parts. -/
theorem Outcome.append {ms l l' : List Mention} {kind : TableKind} {r : Option Entries}
    (hl : Allowed Accepted ms l) (hquiet : Quiet l) (h : Outcome (ms ++ l) l' kind r) :
    Outcome ms (l ++ l') kind r := by
  cases r with
  | none => exact fun hall => h (allowed_append.1 hall).2
  | some es =>
    obtain ⟨hl', hquiet', hes⟩ := h
    exact ⟨allowed_append.2 ⟨hl, hl'⟩, quiet_append.2 ⟨hquiet, hquiet'⟩,
      List.append_assoc ms l l' ▸ hes⟩

/-- A change of tables of some kind that does what a script says. -/
def Mirrors (kind : TableKind) (change : Entries → Option Entries) (script : Script) : Prop :=
  ∀ ms es, Holds ms kind es → Outcome ms (script ms) kind (change es)

namespace Mirrors

variable {kind : TableKind} {f g : Entries → Option Entries} {s t : Script}

theorem andThen (hf : Mirrors kind f s) (hg : Mirrors kind g t) :
    Mirrors kind (fun es => f es >>= g) (s.andThen t) := by
  intro ms es h
  have hes := hf ms es h
  change Outcome ms _ kind ((f es).bind g)
  cases hr : f es with
  | none =>
    rw [hr] at hes
    exact fun hall => hes (allowed_append.1 hall).1
  | some es' =>
    rw [hr] at hes
    obtain ⟨hl, hquiet, hes⟩ := hes
    exact .append hl hquiet (hg _ es' hes)

theorem all {α : Type} {f : Entries → α → Option Entries} {script : α → Script} {l : List α}
    (h : ∀ a ∈ l, Mirrors kind (f · a) (script a)) :
    Mirrors kind (l.foldlM f) (Script.all (l.map script)) := by
  induction l with
  | nil =>
    intro ms es h
    exact ⟨trivial, fun _ hm => absurd hm List.not_mem_nil, (List.append_nil ms).symm ▸ h⟩
  | cons a l ih =>
    obtain ⟨ha, hl⟩ := List.forall_mem_cons.1 h
    exact ha.andThen (ih hl)

end Mirrors

/-- A value that has a table in it which lines may add to, the kind and the entries of that table,
and the value with other entries there. -/
inductive Opens : Value → TableKind → Entries → (Entries → Value) → Prop
  | table {kind : TableKind} {sub : Entries} : Opens (.table kind sub) kind sub (.table kind)
  | member {tables : List Entries} {sub : Entries} :
      Opens (.array .headed ((tables ++ [sub]).map (.table .headed))) .headed sub
        fun sub' => .array .headed ((tables ++ [sub']).map (.table .headed))

/-- A change of the table in an entry changes the table around it. -/
theorem Mirrors.within {ms : List Mention} {kind kind' : TableKind} {es sub : Entries} {k : String}
    {v : Value} {put : Entries → Value} {f : Entries → Option Entries} {s : Script}
    (hf : Mirrors kind' f s) (h : Holds ms kind es) (hk : es.lookup k = some v)
    (hv : Opens v kind' sub put) (hkind : kind' ≠ .inline) :
    Outcome ms (Script.within k s ms) kind ((f sub).map fun sub' => es.replace k (put sub')) := by
  have hentry := h.lookup hk
  change Outcome ms (under (enter k ms) (s (view (enter k ms) ms))) kind _
  cases hv with
  | table =>
    have hsub := hentry.holds hkind
    rw [enter_table hsub]
    have hr := hf _ _ hsub
    cases hfs : f sub with
    | none =>
      rw [hfs] at hr
      exact fun hall => hr (allowed_under.1 hall)
    | some sub' =>
      rw [hfs] at hr
      obtain ⟨hall, hquiet, hsub'⟩ := hr
      exact ⟨allowed_under.2 hall, quiet_under _ _ _, h.replace hk hquiet hsub'.toSays⟩
  | @member tables =>
    have htables := hentry.of_array
    rw [enter_array htables]
    have hsub : Holds (view [.key k, .member tables.length] ms) .headed sub :=
      htables.each _ _ List.getElem?_concat_length
    have hr := hf _ _ hsub
    generalize s (view [.key k, .member tables.length] ms) = l at hr
    cases hfs : f sub with
    | none =>
      rw [hfs] at hr
      exact fun hall => hr (allowed_under.1 hall)
    | some sub' =>
      rw [hfs] at hr
      obtain ⟨hall, -, hsub'⟩ := hr
      refine ⟨allowed_under.2 hall, quiet_under _ _ _, ?_⟩
      rw [under_cons]
      exact h.replace hk (quiet_under _ _ _) (htables.setLast hsub').toSays

/-! ### Paths -/

/-- What passes tables on its way: which ones, and which it makes. -/
structure Passage (u : Use) (fresh : TableKind) (enters : TableKind → Bool) : Prop where
  ne_header : u ≠ .header
  not_member : u.isMember = false
  fresh : KindOf [u] fresh
  first : Accepted [] u
  table : ∀ {us kind}, KindOf us kind → (Accepted us u ↔ enters kind = true)
  member : ∀ {us}, us.head? = some .member → Accepted us u
  value : ∀ v, ¬ Accepted [.value v] u
  inline : enters .inline = false

theorem passage_through : Passage .through .dotted Entries.dottedEnters where
  ne_header := by simp
  not_member := rfl
  fresh := .dotted
  first := accepted_through_iff.2 (.inl rfl)
  table := by
    intro us kind h
    rw [accepted_through_iff]
    cases h <;> simp_all [Entries.dottedEnters]
  member h := accepted_through_iff.2 (.inr (.inl h))
  value v h := by simp [accepted_through_iff] at h
  inline := rfl

theorem passage_above : Passage .above .implied Entries.headerEnters where
  ne_header := by simp
  not_member := rfl
  fresh := .implied List.not_mem_nil
  first := accepted_above_iff.2 (by simp)
  table := by
    intro us kind h
    rw [accepted_above_iff]
    cases h <;> simp [Entries.headerEnters]
  member h := accepted_above_iff.2 (by simp [h])
  value v h := by simp [accepted_above_iff] at h
  inline := rfl

theorem alter_of_closed {fresh : TableKind} {enters : TableKind → Bool}
    {change : TableKind → Entries → Option Entries} {k : String} {es sub : Entries}
    {kind' : TableKind} (hk : es.lookup k = some (.table kind' sub))
    (henters : enters kind' = false) (ks : List String) (kind : TableKind) :
    Entries.alter fresh enters change (k :: ks) kind es = none := by
  simp [Entries.alter, hk, henters]

theorem alter_of_written {fresh : TableKind} {enters : TableKind → Bool}
    {change : TableKind → Entries → Option Entries} {k : String} {es : Entries} {v : Value}
    (hk : es.lookup k = some v) (hv : Written v) (henters : enters .inline = false)
    (ks : List String) (kind : TableKind) :
    Entries.alter fresh enters change (k :: ks) kind es = none := by
  cases v with
  | table kind' sub =>
    cases hv
    exact alter_of_closed hk henters ks kind
  | array kind' items =>
    cases hv
    simp [Entries.alter, hk]
  | _ => simp [Entries.alter, hk]

section Alter

variable {u : Use} {fresh : TableKind} {enters : TableKind → Bool}
  {change : TableKind → Entries → Option Entries} {s : Script}

/-- A table that a path makes. -/
theorem Passage.toSays (hu : Passage u fresh enters) : Says [⟨[], u⟩] (.table fresh []) :=
  .table hu.fresh rfl fun _ he => absurd he List.not_mem_nil

/-- What is done at the end of a path goes with what is mentioned along it. -/
theorem mirrors_alter (hu : Passage u fresh enters)
    (hchange : ∀ kind, kind ≠ .inline → Mirrors kind (change kind) s) (path : List String)
    {kind : TableKind} (hkind : kind ≠ .inline) :
    Mirrors kind (Entries.alter fresh enters change path kind) (along u s path) := by
  induction path generalizing kind with
  | nil => exact hchange kind hkind
  | cons k ks ih =>
    intro ms es h
    have hallowed : Allowed Accepted ms [⟨[.key k], u⟩] ↔ Accepted (uses (behind (.key k) ms)) u :=
      and_iff_left trivial
    have hquiet : Quiet [⟨[.key k], u⟩] := quiet_singleton hu.ne_header _
    change Outcome ms
      ([⟨[.key k], u⟩] ++ Script.within k (along u s ks) (ms ++ [⟨[.key k], u⟩])) kind _
    cases hk : es.lookup k with
    | none =>
      have hnil := h.behind_eq_nil hk
      have h' : Holds (ms ++ [⟨[.key k], u⟩]) kind (es ++ [(k, .table fresh [])]) :=
        h.concat (l := [⟨[], u⟩]) hk (by simp) (quiet_singleton hu.ne_header []) hu.toSays
      have hk' : List.lookup k (es ++ [(k, .table fresh [])]) = some (.table fresh []) := by
        simp [List.lookup_append, hk]
      refine .append (hallowed.2 (hnil ▸ hu.first)) hquiet ?_
      have hr := (ih hu.fresh.ne_inline).within h' hk' .table hu.fresh.ne_inline
      rw [Entries.alter_of_none hk]
      simpa only [Entries.replace_concat hk] using hr
    | some v =>
      have hquiet' : Quiet [⟨[], u⟩] := quiet_singleton hu.ne_header []
      rcases (h.lookup hk).cases with
        ⟨hv, hmentions⟩ | ⟨tables, rfl, htables⟩ | ⟨kind', sub, rfl, hsub⟩
      · rw [alter_of_written hk hv hu.inline]
        intro hall
        have haccepted := hallowed.1 (allowed_append.1 hall).1
        rw [hmentions] at haccepted
        exact hu.value v haccepted
      · obtain ⟨init, sub, rfl⟩ := htables.exists_concat
        have h' : Holds (ms ++ [⟨[.key k], u⟩]) kind es :=
          h.keep (l := [⟨[], u⟩]) hk hquiet' (htables.touch hu.not_member).toSays
        refine .append (hallowed.2 (hu.member htables.head)) hquiet ?_
        have hr := (ih (by simp)).within h' hk .member (by simp)
        have hlast : ((init ++ [sub]).map (Value.table .headed)).getLast? =
            some (.table .headed sub) := by
          simp
        rw [Entries.alter_of_array hk hlast]
        simpa using hr
      · have hallowed := hallowed.trans (hu.table hsub.kind)
        cases henters : enters kind' with
        | false =>
          rw [alter_of_closed hk henters]
          intro hall
          rw [hallowed.1 (allowed_append.1 hall).1] at henters
          cases henters
        | true =>
          have h' : Holds (ms ++ [⟨[.key k], u⟩]) kind es :=
            h.keep (l := [⟨[], u⟩]) hk hquiet' (hsub.touch hu.ne_header).toSays
          refine .append (hallowed.2 henters) hquiet ?_
          rw [Entries.alter_of_table hk henters]
          exact (ih hsub.kind.ne_inline).within h' hk .table hsub.kind.ne_inline

end Alter

/-! ### Assignments -/

theorem mirrors_concat {v : Value} (hv : Written v) (k : String) {kind : TableKind} :
    Mirrors kind (fun es => if es.lookup k = none then some (es ++ [(k, v)]) else none)
      (say ⟨[.key k], .value v⟩) := by
  intro ms es h
  have hallowed : Allowed Accepted ms [⟨[.key k], .value v⟩] ↔ uses (behind (.key k) ms) = [] :=
    (and_iff_left trivial).trans accepted_value_iff
  cases hk : es.lookup k with
  | none =>
    simp only [hk, if_true]
    refine ⟨hallowed.2 ?_, quiet_singleton (by simp) _, ?_⟩
    · rw [h.behind_eq_nil hk]
      rfl
    · exact h.concat (l := [⟨[], .value v⟩]) hk (by simp) (quiet_singleton (by simp) []) (.value hv)
  | some w =>
    simp only [hk, reduceCtorEq, if_false]
    exact fun hall => (h.lookup hk).uses_ne_nil (hallowed.1 hall)

/-- A dotted key gives a value to tables that dotted keys have made, and to no others. -/
theorem mirrors_into {v : Value} (hv : Written v) (k : String) {kind : TableKind} :
    Mirrors kind
      (fun es => if kind = .dotted ∧ es.lookup k = none then some (es ++ [(k, v)]) else none)
      ((say ⟨[], .into⟩).andThen (say ⟨[.key k], .value v⟩)) := by
  intro ms es h
  have hallowed : Allowed Accepted ms [⟨[], .into⟩] ↔ kind = .dotted :=
    ((and_iff_left trivial).trans accepted_into_iff).trans h.kind.eq_dotted_iff.symm
  by_cases hkind : kind = .dotted
  · simp only [hkind, true_and]
    refine .append (hallowed.2 hkind) (quiet_singleton (by simp) []) ?_
    exact mirrors_concat hv k _ es (hkind ▸ h.touch (by simp))
  · simp only [hkind, false_and, if_false]
    exact fun hall => hkind (hallowed.1 (allowed_append.1 hall).1)

theorem mirrors_assign {a : Assignment} (ha : Written a.value) :
    Mirrors .headed (Entries.assign .headed · a) (assignmentScript a) := by
  unfold assignmentScript
  by_cases hpath : a.path = []
  · have hkind : TableKind.headed ≠ .dotted := by simp
    simp only [Entries.assign_plain hpath hkind, hpath, if_true]
    exact mirrors_concat ha a.key
  · simp only [Entries.assign_dotted hpath, hpath, if_false]
    exact mirrors_alter passage_through (fun kind _ => mirrors_into ha a.key) a.path (by simp)

theorem mirrors_assignAll {l : List Assignment} (hl : ∀ a ∈ l, Written a.value) :
    Mirrors .headed (Entries.assignAll .headed · l) (all (l.map assignmentScript)) :=
  .all fun a ha => mirrors_assign (hl a ha)

/-! ### Headers -/

section Place

variable {h : Header} {body : List Assignment} {kind : TableKind}

/-- The header of a table opens a new key, or a table that was only implied. -/
theorem mirrors_own (hm : h.member = false) (hbody : ∀ a ∈ body, Written a.value) :
    Mirrors kind (h.place? body)
      ((say ⟨[.key h.key], .header⟩).andThen (within h.key (all (body.map assignmentScript)))) := by
  intro ms es hes
  let here : List Mention := [⟨[.key h.key], .header⟩]
  have hallowed : Allowed Accepted ms here ↔ Accepted (uses (behind (.key h.key) ms)) .header :=
    and_iff_left trivial
  change Outcome ms (here ++ within h.key (all (body.map assignmentScript)) (ms ++ here)) kind _
  -- The table of the header has the entries `sub` before its own assignments.
  have hopened {sub : Entries}
      (hsub : Holds (behind (.key h.key) ms ++ [⟨[], .header⟩]) .headed sub)
      (haccepted : Accepted (uses (behind (.key h.key) ms)) .header) :
      Outcome ms (here ++ within h.key (all (body.map assignmentScript)) (ms ++ here)) kind
        ((Entries.assignAll .headed sub body).map fun t =>
          es.erase h.key ++ [(h.key, .table .headed t)]) := by
    have hk : List.lookup h.key (es.erase h.key ++ [(h.key, .table .headed sub)]) =
        some (.table .headed sub) := by
      simp [List.lookup_append, Entries.lookup_erase]
    have hr := (mirrors_assignAll hbody).within (hes.head hsub.toSays) hk .table (by simp)
    simp only [Entries.replace_concat (Entries.lookup_erase es h.key)] at hr
    exact .append (hallowed.2 haccepted) (quiet_under (.key h.key) [] [⟨[], .header⟩]) hr
  cases hk : es.lookup h.key with
  | none =>
    have hr := @hopened []
    rw [hes.behind_eq_nil hk, Entries.erase_of_lookup_eq_none hk] at hr
    simp only [h.place?_of_none hk, Header.opened, hm, Bool.false_eq_true, if_false]
    exact hr holds_header (accepted_header_iff.2 (.inl rfl))
  | some v =>
    have hrefused (hv : ∀ sub, v ≠ .table .implied sub)
        (hnot : ¬ Accepted (uses (behind (.key h.key) ms)) .header) :
        Outcome ms (here ++ within h.key (all (body.map assignmentScript)) (ms ++ here)) kind
          (h.place? body es) := by
      rw [Header.place?_eq_none hk (by simp [hm]) fun _ => hv]
      exact fun hall => hnot hall.1
    rcases (hes.lookup hk).cases with
      ⟨hv, hmentions⟩ | ⟨tables, rfl, htables⟩ | ⟨kind', sub, rfl, hsub⟩
    · refine hrefused (fun sub heq => ?_) ?_
      · subst heq
        cases hv
      · rw [hmentions, accepted_header_iff]
        simp [uses]
    · refine hrefused (by simp) ?_
      rw [accepted_header_iff, htables.head]
      simp [htables.uses_ne_nil]
    · by_cases hkind : kind' = .implied
      · subst hkind
        rw [h.place?_of_implied hm hk]
        exact hopened hsub.late (hsub.kind.accepted_header_iff.2 rfl)
      · exact hrefused (fun sub heq => hkind (Value.table.inj heq).1)
          (mt hsub.kind.accepted_header_iff.1 hkind)

theorem accepted_member_append {us : List Use} (h : Accepted us .member) :
    (us ++ [Use.member]).head? = some .member := by
  rcases accepted_member_iff.1 h with rfl | h
  · rfl
  · rw [List.head?_append, h, Option.some_or]

/-- What the path of a header in double brackets mentions at its end. -/
theorem openScript_member {k : String} {ms : List Mention}
    (h : Accepted (uses (behind (.key k) ms)) .member) :
    (say ⟨[.key k], .member⟩).andThen (within k (say ⟨[], .header⟩)) ms =
      under [.key k] (⟨[], .member⟩ ::
        under [.member (members (behind (.key k) ms))] [⟨[], .header⟩]) := by
  have hbehind : behind (.key k) (ms ++ [⟨[.key k], .member⟩]) =
      behind (.key k) ms ++ [⟨[], .member⟩] := by
    rw [behind_append]
    exact congrArg _ (behind_under (.key k) [] [⟨[], .member⟩])
  have hhead := accepted_member_append h
  have henter : enter k (ms ++ [⟨[.key k], .member⟩]) =
      [.key k, .member (members (behind (.key k) ms))] := by
    unfold enter
    rw [hbehind, uses_append]
    rw [show uses [⟨[], .member⟩] = [.member] from rfl, hhead, members_append]
    rfl
  change [⟨[.key k], .member⟩] ++ under (enter k (ms ++ [_])) [⟨[], .header⟩] = _
  rw [henter]
  rfl

theorem allowed_openScript_member {ms : List Mention} {n : Nat}
    (h : Accepted (uses ms) .member) (hrest : behind (.member n) ms = []) :
    Allowed Accepted ms (⟨[], .member⟩ :: under [.member n] [⟨[], .header⟩]) := by
  refine ⟨h, allowed_under.2 ⟨?_, trivial⟩⟩
  have hview : view [.member n] (ms ++ [⟨[], .member⟩]) = [] := by
    rw [view_append, view, hrest]
    rfl
  rw [hview]
  exact accepted_header_iff.2 (.inl rfl)

/-- A header in double brackets begins an array of tables, or a further member of one. -/
theorem mirrors_member (hm : h.member = true) (hbody : ∀ a ∈ body, Written a.value) :
    Mirrors kind (h.place? body)
      (((say ⟨[.key h.key], .member⟩).andThen (within h.key (say ⟨[], .header⟩))).andThen
        (within h.key (all (body.map assignmentScript)))) := by
  intro ms es hes
  let b := behind (.key h.key) ms
  let opening := (say ⟨[.key h.key], .member⟩).andThen (within h.key (say ⟨[], .header⟩)) ms
  let member : List Mention := ⟨[], .member⟩ :: under [.member (members b)] [⟨[], .header⟩]
  change Outcome ms
    (opening ++ within h.key (all (body.map assignmentScript)) (ms ++ opening)) kind _
  -- There is an array with an empty member at its end before the assignments of the section.
  have hopened {tables : List Entries} {es' : Entries} (haccepted : Accepted (uses b) .member)
      (hrest : behind (.member (members b)) b = [])
      (hes' : Holds (ms ++ under [.key h.key] member) kind es') (hk : es'.lookup h.key =
        some (.array .headed ((tables ++ [[]]).map (.table .headed)))) :
      Outcome ms (opening ++ within h.key (all (body.map assignmentScript)) (ms ++ opening)) kind
        ((Entries.assignAll .headed [] body).map fun t =>
          es'.replace h.key (.array .headed ((tables ++ [t]).map (.table .headed)))) := by
    have heq : opening = under [.key h.key] member := openScript_member haccepted
    rw [heq]
    have hr := (mirrors_assignAll hbody).within hes' hk .member (by simp)
    exact .append (allowed_under.2 (allowed_openScript_member haccepted hrest))
      (quiet_under _ _ _) hr
  have hquiet : Quiet member :=
    List.forall_mem_cons.2 ⟨fun _ => by simp, quiet_under _ _ _⟩
  cases hk : es.lookup h.key with
  | none =>
    have hb : b = [] := hes.behind_eq_nil hk
    have hmember : member = ⟨[], .member⟩ :: under [.member 0] [⟨[], .header⟩] := by
      simp only [member, hb]
      rfl
    have hes' := hes.concat hk (by simp) hquiet (hmember ▸ (Gathers.single holds_header).toSays)
    have hr := @hopened [] _ (hb ▸ accepted_member_iff.2 (.inl rfl)) (by rw [hb]; rfl) hes'
      (by simp [List.lookup_append, hk])
    simp only [Entries.replace_concat hk] at hr
    simpa [h.place?_of_none hk, Header.opened, hm] using hr
  | some v =>
    have hrefused (hv : ∀ items, v ≠ .array .headed items) (hnot : ¬ Accepted (uses b) .member) :
        Outcome ms (opening ++ within h.key (all (body.map assignmentScript)) (ms ++ opening)) kind
          (h.place? body es) := by
      rw [Header.place?_eq_none hk (fun _ => hv) (by simp [hm])]
      exact fun hall => hnot hall.1
    rcases (hes.lookup hk).cases with
      ⟨hv, hmentions⟩ | ⟨tables, rfl, htables⟩ | ⟨kind', sub, rfl, hsub⟩
    · refine hrefused (fun items heq => ?_) ?_
      · subst heq
        cases hv
      · simp only [b, hmentions, accepted_member_iff]
        simp [uses]
    · have hlength : members b = tables.length := htables.length.symm
      have hes' := hes.replace hk hquiet (by
        simp only [member, hlength]
        exact (htables.grow holds_header).toSays)
      have hr := hopened (accepted_member_iff.2 (.inr htables.head))
        (htables.rest _ (Nat.le_of_eq hlength.symm)) hes' (Entries.lookup_replace_self hk _)
      simp only [Entries.replace_replace] at hr
      rw [h.place?_of_array hm hk]
      simpa using hr
    · refine hrefused (by simp) ?_
      rw [accepted_member_iff]
      simp [b, hsub.kind.ne_nil, hsub.kind.head?_ne_member]

theorem mirrors_place (hbody : ∀ a ∈ body, Written a.value) : Mirrors kind (h.place? body)
    ((openScript h).andThen (within h.key (all (body.map assignmentScript)))) := by
  unfold openScript
  cases hm : h.member with
  | true => exact mirrors_member hm hbody
  | false => exact mirrors_own hm hbody

end Place

theorem mirrors_addTo {s : Section} (hs : ∀ a ∈ s.body, Written a.value) :
    Mirrors .headed (Section.addTo · s) (sectionScript s) :=
  mirrors_alter passage_above (fun _ _ => mirrors_place hs) s.header.path (by simp)

/-! ### Documents -/

/-- The reader goes through a document as its lines mention places. -/
theorem outcome_entries? {d : Document} (hd : ∀ a ∈ assignments d, Written a.value) :
    Outcome [rootMention] (documentScript d [rootMention]) .headed d.entries? := by
  obtain ⟨hroot, hsections⟩ := List.forall_mem_append.1 hd
  have hsections (s : Section) (hs : s ∈ d.sections) : ∀ a ∈ s.body, Written a.value :=
    fun a ha => hsections a (List.mem_flatMap.2 ⟨s, hs, ha⟩)
  exact (mirrors_assignAll hroot).andThen (.all fun s hs => mirrors_addTo (hsections s hs))
    [rootMention] [] holds_header

/-- The reader builds the table that its rules define, and refuses what they do not allow. -/
theorem defines_iff {d : Document} (hd : ∀ a ∈ assignments d, Written a.value) {es : Entries} :
    Defines Accepted d es ↔ d.entries? = some es := by
  have hes := outcome_entries? hd
  constructor
  · rintro ⟨-, hallowed, hroot⟩
    cases heq : d.entries? with
    | none =>
      rw [heq] at hes
      exact absurd hallowed hes
    | some es' =>
      rw [heq] at hes
      rw [(Value.table.inj (hes.2.2.toSays.unique hroot)).2]
  · intro heq
    rw [heq] at hes
    exact ⟨hd, hes.1, hes.2.2.toSays⟩

theorem defines_standard_iff {l : List Assignment} {es : Entries} :
    Defines Standard ⟨l, []⟩ es ↔ Defines Accepted ⟨l, []⟩ es := by
  have honly : Only Use.Plain (documentScript ⟨l, []⟩) := by
    refine Only.andThen (.all fun f hf => ?_) (.all fun _ hf => absurd hf List.not_mem_nil)
    obtain ⟨a, -, rfl⟩ := List.mem_map.1 hf
    exact .assignmentScript ⟨by simp, by simp⟩ ⟨by simp, by simp⟩ ⟨by simp, by simp⟩
  have hroot : ∀ m ∈ [rootMention], m.use.Plain :=
    List.forall_mem_singleton.2 ⟨by simp [rootMention], by simp [rootMention]⟩
  have hallowed := allowed_iff_standard hroot (honly [rootMention])
  exact ⟨fun ⟨hwritten, h, hroot⟩ => ⟨hwritten, hallowed.2 h, hroot⟩,
    fun ⟨hwritten, h, hroot⟩ => ⟨hwritten, hallowed.1 h, hroot⟩⟩

/-- Between braces the reader builds the table that the rules of the language define. -/
theorem inlineTable?_eq_some_iff {l : List Assignment} (hl : ∀ a ∈ l, Written a.value) {v : Value} :
    inlineTable? l = some v ↔ ∃ es, Defines Standard ⟨l, []⟩ es ∧ v = .table .inline es := by
  have hentries : (⟨l, []⟩ : Document).entries? = Entries.assignAll .headed [] l := by
    simp [Document.entries?]
  have hwritten : ∀ a ∈ assignments ⟨l, []⟩, Written a.value := by
    simpa [assignments] using hl
  simp only [inlineTable?, Entries.assignAll_inline, Option.map_eq_some_iff, defines_standard_iff,
    defines_iff hwritten, hentries]
  exact exists_congr fun es => and_congr .rfl eq_comm

/-! ### Texts -/

theorem Pair.exists_text {parts : Nat} {P : Value → List Char → Prop} {a : Assignment}
    {t : List Char} (h : Pair parts P a t) : ∃ u, P a.value u := by
  obtain ⟨k, b, u, -, -, -, hu, -⟩ := h
  exact ⟨u, hu⟩

theorem Pairs.exists_text {parts : Nat} {P : Value → List Char → Prop} {l : List Assignment}
    {t : List Char} (h : Pairs parts P l t) : ∀ a ∈ l, ∃ u, P a.value u := by
  induction h with
  | last ht => exact List.forall_mem_singleton.2 ht.exists_text
  | comma ht _ _ ih => exact List.forall_mem_cons.2 ⟨ht.exists_text, ih⟩

theorem mem_assignments_ofLines {ls : List Line} {a : Assignment} :
    a ∈ assignments (Document.ofLines ls) ↔ .assignment a ∈ ls := by
  induction ls with
  | nil => simp [assignments, Document.ofLines]
  | cons l ls ih =>
    cases l with
    | assignment a' =>
      rw [List.mem_cons, ← ih]
      simp [assignments, Document.ofLines]
    | header h =>
      rw [List.mem_cons, ← ih]
      simp [assignments, Document.ofLines]

theorem Lines.exists_text {parts depth : Nat} {ls : List Line} {t : List Char}
    (h : Lines parts depth ls t) {a : Assignment} (ha : .assignment a ∈ ls) :
    ∃ u, ValueText parts depth a.value u := by
  have hexpression {l : Option Line} {t : List Char} (ht : Expression parts depth l t)
      (ha : .assignment a ∈ l.toList) : ∃ u, ValueText parts depth a.value u := by
    cases ht with
    | empty => cases ha
    | line _ ht =>
      cases List.mem_singleton.1 ha
      cases ht with
      | assignment h => exact h.exists_text
  induction h with
  | last ht => exact hexpression ht ha
  | newline ht _ _ ih =>
    rcases List.mem_append.1 ha with ha | ha
    · exact hexpression ht ha
    · exact ih ha

theorem written_of_integer? {n : Int} {v : Value} (h : integer? n = some v) : Written v := by
  unfold integer? at h
  split at h
  · cases h
    trivial
  · cases h

theorem written_of_float? {negative : Bool} {digits : Nat} {exponent : Int} {v : Value}
    (h : float? negative digits exponent = some v) : Written v := by
  unfold float? at h
  split at h
  · cases h
  · cases h
    trivial

theorem Scalar.written {v : Value} {t : List Char} (h : Scalar v t) : Written v := by
  cases h with
  | number h =>
    cases h with
    | integer _ _ hv => exact written_of_integer? hv
    | based _ _ hv => exact written_of_integer? hv
    | float _ _ _ _ _ hv => exact written_of_float? hv
    | infinite => trivial
    | nan => trivial
  | _ => trivial

theorem ValueText.written {parts depth : Nat} {v : Value} {t : List Char}
    (h : ValueText parts depth v t) : Written v := by
  cases depth with
  | zero => exact Scalar.written h
  | succ depth =>
    rcases h with h | ⟨vs, u, rfl, -, -⟩ | ⟨u, -, hu⟩
    · exact h.written
    · rfl
    · rcases hu with ⟨rfl, -⟩ | ⟨l, es, -, -, rfl⟩ <;> rfl

theorem Lines.written {parts depth : Nat} {ls : List Line} {t : List Char}
    (h : Lines parts depth ls t) : ∀ a ∈ assignments (Document.ofLines ls), Written a.value := by
  intro a ha
  obtain ⟨u, hu⟩ := h.exists_text (mem_assignments_ofLines.1 ha)
  exact hu.written

/-- The lines of a text define the tables that the reader builds from them. -/
theorem Lines.defines_iff {parts depth : Nat} {ls : List Line} {t : List Char}
    (h : Lines parts depth ls t) {es : Entries} : Defines Accepted (Document.ofLines ls) es ↔
      (Document.ofLines ls).entries? = some es :=
  Grammar.defines_iff h.written

end BuiltinLink.Toml.Grammar
