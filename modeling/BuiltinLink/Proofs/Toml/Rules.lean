import BuiltinLink.Proofs.Toml.Says

/-!
The rules for mentions: how they are followed by mentions one after the other and by mentions that
are seen from further above, what each of them comes to, and where those of the reader and those of
the language agree.
-/

namespace BuiltinLink.Toml.Grammar

open Script

/-! ### Lists of mentions -/

theorem allowed_append {rules : List Use → Use → Prop} {ms l l' : List Mention} :
    Allowed rules ms (l ++ l') ↔ Allowed rules ms l ∧ Allowed rules (ms ++ l) l' := by
  induction l generalizing ms with
  | nil => simp [Allowed]
  | cons m l ih => simp [Allowed, ih, and_assoc]

theorem allowed_under {rules : List Use → Use → Prop} {p : Place} {ms l : List Mention} :
    Allowed rules ms (under p l) ↔ Allowed rules (view p ms) l := by
  induction l generalizing ms with
  | nil => simp [under, Allowed]
  | cons m l ih =>
    have hview : view p (ms ++ [⟨p ++ m.place, m.use⟩]) = view p ms ++ [m] := by
      rw [view_append]
      exact congrArg _ (view_under p [m])
    change (_ ∧ Allowed rules _ (under p l)) ↔ _
    rw [ih, hview, ← view_view]
    rfl

/-! ### Rules, use by use -/

section

variable {us : List Use}

@[simp]
theorem standard_value_iff {v : Value} : Standard us (.value v) ↔ us = [] := by
  constructor
  · intro h
    cases h with
    | first => rfl
    | dotted hu | implied hu => rcases hu with hu | hu <;> cases hu
  · rintro rfl
    exact .first (by simp)

@[simp]
theorem standard_header_iff :
    Standard us .header ↔ us = [] ∨ us.head? = some .above ∧ .header ∉ us := by
  constructor
  · intro h
    cases h with
    | first => exact .inl rfl
    | header h => exact .inr ⟨rfl, by simpa using h⟩
    | dotted hu | implied hu => rcases hu with hu | hu <;> cases hu
  · rintro (rfl | ⟨h, hheader⟩)
    · exact .first (by simp)
    · obtain ⟨us, rfl⟩ := List.head?_eq_some_iff.1 h
      exact .header (by simpa using hheader)

@[simp]
theorem standard_member_iff : Standard us .member ↔ us = [] ∨ us.head? = some .member := by
  constructor
  · intro h
    cases h with
    | first => exact .inl rfl
    | member => exact .inr rfl
    | dotted hu | implied hu => rcases hu with hu | hu <;> cases hu
  · rintro (rfl | h)
    · exact .first (by simp)
    · obtain ⟨us, rfl⟩ := List.head?_eq_some_iff.1 h
      exact .member

@[simp]
theorem standard_above_iff : Standard us .above ↔ ∀ v, us.head? ≠ some (.value v) := by
  constructor
  · intro h v hv
    cases h with
    | first => cases hv
    | above h => exact h v (Option.some.inj hv)
    | dotted | implied => cases hv
  · intro h
    cases us with
    | nil => exact .first (by simp)
    | cons u us => exact .above fun v hu => h v (congrArg some hu)

/-- Tables that dotted keys may add to by the rules of the language. -/
theorem standard_dotted_iff {u : Use} (hu : u = .through ∨ u = .into) :
    Standard us u ↔ (us = [] ∧ u = .through) ∨ us.head? = some .through ∨
      us.head? = some .above ∧ .header ∉ us := by
  constructor
  · intro h
    cases h with
    | first hne => exact .inl ⟨rfl, hu.resolve_right hne⟩
    | dotted => exact .inr (.inl rfl)
    | implied _ h => exact .inr (.inr ⟨rfl, by simpa using h⟩)
    | member | header | above => rcases hu with hu | hu <;> cases hu
  · rintro (⟨rfl, rfl⟩ | h | ⟨h, hheader⟩)
    · exact .first (by simp)
    · obtain ⟨us, rfl⟩ := List.head?_eq_some_iff.1 h
      exact .dotted hu
    · obtain ⟨us, rfl⟩ := List.head?_eq_some_iff.1 h
      exact .implied hu (by simpa using hheader)

@[simp]
theorem standard_through_iff : Standard us .through ↔ us = [] ∨ us.head? = some .through ∨
    us.head? = some .above ∧ .header ∉ us := by
  simp [standard_dotted_iff]

@[simp]
theorem standard_into_iff : Standard us .into ↔ us.head? = some .through ∨
    us.head? = some .above ∧ .header ∉ us := by
  simp [standard_dotted_iff]

/-- The reader differs from the language for dotted keys only. -/
theorem accepted_iff_of_not_dotted {u : Use} (hthrough : u ≠ .through) (hinto : u ≠ .into) :
    Accepted us u ↔ Standard us u := by
  simp [Accepted, hthrough, hinto]

theorem accepted_value_iff {v : Value} : Accepted us (.value v) ↔ us = [] :=
  (accepted_iff_of_not_dotted (by simp) (by simp)).trans standard_value_iff

theorem accepted_header_iff :
    Accepted us .header ↔ us = [] ∨ us.head? = some .above ∧ .header ∉ us :=
  (accepted_iff_of_not_dotted (by simp) (by simp)).trans standard_header_iff

theorem accepted_member_iff : Accepted us .member ↔ us = [] ∨ us.head? = some .member :=
  (accepted_iff_of_not_dotted (by simp) (by simp)).trans standard_member_iff

theorem accepted_above_iff : Accepted us .above ↔ ∀ v, us.head? ≠ some (.value v) :=
  (accepted_iff_of_not_dotted (by simp) (by simp)).trans standard_above_iff

theorem accepted_through_iff : Accepted us .through ↔ us = [] ∨ us.head? = some .member ∨
    us.head? = some .through ∨ us.head? = some .above ∧ .header ∉ us := by
  simp [Accepted, standard_through_iff, or_comm, or_left_comm]

theorem accepted_into_iff : Accepted us .into ↔ us.head? = some .through := by
  simp only [Accepted, standard_into_iff, reduceCtorEq, false_and, or_false, true_and]
  constructor
  · exact fun ⟨h, hne⟩ => h.resolve_right fun ⟨habove, _⟩ => hne habove
  · exact fun h => ⟨.inl h, by simp [h]⟩

end

theorem KindOf.accepted_header_iff {us : List Use} {kind : TableKind} (h : KindOf us kind) :
    Accepted us .header ↔ kind = .implied := by
  rw [Grammar.accepted_header_iff]
  cases h <;> simp_all

/-! ### Where the rules agree -/

/-- Scripts that mention places in some ways only. -/
def Only (P : Use → Prop) (s : Script) : Prop :=
  ∀ ms, ∀ m ∈ s ms, P m.use

namespace Only

variable {P : Use → Prop} {f g : Script}

theorem say {p : Place} {u : Use} (hu : P u) : Only P (say ⟨p, u⟩) :=
  fun _ => List.forall_mem_singleton.2 hu

theorem andThen (hf : Only P f) (hg : Only P g) : Only P (f.andThen g) :=
  fun ms => List.forall_mem_append.2 ⟨hf ms, hg _⟩

theorem all {l : List Script} (h : ∀ f ∈ l, Only P f) : Only P (all l) := by
  induction l with
  | nil => exact fun _ _ hm => absurd hm List.not_mem_nil
  | cons f l ih =>
    obtain ⟨hf, hl⟩ := List.forall_mem_cons.1 h
    exact hf.andThen (ih hl)

theorem within {k : String} (hf : Only P f) : Only P (within k f) := by
  intro ms m hm
  obtain ⟨m', hm', rfl⟩ := List.mem_map.1 hm
  exact hf _ m' hm'

theorem along {u : Use} (hu : P u) (hf : Only P f) (path : List String) :
    Only P (along u f path) := by
  induction path with
  | nil => exact hf
  | cons k ks ih => exact (say hu).andThen ih.within

theorem assignmentScript {a : Assignment} (hthrough : P .through) (hinto : P .into)
    (hvalue : P (.value a.value)) : Only P (assignmentScript a) := by
  unfold Grammar.assignmentScript
  split
  · exact say hvalue
  · exact along hthrough ((say hinto).andThen (say hvalue)) _

theorem sectionScript {s : Section} (hthrough : P .through) (hinto : P .into) (habove : P .above)
    (hheader : P .header) (hmember : P .member) (hvalue : ∀ a ∈ s.body, P (.value a.value)) :
    Only P (sectionScript s) := by
  refine along habove (andThen ?_ (within (all fun f hf => ?_))) _
  · unfold openScript
    split
    · exact (say hmember).andThen (say hheader).within
    · exact say hheader
  · obtain ⟨a, ha, rfl⟩ := List.mem_map.1 hf
    exact assignmentScript hthrough hinto (hvalue a ha)

end Only

/-- Without headers and arrays of tables, the reader has the rules of the language. -/
theorem accepted_iff_standard {us : List Use} (habove : .above ∉ us) (hmember : .member ∉ us)
    {u : Use} : Accepted us u ↔ Standard us u := by
  constructor
  · rintro (⟨h, -⟩ | ⟨-, h⟩)
    · exact h
    · exact absurd (List.mem_of_mem_head? h) hmember
  · exact fun h => .inl ⟨h, fun ⟨_, hhead⟩ => habove (List.mem_of_mem_head? hhead)⟩

/-- Uses of assignments. -/
def Use.Plain (u : Use) : Prop :=
  u ≠ .above ∧ u ≠ .member

theorem allowed_iff_standard {ms l : List Mention} (hms : ∀ m ∈ ms, m.use.Plain)
    (hl : ∀ m ∈ l, m.use.Plain) : Allowed Accepted ms l ↔ Allowed Standard ms l := by
  induction l generalizing ms with
  | nil => exact .rfl
  | cons m l ih =>
    obtain ⟨hm, hl⟩ := List.forall_mem_cons.1 hl
    have huses (u : Use) (hu : u ∈ uses (view m.place ms)) : u.Plain := by
      obtain ⟨m', hm', rfl⟩ := exists_of_mem_uses hu
      obtain ⟨m'', hm'', heq⟩ := exists_of_mem_view hm'
      exact heq ▸ hms m'' hm''
    have hrest := ih (List.forall_mem_append.2 ⟨hms, List.forall_mem_singleton.2 hm⟩) hl
    exact and_congr (accepted_iff_standard (fun h => (huses _ h).1 rfl)
      fun h => (huses _ h).2 rfl) hrest

end BuiltinLink.Toml.Grammar
