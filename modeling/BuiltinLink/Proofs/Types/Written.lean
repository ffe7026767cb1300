import BuiltinLink.Proofs.Text.Joined
import BuiltinLink.Types.Source

/-!
Which types and signatures are written alike. A written type determines the type except for the
variability of void, which does not show; a written signature determines the number of its
parameters, and each type in it as far as a written type does.
-/

namespace BuiltinLink

/-! ### Types -/

namespace SourceType

open Vocabulary

/-- The type with uniform void in place of varying void, wherever that occurs. -/
def settled : SourceType → SourceType
  | atomic .void _ => void
  | atomic k v => atomic k v
  | pointer t v => pointer t.settled v

theorem text_settled (t : SourceType) : t.settled.text = t.text := by
  induction t with
  | atomic k v => cases k <;> rfl
  | pointer t v ih => rw [settled, text, text, ih]

section

variable {k k' : AtomicKind} {v v' : Variability}

theorem toList_text_atomic (h : k ≠ .void) :
    (atomic k v).text.toList = (name v).toList ++ ' ' :: (name k).toList := by
  have htext : (atomic k v).text = name v ++ " " ++ name k := by
    cases k with
    | void => exact absurd rfl h
    | _ => rfl
  simp [htext]

theorem toList_text_pointer (t : SourceType) :
    (pointer t v).text.toList = t.text.toList ++ ([' ', '*', ' '] ++ (name v).toList) := by
  simp [text]

/-- Both names of variabilities are equally long. -/
theorem length_name (v : Variability) : (name v).toList.length = 7 := by
  cases v <;> decide

theorem isAlphanum_name_kind (k : AtomicKind) : ∀ c ∈ (name k).toList, c.isAlphanum := by
  rw [← List.all_eq_true]
  cases k <;> decide

theorem isAlphanum_name_variability (v : Variability) :
    ∀ c ∈ (name v).toList, c.isAlphanum := by
  rw [← List.all_eq_true]
  cases v <;> decide

theorem mem_text_atomic {c : Char} (h : c ∈ (atomic k v).text.toList) :
    c.isAlphanum ∨ c = ' ' := by
  by_cases hk : k = .void
  · subst hk
    exact .inl (isAlphanum_name_kind .void c h)
  · rw [toList_text_atomic hk, List.mem_append, List.mem_cons] at h
    rcases h with h | h | h
    · exact .inl (isAlphanum_name_variability v c h)
    · exact .inr h
    · exact .inl (isAlphanum_name_kind k c h)

/-- Only void is written without a blank. -/
theorem text_atomic_ne_void (h : k ≠ .void) : (atomic .void v).text ≠ (atomic k v').text := by
  intro heq
  have hblank : ' ' ∈ (atomic .void v).text.toList := by
    rw [heq, toList_text_atomic h]
    simp
  exact absurd (isAlphanum_name_kind .void ' ' hblank) (by decide)

theorem text_atomic_inj (h : (atomic k v).text = (atomic k' v').text) :
    (atomic k v).settled = (atomic k' v').settled := by
  by_cases hk : k = .void
  · subst hk
    by_cases hk' : k' = .void
    · subst hk'
      rfl
    · exact absurd h (text_atomic_ne_void hk')
  · by_cases hk' : k' = .void
    · subst hk'
      exact absurd h.symm (text_atomic_ne_void hk)
    · have hlist := congrArg String.toList h
      rw [toList_text_atomic hk, toList_text_atomic hk'] at hlist
      obtain ⟨hv, hrest⟩ :=
        List.append_inj hlist ((length_name v).trans (length_name v').symm)
      have hv : v = v' := name_injective v v' (String.toList_inj.1 hv)
      have hk : k = k' := name_injective k k' (String.toList_inj.1 (List.cons.inj hrest).2)
      rw [hv, hk]

/-- Only pointers are written with a star. -/
theorem text_pointer_ne_atomic (t : SourceType) : (pointer t v).text ≠ (atomic k v').text := by
  intro heq
  have hstar : '*' ∈ (atomic k v').text.toList := by
    rw [← heq, toList_text_pointer]
    simp
  exact absurd (mem_text_atomic hstar) (by decide)

end

theorem text_eq_iff {a b : SourceType} : a.text = b.text ↔ a.settled = b.settled := by
  refine ⟨fun h => ?_, fun h => by rw [← text_settled a, h, text_settled]⟩
  induction a generalizing b with
  | atomic k v =>
    cases b with
    | atomic k' v' => exact text_atomic_inj h
    | pointer t' v' => exact absurd h.symm (text_pointer_ne_atomic t')
  | pointer t v ih =>
    cases b with
    | atomic k' v' => exact absurd h (text_pointer_ne_atomic t)
    | pointer t' v' =>
      -- What follows the pointee is equally long in both texts, so it ends at the same place.
      have hlist := congrArg String.toList h
      rw [toList_text_pointer, toList_text_pointer] at hlist
      obtain ⟨ht, hv⟩ := List.append_inj' hlist (by simp [length_name])
      have hv := name_injective v v' (String.toList_inj.1 (List.append_cancel_left hv))
      rw [settled, settled, ih (String.toList_inj.1 ht), hv]

/-- The characters of written types: neither brackets nor commas. -/
def isTypeChar (c : Char) : Bool :=
  c.isAlphanum || c == ' ' || c == '*'

theorem isTypeChar_of_mem_text {t : SourceType} {c : Char} (h : c ∈ t.text.toList) :
    isTypeChar c = true := by
  induction t with
  | atomic k v => rcases mem_text_atomic h with h | h <;> simp [isTypeChar, h]
  | pointer t v ih =>
    rw [toList_text_pointer, List.mem_append, List.mem_append] at h
    rcases h with h | h | h
    · exact ih h
    · have hstar : [' ', '*', ' '].all isTypeChar = true := by decide
      exact List.all_eq_true.1 hstar c h
    · simp [isTypeChar, isAlphanum_name_variability v c h]

theorem toList_text_ne_nil (t : SourceType) : t.text.toList ≠ [] := by
  cases t with
  | atomic k v =>
    by_cases hk : k = .void
    · subst hk
      exact show "void".toList ≠ [] by decide
    · simp [toList_text_atomic hk]
  | pointer t v => simp [toList_text_pointer]

end SourceType

/-! ### Signatures -/

namespace Signature

theorem toList_text (f : Signature) :
    f.text.toList = f.result.text.toList ++ '(' ::
      ([',', ' '].intercalate (f.params.map fun t => t.text.toList) ++ [')']) := by
  simp [text, Function.comp_def]

theorem text_eq_iff {f g : Signature} :
    f.text = g.text ↔
      f.result.text = g.result.text ∧
        f.params.map SourceType.text = g.params.map SourceType.text := by
  constructor
  · intro h
    have hlist := congrArg String.toList h
    rw [toList_text, toList_text] at hlist
    have hopen (t : SourceType) : '(' ∉ t.text.toList := fun hmem =>
      absurd (SourceType.isTypeChar_of_mem_text hmem) (by decide)
    obtain ⟨hresult, hrest⟩ := Text.append_cons_inj (hopen f.result) (hopen g.result) hlist
    have hparts (l : List SourceType) :
        ∀ s ∈ l.map fun t => t.text.toList, s ≠ [] ∧ ',' ∉ s := by
      intro s hs
      obtain ⟨t, -, rfl⟩ := List.mem_map.1 hs
      exact ⟨t.toList_text_ne_nil, fun hmem =>
        absurd (SourceType.isTypeChar_of_mem_text hmem) (by decide)⟩
    have hparams := Text.intercalate_inj (hparts f.params) (hparts g.params)
      (List.append_cancel_right hrest)
    refine ⟨String.toList_inj.1 hresult, ?_⟩
    have hstrings := congrArg (List.map String.ofList) hparams
    simpa [Function.comp_def] using hstrings
  · rintro ⟨hresult, hparams⟩
    rw [text, text, hresult, hparams]

/-- Types are written alike iff they agree up to the variability of void, and signatures iff they
have equally many parameters and agree so type by type. -/
theorem written_apart :
    (∀ a b : SourceType, a.text = b.text ↔ a.settled = b.settled) ∧
    ∀ f g : Signature, f.text = g.text ↔
      f.arity = g.arity ∧ f.result.settled = g.result.settled ∧
        ∀ i (hf : i < f.params.length) (hg : i < g.params.length),
          f.params[i].settled = g.params[i].settled := by
  refine ⟨fun a b => SourceType.text_eq_iff, fun f g => ?_⟩
  rw [text_eq_iff, SourceType.text_eq_iff]
  constructor
  · rintro ⟨hresult, hparams⟩
    refine ⟨by simpa [arity] using congrArg List.length hparams, hresult, fun i hf hg => ?_⟩
    have hi : (f.params.map SourceType.text)[i]? = (g.params.map SourceType.text)[i]? := by
      rw [hparams]
    simp only [List.getElem?_map, List.getElem?_eq_getElem, hf, hg, Option.map_some,
      Option.some.injEq] at hi
    exact SourceType.text_eq_iff.1 hi
  · rintro ⟨harity, hresult, hparams⟩
    refine ⟨hresult, List.ext_getElem (by simpa [arity] using harity) fun i hf hg => ?_⟩
    rw [List.length_map] at hf hg
    rw [List.getElem_map, List.getElem_map]
    exact SourceType.text_eq_iff.2 (hparams i hf hg)

end Signature

end BuiltinLink
