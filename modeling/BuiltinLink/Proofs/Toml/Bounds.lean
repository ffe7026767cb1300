import BuiltinLink.Proofs.Toml.Grammar

/-!
How far the bounds of the grammar matter. Each level of arrays or braces begins with a bracket or a
brace, and each part of a key but the last has a dot behind it. So a text with few of these
characters is a document within narrow bounds, if it is one within any.
-/

namespace BuiltinLink.Toml.Grammar

/-- Characters that values need to nest, and keys to have more parts. -/
def nests (c : Char) : Bool :=
  c ∈ ['[', '\x7b', '.']

theorem KeyPath.length_le {ks : List String} {t : List Char} (h : KeyPath ks t) :
    ks.length ≤ t.countP nests + 1 := by
  induction h with
  | last => simp
  | dot _ _ _ _ ih =>
    have hdot : nests '.' := by decide
    simp only [List.length_cons, List.countP_append, List.countP_cons, hdot, if_true]
    omega

theorem valueText_of_scalar {parts depth : Nat} {v : Value} {t : List Char} (h : Scalar v t) :
    ValueText parts depth v t := by
  cases depth with
  | zero => exact h
  | succ depth => exact .inl h

section

variable {P Q : Value → List Char → Prop} {n : Nat}
  (hPQ : ∀ {v t}, P v t → t.countP nests ≤ n → Q v t)

include hPQ

theorem Items.narrow {vs : List Value} {t : List Char} (h : Items P vs t)
    (ht : t.countP nests ≤ n) : Items Q vs t := by
  induction h with
  | nil hf => exact .nil hf
  | last hf hv hg =>
    simp only [List.countP_append] at ht
    exact .last hf (hPQ hv (by omega)) hg
  | comma hf hv hg _ ih =>
    simp only [List.countP_append, List.countP_cons] at ht
    exact .comma hf (hPQ hv (by omega)) hg (ih (by omega))

theorem Pair.narrow {parts parts' : Nat} {a : Assignment} {t : List Char} (h : Pair parts P a t)
    (ht : t.countP nests ≤ n) (hparts : n < parts') : Pair parts' Q a t := by
  obtain ⟨k, b, u, hk, -, hb, hu, rfl⟩ := h
  have hlength := hk.length_le
  rw [List.length_append, List.length_singleton] at hlength
  simp only [List.countP_append, List.countP_cons] at ht
  exact ⟨k, b, u, hk, by omega, hb, hPQ hu (by omega), rfl⟩

theorem Pairs.narrow {parts parts' : Nat} {l : List Assignment} {t : List Char}
    (h : Pairs parts P l t) (ht : t.countP nests ≤ n) (hparts : n < parts') :
    Pairs parts' Q l t := by
  induction h with
  | last hp hb =>
    rw [List.countP_append] at ht
    exact .last (hp.narrow hPQ (by omega) hparts) hb
  | comma hp hb _ ih =>
    simp only [List.countP_append, List.countP_cons] at ht
    exact .comma (hp.narrow hPQ (by omega) hparts) hb (ih (by omega))

end

theorem ValueText.narrow {parts parts' depth depth' : Nat} {v : Value} {t : List Char}
    (h : ValueText parts depth v t) (hparts : t.countP nests < parts')
    (hdepth : t.countP nests ≤ depth') : ValueText parts' depth' v t := by
  induction depth generalizing depth' v t with
  | zero => exact valueText_of_scalar h
  | succ depth ih =>
    have hopen {o c : Char} {u : List Char} (ho : nests o) (ht : t = o :: (u ++ [c])) :
        ∃ d, depth' = d + 1 ∧ u.countP nests ≤ d ∧ u.countP nests < parts' := by
      subst ht
      simp only [List.countP_cons, List.countP_append, ho, if_true] at hparts hdepth
      exact ⟨depth' - 1, by omega, by omega, by omega⟩
    rcases h with h | ⟨vs, u, rfl, rfl, hu⟩ | ⟨u, rfl, hu⟩
    · exact valueText_of_scalar h
    · obtain ⟨d, rfl, hd, hlt⟩ := hopen (by decide) rfl
      exact .inr (.inl ⟨vs, u, rfl, rfl,
        hu.narrow (fun h hle => ih h (by omega) (by omega)) (Nat.le_refl _)⟩)
    · obtain ⟨d, rfl, hd, hlt⟩ := hopen (by decide) rfl
      refine .inr (.inr ⟨u, rfl, hu.imp_right fun ⟨l, es, hl, hes, hv⟩ => ⟨l, es, ?_, hes, hv⟩⟩)
      exact hl.narrow (fun h hle => ih h (by omega) (by omega)) (Nat.le_refl _) hlt

section

variable {parts parts' depth depth' : Nat} {t : List Char}

theorem LineText.narrow {l : Line} (h : LineText parts depth l t) (hparts : t.countP nests < parts')
    (hdepth : t.countP nests ≤ depth') : LineText parts' depth' l t := by
  have hkey {path : List String} {key : String} {k : List Char} (hk : KeyPath (path ++ [key]) k)
      (hle : k.countP nests < parts') : path.length + 1 ≤ parts' := by
    have hlength := hk.length_le
    rw [List.length_append, List.length_singleton] at hlength
    omega
  cases h with
  | assignment h =>
    exact .assignment
      (h.narrow (fun h hle => h.narrow (by omega) (by omega)) (Nat.le_refl _) hparts)
  | header hk =>
    simp only [List.countP_cons, List.countP_append] at hparts
    exact .header hk (hkey hk (by omega))
  | member hk =>
    simp only [List.countP_cons, List.countP_append] at hparts
    exact .member hk (hkey hk (by omega))

theorem Expression.narrow {l : Option Line} (h : Expression parts depth l t)
    (hparts : t.countP nests < parts') (hdepth : t.countP nests ≤ depth') :
    Expression parts' depth' l t := by
  cases h with
  | empty hb hc => exact .empty hb hc
  | line hb ht hb' hc =>
    simp only [List.countP_append] at hparts hdepth
    exact .line hb (ht.narrow (by omega) (by omega)) hb' hc

theorem Lines.narrow {ls : List Line} (h : Lines parts depth ls t)
    (hparts : t.countP nests < parts') (hdepth : t.countP nests ≤ depth') :
    Lines parts' depth' ls t := by
  induction h with
  | last ht => exact .last (ht.narrow hparts hdepth)
  | newline ht he _ ih =>
    simp only [List.countP_append] at hparts hdepth
    exact .newline (ht.narrow (by omega) (by omega)) he (ih (by omega) (by omega))

/-- A text with few brackets, braces and dots is a document within narrow bounds or not at all. -/
theorem DocumentText.narrow {rules : List Use → Use → Prop} {es : Entries} {s : List Char}
    (h : DocumentText rules parts depth es s) (hparts : s.countP nests < parts')
    (hdepth : s.countP nests ≤ depth') : DocumentText rules parts' depth' es s := by
  obtain ⟨ls, t, hs, ht, hes⟩ := h
  have hcount : t.countP nests = s.countP nests := by
    rcases hs with rfl | rfl
    · rfl
    · have hmark : nests '\ufeff' = false := by decide
      rw [List.countP_cons_of_neg (by simp [hmark])]
  exact ⟨ls, t, hs, ht.narrow (by omega) (by omega), hes⟩

end

end BuiltinLink.Toml.Grammar
