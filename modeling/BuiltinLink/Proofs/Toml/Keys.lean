import BuiltinLink.Proofs.Toml.Layout
import BuiltinLink.Proofs.Toml.Strings

/-!
The readers of keys take exactly what the grammar of keys allows. A key goes on with characters of
bare keys, with blanks and with dots, so what stands behind one must begin with none of these.
-/

namespace BuiltinLink.Toml

open Grammar

/-! ### Simple keys -/

theorem exists_of_map_asString {o : Option (List Char × List Char)} {k : String} {r : List Char}
    (h : o.map asString = some (k, r)) : ∃ cs, o = some (cs, r) ∧ k = String.ofList cs := by
  obtain ⟨p, hp, hq⟩ := Option.map_eq_some_iff.1 h
  cases hq
  exact ⟨p.1, hp, rfl⟩

theorem simpleKey?_sound {s r : List Char} {k : String} (h : simpleKey? s = some (k, r)) :
    ∃ t, SimpleKey k t ∧ s = t ++ r := by
  revert h
  fun_cases simpleKey? s with
  | case1 =>
    intro h
    obtain ⟨cs, hcs, rfl⟩ := exists_of_map_asString h
    obtain ⟨t, ht, rfl⟩ := basic?_sound hcs
    exact ⟨_, .quoted .basic ht, by simp⟩
  | case2 =>
    intro h
    obtain ⟨cs, hcs, rfl⟩ := exists_of_map_asString h
    obtain ⟨t, ht, rfl⟩ := literal?_sound hcs
    exact ⟨_, .quoted .literal ht, by simp⟩
  | case3 c r' _ _ hc =>
    intro h
    cases h
    have hbare : ∀ d ∈ r'.takeWhile isBare, isBare d := List.all_eq_true.1 List.all_takeWhile
    refine ⟨c :: r'.takeWhile isBare,
      .bare (List.cons_ne_nil _ _) (List.forall_mem_cons.2 ⟨hc, hbare⟩), ?_⟩
    rw [List.cons_append, List.takeWhile_append_dropWhile]
  | case4 => intro h; cases h
  | case5 => intro h; cases h

theorem simpleKey?_append {k : String} {t r : List Char} (h : SimpleKey k t)
    (hr : ∀ c ∈ r.head?, isBare c = false) : simpleKey? (t ++ r) = some (k, r) := by
  cases h with
  | bare hne h =>
    obtain ⟨c, t, rfl⟩ := List.exists_cons_of_ne_nil hne
    obtain ⟨hc, ht⟩ := List.forall_mem_cons.1 h
    have hstop : r.takeWhile isBare = [] ∧ r.dropWhile isBare = r := by
      cases r with
      | nil => exact ⟨rfl, rfl⟩
      | cons d r =>
        have hd := hr d rfl
        exact ⟨List.takeWhile_cons_of_neg (by simp [hd]), List.dropWhile_cons_of_neg (by simp [hd])⟩
    rw [List.cons_append, simpleKey?.eq_3 _ _ (ne_of_holds hc (by decide))
      (ne_of_holds hc (by decide)), if_pos hc, List.takeWhile_append_of_pos ht,
      List.dropWhile_append_of_pos ht, hstop.1, hstop.2, List.append_nil]
  | quoted hq h =>
    rw [List.cons_append, List.append_assoc, List.singleton_append]
    cases hq with
    | basic => rw [simpleKey?.eq_1, basic?_append h]; rfl
    | literal => rw [simpleKey?.eq_2, literal?_append h]; rfl

/-- The characters that a key begins with. -/
def beginsKey (c : Char) : Bool :=
  isBare c || c == '"' || c == '\''

theorem isInk_of_beginsKey {c : Char} (h : beginsKey c) : isInk c :=
  isInk_of_holds h rfl

theorem Grammar.SimpleKey.exists_cons {k : String} {t : List Char} (h : SimpleKey k t) :
    ∃ c t', t = c :: t' ∧ beginsKey c := by
  cases h with
  | bare hne h =>
    obtain ⟨c, t, rfl⟩ := List.exists_cons_of_ne_nil hne
    refine ⟨c, t, rfl, ?_⟩
    unfold beginsKey
    rw [h c List.mem_cons_self]
    rfl
  | quoted hq => cases hq <;> exact ⟨_, _, rfl, by decide⟩

theorem Grammar.SimpleKey.skipBlanks {k : String} {t : List Char} (h : SimpleKey k t)
    (r : List Char) : skipBlanks (t ++ r) = t ++ r := by
  obtain ⟨c, t', rfl, hc⟩ := h.exists_cons
  exact skipBlanks_of_not_blank (isBlank_of_isInk (isInk_of_beginsKey hc)) _

/-! ### Paths of keys -/

theorem keyPath?_sound {s r : List Char} {ks : List String} (h : keyPath? s = some (ks, r)) :
    ∃ t, KeyPath ks t ∧ s = t ++ r := by
  fun_induction keyPath? s generalizing ks r with
  | case1 => cases h
  | case2 s k r₀ hk r' hr ih =>
    obtain ⟨p, hp, hq⟩ := Option.map_eq_some_iff.1 h
    cases hq
    obtain ⟨b, hb, hs, -⟩ := exists_blanks s
    obtain ⟨b', hb', hr₀, -⟩ := exists_blanks r₀
    obtain ⟨t, ht, hst⟩ := simpleKey?_sound hk
    obtain ⟨u, hu, hr'⟩ := ih hp
    refine ⟨_, .dot hb ht hb' hu, ?_⟩
    rw [hr] at hr₀
    rw [hs, hst, hr₀, hr']
    simp
  | case3 s k r₀ hk =>
    cases h
    obtain ⟨b, hb, hs, -⟩ := exists_blanks s
    obtain ⟨b', hb', hr₀, -⟩ := exists_blanks r₀
    obtain ⟨t, ht, hst⟩ := simpleKey?_sound hk
    refine ⟨_, .last hb ht hb', ?_⟩
    rw [List.append_assoc, List.append_assoc, ← hr₀, ← hst, ← hs]

/-- A text that does not go on with a key. -/
def FollowsKey (r : List Char) : Prop :=
  ∀ c ∈ r.head?, isBlank c = false ∧ isBare c = false ∧ c ≠ '.'

theorem followsKey_cons {c : Char} (h : isBlank c = false ∧ isBare c = false ∧ c ≠ '.')
    (r : List Char) : FollowsKey (c :: r) := by
  intro d hd
  cases hd
  exact h

theorem isBare_of_isBlank {c : Char} (h : isBlank c) : isBare c = false := by
  simp only [isBlank, Bool.or_eq_true, beq_iff_eq] at h
  obtain rfl | rfl := h <;> decide

theorem head_of_blanks {b r : List Char} (hb : Blanks b) (hr : ∀ c ∈ r.head?, isBare c = false) :
    ∀ c ∈ (b ++ r).head?, isBare c = false := by
  cases b with
  | nil => exact hr
  | cons d b =>
    intro c hc
    cases hc
    exact isBare_of_isBlank (hb d List.mem_cons_self)

theorem keyPath?_append {ks : List String} {t r : List Char} (h : KeyPath ks t)
    (hr : FollowsKey r) : keyPath? (t ++ r) = some (ks, r) := by
  induction h with
  | last hb ht hb' =>
    have hskip := skipBlanks_eq_self fun c hc => (hr c hc).1
    have hkey := simpleKey?_append ht (head_of_blanks hb' fun c hc => (hr c hc).2.1)
    rw [List.append_assoc, List.append_assoc, keyPath?_eq, skipBlanks_append hb, ht.skipBlanks,
      hkey]
    simp only [skipBlanks_append hb', hskip]
    split
    · exact absurd rfl (hr _ rfl).2.2
    · rfl
  | @dot b t b' u k ks hb ht hb' _ ih =>
    have hkey := simpleKey?_append ht (r := b' ++ '.' :: (u ++ r))
      (head_of_blanks hb' fun c hc => by cases hc; decide)
    rw [List.append_assoc, List.append_assoc, List.append_assoc, List.cons_append, keyPath?_eq,
      skipBlanks_append hb, ht.skipBlanks, hkey]
    simp only [skipBlanks_append hb', skipBlanks_of_not_blank (c := '.') rfl, ih, Option.map_some]

theorem blanks_append {b b' : List Char} (h : Blanks b) (h' : Blanks b') : Blanks (b ++ b') :=
  List.forall_mem_append.2 ⟨h, h'⟩

theorem Grammar.KeyPath.blanks {b t : List Char} {ks : List String} (hb : Blanks b)
    (h : KeyPath ks t) : KeyPath ks (b ++ t) := by
  cases h with
  | last hb₀ ht hb' =>
    rw [← List.append_assoc]
    exact .last (blanks_append hb hb₀) ht hb'
  | dot hb₀ ht hb' h =>
    rw [← List.append_assoc]
    exact .dot (blanks_append hb hb₀) ht hb' h

/-- The blanks before a path can be split off. -/
theorem Grammar.KeyPath.exists_blanks {t : List Char} {ks : List String} (h : KeyPath ks t) :
    ∃ b c u, Blanks b ∧ t = b ++ c :: u ∧ beginsKey c ∧ KeyPath ks (c :: u) := by
  cases h with
  | @last b _ _ _ hb ht hb' =>
    obtain ⟨c, t', rfl, hc⟩ := ht.exists_cons
    exact ⟨b, c, _, hb, rfl, hc, .last (b := []) (fun c hc => by cases hc) ht hb'⟩
  | @dot b _ _ _ _ _ hb ht hb' h =>
    obtain ⟨c, t', rfl, hc⟩ := ht.exists_cons
    exact ⟨b, c, _, hb, rfl, hc, .dot (b := []) (fun c hc => by cases hc) ht hb' h⟩

/-! ### Keys within bounds -/

theorem boundedKey?_sound {s r : List Char} {k : List String × String}
    (h : boundedKey? s = some (k, r)) :
    ∃ t, KeyPath (k.1 ++ [k.2]) t ∧ k.1.length + 1 < depthLimit ∧ s = t ++ r := by
  unfold boundedKey? at h
  split at h
  · rename_i ks r' hks
    split at h
    · rename_i hlt
      obtain ⟨l, hl, hq⟩ := Option.map_eq_some_iff.1 h
      cases hq
      obtain ⟨path, rfl⟩ := List.getLast?_eq_some_iff.1 hl
      obtain ⟨t, ht, hs⟩ := keyPath?_sound hks
      rw [List.length_append, List.length_singleton] at hlt
      rw [List.dropLast_concat]
      exact ⟨t, ht, hlt, hs⟩
    · cases h
  · cases h

theorem boundedKey?_append {path : List String} {key : String} {t r : List Char}
    (h : KeyPath (path ++ [key]) t) (hlt : path.length + 1 < depthLimit) (hr : FollowsKey r) :
    boundedKey? (t ++ r) = some ((path, key), r) := by
  unfold boundedKey?
  rw [keyPath?_append h hr]
  simp [hlt]

end BuiltinLink.Toml
