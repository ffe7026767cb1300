import BuiltinLink.Proofs.Toml.Entries
import BuiltinLink.Proofs.Toml.Positions

/-!
The order of the keys of a document. A line puts a key that is new to a table behind those that are
there, so the keys of each table stand in the order in which they appear first. The exception are
tables that were only implied by longer headers at first: a header of their own moves them to its
place.
-/

namespace BuiltinLink.Toml

/-- The keys of the table at a position, in order. -/
def keysAt : Position → Value → List String
  | [], .table _ es => es.map Prod.fst
  | .value k :: p, .table _ es => (es.lookup k).elim [] (keysAt p)
  | .item i :: p, .array _ items => (items[i]?).elim [] (keysAt p)
  | _, _ => []

theorem keysAt_table (p : Position) (kind kind' : TableKind) (es : Entries) :
    keysAt p (.table kind es) = keysAt p (.table kind' es) := by
  match p with
  | [] | .value _ :: _ | .key _ :: _ | .item _ :: _ | .finish :: _ => rfl

/-- The keys on the way to a position. -/
def pathOf (p : Position) : List String :=
  p.filterMap fun
    | .value k => some k
    | _ => none

/-- In every table the keys of an earlier tree come first, in their order, apart from those whose
paths are listed as moved. The trees stand at the end of the path `base`. -/
def KeepsOrder (moved : List (List String)) (base : List String) (v v' : Value) : Prop :=
  ∀ p, ((keysAt p v).filter fun k => base ++ pathOf p ++ [k] ∉ moved) <+:
    (keysAt p v').filter fun k => base ++ pathOf p ++ [k] ∉ moved

namespace KeepsOrder

variable {moved : List (List String)} {base : List String}

theorem refl (v : Value) : KeepsOrder moved base v v :=
  fun _ => List.prefix_rfl

theorem trans {v₁ v₂ v₃ : Value} (h₁ : KeepsOrder moved base v₁ v₂)
    (h₂ : KeepsOrder moved base v₂ v₃) : KeepsOrder moved base v₁ v₃ :=
  fun p => (h₁ p).trans (h₂ p)

/-- Tables keep their order if their keys do and the values under their keys do. -/
theorem table {kind kind' : TableKind} {es es' : Entries}
    (hkeys : ((es.map Prod.fst).filter fun k => base ++ [k] ∉ moved) <+:
      (es'.map Prod.fst).filter fun k => base ++ [k] ∉ moved)
    (hvalues : ∀ k v, es.lookup k = some v →
      ∃ v', es'.lookup k = some v' ∧ KeepsOrder moved (base ++ [k]) v v') :
    KeepsOrder moved base (.table kind es) (.table kind' es') := by
  intro p
  match p with
  | [] => simpa [keysAt, pathOf] using hkeys
  | .value k :: p =>
    simp only [keysAt]
    cases hv : es.lookup k with
    | none => exact List.nil_prefix
    | some v =>
      obtain ⟨v', hv', h⟩ := hvalues k v hv
      have hpath : ∀ k', base ++ pathOf (.value k :: p) ++ [k'] =
          base ++ [k] ++ pathOf p ++ [k'] := by
        simp [pathOf]
      simp only [hv', Option.elim_some, hpath]
      exact h p
  | .key _ :: _ | .item _ :: _ | .finish :: _ => exact List.nil_prefix

theorem array {kind kind' : ArrayKind} {items items' : List Value}
    (h : ∀ (i : Nat) v, items[i]? = some v →
      ∃ v', items'[i]? = some v' ∧ KeepsOrder moved base v v') :
    KeepsOrder moved base (.array kind items) (.array kind' items') := by
  intro p
  match p with
  | .item i :: p =>
    simp only [keysAt]
    cases hv : items[i]? with
    | none => exact List.nil_prefix
    | some v =>
      obtain ⟨v', hv', h⟩ := h i v hv
      rw [hv']
      exact h p
  | [] | .key _ :: _ | .value _ :: _ | .finish :: _ => exact List.nil_prefix

/-- Whether a table was written under a header does not matter for its order. -/
theorem of_table {kind₁ kind₂ kind₁' kind₂' : TableKind} {es es' : Entries}
    (h : KeepsOrder moved base (.table kind₁ es) (.table kind₁' es')) :
    KeepsOrder moved base (.table kind₂ es) (.table kind₂' es') := by
  intro p
  rw [keysAt_table p kind₂ kind₁, keysAt_table p kind₂' kind₁']
  exact h p

end KeepsOrder

namespace KeepsOrder

variable {moved : List (List String)} {base : List String}

/-- A key that is new stands behind the others. -/
theorem concat {kind kind' : TableKind} (es : Entries) (k : String) (v : Value) :
    KeepsOrder moved base (.table kind es) (.table kind' (es ++ [(k, v)])) := by
  refine table ?_ fun k' v' hv' => ⟨v', Entries.lookup_append_of_some hv' _, refl v'⟩
  rw [List.map_append, List.filter_append]
  exact List.prefix_append _ _

theorem replace {kind kind' : TableKind} {es : Entries} {k : String} {v v' : Value}
    (hv : es.lookup k = some v) (h : KeepsOrder moved (base ++ [k]) v v') :
    KeepsOrder moved base (.table kind es) (.table kind' (es.replace k v')) := by
  refine table ?_ fun k' w hw => ?_
  · simp only [Entries.keys_replace, List.prefix_rfl]
  · by_cases hk : k' = k
    · subst hk
      cases hv.symm.trans hw
      exact ⟨v', Entries.lookup_replace_self hv v', h⟩
    · exact ⟨w, (Entries.lookup_replace_of_ne es hk v').trans hw, refl w⟩

/-- If the second of two values under a key goes on from the first, so does its table. -/
theorem replace_replace {kind kind' : TableKind} {es : Entries} {k : String} {w v v' : Value}
    (hw : es.lookup k = some w) (h : KeepsOrder moved (base ++ [k]) v v') :
    KeepsOrder moved base (.table kind (es.replace k v)) (.table kind' (es.replace k v')) := by
  rw [← Entries.replace_replace es k v v']
  exact replace (Entries.lookup_replace_self hw v) h

theorem concat_concat {kind kind' : TableKind} {es : Entries} {k : String} {v v' : Value}
    (hk : es.lookup k = none) (h : KeepsOrder moved (base ++ [k]) v v') :
    KeepsOrder moved base (.table kind (es ++ [(k, v)])) (.table kind' (es ++ [(k, v')])) := by
  have hself : List.lookup k (es ++ [(k, v)]) = some v := by simp [List.lookup_append, hk]
  rw [← Entries.replace_concat hk v v']
  exact replace hself h

/-- A key that has moved stands behind the others, and its value goes on from where it was. -/
theorem move {kind kind' : TableKind} {es : Entries} {k : String} {v v' : Value}
    (hmoved : base ++ [k] ∈ moved) (hv : es.lookup k = some v)
    (h : KeepsOrder moved (base ++ [k]) v v') :
    KeepsOrder moved base (.table kind es) (.table kind' (es.erase k ++ [(k, v')])) := by
  refine table ?_ fun k' w hw => ?_
  · have hother : ((es.erase k).map Prod.fst).filter (fun k' => base ++ [k'] ∉ moved) =
        (es.map Prod.fst).filter fun k' => base ++ [k'] ∉ moved := by
      rw [Entries.erase, List.filter_map, List.filter_map, List.filter_filter]
      refine congrArg _ (List.filter_congr fun e _ => ?_)
      by_cases hk : e.1 = k
      · simp [hk, hmoved]
      · simp [hk]
    rw [List.map_append, List.filter_append, hother]
    exact List.prefix_append _ _
  · by_cases hk : k' = k
    · subst hk
      cases hv.symm.trans hw
      exact ⟨v', by simp [List.lookup_append, Entries.lookup_erase], h⟩
    · refine ⟨w, Entries.lookup_append_of_some ?_ _, refl w⟩
      exact (Entries.lookup_erase_of_ne es hk).trans hw

/-- The last item of an array is the one that may grow. -/
theorem last {kind kind' : ArrayKind} {items : List Value} {v v' : Value}
    (hv : items.getLast? = some v) (h : KeepsOrder moved base v v') :
    KeepsOrder moved base (.array kind items) (.array kind' (items.dropLast ++ [v'])) := by
  obtain ⟨l, rfl⟩ := List.getLast?_eq_some_iff.1 hv
  refine array fun i w hw => ?_
  rw [List.dropLast_concat]
  by_cases hi : i < l.length
  · rw [List.getElem?_append_left hi] at hw ⊢
    exact ⟨w, hw, refl w⟩
  · rw [List.getElem?_append_right (Nat.le_of_not_lt hi)] at hw ⊢
    obtain ⟨hzero, rfl⟩ : i - l.length = 0 ∧ v = w := by
      cases hsub : i - l.length with
      | zero =>
        rw [hsub] at hw
        exact ⟨rfl, Option.some.inj hw⟩
      | succ n =>
        rw [hsub] at hw
        cases hw
    rw [hzero]
    exact ⟨v', rfl, h⟩

theorem last_concat (kind kind' : TableKind) (l : List Value) {es es' : Entries}
    (h : KeepsOrder moved base (.table .headed es) (.table .headed es')) :
    KeepsOrder moved base (.array .headed (l ++ [.table kind es]))
      (.array .headed (l ++ [.table kind' es'])) := by
  have hlast : (l ++ [Value.table kind es]).getLast? = some (.table kind es) := by simp
  have h' : KeepsOrder moved base (.array .headed (l ++ [.table kind es])) (.array .headed _) :=
    last hlast (h.of_table : KeepsOrder moved base _ (.table kind' es'))
  rwa [List.dropLast_concat] at h'

theorem append_item {kind kind' : ArrayKind} (items : List Value) (v : Value) :
    KeepsOrder moved base (.array kind items) (.array kind' (items ++ [v])) := by
  refine array fun i w hw => ⟨w, ?_, refl w⟩
  have hi : i < items.length := (List.getElem?_eq_some_iff.1 hw).1
  rw [List.getElem?_append_left hi, hw]

end KeepsOrder

/-! ### Changes along a path -/

namespace Entries

section alter

variable {fresh : TableKind} {enters : TableKind → Bool}
  {change change' : TableKind → Entries → Option Entries} {moved : List (List String)}
  {base : List String}

/-- A change that keeps the order of the table at the end of a path keeps it everywhere. -/
theorem keepsOrder_alter {path : List String} {kind : TableKind} {es es' : Entries}
    (hchange : ∀ {kind es es'}, change kind es = some es' →
      KeepsOrder moved (base ++ path) (.table .headed es) (.table .headed es'))
    (h : alter fresh enters change path kind es = some es') :
    KeepsOrder moved base (.table .headed es) (.table .headed es') := by
  induction path generalizing kind es es' base with
  | nil => simpa using hchange h
  | cons k ks ih =>
    have hchange' : ∀ {kind es es'}, change kind es = some es' →
        KeepsOrder moved (base ++ [k] ++ ks) (.table .headed es) (.table .headed es') := by
      intro kind es es' h
      rw [List.append_assoc]
      exact hchange h
    rcases alter_cons_cases h with hk | ⟨kind', sub, hk, henters⟩ | ⟨items, kind', sub, hk, hlast⟩
    · rw [alter_of_none hk] at h
      obtain ⟨sub, -, rfl⟩ := Option.map_eq_some_iff.1 h
      exact .concat es k _
    · rw [alter_of_table hk henters] at h
      obtain ⟨sub', hsub, rfl⟩ := Option.map_eq_some_iff.1 h
      exact .replace hk (ih hchange' hsub).of_table
    · rw [alter_of_array hk hlast] at h
      obtain ⟨sub', hsub, rfl⟩ := Option.map_eq_some_iff.1 h
      exact .replace hk (.last hlast (ih hchange' hsub).of_table)

/-- If of two changes of one table the second goes on from the first, it does so everywhere. -/
theorem keepsOrder_alter_alter {path : List String} {kind : TableKind} {es es₁ es₂ : Entries}
    (hchange : ∀ {kind es es₁ es₂}, change kind es = some es₁ → change' kind es = some es₂ →
      KeepsOrder moved (base ++ path) (.table .headed es₁) (.table .headed es₂))
    (h₁ : alter fresh enters change path kind es = some es₁)
    (h₂ : alter fresh enters change' path kind es = some es₂) :
    KeepsOrder moved base (.table .headed es₁) (.table .headed es₂) := by
  induction path generalizing kind es es₁ es₂ base with
  | nil => simpa using hchange h₁ h₂
  | cons k ks ih =>
    have hchange' : ∀ {kind es es₁ es₂}, change kind es = some es₁ → change' kind es = some es₂ →
        KeepsOrder moved (base ++ [k] ++ ks) (.table .headed es₁) (.table .headed es₂) := by
      intro kind es es₁ es₂ h₁ h₂
      rw [List.append_assoc]
      exact hchange h₁ h₂
    rcases alter_cons_cases h₁ with hk | ⟨kind', sub, hk, henters⟩ | ⟨items, kind', sub, hk, hlast⟩
    · rw [alter_of_none hk] at h₁ h₂
      obtain ⟨sub₁, hsub₁, rfl⟩ := Option.map_eq_some_iff.1 h₁
      obtain ⟨sub₂, hsub₂, rfl⟩ := Option.map_eq_some_iff.1 h₂
      exact .concat_concat hk (ih hchange' hsub₁ hsub₂).of_table
    · rw [alter_of_table hk henters] at h₁ h₂
      obtain ⟨sub₁, hsub₁, rfl⟩ := Option.map_eq_some_iff.1 h₁
      obtain ⟨sub₂, hsub₂, rfl⟩ := Option.map_eq_some_iff.1 h₂
      exact .replace_replace hk (ih hchange' hsub₁ hsub₂).of_table
    · rw [alter_of_array hk hlast] at h₁ h₂
      obtain ⟨sub₁, hsub₁, rfl⟩ := Option.map_eq_some_iff.1 h₁
      obtain ⟨sub₂, hsub₂, rfl⟩ := Option.map_eq_some_iff.1 h₂
      exact .replace_replace hk (.last_concat _ _ _ (ih hchange' hsub₁ hsub₂))

/-- A change is made in a table at the end of its path. -/
theorem exists_position_alter {path : List String} {kind : TableKind} {es es' : Entries}
    (h : alter fresh enters change path kind es = some es') :
    ∃ p kind' sub sub', pathOf p = path ∧ change kind' sub = some sub' ∧
      keysAt p (.table .headed es') = sub'.map Prod.fst := by
  induction path generalizing kind es es' with
  | nil => exact ⟨[], kind, es, es', rfl, h, rfl⟩
  | cons k ks ih =>
    rcases alter_cons_cases h with hk | ⟨kind', sub, hk, henters⟩ | ⟨items, kind', sub, hk, hlast⟩
    · rw [alter_of_none hk] at h
      obtain ⟨sub, hsub, rfl⟩ := Option.map_eq_some_iff.1 h
      obtain ⟨p, kind₀, es₀, es₀', rfl, hchange, hkeys⟩ := ih hsub
      refine ⟨.value k :: p, kind₀, es₀, es₀', rfl, hchange, ?_⟩
      rw [← hkeys, keysAt_table p .headed fresh]
      simp [keysAt, List.lookup_append, hk]
    · rw [alter_of_table hk henters] at h
      obtain ⟨sub, hsub, rfl⟩ := Option.map_eq_some_iff.1 h
      obtain ⟨p, kind₀, es₀, es₀', rfl, hchange, hkeys⟩ := ih hsub
      refine ⟨.value k :: p, kind₀, es₀, es₀', rfl, hchange, ?_⟩
      rw [← hkeys, keysAt_table p .headed kind']
      simp [keysAt, lookup_replace_self hk]
    · rw [alter_of_array hk hlast] at h
      obtain ⟨sub, hsub, rfl⟩ := Option.map_eq_some_iff.1 h
      obtain ⟨p, kind₀, es₀, es₀', rfl, hchange, hkeys⟩ := ih hsub
      refine ⟨.value k :: .item items.dropLast.length :: p, kind₀, es₀, es₀', rfl, hchange, ?_⟩
      rw [← hkeys, keysAt_table p .headed kind']
      simp only [keysAt, lookup_replace_self hk, Option.elim_some, List.getElem?_concat_length]

end alter

theorem keepsOrder_assign {kind : TableKind} {es es' : Entries} {a : Assignment}
    (h : assign kind es a = some es') (moved : List (List String)) (base : List String) :
    KeepsOrder moved base (.table .headed es) (.table .headed es') := by
  refine keepsOrder_alter (fun h => ?_) h
  split at h
  · cases h
    exact .concat _ _ _
  · cases h

theorem keepsOrder_assignAll {kind : TableKind} {es es' : Entries} {l : List Assignment}
    (h : assignAll kind es l = some es') (moved : List (List String)) (base : List String) :
    KeepsOrder moved base (.table .headed es) (.table .headed es') := by
  induction l generalizing es with
  | nil =>
    cases h
    exact .refl _
  | cons a l ih =>
    obtain ⟨es₁, h₁, h⟩ := Option.bind_eq_some_iff.1 h
    exact (keepsOrder_assign h₁ moved base).trans (ih h)

end Entries

/-- Between braces, too, further assignments go on from those before them. -/
theorem keepsOrder_inlineTable? {l l' : List Assignment} {v v' : Value}
    (h : inlineTable? l = some v) (h' : inlineTable? (l ++ l') = some v') :
    KeepsOrder [] [] v v' := by
  obtain ⟨es, hes, rfl⟩ := Option.map_eq_some_iff.1 h
  obtain ⟨es', hes', rfl⟩ := Option.map_eq_some_iff.1 h'
  obtain ⟨es₁, hes₁, hes'⟩ := Entries.assignAll_append.1 hes'
  cases hes.symm.trans hes₁
  exact (Entries.keepsOrder_assignAll hes' [] []).of_table

/-! ### Sections -/

namespace Header

variable {h : Header} {body : List Assignment} {es es' sub : Entries} {items : List Value}

/-- The key of a table that gets a header of its own stands last. -/
theorem getLast?_place? (hp : h.place? body es = some es') (hm : h.member = false) :
    (es'.map Prod.fst).getLast? = some h.key := by
  rcases place?_cases hp with hk | ⟨htrue, -⟩ | ⟨-, sub, hk⟩
  · rw [place?_of_none hk] at hp
    obtain ⟨t, -, rfl⟩ := Option.map_eq_some_iff.1 hp
    simp
  · rw [hm] at htrue
    cases htrue
  · rw [place?_of_implied hm hk] at hp
    obtain ⟨t, -, rfl⟩ := Option.map_eq_some_iff.1 hp
    simp

variable {moved : List (List String)} {base : List String}

theorem keepsOrder_place? (hmoved : h.member = false → base ++ [h.key] ∈ moved)
    (hp : h.place? body es = some es') :
    KeepsOrder moved base (.table .headed es) (.table .headed es') := by
  rcases place?_cases hp with hk | ⟨hm, items, hk⟩ | ⟨hm, sub, hk⟩
  · rw [place?_of_none hk] at hp
    obtain ⟨t, -, rfl⟩ := Option.map_eq_some_iff.1 hp
    exact .concat _ _ _
  · rw [place?_of_array hm hk] at hp
    obtain ⟨t, -, rfl⟩ := Option.map_eq_some_iff.1 hp
    exact .replace hk (.append_item items _)
  · rw [place?_of_implied hm hk] at hp
    obtain ⟨t, ht, rfl⟩ := Option.map_eq_some_iff.1 hp
    exact .move (hmoved hm) hk (Entries.keepsOrder_assignAll ht moved _).of_table

/-- Further assignments below a header go on from those before them. -/
theorem keepsOrder_place?_append {l l' : List Assignment} {es₁ es₂ : Entries}
    (h₁ : h.place? l es = some es₁) (h₂ : h.place? (l ++ l') es = some es₂) :
    KeepsOrder moved base (.table .headed es₁) (.table .headed es₂) := by
  have hbody : ∀ {sub t₁ t₂ : Entries}, Entries.assignAll .headed sub l = some t₁ →
      Entries.assignAll .headed sub (l ++ l') = some t₂ →
      KeepsOrder moved (base ++ [h.key]) (.table .headed t₁) (.table .headed t₂) := by
    intro sub t₁ t₂ ht₁ ht₂
    obtain ⟨t, ht, ht₂⟩ := Entries.assignAll_append.1 ht₂
    cases ht₁.symm.trans ht
    exact Entries.keepsOrder_assignAll ht₂ moved _
  rcases place?_cases h₁ with hk | ⟨hm, items, hk⟩ | ⟨hm, sub, hk⟩
  · rw [place?_of_none hk] at h₁ h₂
    obtain ⟨t₁, ht₁, rfl⟩ := Option.map_eq_some_iff.1 h₁
    obtain ⟨t₂, ht₂, rfl⟩ := Option.map_eq_some_iff.1 h₂
    refine .concat_concat hk ?_
    unfold opened
    split
    · exact .last_concat _ _ [] (hbody ht₁ ht₂)
    · exact hbody ht₁ ht₂
  · rw [place?_of_array hm hk] at h₁ h₂
    obtain ⟨t₁, ht₁, rfl⟩ := Option.map_eq_some_iff.1 h₁
    obtain ⟨t₂, ht₂, rfl⟩ := Option.map_eq_some_iff.1 h₂
    exact .replace_replace hk (.last_concat _ _ items (hbody ht₁ ht₂))
  · rw [place?_of_implied hm hk] at h₁ h₂
    obtain ⟨t₁, ht₁, rfl⟩ := Option.map_eq_some_iff.1 h₁
    obtain ⟨t₂, ht₂, rfl⟩ := Option.map_eq_some_iff.1 h₂
    exact .concat_concat (Entries.lookup_erase es h.key) (hbody ht₁ ht₂)

end Header

theorem Section.keepsOrder_addTo {s : Section} {root root' : Entries} {moved : List (List String)}
    (hmoved : s.header.member = false → s.header.path ++ [s.header.key] ∈ moved)
    (h : s.addTo root = some root') :
    KeepsOrder moved [] (.table .headed root) (.table .headed root') :=
  Entries.keepsOrder_alter (fun h => Header.keepsOrder_place? hmoved h) h

theorem Section.keepsOrder_addTo_append {h : Header} {l l' : List Assignment}
    {root root₁ root₂ : Entries} (moved : List (List String))
    (h₁ : addTo root ⟨h, l⟩ = some root₁) (h₂ : addTo root ⟨h, l ++ l'⟩ = some root₂) :
    KeepsOrder moved [] (.table .headed root₁) (.table .headed root₂) :=
  Entries.keepsOrder_alter_alter (fun h₁ h₂ => Header.keepsOrder_place?_append h₁ h₂) h₁ h₂

/-! ### Documents -/

namespace Document

/-- The paths of tables that get a header of their own. -/
def ownHeaders (ls : List Line) : List (List String) :=
  ls.filterMap fun
    | .header h => if h.member then none else some (h.path ++ [h.key])
    | .assignment _ => none

theorem mem_ownHeaders {ls : List Line} {s : Section} (hs : s ∈ (ofLines ls).sections)
    (hm : s.header.member = false) : s.header.path ++ [s.header.key] ∈ ownHeaders ls := by
  induction ls with
  | nil => exact absurd hs List.not_mem_nil
  | cons l ls ih =>
    cases l with
    | assignment a => exact ih hs
    | header h =>
      rcases List.mem_cons.1 hs with rfl | hs
      · exact List.mem_filterMap.2 ⟨.header h, List.mem_cons_self, by simp_all⟩
      · obtain ⟨l, hl, heq⟩ := List.mem_filterMap.1 (ih hs)
        exact List.mem_filterMap.2 ⟨l, List.mem_cons_of_mem _ hl, heq⟩

/-- Lines behind lines without a header go on with the assignments at the root. -/
theorem ofLines_append_of_nil {ls ls' : List Line} (h : (ofLines ls).sections = []) :
    ofLines (ls ++ ls') = ⟨(ofLines ls).root ++ (ofLines ls').root, (ofLines ls').sections⟩ := by
  induction ls with
  | nil => rfl
  | cons l ls ih =>
    cases l with
    | assignment a =>
      rw [List.cons_append, ofLines, ih h]
      rfl
    | header => cases h

/-- Lines behind others go on with the last of their sections. -/
theorem ofLines_append_of_concat {ls ls' : List Line} {l : List Section} {s : Section}
    (h : (ofLines ls).sections = l ++ [s]) :
    ofLines (ls ++ ls') = ⟨(ofLines ls).root,
      l ++ ⟨s.header, s.body ++ (ofLines ls').root⟩ :: (ofLines ls').sections⟩ := by
  induction ls generalizing l with
  | nil => simp [ofLines] at h
  | cons line ls ih =>
    cases line with
    | assignment a =>
      rw [List.cons_append, ofLines, ih h]
      rfl
    | header hd =>
      rw [List.cons_append, ofLines]
      cases l with
      | nil =>
        obtain ⟨rfl, hnil⟩ := List.cons.inj h
        rw [ofLines_append_of_nil hnil]
        rfl
      | cons first l =>
        obtain ⟨rfl, hl⟩ := List.cons.inj h
        rw [ih hl]
        rfl

theorem keepsOrder_foldlM {moved : List (List String)} {l : List Section} {root root' : Entries}
    (hmoved : ∀ s ∈ l, s.header.member = false → s.header.path ++ [s.header.key] ∈ moved)
    (h : l.foldlM Section.addTo root = some root') :
    KeepsOrder moved [] (.table .headed root) (.table .headed root') := by
  induction l generalizing root with
  | nil =>
    cases h
    exact .refl _
  | cons s l ih =>
    obtain ⟨hs, hl⟩ := List.forall_mem_cons.1 hmoved
    obtain ⟨root₁, h₁, h⟩ := Option.bind_eq_some_iff.1 h
    exact (Section.keepsOrder_addTo hs h₁).trans (ih hl h)

/-- Lines put keys behind those that are there, but move tables that they give a header. -/
theorem keepsOrder_append {ls ls' : List Line} {es es' : Entries}
    (h : (ofLines ls).entries? = some es) (h' : (ofLines (ls ++ ls')).entries? = some es') :
    KeepsOrder (ownHeaders ls') [] (.table .headed es) (.table .headed es') := by
  have hrest : ∀ {root}, (ofLines ls').sections.foldlM Section.addTo root = some es' →
      KeepsOrder (ownHeaders ls') [] (.table .headed root) (.table .headed es') :=
    keepsOrder_foldlM fun s hs => mem_ownHeaders hs
  obtain ⟨root, hroot, h⟩ := Option.bind_eq_some_iff.1 h
  rcases List.eq_nil_or_concat (ofLines ls).sections with hnil | ⟨l, s, hl⟩
  · rw [ofLines_append_of_nil hnil] at h'
    rw [hnil] at h
    cases h
    obtain ⟨root', hroot', h'⟩ := Option.bind_eq_some_iff.1 h'
    obtain ⟨root₁, hroot₁, hroot'⟩ := Entries.assignAll_append.1 hroot'
    cases hroot.symm.trans hroot₁
    exact (Entries.keepsOrder_assignAll hroot' _ _).trans (hrest h')
  · rw [List.concat_eq_append] at hl
    rw [ofLines_append_of_concat hl] at h'
    obtain ⟨root', hroot', h'⟩ := Option.bind_eq_some_iff.1 h'
    cases hroot.symm.trans hroot'
    rw [hl, List.foldlM_append] at h
    rw [List.foldlM_append] at h'
    obtain ⟨before, hbefore, h⟩ := Option.bind_eq_some_iff.1 h
    obtain ⟨before', hbefore', h'⟩ := Option.bind_eq_some_iff.1 h'
    cases hbefore.symm.trans hbefore'
    obtain ⟨here, hhere, h⟩ := Option.bind_eq_some_iff.1 h
    obtain ⟨here', hhere', h'⟩ := Option.bind_eq_some_iff.1 h'
    cases h
    exact (Section.keepsOrder_addTo_append _ hhere hhere').trans (hrest h')

theorem ofLines_header (ls : List Line) (h : Header) : ofLines (ls ++ [.header h]) =
    ⟨(ofLines ls).root, (ofLines ls).sections ++ [⟨h, []⟩]⟩ := by
  induction ls with
  | nil => rfl
  | cons l ls ih => cases l <;> rw [List.cons_append, ofLines, ih] <;> rfl

/-- When a table gets a header of its own, its key stands last in the table above it. -/
theorem exists_position_header {ls : List Line} {h : Header} {es : Entries}
    (hes : (ofLines (ls ++ [.header h])).entries? = some es) (hm : h.member = false) :
    ∃ p, pathOf p = h.path ∧ (keysAt p (.table .headed es)).getLast? = some h.key := by
  rw [ofLines_header] at hes
  obtain ⟨root, -, hes⟩ := Option.bind_eq_some_iff.1 hes
  rw [List.foldlM_append] at hes
  obtain ⟨before, -, hes⟩ := Option.bind_eq_some_iff.1 hes
  obtain ⟨es', hadd, hes⟩ := Option.bind_eq_some_iff.1 hes
  cases hes
  obtain ⟨p, kind, sub, sub', hpath, hplace, hkeys⟩ := Entries.exists_position_alter hadd
  have hplace : h.place? [] sub = some sub' := hplace
  exact ⟨p, hpath, hkeys ▸ Header.getLast?_place? hplace hm⟩

end Document

end BuiltinLink.Toml
