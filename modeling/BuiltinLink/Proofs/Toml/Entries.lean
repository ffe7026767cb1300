import BuiltinLink.Proofs.Lookup
import BuiltinLink.Toml.Table

/-!
The tables of a document while they are built: what is found under a key after a change, and what a
change along a path and the header of a section do, case by case.
-/

namespace BuiltinLink.Toml

namespace Entries

theorem lookup_eq_none_iff {es : Entries} {k : String} :
    es.lookup k = none ↔ k ∉ es.map Prod.fst := by
  rw [List.lookup_eq_none_iff]
  simp only [List.mem_map, bne_iff_ne, not_exists, not_and]
  exact forall₂_congr fun e _ => ne_comm

theorem keys_replace (es : Entries) (k : String) (v : Value) :
    (es.replace k v).map Prod.fst = es.map Prod.fst := by
  unfold replace
  rw [List.map_map]
  refine List.map_congr_left fun e _ => ?_
  by_cases h : e.1 = k <;> simp [h]

theorem lookup_erase (es : Entries) (k : String) : (es.erase k).lookup k = none := by
  rw [lookup_eq_none_iff]
  intro h
  obtain ⟨e, he, hk⟩ := List.mem_map.1 h
  exact absurd hk (by simpa using (List.mem_filter.1 he).2)

theorem lookup_append_of_some {es : Entries} {k : String} {v : Value} (h : es.lookup k = some v)
    (r : Entries) : List.lookup k (es ++ r) = some v := by
  rw [List.lookup_append, h, Option.some_or]

theorem replace_cons (e : String × Value) (es : Entries) (k : String) (v : Value) :
    Entries.replace (e :: es) k v = (if e.1 = k then (k, v) else e) :: es.replace k v :=
  rfl

theorem erase_cons (e : String × Value) (es : Entries) (k : String) :
    Entries.erase (e :: es) k = if e.1 = k then es.erase k else e :: es.erase k := by
  by_cases h : e.1 = k <;> simp [erase, h]

theorem lookup_cons_of_ne {k k' : String} (h : k' ≠ k) (v : Value) (es : Entries) :
    List.lookup k' ((k, v) :: es) = es.lookup k' := by
  rw [List.lookup_cons, beq_eq_false_iff_ne.2 h]

theorem lookup_replace_self {es : Entries} {k : String} {w : Value} (h : es.lookup k = some w)
    (v : Value) : (es.replace k v).lookup k = some v := by
  induction es with
  | nil => cases h
  | cons e es ih =>
    obtain ⟨k', v'⟩ := e
    rw [replace_cons]
    by_cases hk : k' = k
    · rw [if_pos hk]
      exact List.lookup_cons_self
    · rw [lookup_cons_of_ne (Ne.symm hk)] at h
      rw [if_neg hk, lookup_cons_of_ne (Ne.symm hk)]
      exact ih h

theorem lookup_replace_of_ne (es : Entries) {k k' : String} (h : k' ≠ k) (v : Value) :
    (es.replace k v).lookup k' = es.lookup k' := by
  induction es with
  | nil => rfl
  | cons e es ih =>
    obtain ⟨k₁, v₁⟩ := e
    rw [replace_cons]
    by_cases hk : k₁ = k
    · rw [if_pos hk, lookup_cons_of_ne h, hk, lookup_cons_of_ne h, ih]
    · rw [if_neg hk, List.lookup_cons, List.lookup_cons, ih]

theorem lookup_erase_of_ne (es : Entries) {k k' : String} (h : k' ≠ k) :
    (es.erase k).lookup k' = es.lookup k' := by
  induction es with
  | nil => rfl
  | cons e es ih =>
    obtain ⟨k₁, v₁⟩ := e
    rw [erase_cons]
    by_cases hk : k₁ = k
    · rw [if_pos hk, hk, lookup_cons_of_ne h, ih]
    · rw [if_neg hk, List.lookup_cons, List.lookup_cons, ih]

theorem replace_replace (es : Entries) (k : String) (v w : Value) :
    (es.replace k v).replace k w = es.replace k w := by
  unfold replace
  rw [List.map_map]
  refine List.map_congr_left fun e _ => ?_
  by_cases h : e.1 = k <;> simp [h]

theorem replace_of_lookup_eq_none {es : Entries} {k : String} (h : es.lookup k = none) (v : Value) :
    es.replace k v = es := by
  induction es with
  | nil => rfl
  | cons e es ih =>
    have hk : e.1 ≠ k := fun heq => lookup_eq_none_iff.1 h (heq ▸ List.mem_cons_self)
    have hes : es.lookup k = none :=
      lookup_eq_none_iff.2 fun hmem => lookup_eq_none_iff.1 h (List.mem_cons_of_mem _ hmem)
    rw [replace_cons, if_neg hk, ih hes]

theorem replace_concat {es : Entries} {k : String} (h : es.lookup k = none) (v w : Value) :
    Entries.replace (es ++ [(k, v)]) k w = es ++ [(k, w)] := by
  have hes := replace_of_lookup_eq_none h w
  unfold replace at hes ⊢
  rw [List.map_append, hes]
  simp

theorem erase_of_lookup_eq_none {es : Entries} {k : String} (h : es.lookup k = none) :
    es.erase k = es :=
  List.filter_eq_self.2 fun e he => by
    have hne : e.1 ≠ k := fun heq => lookup_eq_none_iff.1 h (heq ▸ List.mem_map_of_mem he)
    simpa using hne

/-! ### Changes along a path -/

section alter

variable {fresh : TableKind} {enters : TableKind → Bool}
  {change : TableKind → Entries → Option Entries}

theorem alter_of_none {k : String} {es : Entries} (hk : es.lookup k = none) (ks : List String)
    (kind : TableKind) : alter fresh enters change (k :: ks) kind es =
      (alter fresh enters change ks fresh []).map fun sub => es ++ [(k, .table fresh sub)] := by
  simp only [alter, hk]
  exact (Option.map_eq_bind ..).symm

theorem alter_of_table {k : String} {es sub : Entries} {kind' : TableKind}
    (hk : es.lookup k = some (.table kind' sub)) (henters : enters kind' = true) (ks : List String)
    (kind : TableKind) : alter fresh enters change (k :: ks) kind es =
      (alter fresh enters change ks kind' sub).map fun sub => es.replace k (.table kind' sub) := by
  simp only [alter, hk, henters, if_true]
  exact (Option.map_eq_bind ..).symm

theorem alter_of_array {k : String} {es sub : Entries} {items : List Value} {kind' : TableKind}
    (hk : es.lookup k = some (.array .headed items))
    (hlast : items.getLast? = some (.table kind' sub)) (ks : List String) (kind : TableKind) :
    alter fresh enters change (k :: ks) kind es = (alter fresh enters change ks kind' sub).map
      fun sub => es.replace k (.array .headed (items.dropLast ++ [.table kind' sub])) := by
  simp only [alter, hk, hlast]
  exact (Option.map_eq_bind ..).symm

/-- The first step of a change along a path: a table is made, or one is passed, or the last member
of an array of tables is. -/
theorem alter_cons_cases {k : String} {ks : List String} {kind : TableKind} {es es' : Entries}
    (h : alter fresh enters change (k :: ks) kind es = some es') :
    es.lookup k = none ∨
      (∃ kind' sub, es.lookup k = some (.table kind' sub) ∧ enters kind' = true) ∨
      ∃ items kind' sub, es.lookup k = some (.array .headed items) ∧
        items.getLast? = some (.table kind' sub) := by
  unfold alter at h
  split at h
  · rename_i hk
    exact .inl hk
  · rename_i kind' sub hk
    split at h
    · rename_i henters
      exact .inr (.inl ⟨kind', sub, hk, henters⟩)
    · cases h
  · rename_i items hk
    split at h
    · rename_i kind' sub hlast
      exact .inr (.inr ⟨items, kind', sub, hk, hlast⟩)
    · cases h
  · cases h

end alter

/-! ### Assignments -/

theorem assign_plain {kind : TableKind} {a : Assignment} (hpath : a.path = [])
    (hkind : kind ≠ .dotted) (es : Entries) : assign kind es a =
      if es.lookup a.key = none then some (es ++ [(a.key, a.value)]) else none := by
  unfold assign
  rw [hpath, alter]
  exact ite_congr (propext (and_iff_right (by simp [hkind]))) (fun _ => rfl) fun _ => rfl

theorem assign_dotted {a : Assignment} (hpath : a.path ≠ []) (kind : TableKind) (es : Entries) :
    assign kind es a = alter .dotted dottedEnters
      (fun kind es => if kind = .dotted ∧ es.lookup a.key = none then
        some (es ++ [(a.key, a.value)]) else none) a.path kind es := by
  have hreceives (kind : TableKind) : (kind = .dotted) = (a.path ≠ []) ↔ kind = .dotted := by
    simp [hpath]
  unfold assign
  congr
  funext kind es
  exact ite_congr (propext (and_congr (hreceives kind) .rfl)) (fun _ => rfl) fun _ => rfl

theorem assignAll_inline (es : Entries) (l : List Assignment) :
    assignAll .inline es l = assignAll .headed es l := by
  have hassign (es : Entries) (a : Assignment) :
      assign .inline es a = assign .headed es a := by
    by_cases hpath : a.path = []
    · rw [assign_plain hpath (by simp), assign_plain hpath (by simp)]
    · obtain ⟨k, ks, hks⟩ := List.exists_cons_of_ne_nil hpath
      rw [assign_dotted hpath, assign_dotted hpath, hks]
      rfl
  unfold assignAll
  rw [show assign .inline = assign .headed from
    funext fun es => funext (hassign es)]

theorem assignAll_append {kind : TableKind} {es es' : Entries} {l l' : List Assignment} :
    assignAll kind es (l ++ l') = some es' ↔
      ∃ es₁, assignAll kind es l = some es₁ ∧ assignAll kind es₁ l' = some es' := by
  unfold assignAll
  rw [List.foldlM_append]
  exact Option.bind_eq_some_iff

end Entries

/-! ### Headers -/

namespace Header

variable {h : Header} {body : List Assignment} {es es' sub : Entries} {items : List Value}

/-- Puts the table of a section, or the next member of its array, into the table above it. -/
def place? (h : Header) (body : List Assignment) (es : Entries) : Option Entries :=
  if h.member then
    match es.lookup h.key with
    | none => do
      let t ← Entries.assignAll .headed [] body
      return es ++ [(h.key, .array .headed [.table .headed t])]
    | some (.array .headed items) => do
      let t ← Entries.assignAll .headed [] body
      return es.replace h.key (.array .headed (items ++ [.table .headed t]))
    | some _ => none
  else
    match es.lookup h.key with
    | none => do
      let t ← Entries.assignAll .headed [] body
      return es ++ [(h.key, .table .headed t)]
    | some (.table .implied sub) => do
      let t ← Entries.assignAll .headed sub body
      return es.erase h.key ++ [(h.key, .table .headed t)]
    | some _ => none

/-- What a header makes of the table below it where its key is new. -/
def opened (h : Header) (t : Entries) : Value :=
  if h.member then .array .headed [.table .headed t] else .table .headed t

theorem place?_of_none (hk : es.lookup h.key = none) : h.place? body es =
    (Entries.assignAll .headed [] body).map fun t => es ++ [(h.key, h.opened t)] := by
  rw [Option.map_eq_bind]
  unfold place? opened
  cases h.member <;> simp only [hk] <;> rfl

theorem place?_of_array (hm : h.member = true)
    (hk : es.lookup h.key = some (.array .headed items)) : h.place? body es =
    (Entries.assignAll .headed [] body).map fun t =>
      es.replace h.key (.array .headed (items ++ [.table .headed t])) := by
  rw [Option.map_eq_bind]
  simp only [place?, hm, hk, if_true]
  rfl

theorem place?_of_implied (hm : h.member = false)
    (hk : es.lookup h.key = some (.table .implied sub)) : h.place? body es =
    (Entries.assignAll .headed sub body).map fun t =>
      es.erase h.key ++ [(h.key, .table .headed t)] := by
  rw [Option.map_eq_bind]
  simp only [place?, hm, hk, Bool.false_eq_true, if_false]
  rfl

/-- A header opens a new key, a further member of an array, or a table that was only implied. -/
theorem place?_cases (hp : h.place? body es = some es') : es.lookup h.key = none ∨
    (h.member = true ∧ ∃ items, es.lookup h.key = some (.array .headed items)) ∨
    (h.member = false ∧ ∃ sub, es.lookup h.key = some (.table .implied sub)) := by
  unfold place? at hp
  split at hp
  · rename_i hm
    split at hp
    · rename_i hk
      exact .inl hk
    · rename_i items hk
      exact .inr (.inl ⟨hm, items, hk⟩)
    · cases hp
  · rename_i hm
    split at hp
    · rename_i hk
      exact .inl hk
    · rename_i sub hk
      exact .inr (.inr ⟨Bool.eq_false_iff.2 hm, sub, hk⟩)
    · cases hp

/-- Any other value under its key refuses a header. -/
theorem place?_eq_none {v : Value} (hk : es.lookup h.key = some v)
    (harray : h.member = true → ∀ items, v ≠ .array .headed items)
    (htable : h.member = false → ∀ sub, v ≠ .table .implied sub) : h.place? body es = none := by
  cases hp : h.place? body es with
  | none => rfl
  | some es' =>
    rcases place?_cases hp with hnone | ⟨hm, items, hitems⟩ | ⟨hm, sub, hsub⟩
    · cases hk.symm.trans hnone
    · exact absurd (Option.some.inj (hk.symm.trans hitems)) (harray hm items)
    · exact absurd (Option.some.inj (hk.symm.trans hsub)) (htable hm sub)

end Header

end BuiltinLink.Toml
