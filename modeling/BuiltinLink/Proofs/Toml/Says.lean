import BuiltinLink.Proofs.Toml.Entries
import BuiltinLink.Proofs.Toml.Mentions

/-!
What mentions say, and what they say when there are more of them. Mentions say at most one value. If
they say a table or an array of tables, further mentions of one key or of the last member change
what is said there, and nothing beside it.
-/

namespace BuiltinLink.Toml.Grammar

open Script

/-! ### Views -/

theorem behind_append (b : Branch) (l l' : List Mention) :
    behind b (l ++ l') = behind b l ++ behind b l' :=
  List.filterMap_append

theorem view_append (p : Place) (l l' : List Mention) :
    view p (l ++ l') = view p l ++ view p l' := by
  induction p generalizing l l' with
  | nil => rfl
  | cons b p ih => rw [view, behind_append, ih]; rfl

theorem view_view (p q : Place) (ms : List Mention) : view q (view p ms) = view (p ++ q) ms := by
  induction p generalizing ms with
  | nil => rfl
  | cons b p ih => exact ih _

theorem uses_append (l l' : List Mention) : uses (l ++ l') = uses l ++ uses l' :=
  List.filterMap_append

/-- Mentions as they are seen from further above. -/
def under (p : Place) (l : List Mention) : List Mention :=
  l.map fun m => ⟨p ++ m.place, m.use⟩

theorem behind_under (b : Branch) (p : Place) (l : List Mention) :
    behind b (under (b :: p) l) = under p l := by
  rw [behind, under, under, List.filterMap_map, ← List.filterMap_eq_map]
  exact congrArg (List.filterMap · l) (funext fun _ => if_pos rfl)

theorem behind_under_of_ne {b b' : Branch} (h : b' ≠ b) (p : Place) (l : List Mention) :
    behind b (under (b' :: p) l) = [] := by
  simp [behind, under, h]

theorem view_under (p : Place) (l : List Mention) : view p (under p l) = l := by
  induction p with
  | nil => simp [view, under]
  | cons b p ih => rw [view, behind_under, ih]

theorem under_cons (b : Branch) (p : Place) (l : List Mention) :
    under (b :: p) l = under [b] (under p l) := by
  simp [under]

theorem under_nil (l : List Mention) : under [] l = l := by
  simp [under]

theorem uses_under (b : Branch) (p : Place) (l : List Mention) : uses (under (b :: p) l) = [] := by
  simp [uses, under]

theorem exists_of_mem_behind {b : Branch} {ms : List Mention} {m : Mention} (h : m ∈ behind b ms) :
    ∃ m' ∈ ms, m'.use = m.use := by
  obtain ⟨m', hm', heq⟩ := List.mem_filterMap.1 h
  refine ⟨m', hm', ?_⟩
  split at heq
  · cases heq
  · split at heq
    · cases heq
      rfl
    · cases heq

theorem exists_of_mem_view {p : Place} {ms : List Mention} {m : Mention} (h : m ∈ view p ms) :
    ∃ m' ∈ ms, m'.use = m.use := by
  induction p generalizing ms with
  | nil => exact ⟨m, h, rfl⟩
  | cons b p ih =>
    obtain ⟨m₁, hm₁, h₁⟩ := ih h
    obtain ⟨m₂, hm₂, h₂⟩ := exists_of_mem_behind hm₁
    exact ⟨m₂, hm₂, h₂.trans h₁⟩

theorem exists_of_mem_uses {ms : List Mention} {u : Use} (h : u ∈ uses ms) :
    ∃ m ∈ ms, m.use = u := by
  obtain ⟨m, hm, heq⟩ := List.mem_filterMap.1 h
  split at heq
  · exact ⟨m, hm, Option.some.inj heq⟩
  · cases heq

/-! ### The order of keys -/

/-- Mentions that give the place from which they are seen no header. -/
def Quiet (l : List Mention) : Prop :=
  ∀ m ∈ l, m.place = [] → m.use ≠ .header

theorem quiet_append {l l' : List Mention} : Quiet (l ++ l') ↔ Quiet l ∧ Quiet l' :=
  List.forall_mem_append

theorem quiet_under (b : Branch) (p : Place) (l : List Mention) : Quiet (under (b :: p) l) := by
  intro m hm hp
  obtain ⟨m', -, rfl⟩ := List.mem_map.1 hm
  cases hp

theorem quiet_singleton {u : Use} (h : u ≠ .header) (p : Place) : Quiet [⟨p, u⟩] :=
  List.forall_mem_singleton.2 fun _ => h

theorem orderKey_key {k : String} {p : Place} {u : Use} (h : p = [] → u ≠ .header)
    (ks : List String) : orderKey ks ⟨.key k :: p, u⟩ = if k ∈ ks then ks else ks ++ [k] := by
  unfold orderKey
  split
  · rename_i hp hu
    cases hp
    exact absurd hu (h rfl)
  · rename_i hp _
    cases hp
    rfl
  · rename_i hp _
    exact absurd rfl (hp k p)

theorem mem_orderKey {k : String} {ks : List String} {m : Mention} :
    k ∈ orderKey ks m ↔ k ∈ ks ∨ behind (.key k) [m] ≠ [] := by
  obtain ⟨p, u⟩ := m
  match p with
  | [] => simp [orderKey, behind]
  | .member i :: p => simp [orderKey, behind]
  | .key k' :: p =>
    have hbehind : behind (.key k) [⟨.key k' :: p, u⟩] ≠ [] ↔ k = k' := by
      by_cases hk : k' = k
      · simp [behind, hk]
      · simp [behind, hk, Ne.symm hk]
    rw [hbehind]
    by_cases h : p = [] ∧ u = .header
    · obtain ⟨rfl, rfl⟩ := h
      by_cases hk : k = k' <;> simp [orderKey, hk]
    · rw [orderKey_key fun hp hu => h ⟨hp, hu⟩]
      split
      · rename_i hk'
        exact ⟨.inl, fun hk => hk.elim id fun heq => heq ▸ hk'⟩
      · simp

theorem mem_foldl_orderKey {k : String} {ks : List String} {l : List Mention} :
    k ∈ l.foldl orderKey ks ↔ k ∈ ks ∨ behind (.key k) l ≠ [] := by
  induction l generalizing ks with
  | nil => simp [behind]
  | cons m l ih =>
    rw [List.foldl_cons, ih, mem_orderKey, or_assoc, ← List.singleton_append (l := l),
      behind_append, ne_eq, ne_eq, ne_eq, List.append_eq_nil_iff, Decidable.not_and_iff_or_not]

theorem mem_keyOrder {k : String} {ms : List Mention} :
    k ∈ keyOrder ms ↔ behind (.key k) ms ≠ [] := by
  simp [keyOrder, mem_foldl_orderKey]

theorem nodup_orderKey {ks : List String} (h : ks.Nodup) (m : Mention) : (orderKey ks m).Nodup := by
  have hconcat {ks : List String} {k : String} (h : ks.Nodup) (hk : k ∉ ks) :
      (ks ++ [k]).Nodup := by
    rw [List.nodup_append]
    exact ⟨h, List.pairwise_singleton _ k, fun a ha b hb heq =>
      hk (List.mem_singleton.1 hb ▸ heq ▸ ha)⟩
  unfold orderKey
  split
  · exact hconcat (List.filter_sublist.nodup h) (by simp)
  · split
    · exact h
    · exact hconcat h ‹_›
  · exact h

theorem nodup_keyOrder (ms : List Mention) : (keyOrder ms).Nodup := by
  unfold keyOrder
  generalize hks : ([] : List String) = ks
  have h : ks.Nodup := hks ▸ .nil
  clear hks
  induction ms generalizing ks with
  | nil => exact h
  | cons m ms ih => exact ih _ (nodup_orderKey h m)

theorem keyOrder_append (ms l : List Mention) :
    keyOrder (ms ++ l) = l.foldl orderKey (keyOrder ms) :=
  List.foldl_append

/-- Further mentions of a key do not move it, unless they give it a header. -/
theorem foldl_orderKey_under {k : String} {ks : List String} (hk : k ∈ ks) {l : List Mention}
    (hl : Quiet l) : (under [.key k] l).foldl orderKey ks = ks := by
  induction l with
  | nil => rfl
  | cons m l ih =>
    obtain ⟨hm, hl⟩ := List.forall_mem_cons.1 hl
    change (under [.key k] l).foldl orderKey (orderKey ks ⟨.key k :: m.place, m.use⟩) = ks
    rw [orderKey_key hm, if_pos hk, ih hl]

theorem keyOrder_append_of_mem {k : String} {ms l : List Mention} (hk : k ∈ keyOrder ms)
    (hl : Quiet l) : keyOrder (ms ++ under [.key k] l) = keyOrder ms := by
  rw [keyOrder_append, foldl_orderKey_under hk hl]

theorem keyOrder_append_of_not_mem {k : String} {ms l : List Mention} (hk : k ∉ keyOrder ms)
    (hne : l ≠ []) (hl : Quiet l) : keyOrder (ms ++ under [.key k] l) = keyOrder ms ++ [k] := by
  obtain ⟨m, l, rfl⟩ := List.exists_cons_of_ne_nil hne
  obtain ⟨hm, hl⟩ := List.forall_mem_cons.1 hl
  rw [keyOrder_append]
  change (under [.key k] l).foldl orderKey (orderKey _ ⟨.key k :: m.place, m.use⟩) = _
  rw [orderKey_key hm, if_neg hk, foldl_orderKey_under (by simp) hl]

/-! ### Uses -/

namespace KindOf

variable {us : List Use} {kind kind' : TableKind}

theorem unique (h : KindOf us kind) (h' : KindOf us kind') : kind = kind' := by
  cases h <;> cases h' <;> first | rfl | contradiction

/-- What a line does with a table later on, other than giving it a header, is of no influence. -/
theorem append (h : KindOf us kind) {l : List Use} (hl : .header ∉ l) : KindOf (us ++ l) kind := by
  cases h with
  | headed => exact .headed
  | late h => exact .late (List.mem_append_left l h)
  | implied h => exact .implied (by simp [h, hl])
  | dotted => exact .dotted

theorem head?_ne_member (h : KindOf us kind) : us.head? ≠ some .member := by
  cases h <;> simp

theorem ne_nil (h : KindOf us kind) : us ≠ [] := by
  cases h <;> simp

theorem eq_dotted_iff (h : KindOf us kind) : kind = .dotted ↔ us.head? = some .through := by
  cases h <;> simp

theorem ne_inline (h : KindOf us kind) : kind ≠ .inline := by
  cases h <;> simp

end KindOf

theorem header_not_mem_uses {l : List Mention} (h : Quiet l) : .header ∉ uses l := by
  intro hmem
  obtain ⟨m, hm, hu⟩ := List.mem_filterMap.1 hmem
  split at hu
  · rename_i hp
    exact h m hm hp (Option.some.inj hu)
  · cases hu

theorem Says.uses_ne_nil {ms : List Mention} {v : Value} (h : Says ms v) : uses ms ≠ [] := by
  cases h with
  | value => simp [uses]
  | array huses =>
    intro hnil
    rw [hnil] at huses
    cases huses
  | table hkind => exact hkind.ne_nil

/-! ### Tables -/

/-- Mentions that say a table that is not assigned. -/
structure Holds (ms : List Mention) (kind : TableKind) (es : Entries) : Prop where
  kind : KindOf (uses ms) kind
  keys : es.map Prod.fst = keyOrder ms
  entries : ∀ e ∈ es, Says (behind (.key e.1) ms) e.2

theorem Says.holds {ms : List Mention} {kind : TableKind} {es : Entries}
    (h : Says ms (.table kind es)) (hkind : kind ≠ .inline) : Holds ms kind es := by
  cases h with
  | value hv => exact absurd hv hkind
  | table hkind hkeys hentries => exact ⟨hkind, hkeys, hentries⟩

namespace Holds

variable {ms l : List Mention} {kind : TableKind} {es es' : Entries} {v w : Value} {k : String}

theorem toSays (h : Holds ms kind es) : Says ms (.table kind es) :=
  .table h.kind h.keys h.entries

theorem nodup (h : Holds ms kind es) : (es.map Prod.fst).Nodup :=
  h.keys ▸ nodup_keyOrder ms

theorem mem_keys (h : Holds ms kind es) : k ∈ es.map Prod.fst ↔ behind (.key k) ms ≠ [] := by
  rw [h.keys, mem_keyOrder]

theorem behind_eq_nil (h : Holds ms kind es) (hk : es.lookup k = none) :
    behind (.key k) ms = [] := by
  simpa using mt h.mem_keys.2 (Entries.lookup_eq_none_iff.1 hk)

theorem lookup (h : Holds ms kind es) (hk : es.lookup k = some v) : Says (behind (.key k) ms) v :=
  h.entries (k, v) (mem_of_lookup hk)

/-- Further mentions of one key change its entry only. -/
theorem update (h : Holds ms kind es) (hkeys : es'.map Prod.fst = keyOrder (ms ++ under [.key k] l))
    (hv : Says (behind (.key k) ms ++ l) v)
    (hes' : ∀ e ∈ es', e = (k, v) ∨ (e ∈ es ∧ e.1 ≠ k)) :
    Holds (ms ++ under [.key k] l) kind es' where
  kind := by
    rw [uses_append, uses_under, List.append_nil]
    exact h.kind
  keys := hkeys
  entries := by
    intro e he
    rw [behind_append]
    rcases hes' e he with rfl | ⟨he, hne⟩
    · rw [behind_under, under_nil]
      exact hv
    · rw [behind_under_of_ne (by simpa using hne.symm), List.append_nil]
      exact h.entries e he

theorem replace (h : Holds ms kind es) (hk : es.lookup k = some w) (hl : Quiet l)
    (hv : Says (behind (.key k) ms ++ l) v) :
    Holds (ms ++ under [.key k] l) kind (es.replace k v) := by
  refine h.update ?_ hv fun e he => ?_
  · have hmem : k ∈ keyOrder ms := h.keys ▸ List.mem_map_of_mem (mem_of_lookup hk)
    rw [Entries.keys_replace, keyOrder_append_of_mem hmem hl, h.keys]
  · obtain ⟨e', he', rfl⟩ := List.mem_map.1 he
    by_cases heq : e'.1 = k
    · simp [heq]
    · simp [heq, he']

theorem concat (h : Holds ms kind es) (hk : es.lookup k = none) (hne : l ≠ []) (hl : Quiet l)
    (hv : Says l v) : Holds (ms ++ under [.key k] l) kind (es ++ [(k, v)]) := by
  have hkeys : k ∉ keyOrder ms := h.keys ▸ Entries.lookup_eq_none_iff.1 hk
  refine h.update ?_ (by rwa [h.behind_eq_nil hk]) fun e he => ?_
  · rw [keyOrder_append_of_not_mem hkeys hne hl, List.map_append, h.keys]
    rfl
  · rcases List.mem_append.1 he with he | he
    · exact .inr ⟨he, fun heq => hkeys (h.keys ▸ heq ▸ List.mem_map_of_mem he)⟩
    · exact .inl (List.mem_singleton.1 he)

/-- A value may stay as it is. -/
theorem keep (h : Holds ms kind es) (hk : es.lookup k = some v) (hl : Quiet l)
    (hv : Says (behind (.key k) ms ++ l) v) : Holds (ms ++ under [.key k] l) kind es := by
  refine h.update ?_ hv fun e he => ?_
  · have hmem : k ∈ keyOrder ms := h.keys ▸ List.mem_map_of_mem (mem_of_lookup hk)
    rw [keyOrder_append_of_mem hmem hl, h.keys]
  · by_cases heq : e.1 = k
    · subst heq
      exact .inl (Prod.ext rfl (Option.some.inj ((lookup_of_mem h.nodup he).symm.trans hk)))
    · exact .inr ⟨he, heq⟩

/-- A header puts its key behind all others. -/
theorem head (h : Holds ms kind es) (hv : Says (behind (.key k) ms ++ [⟨[], .header⟩]) v) :
    Holds (ms ++ [⟨[.key k], .header⟩]) kind (es.erase k ++ [(k, v)]) := by
  refine h.update (l := [⟨[], .header⟩]) ?_ hv fun e he => ?_
  · rw [keyOrder_append, ← h.keys]
    simp [under, orderKey, Entries.erase, List.filter_map, Function.comp_def]
  · rcases List.mem_append.1 he with he | he
    · exact .inr (by simpa [Entries.erase] using he)
    · exact .inl (List.mem_singleton.1 he)

end Holds

/-- A path that passes a table leaves it as it is. -/
theorem Holds.touch {ms : List Mention} {kind : TableKind} {es : Entries} (h : Holds ms kind es)
    {u : Use} (hu : u ≠ .header) : Holds (ms ++ [⟨[], u⟩]) kind es where
  kind := by
    rw [uses_append]
    exact h.kind.append (header_not_mem_uses (quiet_singleton hu []))
  keys := by
    rw [keyOrder_append]
    exact h.keys
  entries := by
    intro e he
    rw [behind_append]
    exact (List.append_nil _).symm ▸ h.entries e he

theorem Holds.late {ms : List Mention} {es : Entries} (h : Holds ms .implied es) :
    Holds (ms ++ [⟨[], .header⟩]) .headed es where
  kind := by
    have hkind := h.kind
    rw [uses_append]
    generalize uses ms = us at hkind
    cases hkind with
    | implied => exact .late (by simp [uses])
  keys := by
    rw [keyOrder_append]
    exact h.keys
  entries := by
    intro e he
    rw [behind_append]
    exact (List.append_nil _).symm ▸ h.entries e he

/-- A table with a header, and nothing in it. -/
theorem holds_header : Holds [⟨[], .header⟩] .headed [] :=
  ⟨.headed, rfl, fun _ he => absurd he List.not_mem_nil⟩

/-! ### Arrays of tables -/

theorem members_append (ms l : List Mention) : members (ms ++ l) = members ms + members l := by
  rw [members, uses_append, List.countP_append]
  rfl

theorem members_under (b : Branch) (p : Place) (l : List Mention) :
    members (under (b :: p) l) = 0 := by
  rw [members, uses_under]
  rfl

/-- Mentions that say an array of tables. -/
structure Gathers (ms : List Mention) (tables : List Entries) : Prop where
  head : (uses ms).head? = some .member
  length : tables.length = members ms
  each : ∀ i es, tables[i]? = some es → Holds (behind (.member i) ms) .headed es
  rest : ∀ i, tables.length ≤ i → behind (.member i) ms = []

/-- What mentions may say: an assigned value, an array of tables, or another table. -/
theorem Says.cases {ms : List Mention} {v : Value} (h : Says ms v) :
    (Written v ∧ ms = [⟨[], .value v⟩]) ∨
      (∃ tables, v = .array .headed (tables.map (.table .headed)) ∧ Gathers ms tables) ∨
      ∃ kind es, v = .table kind es ∧ Holds ms kind es := by
  cases h with
  | value hv => exact .inl ⟨hv, rfl⟩
  | array huses hlength htables hrest =>
    exact .inr (.inl ⟨_, rfl, huses, hlength,
      fun i es hi => (htables i es hi).holds (by simp), hrest⟩)
  | table hkind hkeys hentries => exact .inr (.inr ⟨_, _, rfl, hkind, hkeys, hentries⟩)

namespace Gathers

variable {ms l : List Mention} {tables : List Entries} {es es' : Entries}

theorem toSays (h : Gathers ms tables) : Says ms (.array .headed (tables.map (.table .headed))) :=
  .array h.head h.length (fun i es hi => (h.each i es hi).toSays) h.rest

theorem uses_ne_nil (h : Gathers ms tables) : uses ms ≠ [] :=
  h.toSays.uses_ne_nil

theorem exists_concat (h : Gathers ms tables) : ∃ init sub, tables = init ++ [sub] := by
  obtain ⟨us, hus⟩ := List.head?_eq_some_iff.1 h.head
  have hlength := h.length
  rw [members, hus, List.countP_cons] at hlength
  have hne : tables ≠ [] := by
    intro hnil
    simp [hnil, Use.isMember] at hlength
  exact ⟨_, _, (List.dropLast_concat_getLast hne).symm⟩

/-- Mentions of the last member, if all is said of the others. -/
theorem last (hhead : (uses ms).head? = some .member) (hlength : tables.length + 1 = members ms)
    (heach : ∀ i es, tables[i]? = some es → Holds (behind (.member i) ms) .headed es)
    (hrest : ∀ i, tables.length < i → behind (.member i) ms = [])
    (hes : Holds (behind (.member tables.length) ms ++ l) .headed es) :
    Gathers (ms ++ under [.member tables.length] l) (tables ++ [es]) := by
  have hother {i : Nat} (hi : i ≠ tables.length) :
      behind (.member i) (ms ++ under [.member tables.length] l) = behind (.member i) ms := by
    rw [behind_append, behind_under_of_ne (by simpa using Ne.symm hi), List.append_nil]
  refine ⟨?head, ?length, fun i es' hi => ?each, fun i hi => ?rest⟩
  case head => rw [uses_append, uses_under, List.append_nil, hhead]
  case length =>
    rw [members_append, members_under, ← hlength, List.length_append]
    rfl
  case each =>
    by_cases hlast : i = tables.length
    · subst hlast
      rw [List.getElem?_concat_length] at hi
      rw [behind_append, behind_under, under_nil]
      exact Option.some.inj hi ▸ hes
    · rw [hother hlast]
      rw [List.getElem?_append] at hi
      split at hi
      · exact heach i es' hi
      · have := (List.getElem?_eq_some_iff.1 hi).1
        simp only [List.length_singleton] at this
        omega
  case rest =>
    rw [List.length_append, List.length_singleton] at hi
    rw [hother (by omega)]
    exact hrest i (by omega)

theorem getElem?_concat {i : Nat} (h : tables[i]? = some es) : (tables ++ [es'])[i]? = some es := by
  rw [List.getElem?_append_left (List.getElem?_eq_some_iff.1 h).1, h]

theorem setLast (h : Gathers ms (tables ++ [es']))
    (hes : Holds (behind (.member tables.length) ms ++ l) .headed es) :
    Gathers (ms ++ under [.member tables.length] l) (tables ++ [es]) := by
  have hlength := h.length
  have hrest := h.rest
  rw [List.length_append] at hlength hrest
  exact last h.head hlength (fun i _ hi => h.each i _ (getElem?_concat hi)) hrest hes

/-- An array with one more member has that one behind the others. -/
theorem grow (h : Gathers ms tables) (hes : Holds l .headed es) :
    Gathers (ms ++ ⟨[], .member⟩ :: under [.member tables.length] l) (tables ++ [es]) := by
  have hbehind (i : Nat) : behind (.member i) (ms ++ [⟨[], .member⟩]) = behind (.member i) ms := by
    rw [behind_append]
    exact List.append_nil _
  rw [← List.singleton_append, ← List.append_assoc]
  apply last
  · rw [uses_append, List.head?_append, h.head, Option.some_or]
  · rw [members_append, h.length]
    rfl
  · exact fun i es hi => (hbehind i).symm ▸ h.each i es hi
  · exact fun i hi => (hbehind i).trans (h.rest i (Nat.le_of_lt hi))
  · rwa [hbehind, h.rest _ (Nat.le_refl _)]

/-- An array of one member. -/
theorem single (hes : Holds l .headed es) :
    Gathers (⟨[], .member⟩ :: under [.member 0] l) [es] :=
  @last [⟨[], .member⟩] l [] es rfl rfl (fun _ _ hi => by cases hi) (fun _ _ => rfl) hes

end Gathers

theorem Gathers.touch {ms : List Mention} {tables : List Entries} (h : Gathers ms tables) {u : Use}
    (hu : u.isMember = false) : Gathers (ms ++ [⟨[], u⟩]) tables where
  head := by
    rw [uses_append, List.head?_append, h.head, Option.some_or]
  length := by
    have hmembers : members [⟨[], u⟩] = 0 := by simp [members, uses, hu]
    rw [members_append, hmembers, h.length]
    rfl
  each := by
    intro i es hi
    rw [behind_append]
    exact (List.append_nil _).symm ▸ h.each i es hi
  rest := by
    intro i hi
    rw [behind_append]
    exact (List.append_nil _).trans (h.rest i hi)

theorem Says.of_array {ms : List Mention} {tables : List Entries}
    (h : Says ms (.array .headed (tables.map (.table .headed)))) : Gathers ms tables := by
  rcases h.cases with ⟨hv, -⟩ | ⟨tables', heq, h⟩ | ⟨_, _, heq, -⟩
  · cases hv
  · have hinj := (List.map_inj_right fun _ _ heq => (Value.table.inj heq).2).1
      (Value.array.inj heq).2
    exact hinj ▸ h
  · cases heq

theorem enter_table {ms : List Mention} {k : String} {kind : TableKind} {es : Entries}
    (h : Holds (behind (.key k) ms) kind es) : enter k ms = [.key k] := by
  unfold enter
  split
  · rename_i hmember
    exact absurd hmember h.kind.head?_ne_member
  · rfl

theorem enter_array {ms : List Mention} {k : String} {tables : List Entries} {es : Entries}
    (h : Gathers (behind (.key k) ms) (tables ++ [es])) :
    enter k ms = [.key k, .member tables.length] := by
  unfold enter
  rw [h.head, ← h.length, List.length_append]
  rfl

/-- Mentions say at most one value. -/
theorem Says.unique {ms : List Mention} {v v' : Value} (h : Says ms v) (h' : Says ms v') :
    v = v' := by
  induction h generalizing v' with
  | value hv =>
    rcases h'.cases with ⟨-, heq⟩ | ⟨tables, rfl, htables⟩ | ⟨kind, es, rfl, hes⟩
    · cases heq
      rfl
    · cases htables.head
    · cases hes.kind
  | @array ms tables huses hlength htables hrest ih =>
    rcases h'.cases with ⟨-, rfl⟩ | ⟨tables', rfl, htables'⟩ | ⟨kind, es, rfl, hes⟩
    · cases huses
    · have heq : tables = tables' := by
        refine List.ext_getElem (hlength.trans htables'.length.symm) fun i hi hi' => ?_
        have htable := (htables'.each i _ (List.getElem?_eq_getElem hi')).toSays
        exact (Value.table.inj (ih i _ (List.getElem?_eq_getElem hi) htable)).2
      rw [heq]
    · exact absurd huses hes.kind.head?_ne_member
  | @table ms kind es hkind hkeys hentries ih =>
    rcases h'.cases with ⟨-, rfl⟩ | ⟨tables, rfl, htables⟩ | ⟨kind', es', rfl, hes'⟩
    · cases hkind
    · exact absurd htables.head hkind.head?_ne_member
    · have hkeys' : es.map Prod.fst = es'.map Prod.fst := hkeys.trans hes'.keys.symm
      have heq : es = es' := by
        refine List.ext_getElem (by simpa using congrArg List.length hkeys') fun i hi hi' => ?_
        have hkey : es[i].1 = es'[i].1 := by
          simpa [hi, hi'] using congrArg (·[i]?) hkeys'
        refine Prod.ext hkey (ih _ (List.getElem_mem hi) ?_)
        rw [hkey]
        exact hes'.entries _ (List.getElem_mem hi')
      rw [hkind.unique hes'.kind, heq]

end BuiltinLink.Toml.Grammar
