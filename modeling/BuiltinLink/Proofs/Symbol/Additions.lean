import BuiltinLink.Symbol.Table
import Mathlib.Data.List.Induction

/-!
A symbol table holds the list of the functions that were added to it. The interner, the symbols and
the index by name are three views of that list, and each addition extends all three; requests that
only look something up leave them alone.
-/

namespace BuiltinLink

namespace Interner

theorem find?_eq_some_iff {t : Interner} {name : String} {n : Nat} :
    t.find? name = some n ↔ t.name? n = some name := by
  constructor
  · intro h
    obtain ⟨hn, he, -⟩ := List.idxOf?_eq_some_iff.1 h
    rw [name?, List.getElem?_eq_getElem hn, he]
  · intro h
    obtain ⟨hn, he⟩ := List.getElem?_eq_some_iff.1 h
    refine List.idxOf?_eq_some_iff.2 ⟨hn, he, ?_⟩
    intro m hm
    rw [← he]
    exact List.pairwise_iff_getElem.1 t.nodup m n _ hn hm

/-- Different names have different numbers. -/
theorem name?_inj {t : Interner} {m n : Nat} {name : String} (hm : t.name? m = some name)
    (hn : t.name? n = some name) : m = n :=
  Option.some.inj ((find?_eq_some_iff.2 hm).symm.trans (find?_eq_some_iff.2 hn))

theorem intern_of_some {t : Interner} {name : String} {n : Nat} (h : t.name? n = some name) :
    t.intern name = (t, n) := by
  have hfind := find?_eq_some_iff.2 h
  unfold intern
  split
  · rename_i m hm
    rw [Option.some.inj (hm.symm.trans hfind)]
  · rename_i hm
    exact absurd (hm.symm.trans hfind) (by simp)

theorem intern_of_not_mem {t : Interner} {name : String} (h : name ∉ t.names) :
    t.intern name = (t.add name h, t.names.length) := by
  unfold intern
  split
  · rename_i m hm
    exact absurd (hm.symm.trans (find?_eq_none_iff.2 h)) (by simp)
  · rfl

/-- Names keep their numbers when others are given one. -/
theorem name?_intern_of_some {t : Interner} {n : Nat} {name : String} (hn : t.name? n = some name)
    (other : String) : (t.intern other).1.name? n = some name := by
  by_cases hmem : other ∈ t.names
  · obtain ⟨m, hm⟩ := List.getElem?_of_mem hmem
    rw [intern_of_some hm]
    exact hn
  · have hlt : n < t.names.length := (List.getElem?_eq_some_iff.1 hn).1
    rw [intern_of_not_mem hmem, name?, add, List.getElem?_append_left hlt]
    exact hn

end Interner

namespace SymbolTable

/-- A function that is added to a table. -/
structure Addition where
  name : String
  type : Signature
  origin : Origin
deriving DecidableEq, Repr

inductive Request where
  | add (function : Addition)
  | get (id : SymbolId)
  | name (id : SymbolId)
  | lookup (name : String)
  | length
  | toList
deriving DecidableEq, Repr

/-- The function that a request adds. -/
def Request.addition? : Request → Option Addition
  | add a => some a
  | _ => none

/-- Adds a function, and gives its place. -/
def addition (t : SymbolTable) (a : Addition) : SymbolTable × SymbolId :=
  t.add a.name a.type a.origin

/-- The table after a request. -/
def after (t : SymbolTable) : Request → SymbolTable
  | .add a => (t.addition a).1
  | _ => t

/-- The table after requests to an empty one. -/
def ofRequests (h : List Request) : SymbolTable :=
  h.foldl after {}

/-- The functions that requests add, in their order. -/
def additions (h : List Request) : List Addition :=
  h.filterMap Request.addition?

/-- The place with an index. -/
def place (i : Nat) : SymbolId :=
  ⟨UInt32.ofNat i⟩

/-- The places at which a name was added. -/
def places (l : List Addition) (name : String) : List SymbolId :=
  (l.zipIdx.filter (·.1.name = name)).map fun p => place p.2

/-- What a table shows of the symbol with an index: its name, its type and its origin. -/
def shown (t : SymbolTable) (s : FunctionSymbol) : Option String × Signature × Origin :=
  (t.interner.name? s.name, s.type, s.origin)

/-- The three parts of a table agree with the list of additions. -/
structure Holds (t : SymbolTable) (l : List Addition) : Prop where
  symbols : t.symbols.map t.shown = l.map fun a => (some a.name, a.type, a.origin)
  overloads : t.overloads = t.interner.names.map (places l)

section places

variable {l : List Addition} {a : Addition} {name : String}

theorem toNat_place {i : Nat} (h : i < UInt32.size) : (place i).index.toNat = i :=
  UInt32.toNat_ofNat_of_lt' h

@[simp] theorem place_index (id : SymbolId) : place id.index.toNat = id := by
  simp [place]

theorem places_concat : places (l ++ [a]) name =
    places l name ++ if a.name = name then [place l.length] else [] := by
  rw [places, List.zipIdx_append, List.filter_append, List.map_append]
  split <;> simp_all [places]

theorem places_eq_nil (h : ∀ a ∈ l, a.name ≠ name) : places l name = [] := by
  rw [places, List.map_eq_nil_iff, List.filter_eq_nil_iff]
  intro p hp
  simpa using h p.1 (List.fst_mem_of_mem_zipIdx hp)

theorem mem_places (hl : l.length < UInt32.size) {id : SymbolId} :
    id ∈ places l name ↔ ∃ a, l[id.index.toNat]? = some a ∧ a.name = name := by
  simp only [places, List.mem_map, List.mem_filter, decide_eq_true_eq, Prod.exists,
    List.mk_mem_zipIdx_iff_getElem?]
  constructor
  · rintro ⟨a, i, ⟨hi, ha⟩, rfl⟩
    have hi' : i < l.length := (List.getElem?_eq_some_iff.1 hi).1
    exact ⟨a, by rw [toNat_place (Nat.lt_trans hi' hl), hi], ha⟩
  · rintro ⟨a, hi, ha⟩
    exact ⟨a, _, ⟨hi, ha⟩, place_index id⟩

theorem lt_of_mem_zipIdx {p : Addition × Nat} (hp : p ∈ l.zipIdx) : p.2 < l.length :=
  (List.getElem?_eq_some_iff.1 (List.mk_mem_zipIdx_iff_getElem?.1 hp)).1

/-- The places of a name are in increasing order, since those of all functions are. -/
theorem places_increasing (hl : l.length < UInt32.size) :
    (places l name).Pairwise (·.index < ·.index) := by
  have hindices : (l.zipIdx.map (·.2)).Pairwise (· < ·) := by
    rw [List.zipIdx_map_snd]
    exact List.pairwise_lt_range'
  refine List.pairwise_map.2 (((List.pairwise_map.1 hindices).filter _).imp_of_mem ?_)
  intro p q hp hq hlt
  have hp' := lt_of_mem_zipIdx (List.mem_filter.1 hp).1
  have hq' := lt_of_mem_zipIdx (List.mem_filter.1 hq).1
  rwa [UInt32.lt_iff_toNat_lt, toNat_place (Nat.lt_trans hp' hl), toNat_place (Nat.lt_trans hq' hl)]

end places

section Holds

variable {t : SymbolTable} {l : List Addition} {a : Addition}

theorem holds_nil : Holds {} [] :=
  ⟨rfl, rfl⟩

theorem Holds.length_eq (h : Holds t l) : t.symbols.length = l.length := by
  have hlength := congrArg List.length h.symbols
  rwa [List.length_map, List.length_map] at hlength

/-- The symbol with an index shows the addition with that index. -/
theorem Holds.shown_getElem? (h : Holds t l) (i : Nat) :
    (t.symbols[i]?).map t.shown = (l[i]?).map fun a => (some a.name, a.type, a.origin) := by
  rw [← List.getElem?_map, h.symbols, List.getElem?_map]

theorem Holds.name_mem (h : Holds t l) {a : Addition} (ha : a ∈ l) :
    a.name ∈ t.interner.names := by
  have hshown : (some a.name, a.type, a.origin) ∈ t.symbols.map t.shown := by
    rw [h.symbols]
    exact List.mem_map_of_mem ha
  obtain ⟨s, -, hs⟩ := List.mem_map.1 hshown
  have hname : t.interner.name? s.name = some a.name := congrArg Prod.fst hs
  exact List.mem_of_getElem? hname

/-- The index by name finds the places at which the name was added. -/
theorem Holds.lookup_eq (h : Holds t l) (name : String) : t.lookup name = places l name := by
  unfold lookup
  cases hfind : t.interner.find? name with
  | some n =>
    have hname : t.interner.names[n]? = some name := Interner.find?_eq_some_iff.1 hfind
    simp [h.overloads, hname]
  | none =>
    refine (places_eq_nil fun a ha heq => ?_).symm
    exact Interner.find?_eq_none_iff.1 hfind (heq ▸ h.name_mem ha)

/-- An addition shows the earlier symbols as before, and its own behind them. -/
theorem Holds.symbols_addition (h : Holds t l) (a : Addition) :
    (t.addition a).1.symbols.map (t.addition a).1.shown =
      (l ++ [a]).map fun a => (some a.name, a.type, a.origin) := by
  have hkept : ∀ s ∈ t.symbols, (t.addition a).1.shown s = t.shown s := by
    intro s hs
    have hshown : t.shown s ∈ l.map fun a => (some a.name, a.type, a.origin) :=
      h.symbols ▸ List.mem_map_of_mem hs
    obtain ⟨b, -, hb⟩ := List.mem_map.1 hshown
    have hname : t.interner.name? s.name = some b.name := (congrArg Prod.fst hb).symm
    exact Prod.ext ((Interner.name?_intern_of_some hname a.name).trans hname.symm) rfl
  have hnew : (t.addition a).1.shown ⟨(t.interner.intern a.name).2, a.type, a.origin⟩ =
      (some a.name, a.type, a.origin) :=
    Prod.ext (Interner.name?_intern t.interner a.name) rfl
  have hsymbols : (t.addition a).1.symbols =
      t.symbols ++ [⟨(t.interner.intern a.name).2, a.type, a.origin⟩] := rfl
  rw [hsymbols, List.map_append, List.map_congr_left hkept, h.symbols, List.map_append,
    List.map_singleton, hnew, List.map_singleton]

/-- The index by name where the name of the addition has been met before. -/
theorem overloads_of_some {n : Nat} (hn : t.interner.name? n = some a.name) :
    (t.interner.names.map (places l)).modify n (· ++ [place l.length]) =
      t.interner.names.map (places (l ++ [a])) := by
  refine List.ext_getElem? fun m => ?_
  rw [List.getElem?_modify, List.getElem?_map, List.getElem?_map]
  cases hm : t.interner.names[m]? with
  | none => rfl
  | some name =>
    by_cases hname : a.name = name
    · have hnm : n = m := Interner.name?_inj hn (hname ▸ hm)
      simp [hnm, places_concat, hname]
    · have hnm : n ≠ m := fun heq => hname (Option.some.inj (hn.symm.trans (heq ▸ hm)))
      simp [hnm, places_concat, hname]

/-- An addition enters its place under its own name, and leaves the other names alone. -/
theorem Holds.overloads_addition (h : Holds t l) (a : Addition) :
    (t.addition a).1.overloads = (t.addition a).1.interner.names.map (places (l ++ [a])) := by
  by_cases hmem : a.name ∈ t.interner.names
  · obtain ⟨n, hn⟩ := List.getElem?_of_mem hmem
    have hlt : n < t.interner.names.length := (List.getElem?_eq_some_iff.1 hn).1
    have hintern : t.interner.intern a.name = (t.interner, n) := Interner.intern_of_some hn
    simp only [SymbolTable.addition, add, hintern, enter, h.overloads, List.length_map, hlt,
      if_true, h.length_eq]
    exact overloads_of_some hn
  · have hintern := Interner.intern_of_not_mem hmem
    have hplaces : places l a.name = [] :=
      places_eq_nil fun b hb heq => hmem (heq ▸ h.name_mem hb)
    have hothers : t.interner.names.map (places (l ++ [a])) = t.interner.names.map (places l) := by
      refine List.map_congr_left fun name hname => ?_
      have hne : a.name ≠ name := fun heq => hmem (heq ▸ hname)
      rw [places_concat, if_neg hne, List.append_nil]
    simp only [SymbolTable.addition, add, hintern, enter, h.overloads, List.length_map,
      Nat.lt_irrefl, if_false, h.length_eq, Interner.add, List.map_append, hothers,
      List.map_singleton, places_concat, hplaces, if_true, List.nil_append]
    rfl

theorem Holds.addition (h : Holds t l) (a : Addition) : Holds (t.addition a).1 (l ++ [a]) :=
  ⟨h.symbols_addition a, h.overloads_addition a⟩

theorem get_eq_ok_iff {id : SymbolId} {s : FunctionSymbol} :
    t.get id = .ok s ↔ t.symbols[id.index.toNat]? = some s := by
  unfold get
  cases t.symbols[id.index.toNat]? <;> simp

theorem Holds.of_get (h : Holds t l) {id : SymbolId} {s : FunctionSymbol} (hs : t.get id = .ok s) :
    ∃ a, l[id.index.toNat]? = some a ∧ t.shown s = (some a.name, a.type, a.origin) := by
  have hshown := h.shown_getElem? id.index.toNat
  rw [get_eq_ok_iff.1 hs, Option.map_some] at hshown
  obtain ⟨a, ha, heq⟩ := Option.map_eq_some_iff.1 hshown.symm
  exact ⟨a, ha, heq.symm⟩

theorem Holds.exists_get (h : Holds t l) {id : SymbolId} (ha : l[id.index.toNat]? = some a) :
    ∃ s, t.get id = .ok s ∧ t.shown s = (some a.name, a.type, a.origin) := by
  have hshown := h.shown_getElem? id.index.toNat
  rw [ha, Option.map_some] at hshown
  obtain ⟨s, hs, heq⟩ := Option.map_eq_some_iff.1 hshown
  exact ⟨s, get_eq_ok_iff.2 hs, heq⟩

theorem Holds.get_eq_error_iff (h : Holds t l) {id : SymbolId} {e : OutOfBounds} :
    t.get id = .error e ↔ l.length ≤ id.index.toNat ∧ e = ⟨l.length, id.index.toNat⟩ := by
  rw [get, h.length_eq]
  cases hs : t.symbols[id.index.toNat]? with
  | some s =>
    have hlt : id.index.toNat < l.length := h.length_eq ▸ (List.getElem?_eq_some_iff.1 hs).1
    exact ⟨fun herror => (nomatch herror), fun hbeyond => absurd hbeyond.1 (Nat.not_le_of_lt hlt)⟩
  | none =>
    have hle : l.length ≤ id.index.toNat := h.length_eq ▸ List.getElem?_eq_none_iff.1 hs
    exact ⟨fun herror => ⟨hle, (Except.error.inj herror).symm⟩,
      fun hbeyond => congrArg Except.error hbeyond.2.symm⟩

theorem name_of_get {id : SymbolId} {s : FunctionSymbol} {name : String} (hs : t.get id = .ok s)
    (hname : t.interner.name? s.name = some name) : t.name id = .ok name := by
  rw [SymbolTable.name, hs]
  simp only [Except.map, hname, Option.getD_some]

theorem Holds.name_eq (h : Holds t l) {id : SymbolId} (ha : l[id.index.toNat]? = some a) :
    t.name id = .ok a.name := by
  obtain ⟨s, hs, hshown⟩ := h.exists_get ha
  exact name_of_get hs (congrArg Prod.fst hshown)

theorem name_eq_error_iff {id : SymbolId} {e : OutOfBounds} :
    t.name id = .error e ↔ t.get id = .error e := by
  rw [SymbolTable.name]
  cases t.get id <;> simp [Except.map]

/-- Symbols have the number of one name iff they have one name. -/
theorem Holds.number_eq_iff (h : Holds t l) {id id' : SymbolId} {s s' : FunctionSymbol}
    (hs : t.get id = .ok s) (hs' : t.get id' = .ok s') :
    s.name = s'.name ↔ t.name id = t.name id' := by
  obtain ⟨a, ha, hshown⟩ := h.of_get hs
  obtain ⟨a', ha', hshown'⟩ := h.of_get hs'
  have hname : t.interner.name? s.name = some a.name := congrArg Prod.fst hshown
  have hname' : t.interner.name? s'.name = some a'.name := congrArg Prod.fst hshown'
  rw [name_of_get hs hname, name_of_get hs' hname']
  constructor
  · intro heq
    rw [heq, hname'] at hname
    exact congrArg Except.ok (Option.some.inj hname).symm
  · intro heq
    rw [← Except.ok.inj heq] at hname'
    exact Interner.name?_inj hname hname'

theorem toList_getElem? (t : SymbolTable) (i : Nat) :
    t.toList[i]? = (t.symbols[i]?).map fun s => (place i, s) :=
  List.getElem?_mapIdx ..

theorem Holds.indices_toList (h : Holds t l) (hl : l.length < UInt32.size) :
    t.toList.map (·.1.index.toNat) = List.range l.length := by
  refine List.ext_getElem? fun i => ?_
  rw [List.getElem?_map, toList_getElem?, ← h.length_eq]
  by_cases hi : i < t.symbols.length
  · have hplace : (place i).index.toNat = i :=
      toNat_place (Nat.lt_trans hi (h.length_eq ▸ hl))
    simp [hi, hplace]
  · simp [hi]

theorem Holds.get_of_mem_toList (h : Holds t l) (hl : l.length < UInt32.size)
    {p : SymbolId × FunctionSymbol} (hp : p ∈ t.toList) : t.get p.1 = .ok p.2 := by
  obtain ⟨i, hi⟩ := List.getElem?_of_mem hp
  rw [toList_getElem?] at hi
  obtain ⟨s, hs, rfl⟩ := Option.map_eq_some_iff.1 hi
  have hlt : i < l.length := h.length_eq ▸ (List.getElem?_eq_some_iff.1 hs).1
  rw [get_eq_ok_iff, toNat_place (Nat.lt_trans hlt hl)]
  exact hs

end Holds

section ofRequests

variable {h : List Request}

theorem additions_append (h h' : List Request) :
    additions (h ++ h') = additions h ++ additions h' :=
  List.filterMap_append

theorem additions_add (a : Addition) (h : List Request) :
    additions (.add a :: h) = a :: additions h :=
  List.filterMap_cons_some rfl

/-- A request extends what the table holds by the function that it adds, if any. -/
theorem Holds.after {t : SymbolTable} {l : List Addition} (ht : Holds t l) (r : Request) :
    Holds (t.after r) (l ++ additions [r]) := by
  cases r with
  | add a => exact ht.addition a
  | _ =>
    rw [show additions [_] = [] from rfl, List.append_nil]
    exact ht

/-- After any requests a table holds the functions that they added. -/
theorem holds_ofRequests (h : List Request) : Holds (ofRequests h) (additions h) := by
  induction h using List.reverseRecOn with
  | nil => exact holds_nil
  | append_singleton h r ih =>
    rw [ofRequests, List.foldl_append, additions_append]
    exact ih.after r

/-- Only the requests that add a function leave a trace. -/
theorem ofRequests_eq_foldl_additions (h : List Request) :
    ofRequests h = (additions h).foldl (fun t a => (t.addition a).1) {} := by
  rw [ofRequests, additions, List.foldl_filterMap]
  refine congrArg (fun f => h.foldl f ({} : SymbolTable)) (funext fun t => funext fun r => ?_)
  cases r <;> rfl

/-- The addition of a function by one of the requests gave it this place. -/
def Added (h : List Request) (a : Addition) (id : SymbolId) : Prop :=
  ∃ h₁ h₂, h = h₁ ++ .add a :: h₂ ∧ ((ofRequests h₁).addition a).2 = id

/-- The place of an addition counts the additions before it. -/
theorem snd_addition (h : List Request) (a : Addition) :
    ((ofRequests h).addition a).2 = place (additions h).length := by
  rw [← (holds_ofRequests h).length_eq]
  rfl

theorem added_iff {a : Addition} {id : SymbolId} :
    Added h a id ↔ ∃ i, (additions h)[i]? = some a ∧ place i = id := by
  constructor
  · rintro ⟨h₁, h₂, rfl, rfl⟩
    refine ⟨(additions h₁).length, ?_, (snd_addition h₁ a).symm⟩
    rw [additions_append, additions_add, List.getElem?_append_right (Nat.le_refl _), Nat.sub_self]
    rfl
  · rintro ⟨i, hi, rfl⟩
    have hlt : i < (additions h).length := (List.getElem?_eq_some_iff.1 hi).1
    have hsplit : additions h = (additions h).take i ++ a :: (additions h).drop (i + 1) := by
      rw [← (List.getElem?_eq_some_iff.1 hi).2, ← List.drop_eq_getElem_cons hlt,
        List.take_append_drop]
    obtain ⟨h₀, h₁, rfl, htake, hdrop⟩ := List.filterMap_eq_append_iff.1 hsplit
    obtain ⟨lookups, r, h₂, rfl, hlookups, hr, -⟩ := List.filterMap_eq_cons_iff.1 hdrop
    have hadd : r = .add a := by
      cases r with
      | add b => exact congrArg Request.add (Option.some.inj hr)
      | _ => exact absurd hr (by simp [Request.addition?])
    refine ⟨h₀ ++ lookups, h₂, by rw [hadd, List.append_assoc], ?_⟩
    have hnone : additions lookups = [] := List.filterMap_eq_nil_iff.2 hlookups
    rw [snd_addition, additions_append, hnone, List.append_nil]
    rw [additions, htake, List.length_take, Nat.min_eq_left (Nat.le_of_lt hlt)]

variable (hcount : (additions h).length < UInt32.size) {a : Addition} {id : SymbolId}
include hcount

theorem added_iff_getElem? : Added h a id ↔ (additions h)[id.index.toNat]? = some a := by
  rw [added_iff]
  constructor
  · rintro ⟨i, hi, rfl⟩
    have hlt : i < (additions h).length := (List.getElem?_eq_some_iff.1 hi).1
    rw [toNat_place (Nat.lt_trans hlt hcount)]
    exact hi
  · intro ha
    exact ⟨_, ha, place_index id⟩

theorem mem_lookup_iff {name : String} :
    id ∈ (ofRequests h).lookup name ↔ ∃ a, Added h a id ∧ a.name = name := by
  rw [(holds_ofRequests h).lookup_eq, mem_places hcount]
  exact exists_congr fun a => and_congr_left fun _ => (added_iff_getElem? hcount).symm

omit hcount

end ofRequests

/-- What a table shows after some requests, told by the functions that they added. -/
structure Refines (t : SymbolTable) (h : List Request) : Prop where
  /-- The places are the numbers of the additions. -/
  numbered : ∀ i a, (additions h)[i]? = some a ↔ ∃ id, Added h a id ∧ id.index.toNat = i
  /-- A place shows what was added. -/
  shown : ∀ a id, Added h a id →
    t.name id = .ok a.name ∧ ∃ s, t.get id = .ok s ∧ s.type = a.type ∧ s.origin = a.origin
  /-- The index by name is sound, complete and in order. -/
  lookup : ∀ name, (t.lookup name).Pairwise (·.index < ·.index) ∧
    ∀ id, id ∈ t.lookup name ↔ ∃ a, Added h a id ∧ a.name = name
  /-- Nothing is found by a name that was not added. -/
  missing : ∀ name, (∀ a ∈ additions h, a.name ≠ name) → t.lookup name = []
  /-- Names are equal iff their numbers are. -/
  names : ∀ id id' s s', t.get id = .ok s → t.get id' = .ok s' →
    (s.name = s'.name ↔ t.name id = t.name id')
  /-- The table lists every place in order. -/
  listed : t.toList.map (·.1.index.toNat) = List.range (additions h).length
  /-- It lists with each place the symbol that stands there. -/
  symbols : ∀ p ∈ t.toList, t.get p.1 = .ok p.2
  length : t.length = (additions h).length
  /-- Exactly the places beyond the length are refused. -/
  get : ∀ id e, t.get id = .error e ↔ (additions h).length ≤ id.index.toNat ∧
    e = ⟨(additions h).length, id.index.toNat⟩
  name : ∀ id e, t.name id = .error e ↔ (additions h).length ≤ id.index.toNat ∧
    e = ⟨(additions h).length, id.index.toNat⟩
  /-- Looking up changes nothing. -/
  traceless : ∀ h', additions h' = additions h → ofRequests h' = t

/-- A table refines the list of the functions added to it, whatever is looked up in between: the
additions are numbered in their order, the table shows each under its number ever after, and finds
by a name the numbers of its additions in increasing order. -/
theorem table_refines_additions (h : List Request) (hcount : (additions h).length < UInt32.size) :
    Refines (ofRequests h) h := by
  have hholds := holds_ofRequests h
  constructor
  case numbered =>
    intro i a
    constructor
    · intro hi
      have hlt : i < (additions h).length := (List.getElem?_eq_some_iff.1 hi).1
      have hplace : (place i).index.toNat = i := toNat_place (Nat.lt_trans hlt hcount)
      exact ⟨place i, (added_iff_getElem? hcount).2 (hplace.symm ▸ hi), hplace⟩
    · rintro ⟨id, hadded, rfl⟩
      exact (added_iff_getElem? hcount).1 hadded
  case shown =>
    intro a id hadded
    have ha := (added_iff_getElem? hcount).1 hadded
    obtain ⟨s, hs, hshown⟩ := hholds.exists_get ha
    exact ⟨hholds.name_eq ha, s, hs, congrArg (·.2.1) hshown, congrArg (·.2.2) hshown⟩
  case lookup =>
    intro name
    refine ⟨?_, fun id => mem_lookup_iff hcount⟩
    rw [hholds.lookup_eq]
    exact places_increasing hcount
  case missing =>
    intro name hname
    rw [hholds.lookup_eq]
    exact places_eq_nil hname
  case names =>
    intro id id' s s' hs hs'
    exact hholds.number_eq_iff hs hs'
  case listed => exact hholds.indices_toList hcount
  case symbols =>
    intro p hp
    exact hholds.get_of_mem_toList hcount hp
  case length => exact hholds.length_eq
  case get =>
    intro id e
    exact hholds.get_eq_error_iff
  case name =>
    intro id e
    exact name_eq_error_iff.trans hholds.get_eq_error_iff
  case traceless =>
    intro h' heq
    rw [ofRequests_eq_foldl_additions, ofRequests_eq_foldl_additions, heq]

/-- Two overloads around a function without a name, with names looked up before they are added. -/
def overloadedRequests : List Request :=
  let real : Signature := ⟨.atomic .float .varying, [.atomic .float .varying]⟩
  let whole : Signature := ⟨.atomic .int32 .varying, [.atomic .int32 .varying]⟩
  [.lookup "abs", .add ⟨"abs", whole, .source⟩, .name (place 2), .add ⟨"", whole, .source⟩,
    .lookup "sqrt", .add ⟨"abs", real, .source⟩, .toList]

theorem table_refines_additions_overloaded :
    (additions overloadedRequests).length < UInt32.size ∧
    (ofRequests overloadedRequests).length = 3 ∧
    (place 0 ∈ (ofRequests overloadedRequests).lookup "abs" ∧
      place 1 ∉ (ofRequests overloadedRequests).lookup "abs" ∧
      place 2 ∈ (ofRequests overloadedRequests).lookup "abs") ∧
    (ofRequests overloadedRequests).lookup "sqrt" = [] ∧
    (ofRequests overloadedRequests).name (place 1) = .ok "" ∧
    (ofRequests overloadedRequests).get (place 3) = .error ⟨3, 3⟩ := by
  have hcount : (additions overloadedRequests).length < UInt32.size := by decide
  have hrefines := table_refines_additions overloadedRequests hcount
  have hmem (id : SymbolId) : id ∈ (ofRequests overloadedRequests).lookup "abs" ↔
      ∃ a, (additions overloadedRequests)[id.index.toNat]? = some a ∧ a.name = "abs" := by
    rw [(hrefines.lookup "abs").2 id]
    exact exists_congr fun a => and_congr_left fun _ => added_iff_getElem? hcount
  have hsecond : Added overloadedRequests _ (place 1) := (added_iff_getElem? hcount).2 rfl
  refine ⟨hcount, hrefines.length, ⟨?_, ?_, ?_⟩, ?_, ?_, ?_⟩
  · exact (hmem _).2 ⟨_, rfl, rfl⟩
  · rw [hmem]
    rintro ⟨a, ha, hname⟩
    cases ha
    exact absurd hname (by decide)
  · exact (hmem _).2 ⟨_, rfl, rfl⟩
  · exact hrefines.missing "sqrt" (by decide)
  · exact (hrefines.shown _ _ hsecond).1
  · exact (hrefines.get _ _).2 ⟨by decide, rfl⟩

end SymbolTable

end BuiltinLink
