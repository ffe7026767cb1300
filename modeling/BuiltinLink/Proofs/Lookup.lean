/-!
Lists of pairs as tables. A key is looked up in its first pair, so under distinct keys every pair is
found.
-/

namespace BuiltinLink

variable {α β : Type} [BEq α] [LawfulBEq α] {l : List (α × β)}

theorem mem_of_lookup {k : α} {v : β} (h : l.lookup k = some v) : (k, v) ∈ l := by
  obtain ⟨l₁, l₂, rfl, -⟩ := List.lookup_eq_some_iff.1 h
  simp

theorem lookup_of_mem (h : (l.map Prod.fst).Nodup) {e : α × β} (he : e ∈ l) :
    l.lookup e.1 = some e.2 := by
  obtain ⟨l₁, l₂, rfl⟩ := List.append_of_mem he
  rw [List.map_append, List.map_cons, List.nodup_append] at h
  refine List.lookup_eq_some_iff.2 ⟨l₁, l₂, rfl, fun e' he' => ?_⟩
  rw [bne_iff_ne]
  exact (h.2.2 e'.1 (List.mem_map_of_mem he') e.1 List.mem_cons_self).symm

end BuiltinLink
