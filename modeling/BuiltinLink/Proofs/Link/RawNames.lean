import BuiltinLink.Proofs.Link.Hiding
import BuiltinLink.Proofs.Link.Renaming
import BuiltinLink.Proofs.Text.Lossy

/-!
Names of symbols as they are stored. What a name is reserved or kept for is told by its bytes: the
lenient reader puts replacement characters where the bytes encode nothing, and neither the mark of
intrinsics nor any special name holds one. So a name that is no text stands for no special name, and
no such name is lost.
-/

namespace BuiltinLink.SymbolName

open Text

variable {b : Bytes}

/-- The zero that ends a name is not part of it, and nothing behind it is. -/
theorem ofBytes?_append_zero (h : 0 ∉ b) (rest : Bytes) :
    ofBytes? (b ++ 0 :: rest) = some (String.ofList (decodeLossy b)) := by
  have hb : ∀ x ∈ b, decide (x ≠ 0) = true := fun x hx => decide_eq_true fun h0 => h (h0 ▸ hx)
  have htake : (b ++ 0 :: rest).takeWhile (· ≠ 0) = b := by
    rw [List.takeWhile_append_of_pos hb]
    simp
  rw [ofBytes?, if_pos (by simp), htake]

theorem isIntrinsic_ofList_iff :
    isIntrinsic (String.ofList (decodeLossy b)) = true ↔ b.take 5 = encode "llvm.".toList := by
  rw [isIntrinsic_iff, String.toList_ofList, prefix_decodeLossy_iff (by decide),
    List.prefix_iff_eq_take, eq_comm]
  rfl

/-- A name without replacement characters is read from its own bytes alone. -/
theorem ofList_mem_iff {names : List String} (h : ∀ name ∈ names, '\ufffd' ∉ name.toList) :
    String.ofList (decodeLossy b) ∈ names ↔ ∃ name ∈ names, encode name.toList = b := by
  constructor
  · intro hmem
    refine ⟨_, hmem, ?_⟩
    rw [← decodeLossy_eq_iff (h _ hmem), String.toList_ofList]
  · rintro ⟨name, hmem, rfl⟩
    rwa [decodeLossy_encode, String.ofList_toList]

theorem replacement_not_mem_special :
    ∀ name ∈ runtimeHooks ++ KeepCatalog.builtin.members, '\ufffd' ∉ name.toList := by
  intro name hname hmem
  have hascii := isAscii_of_special name hname
  rw [toList_of_ascii hascii, List.mem_map] at hmem
  obtain ⟨b, hb, heq⟩ := hmem
  have hnumber := congrArg Char.toNat heq
  rw [Char.toNat, toNat_ofNat (.inl (by have := hascii b hb; omega))] at hnumber
  exact absurd (hnumber ▸ hascii b hb) (by decide)

theorem mem_runtimeHooks_iff :
    String.ofList (decodeLossy b) ∈ runtimeHooks ↔
      ∃ hook ∈ runtimeHooks, encode hook.toList = b :=
  ofList_mem_iff fun name h => replacement_not_mem_special name (List.mem_append_left _ h)

theorem contains_builtin_iff :
    KeepCatalog.builtin.contains (String.ofList (decodeLossy b)) = true ↔
      ∃ function ∈ KeepCatalog.builtin.members, encode function.toList = b := by
  rw [KeepCatalog.contains_iff_mem_members]
  exact ofList_mem_iff fun name h => replacement_not_mem_special name (List.mem_append_right _ h)

theorem isReserved_iff {n : String} :
    isReserved n = true ↔ isIntrinsic n = true ∨ n ∈ runtimeHooks := by
  simp [isReserved]

/-- What is told of a name is told by its bytes. -/
structure ToldByBytes (n : String) (b : Bytes) : Prop where
  intrinsic : isIntrinsic n = true ↔ b.take 5 = encode "llvm.".toList
  reserved : isReserved n = true ↔
    b.take 5 = encode "llvm.".toList ∨ ∃ hook ∈ runtimeHooks, encode hook.toList = b
  kept : KeepCatalog.builtin.contains n = true ↔
    ∃ function ∈ KeepCatalog.builtin.members, encode function.toList = b
  /-- Only a text keeps its bytes. -/
  same : encode n.toList = b ↔ b.toByteArray.IsValidUTF8
  /-- Bytes that are no text stand for no special name. -/
  malformed : ¬ b.toByteArray.IsValidUTF8 →
    n ∉ runtimeHooks ∧ KeepCatalog.builtin.contains n = false

theorem toldByBytes (b : Bytes) : ToldByBytes (String.ofList (decodeLossy b)) b where
  intrinsic := isIntrinsic_ofList_iff
  reserved := by rw [isReserved_iff, isIntrinsic_ofList_iff, mem_runtimeHooks_iff]
  kept := contains_builtin_iff
  same := by rw [String.toList_ofList, encode_decodeLossy_iff]
  malformed h := by
    -- A special name is a text, so its bytes are valid.
    have hnone (names : List String) : ¬ ∃ name ∈ names, encode name.toList = b := by
      rintro ⟨name, -, rfl⟩
      exact h ⟨name.toList, rfl⟩
    rw [← Bool.not_eq_true, mem_runtimeHooks_iff, contains_builtin_iff]
    exact ⟨hnone _, hnone _⟩

/-- Reading leniently never changes what a name is, over all stored names: whatever the bytes in
front of the zero are, each special name is known by its own. And when definitions are hidden,
nothing is looked at and nothing counted exactly if all names are reserved, whatever the module is,
its state and what its actions do; the log that shows the looks changes nothing else. -/
theorem class_survives_decoding :
    (∀ b rest : Bytes, 0 ∉ b → ∃ n, ofBytes? (b ++ 0 :: rest) = some n ∧ ToldByBytes n b) ∧
    ∀ c : Contribution,
      (c.internalized? = some 0 ↔ c.AllReserved) ∧
      ∀ (σ : Type) (dest : Destination (StateM σ)) (state : σ),
        (((c.hide dest.logged).run []).run state = ((0, []), state) ↔ c.AllReserved) ∧
        ((c.hide dest.logged).run []).run state =
          ((((c.hide dest).run state).1, c.looks), ((c.hide dest).run state).2) := by
  refine ⟨fun b rest h => ⟨_, ofBytes?_append_zero h rest, toldByBytes b⟩, fun c =>
    ⟨Contribution.internalized?_eq_some_iff, fun σ dest state =>
      ⟨Contribution.run_hide_logged_eq_iff, ?_⟩⟩⟩
  rw [Contribution.run_hide_logged, List.nil_append]
  rfl

/-- An intrinsic stays one though its name is no text. -/
theorem class_survives_decoding_malformed :
    0 ∉ ([0x6c, 0x6c, 0x76, 0x6d, 0x2e, 0xff] : Bytes) ∧
    ∃ n, ofBytes? [0x6c, 0x6c, 0x76, 0x6d, 0x2e, 0xff, 0] = some n ∧ isReserved n = true ∧
      KeepCatalog.builtin.contains n = false ∧
      encode n.toList ≠ [0x6c, 0x6c, 0x76, 0x6d, 0x2e, 0xff] := by
  refine ⟨by decide, ?_⟩
  obtain ⟨n, hn, h⟩ := class_survives_decoding.1 [0x6c, 0x6c, 0x76, 0x6d, 0x2e, 0xff] [] (by decide)
  have hbad : ¬ ([0x6c, 0x6c, 0x76, 0x6d, 0x2e, 0xff] : Bytes).toByteArray.IsValidUTF8 := by decide
  exact ⟨n, hn, h.reserved.2 (.inl rfl), (h.malformed hbad).2, fun hsame => hbad (h.same.1 hsame)⟩

end BuiltinLink.SymbolName
