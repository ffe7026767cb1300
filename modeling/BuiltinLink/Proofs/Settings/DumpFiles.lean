import BuiltinLink.Proofs.Files.Joined
import BuiltinLink.Proofs.Text.Joined
import BuiltinLink.Settings.Dump
import Mathlib.Data.List.Basic

/-!
Files of different checkpoints never collide. The name of a dump is read back from the front: the
digits of the index end at the first underscore behind them, the stage at the first dot, and what is
left tells the instruction set, if there is one. No name holds a slash, so within one directory the
paths differ as the names do, step by step and not only byte by byte.
-/

namespace BuiltinLink

open Text

namespace DumpRule

/-- The ending of a file name for an instruction set. -/
def isaEnding : Option Isa → List Char
  | some isa => '_' :: (Vocabulary.name isa).toList
  | none => []

theorem isaEnding_inj {a b : Option Isa} : isaEnding a = isaEnding b ↔ a = b := by
  constructor
  · intro h
    cases a with
    | none =>
      cases b with
      | none => rfl
      | some y => simp [isaEnding] at h
    | some x =>
      cases b with
      | none => simp [isaEnding] at h
      | some y =>
        have hname := String.toList_inj.1 (List.cons.inj h).2
        rw [Vocabulary.name_injective x y hname]
  · exact congrArg isaEnding

variable (r : DumpRule) (n : UInt32) (stage : Stage)

theorem toList_fileName : (r.fileName n stage).toList =
    "pre_".toList ++ (Nat.toDigits 10 n.toNat ++ '_' ::
      ((Vocabulary.name stage).toList ++ '.' :: ("ll".toList ++ isaEnding r.isa))) := by
  rw [fileName]
  cases r.isa with
  | none => simp [isaEnding]
  | some isa => simp [isaEnding]

example : fileName ⟨∅, ∅, none, some .avx2I32x16⟩ 1 .linkStdlib =
    "pre_1_LinkStdlib.ll_avx2-i32x16" := by
  decide

/-- The characters that names of dumps are made of. -/
def isNameChar (c : Char) : Bool :=
  c.isAlphanum || ['_', '.', '-'].contains c

theorem all_isNameChar_fileName : (r.fileName n stage).toList.all isNameChar = true := by
  have hfixed : "pre_".toList.all isNameChar = true ∧ "ll".toList.all isNameChar = true := by decide
  have hdigits : (Nat.toDigits 10 n.toNat).all isNameChar = true := by
    rw [List.all_eq_true]
    intro c hc
    have hd : c.isDigit = true := Nat.isDigit_of_mem_toDigits (by decide) (by decide) hc
    rw [isNameChar, Char.isAlphanum, hd, Bool.or_true, Bool.true_or]
  have hstage : (Vocabulary.name stage).toList.all isNameChar = true := by cases stage <;> decide
  have hending : (isaEnding r.isa).all isNameChar = true := by
    cases r.isa with
    | none => rfl
    | some isa => cases isa <;> decide
  rw [toList_fileName, List.all_append, List.all_append, List.all_cons, List.all_append,
    List.all_cons, List.all_append, hfixed.1, hfixed.2, hdigits, hstage, hending]
  decide

theorem not_mem_fileName {c : Char} (h : isNameChar c = false) :
    c ∉ (r.fileName n stage).toList := by
  intro hc
  rw [List.all_eq_true.1 (all_isNameChar_fileName r n stage) c hc] at h
  cases h

variable {r n stage} {r' : DumpRule} {m : UInt32} {stage' : Stage}

theorem fileName_eq_iff :
    r.fileName n stage = r'.fileName m stage' ↔ n = m ∧ stage = stage' ∧ r.isa = r'.isa := by
  constructor
  · intro h
    have hl := congrArg String.toList h
    rw [toList_fileName, toList_fileName] at hl
    have hdot (s : Stage) : '.' ∉ (Vocabulary.name s).toList := by cases s <;> decide
    obtain ⟨hindex, hrest⟩ := toDigits_append_cons_inj (by decide) (List.append_cancel_left hl)
    obtain ⟨hstage, hending⟩ := append_cons_inj (hdot stage) (hdot stage') hrest
    exact ⟨UInt32.toNat_inj.1 hindex,
      Vocabulary.name_injective _ _ (String.toList_inj.1 hstage),
      isaEnding_inj.1 (List.append_cancel_left hending)⟩
  · intro h
    rw [fileName, fileName, h.1, h.2.1, h.2.2]

/-- The file is one step behind the directory. -/
theorem components_file (r : DumpRule) (dir : Path) (n : UInt32) (stage : Stage) :
    (r.file dir n stage).components =
      dir.components ++ [.name (encode (r.fileName n stage).toList)] := by
  have hslash : Path.slash ∉ encode (r.fileName n stage).toList := by
    rw [mem_encode_iff (by decide)]
    exact not_mem_fileName r n stage (by decide)
  have hhead : (encode (r.fileName n stage).toList).head? = some 112 := by
    rw [toList_fileName]
    rfl
  have hne {bs : Bytes} (h : bs.head? ≠ some 112) : encode (r.fileName n stage).toList ≠ bs := by
    intro heq
    exact h (heq ▸ hhead)
  exact Path.components_join (hne (by decide)) hslash (hne (by decide)) (hne (by decide))

/-- The instruction set counts only for settings of several. -/
theorem isa_ofSettings_eq_iff {a b : LinkSettings} : (ofSettings a).isa = (ofSettings b).isa ↔
    a.multiTarget = false ∧ b.multiTarget = false ∨
      a.multiTarget = true ∧ b.multiTarget = true ∧ a.target.isa = b.target.isa := by
  cases ha : a.multiTarget <;> cases hb : b.multiTarget <;> simp [ofSettings, ha, hb]

/-- Two checkpoints are dumped to files of the same name iff they have the same index and stage and
either none is of a build for several instruction sets or both are for the same of them. In one
directory, whatever its path is, they are dumped to the same place iff the names are the same. -/
theorem dump_files_apart (a b : LinkSettings) (i j : UInt32) (s t : Stage) :
    ((ofSettings a).fileName i s = (ofSettings b).fileName j t ↔
      i = j ∧ s = t ∧ (a.multiTarget = false ∧ b.multiTarget = false ∨
        a.multiTarget = true ∧ b.multiTarget = true ∧ a.target.isa = b.target.isa)) ∧
    ('/' ∉ ((ofSettings a).fileName i s).toList ∧
      Char.ofNat 0 ∉ ((ofSettings a).fileName i s).toList) ∧
    ∀ dir : Path,
      ((ofSettings a).file dir i s = (ofSettings b).file dir j t ↔
        (ofSettings a).fileName i s = (ofSettings b).fileName j t) ∧
      (((ofSettings a).file dir i s).components = ((ofSettings b).file dir j t).components ↔
        (ofSettings a).fileName i s = (ofSettings b).fileName j t) := by
  refine ⟨by rw [fileName_eq_iff, isa_ofSettings_eq_iff],
    ⟨not_mem_fileName _ i s (by decide), not_mem_fileName _ i s (by decide)⟩,
    fun dir => ⟨?_, ?_⟩⟩
  · rw [file, file, Path.join_inj, encode_inj, String.toList_inj]
  · rw [components_file, components_file, List.append_cancel_left_eq, List.singleton_inj,
      Path.Component.name.injEq, encode_inj, String.toList_inj]

end DumpRule

end BuiltinLink
