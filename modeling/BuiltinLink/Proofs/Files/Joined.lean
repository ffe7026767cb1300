import BuiltinLink.Files.Path
import BuiltinLink.Proofs.Text.Lossy

/-!
A name joined to a directory. Whatever the directory is (empty, with or without a slash at its end,
no text at all), the joined path takes the steps of the directory and then the one to the name, and
it is shown as the directory, a slash where one was added, and the name.
-/

namespace BuiltinLink.Path

open Text

/-! ### Stretches -/

theorem stretches_ne_nil (bs : Bytes) : stretches bs ≠ [] := by
  induction bs with
  | nil => exact List.cons_ne_nil _ _
  | cons b r ih =>
    rw [stretches]
    split
    · exact List.cons_ne_nil _ _
    · split
      · exact List.cons_ne_nil _ _
      · exact List.cons_ne_nil _ _

/-- A slash ends one stretch and begins another. -/
theorem stretches_append_slash (bs r : Bytes) :
    stretches (bs ++ slash :: r) = stretches bs ++ stretches r := by
  induction bs with
  | nil => simp [stretches]
  | cons b bs ih =>
    rw [List.cons_append, stretches, stretches, ih]
    split
    · rfl
    · obtain ⟨p, ps, hp⟩ := List.exists_cons_of_ne_nil (stretches_ne_nil bs)
      rw [hp]
      rfl

theorem stretches_of_not_mem {bs : Bytes} (h : slash ∉ bs) : stretches bs = [bs] := by
  induction bs with
  | nil => rfl
  | cons b r ih =>
    rw [List.mem_cons, not_or] at h
    rw [stretches, if_neg (Ne.symm h.1), ih h.2]

/-! ### Joined paths -/

theorem join_inj {dir : Path} {m n : Bytes} : dir.join m = dir.join n ↔ m = n := by
  rw [join, join, Path.mk.injEq, List.append_cancel_left_eq]

variable {dir : Path} {n : Bytes}

theorem bytes_join (h : dir.bytes ≠ []) : ∃ d, (dir.join n).bytes = d ++ slash :: n ∧
    (stretches d).filter (· ≠ []) = dir.names ∧ (d ++ [slash]).head? = dir.bytes.head? := by
  by_cases hs : dir.endsInSlash
  · have hlast : dir.bytes.getLast? = some slash := by simpa [endsInSlash] using hs
    obtain ⟨d, hd⟩ := List.getLast?_eq_some_iff.1 hlast
    refine ⟨d, ?_, ?_, by rw [hd]⟩
    · simp [join, hs, hd]
    · simp [names, hd, stretches_append_slash, stretches]
  · refine ⟨dir.bytes, ?_, rfl, ?_⟩
    · simp [join, hs, h]
    · rw [List.head?_append_of_ne_nil _ h]

theorem names_join (hne : n ≠ []) (hn : slash ∉ n) : (dir.join n).names = dir.names ++ [n] := by
  by_cases h : dir.bytes = []
  · simp [names, join, h, stretches_of_not_mem hn, stretches, hne]
  · obtain ⟨d, hd, hnames, -⟩ := bytes_join (n := n) h
    rw [names, hd, stretches_append_slash, List.filter_append, hnames, stretches_of_not_mem hn]
    simp [hne]

theorem isAbsolute_join (hn : slash ∉ n) : (dir.join n).isAbsolute = dir.isAbsolute := by
  by_cases h : dir.bytes = []
  · cases n with
    | nil => simp [isAbsolute, join, h]
    | cons b n =>
      rw [List.mem_cons, not_or] at hn
      simp [isAbsolute, join, h, Ne.symm hn.1]
  · obtain ⟨d, hd, -, hhead⟩ := bytes_join (n := n) h
    rw [isAbsolute, isAbsolute, hd, ← hhead, ← List.singleton_append, ← List.append_assoc,
      List.head?_append_of_ne_nil _ (by simp)]

/-- A name is one more step behind those of the directory. -/
theorem components_join (hne : n ≠ []) (hn : slash ∉ n) (hdot : n ≠ dot) (hdots : n ≠ dotdot) :
    (dir.join n).components = dir.components ++ [.name n] := by
  have hstep : component? n = some (.name n) := by rw [component?, if_neg hdot, if_neg hdots]
  have hhead : (dir.names ++ [n]).head? = some dot ↔ dir.names.head? = some dot := by
    cases dir.names <;> simp [hdot]
  rw [components, components, isAbsolute_join hn, names_join hne hn, List.filterMap_append,
    List.filterMap_cons, hstep, List.filterMap_nil, List.append_assoc]
  simp only [hhead]

/-! ### Shown paths -/

/-- A path that is a text is shown as it is. -/
theorem display_of_text? {p : Path} {t : String} (h : p.text? = some t) : p.display = t := by
  obtain ⟨l, hl, rfl⟩ := Option.map_eq_some_iff.1 h
  rw [display, ← decode?_eq_some_iff.1 hl, decodeLossy_encode]

/-- A directory that is no text shows with replacement characters, and what is joined to it behind
them unchanged. -/
theorem display_join (dir : Path) (s : String) : (dir.join (encode s.toList)).display =
    dir.display ++ (if dir.bytes = [] ∨ dir.endsInSlash then "" else "/") ++ s := by
  have hslash : (if dir.bytes = [] ∨ dir.endsInSlash then [] else [slash]) =
      encode (if dir.bytes = [] ∨ dir.endsInSlash then "" else "/").toList := by
    split <;> rfl
  rw [display, join, hslash, decodeLossy_append_encode, decodeLossy_append_encode,
    String.ofList_append, String.ofList_append, String.ofList_toList, String.ofList_toList, display]

end BuiltinLink.Path
