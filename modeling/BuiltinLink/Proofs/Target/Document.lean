import BuiltinLink.Target.Document

/-!
Documents use the canonical names. The two tables of a closed set are written down apart; here they
are shown to agree, by which whatever is proved of canonical names holds of documents.
-/

namespace BuiltinLink

/-- A closed set that documents list in order of precedence, each member under its canonical
name. -/
class CanonicalInDocuments (α : Type) [Vocabulary α] [DocumentNames α] : Prop where
  variants_eq : DocumentNames.variants = (Vocabulary.members : List α)
  documentName_eq : ∀ a : α, DocumentNames.documentName a = Vocabulary.name a

namespace DocumentNames

open CanonicalInDocuments

variable {α : Type} [Vocabulary α] [DocumentNames α] [CanonicalInDocuments α]

theorem names_eq : names α = Vocabulary.names α := by
  rw [names, variants_eq]
  exact List.map_congr_left fun a _ => documentName_eq a

theorem find?_eq_ofName? (s : String) : (find? s : Option α) = Vocabulary.ofName? s := by
  unfold find? Vocabulary.ofName?
  rw [variants_eq]
  simp only [documentName_eq]

theorem find?_eq_some_iff {s : String} {a : α} : find? s = some a ↔ Vocabulary.name a = s := by
  rw [find?_eq_ofName?, Vocabulary.ofName?_eq_some_iff]

end DocumentNames

instance : CanonicalInDocuments Isa where
  variants_eq := rfl
  documentName_eq isa := by cases isa <;> rfl

instance : CanonicalInDocuments Os where
  variants_eq := rfl
  documentName_eq os := by cases os <;> decide

instance : CanonicalInDocuments Arch where
  variants_eq := rfl
  documentName_eq arch := by cases arch <;> rfl

end BuiltinLink
