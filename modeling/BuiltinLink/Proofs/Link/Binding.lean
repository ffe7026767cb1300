import BuiltinLink.Link.BindError
import BuiltinLink.Proofs.Text.Joined
import Mathlib.Data.List.Infix

/-!
The report of a function that is not bound loses nothing of the reason. Whatever the names and types
hold, be it backquotes or the text of another report, the wording tells the kind of the cause by its
first and last character, and then the parameter and the function, which stand between fixed texts.
Only the type is left out of the wording; the note has it.
-/

namespace BuiltinLink

namespace BindCause

/-- What the wording says of a parameter in front of the function. -/
def paramOpening (index : Nat) : String :=
  "type of parameter " ++ toString index ++ " not representable for intrinsic `"

/-- What the wording says in front of the function. -/
def opening : BindCause → String
  | returnType _ => "return type not representable for intrinsic `"
  | paramType index _ => paramOpening index
  | unknownIntrinsic | overloadedIntrinsic => "intrinsic `"

/-- What the wording says behind the function. -/
def closing : BindCause → String
  | returnType _ | paramType _ _ => "`"
  | unknownIntrinsic => "` is not found"
  | overloadedIntrinsic => "` is overloaded and cannot be declared without type arguments"

/-- The first and the last character of the wording. -/
def marks : BindCause → Char × Char
  | returnType _ => ('r', '`')
  | paramType _ _ => ('t', '`')
  | unknownIntrinsic => ('i', 'd')
  | overloadedIntrinsic => ('i', 's')

/-- The digits of a parameter end at the blank behind them. -/
theorem paramOpening_append_inj {i j : Nat} {f g : String}
    (h : paramOpening i ++ f = paramOpening j ++ g) : i = j ∧ f = g := by
  have hblank : " not representable for intrinsic `".toList =
      ' ' :: "not representable for intrinsic `".toList := by decide
  unfold paramOpening at h
  rw [String.append_assoc, String.append_assoc, String.append_assoc, String.append_assoc,
    String.append_right_inj] at h
  have hl := congrArg String.toList h
  simp only [String.toList_append, Nat.toString_eq_ofList_toDigits, String.toList_ofList, hblank,
    List.cons_append] at hl
  obtain ⟨hindex, hrest⟩ := Text.toDigits_append_cons_inj (by decide) hl
  exact ⟨hindex, String.toList_inj.1 (List.append_cancel_left hrest)⟩

theorem head?_paramOpening (index : Nat) : (paramOpening index).toList.head? = some 't' := by
  have hfirst : "type of parameter ".toList.head? = some 't' := by decide
  unfold paramOpening
  rw [String.append_assoc, String.toList_append, List.head?_append, hfirst, Option.some_or]

theorem head?_opening (c : BindCause) : c.opening.toList.head? = some c.marks.1 := by
  cases c with
  | returnType t =>
    exact show "return type not representable for intrinsic `".toList.head? = some 'r' by decide
  | paramType index t => exact head?_paramOpening index
  | unknownIntrinsic => decide
  | overloadedIntrinsic => decide

theorem getLast?_closing (c : BindCause) : c.closing.toList.getLast? = some c.marks.2 := by
  cases c <;> simp [closing, marks]

theorem exists_opening (c : BindCause) : ∃ p, c.opening = p ++ "`" := by
  cases c with
  | returnType t => exact ⟨"return type not representable for intrinsic ", rfl⟩
  | paramType index t =>
    have hend : " not representable for intrinsic `" =
        " not representable for intrinsic " ++ "`" := by decide
    refine ⟨"type of parameter " ++ toString index ++ " not representable for intrinsic ", ?_⟩
    rw [String.append_assoc, ← hend]
    rfl
  | unknownIntrinsic => exact ⟨"intrinsic ", by decide⟩
  | overloadedIntrinsic => exact ⟨"intrinsic ", by decide⟩

theorem exists_closing (c : BindCause) : ∃ q, c.closing = "`" ++ q := by
  cases c with
  | returnType t => exact ⟨"", rfl⟩
  | paramType index t => exact ⟨"", rfl⟩
  | unknownIntrinsic => exact ⟨" is not found", by decide⟩
  | overloadedIntrinsic =>
    exact ⟨" is overloaded and cannot be declared without type arguments", by decide⟩

end BindCause

namespace BindError

/-- The parameter that cannot be represented. -/
def index? (e : BindError) : Option Nat :=
  match e.cause with
  | .paramType index _ => some index
  | .returnType _ | .unknownIntrinsic | .overloadedIntrinsic => none

/-- The note that names a type. -/
def typeNote (t : String) : String :=
  "LLVM type is `" ++ t ++ "`"

variable {a b : BindError}

theorem typeNote_inj {s t : String} : typeNote s = typeNote t ↔ s = t := by
  unfold typeNote
  rw [String.append_left_inj, String.append_right_inj]

theorem index?_eq_some_iff {i : Nat} : a.index? = some i ↔ ∃ t, a.cause = .paramType i t := by
  unfold index?
  cases a.cause <;> simp

/-- Errors with one code have the same cause but for a parameter and a type. -/
theorem cases_of_code_eq (h : a.code = b.code) :
    (∃ s t, a.cause = .returnType s ∧ b.cause = .returnType t) ∨
      (∃ i j s t, a.cause = .paramType i s ∧ b.cause = .paramType j t) ∨ a.cause = b.cause := by
  unfold code at h
  cases ha : a.cause <;> cases hb : b.cause <;> simp_all

/-- Errors with one code are alike except for the name, the parameter and the type. -/
theorem eq_iff_of_code_eq (h : a.code = b.code) :
    a = b ↔ a.function = b.function ∧ a.index? = b.index? ∧ a.llvmType? = b.llvmType? := by
  rw [mk.injEq]
  refine and_congr_right fun _ => ?_
  unfold index? llvmType?
  rcases cases_of_code_eq h with ⟨s, t, ha, hb⟩ | ⟨i, j, s, t, ha, hb⟩ | hcause
  · simp [ha, hb]
  · simp [ha, hb]
  · simp [hcause]

/-! ### The wording -/

theorem message_eq (e : BindError) :
    e.message = e.cause.opening ++ e.function ++ e.cause.closing := by
  unfold message
  cases e.cause <;> rfl

theorem code_eq_of_marks_eq (h : a.cause.marks = b.cause.marks) : a.code = b.code := by
  unfold code
  cases ha : a.cause <;> cases hb : b.cause <;> simp_all [BindCause.marks]

theorem code_eq_of_message_eq (h : a.message = b.message) : a.code = b.code := by
  rw [message_eq, message_eq] at h
  have hl := congrArg String.toList h
  simp only [String.toList_append] at hl
  apply code_eq_of_marks_eq
  apply Prod.ext
  · have hhead := congrArg List.head? hl
    simpa [List.head?_append, BindCause.head?_opening] using hhead
  · have hlast := congrArg List.getLast? hl
    simpa [List.getLast?_append, BindCause.getLast?_closing] using hlast

theorem closing_eq (h : a.code = b.code) : a.cause.closing = b.cause.closing := by
  rcases cases_of_code_eq h with ⟨s, t, ha, hb⟩ | ⟨i, j, s, t, ha, hb⟩ | hcause
  · rw [ha, hb]
    rfl
  · rw [ha, hb]
    rfl
  · rw [hcause]

theorem isSome_index?_eq (h : a.code = b.code) : a.index?.isSome = b.index?.isSome := by
  unfold index?
  rcases cases_of_code_eq h with ⟨s, t, ha, hb⟩ | ⟨i, j, s, t, ha, hb⟩ | hcause
  · rw [ha, hb]
  · rw [ha, hb]
    rfl
  · rw [hcause]

theorem opening_eq (h : a.code = b.code) (hindex : a.index? = b.index?) :
    a.cause.opening = b.cause.opening := by
  unfold index? at hindex
  rcases cases_of_code_eq h with ⟨s, t, ha, hb⟩ | ⟨i, j, s, t, ha, hb⟩ | hcause
  · rw [ha, hb]
    rfl
  · rw [ha, hb] at hindex ⊢
    exact congrArg BindCause.paramOpening (Option.some.inj hindex)
  · rw [hcause]

/-- The wording tells all but the type. -/
theorem message_eq_iff : a.message = b.message ↔
    a.code = b.code ∧ a.function = b.function ∧ a.index? = b.index? := by
  constructor
  · intro h
    have hcode := code_eq_of_message_eq h
    refine ⟨hcode, ?_⟩
    rw [message_eq, message_eq, closing_eq hcode, String.append_left_inj] at h
    have hsome := isSome_index?_eq hcode
    cases ha : a.index? with
    | none =>
      have hb : b.index? = none := by simpa [ha] using hsome
      rw [opening_eq hcode (ha.trans hb.symm), String.append_right_inj] at h
      exact ⟨h, hb.symm⟩
    | some i =>
      obtain ⟨j, hb⟩ := Option.isSome_iff_exists.1 (hsome.symm.trans (by rw [ha]; rfl))
      obtain ⟨s, hs⟩ := index?_eq_some_iff.1 ha
      obtain ⟨t, ht⟩ := index?_eq_some_iff.1 hb
      rw [hs, ht] at h
      obtain ⟨hij, hf⟩ := BindCause.paramOpening_append_inj h
      exact ⟨hf, by rw [hb, hij]⟩
  · intro ⟨hcode, hfunction, hindex⟩
    rw [message_eq, message_eq, opening_eq hcode hindex, hfunction, closing_eq hcode]

theorem infix_message {s p q : String} {e : BindError} (h : e.message = p ++ s ++ q) :
    s.toList <:+: e.message.toList := by
  refine ⟨p.toList, q.toList, ?_⟩
  rw [h, String.toList_append, String.toList_append]

/-- The function stands in backquotes. -/
theorem quoted_infix_message (e : BindError) :
    ("`" ++ e.function ++ "`").toList <:+: e.message.toList := by
  obtain ⟨p, hp⟩ := e.cause.exists_opening
  obtain ⟨q, hq⟩ := e.cause.exists_closing
  apply infix_message
  calc e.message = e.cause.opening ++ e.function ++ e.cause.closing := message_eq e
    _ = p ++ "`" ++ e.function ++ ("`" ++ q) := by rw [hp, hq]
    _ = p ++ ("`" ++ e.function ++ "`") ++ q := by simp only [String.append_assoc]

/-- The parameter is counted between blanks. -/
theorem index_infix_message (f : String) (i : Nat) (t : String) :
    ("parameter " ++ toString i ++ " ").toList <:+: (mk f (.paramType i t)).message.toList := by
  have hbefore : "type of parameter " = "type of " ++ "parameter " := by decide
  have hbehind : " not representable for intrinsic `" =
      " " ++ "not representable for intrinsic `" := by decide
  apply infix_message
  calc (mk f (.paramType i t)).message
    _ = "type of parameter " ++ toString i ++ " not representable for intrinsic `" ++ f ++
        "`" := rfl
    _ = "type of " ++ "parameter " ++ toString i ++ (" " ++ "not representable for intrinsic `") ++
        f ++ "`" := by rw [← hbefore, ← hbehind]
    _ = "type of " ++ ("parameter " ++ toString i ++ " ") ++
        ("not representable for intrinsic `" ++ f ++ "`") := by simp only [String.append_assoc]

/-! ### The report -/

theorem diagnostic_eq (e : BindError) : e.diagnostic =
    { severity := .error
      code := some e.code
      message := e.message
      subject := some e.function
      notes := (e.llvmType?.map typeNote).toList
      suggestions := e.code.help.toList } := by
  unfold diagnostic
  cases e.llvmType? <;> rfl

theorem diagnostic_eq_iff : a.diagnostic = b.diagnostic ↔ a = b := by
  constructor
  · intro h
    rw [diagnostic_eq, diagnostic_eq, Diagnostic.mk.injEq] at h
    obtain ⟨-, -, hmessage, -, hnotes, -⟩ := h
    obtain ⟨hcode, hfunction, hindex⟩ := message_eq_iff.1 hmessage
    have htype := congrArg List.head? hnotes
    rw [Option.head?_toList, Option.head?_toList,
      Option.map_inj_right fun _ _ => typeNote_inj.1] at htype
    exact (eq_iff_of_code_eq hcode).2 ⟨hfunction, hindex, htype⟩
  · exact congrArg diagnostic

/-- Two functions have the same report iff they are the same and are not bound for the same reason,
and the wording alone differs but for the type. Each report is an error with the code of the cause,
the help of that code and nothing else suggested; it is about the function, and its wording quotes
the function and counts the parameter. -/
theorem report_loses_nothing :
    (∀ a b : BindError, a.diagnostic = b.diagnostic ↔ a = b) ∧
    (∀ a b : BindError, a.message = b.message ↔
      a.code = b.code ∧ a.function = b.function ∧ a.index? = b.index?) ∧
    (∀ e : BindError, e.diagnostic.isError = true ∧ e.diagnostic.code = some e.code ∧
      e.diagnostic.subject = some e.function ∧
      ("`" ++ e.function ++ "`").toList <:+: e.diagnostic.message.toList ∧
      e.diagnostic.suggestions = e.code.help.toList) ∧
    ∀ f i t, ("parameter " ++ toString i ++ " ").toList <:+:
      (mk f (.paramType i t)).diagnostic.message.toList := by
  refine ⟨fun a b => diagnostic_eq_iff, fun a b => message_eq_iff, fun e => ?_, fun f i t => ?_⟩
  · rw [diagnostic_eq]
    exact ⟨rfl, rfl, rfl, quoted_infix_message e, rfl⟩
  · rw [diagnostic_eq]
    exact index_infix_message f i t

end BindError

end BuiltinLink
