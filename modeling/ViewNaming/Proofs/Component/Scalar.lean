import ViewNaming.Proofs.Component.Renaming
import ViewNaming.Proofs.Text.Scalar

/-! Which named components can be written to disk. A name with a surrogate cannot be
written, and it can go unnoticed only in a script that takes no name at all. Such a
script never takes one later, so a component that could be named once can be named
the same way again. -/
namespace ViewNaming.Component

open Text (Scalar)

theorem scalar_escapeCodePoint {c : CodePoint} :
    Scalar (escapeCodePoint c) ↔ c.isSurrogate = false := by
  rw [escapeCodePoint]
  split
  · have backslash := CodePoint.isSurrogate_ofChar '\\'
    simp [backslash]
  · simp

theorem scalar_escape {name : Text} : Scalar (escape name) ↔ Scalar name := by
  induction name with
  | nil => simp
  | cons c name ih => rw [escape_cons, Text.scalar_append, scalar_escapeCodePoint, ih,
      Text.scalar_cons]

theorem scalar_statement {name : Text} : Scalar (statement name) ↔ Scalar name := by
  simp [statement, marker, scalar_escape]

theorem scalar_wrapped {content : Text} : Scalar (wrapped content) ↔ Scalar content := by
  simp [wrapped, lineFeed]

theorem ScriptBlock.scalar_toText {block : ScriptBlock} :
    Scalar block.toText ↔ Scalar block.before ∧ Scalar block.attributes ∧
      Scalar block.content ∧ Scalar block.after := by
  simp [toText, render, openingTag, tagEnd, closingTag]

def Unnameable (text : Text) : Prop :=
  ∃ block, ScriptBlock.find? text = some block ∧ hasMarker block.content = true ∧
    findCall? block.content = none

theorem Unnameable.patchWith {text : Text} (unnameable : Unnameable text) (offset : Text → Nat)
    (name : Text) : Unnameable (patchWith offset text name).text := by
  obtain ⟨block, found, marked, absent⟩ := unnameable
  have exact := ScriptBlock.exact_of_find? found
  have exactAgain : ScriptBlock.Exact { block with content := wrapped block.content } :=
    ⟨exact.before, exact.attributes, closingTag_wrapped exact.content⟩
  rw [patchWith_of_find? found, nameContent_eq_self marked absent]
  exact ⟨_, ScriptBlock.find?_toText exactAgain, hasMarker_wrapped marked,
    findCall?_wrapped absent⟩

theorem Unnameable.scalar_patchWith {text : Text} (unnameable : Unnameable text)
    (offset : Text → Nat) (name : Text) (scalar : Scalar text) :
    Scalar (Component.patchWith offset text name).text := by
  obtain ⟨block, found, marked, absent⟩ := unnameable
  rw [← ScriptBlock.toText_of_find? found] at scalar
  rw [patchWith_of_find? found, nameContent_eq_self marked absent]
  simpa [ScriptBlock.scalar_toText, scalar_wrapped] using scalar

theorem exists_nameContent (offset : Text → Nat) {content : Text}
    (nameable : ¬ (hasMarker content = true ∧ findCall? content = none)) :
    ∃ front rest, (Scalar content → Scalar front ∧ Scalar rest) ∧
      ∀ line, nameContent offset line content = front ++ line ++ rest := by
  rcases nameContent_forms offset content with stuck | ⟨-, front, rest, found, shape⟩ |
    ⟨-, head, gap, lineBreak, tail, rfl, gapBlank, breakBlank, -, shape⟩
  · exact absurd stuck nameable
  · refine ⟨front, rest, ?_, shape⟩
    obtain ⟨call, ending, -, rfl⟩ := exists_of_findCall? found
    simp only [Text.scalar_append]
    exact fun scalar => ⟨scalar.1.1, scalar.2⟩
  · refine ⟨head ++ gap, lineBreak ++ tail, ?_, shape⟩
    simp only [Text.scalar_append]
    exact fun scalar => ⟨⟨scalar.1, Text.scalar_of_allBlank gapBlank⟩,
      Text.scalar_of_allBlank breakBlank, scalar.2⟩

theorem scalar_patchWith {text name : Text} (offset : Text → Nat) (scalarText : Scalar text)
    (scalarName : Scalar name) : Scalar (patchWith offset text name).text := by
  cases found : ScriptBlock.find? text with
  | none =>
      rw [patchWith_of_none found]
      simp [ScriptBlock.scalar_toText, scalar_wrapped, scalar_statement, lineFeed, scalarText,
        scalarName]
  | some block =>
      by_cases stuck : hasMarker block.content = true ∧ findCall? block.content = none
      · exact Unnameable.scalar_patchWith ⟨block, found, stuck⟩ offset name scalarText
      · obtain ⟨front, rest, parts, shape⟩ := exists_nameContent offset stuck
        rw [← ScriptBlock.toText_of_find? found, ScriptBlock.scalar_toText] at scalarText
        obtain ⟨before, attributes, content, after⟩ := scalarText
        rw [patchWith_of_find? found, shape, ScriptBlock.scalar_toText, scalar_wrapped]
        simp only [Text.scalar_append, scalar_statement]
        exact ⟨before, attributes, ⟨⟨(parts content).1, scalarName⟩, (parts content).2⟩, after⟩

theorem scalar_of_scalar_patchWith {offset : Text → Nat} {text name : Text}
    (nameable : ¬ Unnameable text) (scalar : Scalar (patchWith offset text name).text) :
    Scalar name := by
  cases found : ScriptBlock.find? text with
  | none =>
      rw [patchWith_of_none found, ScriptBlock.scalar_toText, scalar_wrapped,
        scalar_statement] at scalar
      exact scalar.2.2.1
  | some block =>
      have takes : ¬ (hasMarker block.content = true ∧ findCall? block.content = none) := by
        intro stuck
        exact nameable ⟨block, found, stuck⟩
      obtain ⟨front, rest, -, shape⟩ := exists_nameContent offset takes
      rw [patchWith_of_find? found, shape, ScriptBlock.scalar_toText, scalar_wrapped] at scalar
      simp only [Text.scalar_append, scalar_statement] at scalar
      exact scalar.2.2.1.1.2

end ViewNaming.Component
