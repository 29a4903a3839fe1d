import ViewNaming.Proofs.Component.Renaming

/-! Component texts that a name leaves alone: those in which the naming statement is
read back as it was written. The script stands on lines of its own, the marker in it
is seen, and the leftmost call, if there is one, is the statement itself. -/
namespace ViewNaming.Component

open TypeScript (Parser)

/-- The statement of this name is read back as a whole. -/
def ReadsBack (text name : Text) : Prop :=
  ∃ block, ScriptBlock.find? text = some block ∧ wrapped block.content = block.content ∧
    hasMarker block.content = true ∧
    ∀ front rest, findCall? block.content = some (front, rest) →
      block.content = front ++ statement name ++ rest

theorem ScriptBlock.toText_content_inj {block : ScriptBlock} {content : Text}
    (same : ScriptBlock.toText { block with content := content } = block.toText) :
    content = block.content := by
  simpa [toText, render] using same

theorem text_patchWith_ne_of_none {offset : Text → Nat} {text : Text}
    (missing : ScriptBlock.find? text = none) (name : Text) :
    (patchWith offset text name).text ≠ text := by
  intro same
  have length := congrArg List.length same
  rw [patchWith_of_none missing] at length
  simp [ScriptBlock.toText, ScriptBlock.render, openingTag, Text.ofString] at length
  omega

theorem hasMarker_wrapped_insertAt {front name rest : Text}
    (ends : front = [] ∨ ∃ before, front = before ++ lineFeed) :
    hasMarker (wrapped (front ++ statement name ++ rest)) = true := by
  rw [wrapped_append_solid (solid_statement name)]
  apply hasMarker_statement
  apply getLast?_dropBlank
  rcases ends with rfl | ⟨before, rfl⟩
  · rfl
  · rw [List.getLast?_append]
    change (CodePoint.ofChar '\n').isWord = false
    decide

theorem sides_of_wrapped {front line rest : Text} (solid : Text.Solid line)
    (tidy : wrapped (front ++ line ++ rest) = front ++ line ++ rest) :
    front = CodePoint.ofChar '\n' :: dropBlank front ∧
      rest = rest.rdropWhile CodePoint.isBlank ++ lineFeed := by
  rw [wrapped_append_solid solid] at tidy
  have dropped := congrArg (List.dropWhile CodePoint.isBlank) tidy
  rw [Text.dropWhile_append_solid solid, Text.dropWhile_append_solid solid] at dropped
  change dropBlank (CodePoint.ofChar '\n' :: dropBlank front) ++ line ++ _ =
    dropBlank front ++ line ++ rest at dropped
  rw [dropBlank_lineBreak_dropBlank] at dropped
  have ends := List.append_cancel_left dropped
  rw [ends, List.append_assoc, List.append_assoc] at tidy
  exact ⟨(List.append_cancel_right tidy).symm, ends.symm⟩

theorem end_of_wrapped {ending rest : Text} (inLine : CodePoint.ofChar '\n' ∉ ending)
    (ends : ending ++ rest = (ending ++ rest).rdropWhile CodePoint.isBlank ++ lineFeed) :
    rest = rest.rdropWhile CodePoint.isBlank ++ lineFeed := by
  rcases List.eq_nil_or_concat rest with rfl | ⟨front, c, rfl⟩
  · have member : CodePoint.ofChar '\n' ∈ ending ++ [] := by
      rw [ends]
      exact List.mem_append_right _ List.mem_cons_self
    rw [List.append_nil] at member
    exact absurd member inLine
  · rw [List.concat_eq_append] at ends ⊢
    rw [← List.append_assoc] at ends
    obtain ⟨whole, last⟩ := List.append_inj' ends rfl
    rw [last, Text.rdropWhile_append_blank lineFeed_blank] at whole
    rw [last, Text.rdropWhile_append_blank lineFeed_blank]
    have kept : front.rdropWhile CodePoint.isBlank = front := by
      rw [List.rdropWhile_eq_self_iff]
      intro nonempty
      have dark := List.rdropWhile_eq_self_iff.1 whole.symm
        (List.append_ne_nil_of_right_ne_nil ending nonempty)
      rwa [List.getLast_append_of_ne_nil _ nonempty] at dark
    rw [kept]

theorem wrapped_nameContent_eq_self_iff {offset : Text → Nat} {content name : Text} :
    wrapped (nameContent offset (statement name) content) = content ↔
      wrapped content = content ∧ hasMarker content = true ∧
        ∀ front rest, findCall? content = some (front, rest) →
          content = front ++ statement name ++ rest := by
  constructor
  · intro same
    have tidy : wrapped content = content := by
      rw [← same]
      exact wrapped_wrapped _
    have marked : hasMarker content = true := by
      rcases nameContent_forms offset content with ⟨marked, -⟩ | ⟨marked, -⟩ |
        ⟨-, head, gap, lineBreak, tail, -, -, -, ends, shape⟩
      · exact marked
      · exact marked
      · rw [shape] at same
        rw [← same]
        exact hasMarker_wrapped_insertAt ends
    refine ⟨tidy, marked, ?_⟩
    intro front rest found
    obtain ⟨call, ending, inLine, rfl⟩ := exists_of_findCall? found
    rw [nameContent, if_pos marked, replaceCall, found] at same
    have layout : front ++ (call.toText ++ ending) ++ rest =
        front ++ call.toText ++ (ending ++ rest) := by
      simp
    rw [layout] at tidy
    obtain ⟨starts, ends⟩ := sides_of_wrapped call.solid_toText tidy
    have last := end_of_wrapped inLine ends
    rw [← same, wrapped_append_solid (solid_statement name), ← starts, ← last]
  · rintro ⟨tidy, marked, whole⟩
    cases found : findCall? content with
    | none => rw [nameContent_eq_self marked found, tidy]
    | some cut =>
        have replaced : nameContent offset (statement name) content = content := by
          rw [nameContent, if_pos marked, replaceCall, found]
          exact (whole cut.1 cut.2 found).symm
        rw [replaced, tidy]

theorem text_patch_eq_self_iff [Parser] {text name : Text} :
    (patch text name).text = text ↔ ReadsBack text name := by
  cases found : ScriptBlock.find? text with
  | none =>
      refine iff_of_false (text_patchWith_ne_of_none found name) ?_
      rintro ⟨block, other, -⟩
      rw [found] at other
      cases other
  | some block =>
      have whole := ScriptBlock.toText_of_find? found
      rw [patch, patchWith_of_find? found]
      constructor
      · intro same
        have content := ScriptBlock.toText_content_inj (same.trans whole.symm)
        exact ⟨block, found, wrapped_nameContent_eq_self_iff.1 content⟩
      · rintro ⟨other, otherFound, reads⟩
        rw [found] at otherFound
        cases otherFound
        rw [wrapped_nameContent_eq_self_iff.2 reads, whole]

end ViewNaming.Component
