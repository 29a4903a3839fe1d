import ViewNaming.Component.Patch
import ViewNaming.Component.Call
import ViewNaming.Proofs.Text.Trim

/-! The naming statement inside other text. Its first and last code points occur
in no tag, and between its quotes only backslashes are added to the name. So a
closing tag around a statement lies in front of it, in the name or behind it. -/
namespace ViewNaming.Component

theorem mem_of_mem_escape {c : CodePoint} {name : Text} (member : c ∈ escape name) :
    c ∈ name ∨ c = '\\' := by
  obtain ⟨d, inName, inCopy⟩ := List.mem_flatMap.1 member
  simp only [escapeCodePoint] at inCopy
  split at inCopy
  · rcases List.mem_cons.1 inCopy with rfl | inCopy
    · exact Or.inr rfl
    · rw [List.mem_singleton.1 inCopy]
      exact Or.inl inName
  · rw [List.mem_singleton.1 inCopy]
    exact Or.inl inName

def Plain (text : Text) : Prop :=
  ∀ c ∈ text, c ≠ CodePoint.ofChar '\\' ∧ c ≠ CodePoint.ofChar '"'

theorem escape_cons (c : CodePoint) (name : Text) :
    escape (c :: name) = escapeCodePoint c ++ escape name := rfl

theorem prefix_of_prefix_escape {needle name : Text} (plain : Plain needle)
    (starts : needle <+: escape name) : needle <+: name := by
  induction needle generalizing name with
  | nil => exact List.nil_prefix
  | cons p needle ih =>
      cases name with
      | nil => simp at starts
      | cons c name =>
          rw [escape_cons, escapeCodePoint] at starts
          split at starts
          · exact absurd (List.cons_prefix_cons.1 starts).1 (plain p List.mem_cons_self).1
          · obtain ⟨rfl, more⟩ := List.cons_prefix_cons.1 starts
            have later := ih (fun d member => plain d (List.mem_cons_of_mem p member)) more
            exact List.cons_prefix_cons.2 ⟨rfl, later⟩

theorem infix_of_infix_escape {needle name : Text} (plain : Plain needle)
    (occurs : needle <:+: escape name) : needle <:+: name := by
  induction name with
  | nil => exact occurs
  | cons c name ih =>
      by_cases here : needle <+: escape (c :: name)
      · exact (prefix_of_prefix_escape plain here).isInfix
      · -- The occurrence starts behind `c`, and a backslash in front of `c` is no part of it.
        apply List.infix_cons
        apply ih
        rw [escape_cons, escapeCodePoint] at occurs here
        split at occurs
        · rename_i special
          have outside : CodePoint.ofChar '\\' ∉ needle := fun member => (plain _ member).1 rfl
          have outside' : c ∉ needle := by
            intro member
            simp only [Bool.or_eq_true, decide_eq_true_eq] at special
            rcases special with rfl | rfl
            · exact (plain _ member).1 rfl
            · exact (plain _ member).2 rfl
          exact Text.infix_of_infix_cons outside' (Text.infix_of_infix_cons outside occurs)
        · rename_i special
          rw [if_neg special] at here
          exact (List.infix_cons_iff.1 occurs).resolve_left here

theorem plain_closingTag : Plain closingTag := by
  unfold Plain
  decide

theorem statement_eq (name : Text) :
    statement name = CodePoint.ofChar 'd' :: (Text.ofString "efineOptions(\x7b name: " ++
      CodePoint.ofChar '"' :: (escape name ++ CodePoint.ofChar '"' ::
        (Text.ofString " \x7d)" ++ [CodePoint.ofChar ';']))) := by
  have lead : marker ++ Text.ofString "(\x7b name: \"" =
      CodePoint.ofChar 'd' ::
        (Text.ofString "efineOptions(\x7b name: " ++ [CodePoint.ofChar '"']) := rfl
  have tail : Text.ofString "\" \x7d);" =
      CodePoint.ofChar '"' :: (Text.ofString " \x7d)" ++ [CodePoint.ofChar ';']) := rfl
  rw [statement, lead, tail]
  simp

theorem solid_statement (name : Text) : (statement name).Solid := by
  constructor
  · rw [statement_eq]
    exact ⟨_, _, rfl, by decide⟩
  · refine ⟨marker ++ Text.ofString "(\x7b name: \"" ++ escape name ++ Text.ofString "\" \x7d)",
      CodePoint.ofChar ';', ?_, by decide⟩
    have tail : Text.ofString "\" \x7d);" =
        Text.ofString "\" \x7d)" ++ [CodePoint.ofChar ';'] := rfl
    rw [statement, tail, ← List.append_assoc]

theorem closingTag_around_statement {front name rest : Text}
    (occurs : closingTag <:+: front ++ statement name ++ rest) :
    closingTag <:+: front ∨ closingTag <:+: name ∨ closingTag <:+: rest := by
  have letters : ¬ closingTag <:+: Text.ofString "efineOptions(\x7b name: " :=
    Text.not_infix_of_not_mem (c := CodePoint.ofChar '<') (by decide) (by decide)
  have brackets : ¬ closingTag <:+: Text.ofString " \x7d)" :=
    Text.not_infix_of_not_mem (c := CodePoint.ofChar '<') (by decide) (by decide)
  rw [statement_eq, List.append_assoc] at occurs
  simp only [List.cons_append, List.append_assoc] at occurs
  rcases Text.infix_of_seam (by decide) occurs with inFront | occurs
  · exact Or.inl inFront
  rcases Text.infix_of_seam (by decide) occurs with inLetters | occurs
  · exact absurd inLetters letters
  rcases Text.infix_of_seam (by decide) occurs with inName | occurs
  · exact Or.inr (Or.inl (infix_of_infix_escape plain_closingTag inName))
  rcases Text.infix_of_seam (by decide) occurs with inBrackets | inRest
  · exact absurd inBrackets brackets
  · exact Or.inr (Or.inr inRest)

end ViewNaming.Component
