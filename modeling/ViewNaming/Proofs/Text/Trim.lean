import Mathlib.Data.List.DropRight
import ViewNaming.Proofs.Text.Search
import ViewNaming.Text.Basic

/-! Trimming. A trimmed text differs from the text it came from by blank code
points at both ends only, so whatever begins and ends with code points that are
not blank stands in one of them exactly if it stands in the other. -/
namespace ViewNaming.Text

def AllBlank (text : Text) : Prop := ∀ c ∈ text, c.isBlank = true

/-- A text whose first and last code points are not blank. -/
structure Solid (text : Text) : Prop where
  first : ∃ c rest, text = c :: rest ∧ c.isBlank = false
  last : ∃ front c, text = front ++ [c] ∧ c.isBlank = false

theorem not_mem_of_allBlank {c : CodePoint} {text : Text} (blank : AllBlank text)
    (solid : c.isBlank = false) : c ∉ text := by
  intro member
  simp [blank c member] at solid

theorem strip_eq (text : Text) :
    text.strip = (text.dropWhile CodePoint.isBlank).rdropWhile CodePoint.isBlank := rfl

theorem dropWhile_append_solid {middle : Text} (solid : Solid middle) (front rest : Text) :
    (front ++ middle ++ rest).dropWhile CodePoint.isBlank =
      front.dropWhile CodePoint.isBlank ++ middle ++ rest := by
  obtain ⟨c, inner, rfl, dark⟩ := solid.first
  rw [List.append_assoc, List.dropWhile_append]
  split
  · rename_i gone
    simp [List.isEmpty_iff.1 gone, dark]
  · simp

theorem rdropWhile_append_solid {middle : Text} (solid : Solid middle) (front rest : Text) :
    (front ++ middle ++ rest).rdropWhile CodePoint.isBlank =
      front ++ middle ++ rest.rdropWhile CodePoint.isBlank := by
  obtain ⟨inner, c, rfl, dark⟩ := solid.last
  simp only [List.rdropWhile, List.reverse_append, List.dropWhile_append]
  split
  · rename_i gone
    simp [List.isEmpty_iff.1 gone, dark]
  · simp

theorem strip_append_solid {middle : Text} (solid : Solid middle) (front rest : Text) :
    (front ++ middle ++ rest).strip =
      front.dropWhile CodePoint.isBlank ++ middle ++ rest.rdropWhile CodePoint.isBlank := by
  rw [strip_eq, dropWhile_append_solid solid, rdropWhile_append_solid solid]

theorem strip_of_solid {text : Text} (solid : Solid text) : text.strip = text := by
  simpa using strip_append_solid solid [] []

theorem rdropWhile_append_blank {right : Text} (blank : AllBlank right) (text : Text) :
    (text ++ right).rdropWhile CodePoint.isBlank = text.rdropWhile CodePoint.isBlank := by
  have reversed : ∀ c ∈ right.reverse, c.isBlank = true := by
    intro c member
    exact blank c (List.mem_reverse.1 member)
  simp only [List.rdropWhile, List.reverse_append]
  rw [List.dropWhile_append_of_pos reversed]

theorem strip_append_blank {left right : Text} (blankLeft : AllBlank left)
    (blankRight : AllBlank right) (text : Text) : (left ++ text ++ right).strip = text.strip := by
  rw [strip_eq, List.append_assoc, List.dropWhile_append_of_pos blankLeft, List.dropWhile_append]
  split
  · rename_i gone
    have vanished : right.dropWhile CodePoint.isBlank = [] := List.dropWhile_eq_nil_iff.2 blankRight
    rw [vanished, strip_eq, List.isEmpty_iff.1 gone]
  · rw [rdropWhile_append_blank blankRight, strip_eq]

theorem exists_blank_sides (text : Text) :
    ∃ left right, AllBlank left ∧ AllBlank right ∧ text = left ++ text.strip ++ right := by
  refine ⟨text.takeWhile CodePoint.isBlank,
    (text.dropWhile CodePoint.isBlank).rtakeWhile CodePoint.isBlank, ?_, ?_, ?_⟩
  · exact fun c member => List.mem_takeWhile_imp member
  · exact fun c member => List.mem_rtakeWhile_imp member
  · rw [strip_eq, List.append_assoc, List.rdropWhile_append_rtakeWhile,
      List.takeWhile_append_dropWhile]

theorem strip_strip (text : Text) : text.strip.strip = text.strip := by
  obtain ⟨left, right, blankLeft, blankRight, equal⟩ := exists_blank_sides text
  have stripped := strip_append_blank blankLeft blankRight text.strip
  rw [← equal] at stripped
  exact stripped.symm

theorem solid_strip {text : Text} (filled : text.strip ≠ []) : Solid text.strip := by
  rw [strip_eq] at filled ⊢
  constructor
  · obtain ⟨c, rest, kept⟩ := List.exists_cons_of_ne_nil filled
    obtain ⟨tail, whole⟩ :=
      List.rdropWhile_prefix CodePoint.isBlank (text.dropWhile CodePoint.isBlank)
    have dark := List.head?_dropWhile_not CodePoint.isBlank text
    rw [← whole, kept] at dark
    exact ⟨c, rest, kept, dark⟩
  · have dark := List.rdropWhile_last_not _ _ filled
    exact ⟨_, _, (List.dropLast_append_getLast filled).symm, by simpa using dark⟩

theorem eq_append_of_blank_sides {left right text front middle rest : Text}
    (blankLeft : AllBlank left) (blankRight : AllBlank right) (solid : Solid middle)
    (equal : front ++ middle ++ rest = left ++ text ++ right) :
    ∃ front' rest', front = left ++ front' ∧ rest = rest' ++ right ∧
      front' ++ middle ++ rest' = text := by
  obtain ⟨c, inner, rfl, dark⟩ := solid.first
  rw [List.append_assoc, List.append_assoc] at equal
  obtain ⟨front', rfl, within⟩ := eq_append_of_seam (not_mem_of_allBlank blankLeft dark) equal
  obtain ⟨inner', d, shape, darkEnd⟩ := solid.last
  change front' ++ ((c :: inner) ++ rest) = text ++ right at within
  have ended : (front' ++ inner') ++ d :: rest = text ++ right := by
    rw [← within, shape]
    simp
  obtain ⟨rest', rfl, outer⟩ := eq_append_of_seam_end (not_mem_of_allBlank blankRight darkEnd) ended
  refine ⟨front', rest', rfl, rfl, ?_⟩
  rw [← outer, shape]
  simp

theorem infix_of_blank_sides {left right text middle : Text} (blankLeft : AllBlank left)
    (blankRight : AllBlank right) (solid : Solid middle)
    (occurs : middle <:+: left ++ text ++ right) : middle <:+: text := by
  obtain ⟨front, rest, equal⟩ := occurs
  obtain ⟨front', rest', -, -, inner⟩ :=
    eq_append_of_blank_sides blankLeft blankRight solid equal
  exact ⟨front', rest', inner⟩

theorem infix_strip_iff {middle text : Text} (solid : Solid middle) :
    middle <:+: text.strip ↔ middle <:+: text := by
  obtain ⟨left, right, blankLeft, blankRight, equal⟩ := exists_blank_sides text
  constructor
  · rintro ⟨front, rest, inner⟩
    exact ⟨left ++ front, rest ++ right, by rw [equal, ← inner]; simp⟩
  · intro occurs
    rw [equal] at occurs
    exact infix_of_blank_sides blankLeft blankRight solid occurs

end ViewNaming.Text
