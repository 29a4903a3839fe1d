import ViewNaming.Path
import ViewNaming.Proofs.Text.Pieces

/-! Where the path of a component leads. The ending always becomes part of the last
segment, so the path of a component never stops at a directory, whatever dots and slashes
are in it. It goes on from the views directory unless it starts with a slash. -/
namespace ViewNaming

namespace Path

theorem exists_withEnding (relativePath : Text) :
    ∃ stem, withEnding relativePath = stem ++ componentEnding ∧
      (relativePath = stem ∨ relativePath = stem ++ componentEnding) := by
  rw [withEnding]
  split
  · rename_i ended
    obtain ⟨stem, rfl⟩ := Text.endsWith_iff.1 ended
    exact ⟨stem, rfl, Or.inr rfl⟩
  · exact ⟨relativePath, rfl, Or.inl rfl⟩

theorem exists_pieces_withEnding (relativePath : Text) :
    ∃ front last, (withEnding relativePath).pieces isSlash = front ++ [last ++ componentEnding] ∧
      ∀ piece ∈ front, piece ∈ relativePath.pieces isSlash := by
  obtain ⟨stem, ended, spelled⟩ := exists_withEnding relativePath
  have free : ∀ c ∈ componentEnding, isSlash c = false := by decide
  obtain ⟨front, last, whole, longer⟩ := Text.exists_pieces_append isSlash stem free
  refine ⟨front, last, by rw [ended, longer], ?_⟩
  intro piece member
  rcases spelled with rfl | rfl
  · simp [whole, member]
  · simp [longer, member]

/-- A directory or file of its own: neither empty nor made of one or two dots. -/
def IsName (segment : Text) : Prop := isSegment segment = true ∧ segment ≠ doubleDot

theorem isName_ending (front : Text) : IsName (front ++ componentEnding) := by
  have long : ∀ text : Text, text.length < 4 → front ++ componentEnding ≠ text := by
    rintro text short rfl
    rw [List.length_append] at short
    exact absurd short (by simp [componentEnding, Text.ofString])
  refine ⟨?_, long doubleDot (by decide)⟩
  simp [isSegment, long [] (by decide), long dot (by decide)]

theorem segments_component_ne_nil (relativePath : Text) :
    (ofText (withEnding relativePath)).segments ≠ [] := by
  obtain ⟨front, last, whole, -⟩ := exists_pieces_withEnding relativePath
  simp [ofText, whole, (isName_ending last).1]

theorem isName_of_mem_segments {relativePath segment : Text}
    (direct : doubleDot ∉ relativePath.pieces isSlash)
    (member : segment ∈ (ofText (withEnding relativePath)).segments) : IsName segment := by
  obtain ⟨front, last, whole, kept⟩ := exists_pieces_withEnding relativePath
  rw [ofText, List.mem_filter, whole, List.mem_append, List.mem_singleton] at member
  obtain ⟨inside | rfl, segment⟩ := member
  · refine ⟨segment, ?_⟩
    rintro rfl
    exact direct (kept _ inside)
  · exact isName_ending last

theorem anchor_ofText_cons (c : CodePoint) (text : Text) :
    (ofText (c :: text)).anchor = .relative ↔ isSlash c = false := by
  cases first : isSlash c with
  | false => simp [ofText, anchorOf, first]
  | true =>
      simp only [ofText, anchorOf, List.takeWhile_cons_of_pos first, List.length_cons,
        Bool.true_eq_false, iff_false]
      split <;> simp_all

theorem beginsWith_slash_cons (c : CodePoint) (text : Text) :
    Text.beginsWith slash (c :: text) = isSlash c := by
  by_cases first : CodePoint.ofChar '/' = c
  · simp [Text.beginsWith, slash, Text.ofString, Text.after?, isSlash, first]
  · simp [Text.beginsWith, slash, Text.ofString, Text.after?, isSlash, first, Ne.symm first]

theorem anchor_component_eq_relative_iff {relativePath : Text} (filled : relativePath ≠ []) :
    (ofText (withEnding relativePath)).anchor = .relative ↔
      Text.beginsWith slash relativePath = false := by
  obtain ⟨c, rest, rfl⟩ := List.exists_cons_of_ne_nil filled
  have first : ∃ later, withEnding (c :: rest) = c :: later := by
    rw [withEnding]
    split
    · exact ⟨rest, rfl⟩
    · exact ⟨rest ++ componentEnding, rfl⟩
  obtain ⟨later, ended⟩ := first
  rw [ended, anchor_ofText_cons, beginsWith_slash_cons]

/-- The path starts with all of the directory and goes on. -/
structure Below (directory path : Path) : Prop where
  anchor : path.anchor = directory.anchor
  segments : ∃ names, names ≠ [] ∧ path.segments = directory.segments ++ names

/-- The relative path starts anew at the root, and not to come back to the directory. -/
def Escapes (directory : Path) (relativePath : Text) : Prop :=
  Text.beginsWith slash relativePath = true ∧ ¬ Below directory (ofText (withEnding relativePath))

theorem join_of_anchor {left right : Path} (anchored : right.anchor ≠ .relative) :
    left.join right = right := by
  cases anchor : right.anchor with
  | relative => exact absurd anchor anchored
  | root => simp [join, anchor]
  | doubleRoot => simp [join, anchor]

theorem below_component_iff (directory : Path) {relativePath : Text} (filled : relativePath ≠ []) :
    Below directory (directory.component relativePath) ↔ ¬ Escapes directory relativePath := by
  have anchored := anchor_component_eq_relative_iff filled
  rw [component, Escapes]
  cases absolute : Text.beginsWith slash relativePath with
  | false =>
      rw [absolute] at anchored
      have relative := anchored.2 rfl
      simp only [Bool.false_eq_true, false_and, not_false_eq_true, iff_true]
      exact ⟨by simp [join, relative], _, segments_component_ne_nil relativePath,
        segments_join_of_relative relative⟩
  | true =>
      rw [absolute] at anchored
      rw [join_of_anchor (by simpa using anchored)]
      simp

theorem Below.exists_names {directory : Path} {relativePath : Text}
    (below : Below directory (directory.component relativePath))
    (direct : doubleDot ∉ relativePath.pieces isSlash) :
    ∃ names, names ≠ [] ∧
      (directory.component relativePath).segments = directory.segments ++ names ∧
      ∀ name ∈ names, IsName name := by
  obtain ⟨names, filled, whole⟩ := below.segments
  refine ⟨names, filled, whole, ?_⟩
  intro name member
  apply isName_of_mem_segments direct
  rw [component] at whole
  by_cases relative : (ofText (withEnding relativePath)).anchor = .relative
  · rw [segments_join_of_relative relative, List.append_cancel_left_eq] at whole
    rwa [whole]
  · rw [join_of_anchor relative] at whole
    rw [whole]
    exact List.mem_append_right _ member

end Path

end ViewNaming
