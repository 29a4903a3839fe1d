import ViewNaming.Text.Basic

/-! Pieces between separators. A separator cuts the pieces of a text in two, and the rest
follows from this: texts joined by a separator have the pieces of each of them in turn, and
a piece is what stands, without a separator in it, between separators or the ends of the
text. -/
namespace ViewNaming.Text

variable {separates : CodePoint → Bool}

theorem pieces_eq_splitOnP (text : Text) :
    text.pieces separates = List.splitOnP separates text := by
  induction text with
  | nil => rfl
  | cons c text ih =>
      obtain ⟨piece, others, split⟩ :=
        List.exists_cons_of_ne_nil (List.splitOnP_ne_nil separates text)
      rw [List.splitOnP_cons_eq_if_modifyHead, pieces, ih, split]
      rfl

theorem pieces_of_free {text : Text} (free : ∀ c ∈ text, separates c = false) :
    text.pieces separates = [text] := by
  rw [pieces_eq_splitOnP, List.splitOnP_eq_singleton free]

theorem pieces_append_cons {c : CodePoint} (apart : separates c = true) (front back : Text) :
    (front ++ c :: back).pieces separates = front.pieces separates ++ back.pieces separates := by
  simp only [pieces_eq_splitOnP, List.splitOnP_append_cons front back apart]

theorem exists_pieces_append (separates : CodePoint → Bool) (text : Text) {tail : Text}
    (free : ∀ c ∈ tail, separates c = false) :
    ∃ front last, text.pieces separates = front ++ [last] ∧
      (text ++ tail).pieces separates = front ++ [last ++ tail] := by
  induction text with
  | nil => exact ⟨[], [], rfl, pieces_of_free free⟩
  | cons c text ih =>
      obtain ⟨front, last, whole, longer⟩ := ih
      cases apart : separates c with
      | true => exact ⟨[] :: front, last, by simp [pieces, apart, whole],
          by simp [pieces, apart, longer]⟩
      | false =>
          cases front with
          | nil => exact ⟨[], c :: last, by simp [pieces, apart, whole],
              by simp [pieces, apart, longer]⟩
          | cons piece front => exact ⟨(c :: piece) :: front, last,
              by simp [pieces, apart, whole], by simp [pieces, apart, longer]⟩

theorem free_or_cut (separates : CodePoint → Bool) (text : Text) :
    (∀ c ∈ text, separates c = false) ∨
      ∃ first c rest, (∀ d ∈ first, separates d = false) ∧ separates c = true ∧
        text = first ++ c :: rest := by
  cases found : text.find? separates with
  | none =>
      left
      simpa using List.find?_eq_none.1 found
  | some c =>
      right
      obtain ⟨apart, first, rest, whole, before⟩ := List.find?_eq_some_iff_append.1 found
      exact ⟨first, c, rest, by simpa using before, apart, whole⟩

/-- What stands between these texts has separators or ends of the text on both sides. -/
structure Apart (separates : CodePoint → Bool) (front back : Text) : Prop where
  behind : ∀ c ∈ front.getLast?, separates c = true
  ahead : ∀ c ∈ back.head?, separates c = true

theorem Apart.append_cons {c : CodePoint} {front back : Text} (sides : Apart separates front back)
    (apart : separates c = true) (first : Text) : Apart separates (first ++ c :: front) back := by
  refine ⟨?_, sides.ahead⟩
  intro d last
  cases front with
  | nil =>
      have same : c = d := by simpa using last
      rwa [← same]
  | cons e front =>
      apply sides.behind d
      simpa [List.getLast?_append, List.getLast?_cons_cons] using last

theorem exists_cut_of_mem_pieces {piece text : Text} (member : piece ∈ text.pieces separates) :
    (∀ c ∈ piece, separates c = false) ∧
      ∃ front back, text = front ++ piece ++ back ∧ Apart separates front back := by
  -- Behind its first piece the text is shorter, and its other pieces are pieces of this rest.
  induction length : text.length using Nat.strongRecOn generalizing text with
  | ind size shorter =>
      rcases free_or_cut separates text with free | ⟨first, c, rest, free, apart, rfl⟩
      · rw [pieces_of_free free, List.mem_singleton] at member
        subst member
        exact ⟨free, [], [], by simp, by simp, by simp⟩
      · rw [pieces_append_cons apart, pieces_of_free free, List.singleton_append,
          List.mem_cons] at member
        rcases member with rfl | later
        · exact ⟨free, [], c :: rest, by simp, by simp, by simpa using apart⟩
        · have less : rest.length < size := by
            rw [← length, List.length_append, List.length_cons]
            omega
          obtain ⟨freePiece, front, back, rfl, sides⟩ := shorter rest.length less later rfl
          exact ⟨freePiece, first ++ c :: front, back, by simp, sides.append_cons apart first⟩

theorem mem_pieces_of_apart {front piece back : Text} (free : ∀ c ∈ piece, separates c = false)
    (sides : Apart separates front back) : piece ∈ (front ++ piece ++ back).pieces separates := by
  have ahead : piece ∈ (piece ++ back).pieces separates := by
    cases back with
    | nil => simp [pieces_of_free free]
    | cons c back =>
        rw [pieces_append_cons (sides.ahead c rfl), pieces_of_free free]
        exact List.mem_append_left _ List.mem_cons_self
  rcases List.eq_nil_or_concat front with rfl | ⟨front, c, rfl⟩
  · exact ahead
  · have apart : separates c = true := sides.behind c (by simp)
    rw [List.concat_eq_append, List.append_assoc, List.append_assoc, List.singleton_append,
      pieces_append_cons apart]
    exact List.mem_append_right _ ahead

theorem mem_pieces_iff {piece text : Text} :
    piece ∈ text.pieces separates ↔ (∀ c ∈ piece, separates c = false) ∧
      ∃ front back, text = front ++ piece ++ back ∧ Apart separates front back := by
  refine ⟨exists_cut_of_mem_pieces, ?_⟩
  rintro ⟨free, front, back, rfl, sides⟩
  exact mem_pieces_of_apart free sides

theorem pieces_joinWith {c : CodePoint} (apart : separates c = true) {texts : List Text}
    (filled : texts ≠ []) :
    (joinWith [c] texts).pieces separates = texts.flatMap (pieces separates) := by
  induction texts with
  | nil => exact absurd rfl filled
  | cons text others ih =>
      cases others with
      | nil => exact (List.flatMap_singleton (pieces separates) text).symm
      | cons next others =>
          change (text ++ [c] ++ joinWith [c] (next :: others)).pieces separates = _
          rw [List.append_assoc, List.singleton_append, pieces_append_cons apart,
            ih (List.cons_ne_nil next others)]
          rfl

end ViewNaming.Text
