import ViewNaming.Proofs.Component.Renaming

/-! What a name overwrites. The marker is looked for as a word, but the call that is
overwritten is the leftmost one by its outline, and the outline asks nothing of what stands
in front of the marker. So the two agree except where a call directly behind a word code
point comes before every call of its own: then the arguments of another function are lost. -/
namespace ViewNaming.Component

open TypeScript (Parser)

def CallAt (content : Text) (place : Nat) : Prop :=
  ∃ call : Call, call.toText <+: content.drop place

/-- The code point in front of this place belongs to a word. -/
def BehindWord (content : Text) (place : Nat) : Prop :=
  (content.take place).getLast?.any CodePoint.isWord = true

theorem behindWord_append {front rest : Text} :
    BehindWord (front ++ rest) front.length ↔ front.getLast?.any CodePoint.isWord = true := by
  rw [BehindWord, List.take_left]

theorem callAt_of_findCall? {content front rest : Text}
    (found : findCall? content = some (front, rest)) : CallAt content front.length := by
  obtain ⟨behind, rfl, starts, -⟩ := findCall?_eq_some_iff.1 found
  obtain ⟨call, tail, rfl, -⟩ := afterCall?_eq_some_iff.1 starts
  exact ⟨call, tail, List.drop_left.symm⟩

theorem length_le_of_callAt {content front rest : Text} {place : Nat}
    (found : findCall? content = some (front, rest)) (stands : CallAt content place) :
    front.length ≤ place := by
  obtain ⟨behind, rfl, -, earlier⟩ := findCall?_eq_some_iff.1 found
  obtain ⟨call, tail, starts⟩ := stands
  by_contra before
  have later : front.drop place ≠ [] := by
    rw [Ne, List.drop_eq_nil_iff]
    omega
  have passed := earlier (front.take place) (front.drop place)
    (List.take_append_drop place front).symm later
  rw [List.drop_append_of_le_length (by omega)] at starts
  rw [← starts, afterCall?_toText] at passed
  cases passed

theorem exists_findCall?_of_callAt {content : Text} {place : Nat} (stands : CallAt content place) :
    ∃ front rest, findCall? content = some (front, rest) := by
  obtain ⟨call, starts⟩ := stands
  cases found : findCall? content with
  | none =>
      have occurs := starts.isInfix.trans (List.drop_suffix place content).isInfix
      exact absurd occurs (findCall?_eq_none_iff.1 found call)
  | some cut => exact ⟨cut.1, cut.2, rfl⟩

/-- Naming a script overwrites `old`, which stands between `front` and `rest`: every line
takes its place, and nothing else changes. -/
structure Overwritten [Parser] (content front old rest : Text) : Prop where
  whole : content = front ++ old ++ rest
  replaced : ∀ line, nameContent insertOffset line content = front ++ line ++ rest

theorem length_lt_insertAt (offset : Nat) (line content : Text) :
    content.length + line.length < (insertAt offset line content).length := by
  have broken : ∀ ends : Bool,
      0 < (if ends then carriageReturnLineFeed else lineFeed).length := by decide
  have cut := congrArg List.length (List.take_append_drop offset content)
  have single : lineFeed.length = 1 := rfl
  rw [List.length_append] at cut
  simp only [insertAt]
  split
  · simp only [List.length_append]
    omega
  · have long := broken (Text.endsWith carriageReturnLineFeed (content.take offset))
    simp only [List.length_append]
    omega

theorem eq_nil_of_forall_line {extra rest rest' : Text}
    (same : ∀ line : Text, line ++ rest = extra ++ line ++ rest') : extra = [] := by
  cases extra with
  | nil => rfl
  | cons c extra =>
      have first : ∀ d : CodePoint, d = c := fun d => (List.cons.inj (same [d])).1
      have apart : CodePoint.ofChar '\n' ≠ CodePoint.ofChar '\r' := by decide
      exact absurd ((first _).trans (first _).symm) apart

theorem eq_of_forall_line {front rest front' rest' : Text}
    (same : ∀ line : Text, front ++ line ++ rest = front' ++ line ++ rest') :
    front = front' ∧ rest = rest' := by
  have fronts : front = front' := by
    have joined := same []
    simp only [List.append_nil] at joined
    rcases List.append_eq_append_iff.1 joined with ⟨extra, rfl, -⟩ | ⟨extra, rfl, -⟩
    · have shifted : ∀ line : Text, line ++ rest = extra ++ line ++ rest' := by
        intro line
        simpa using same line
      rw [eq_nil_of_forall_line shifted, List.append_nil]
    · have shifted : ∀ line : Text, line ++ rest' = extra ++ line ++ rest := by
        intro line
        simpa using (same line).symm
      rw [eq_nil_of_forall_line shifted, List.append_nil]
  subst fronts
  exact ⟨rfl, List.append_cancel_left (same [])⟩

theorem overwritten_iff [Parser] {content front old rest : Text} :
    Overwritten content front old rest ↔
      hasMarker content = true ∧ findCall? content = some (front, rest) ∧
        content = front ++ old ++ rest := by
  constructor
  · rintro ⟨whole, replaced⟩
    have lengths := congrArg List.length whole
    simp only [List.length_append] at lengths
    cases marked : hasMarker content with
    | false =>
        have grown := length_lt_insertAt (insertOffset content) [] content
        have inserted := congrArg List.length (replaced [])
        rw [nameContent, marked, if_neg Bool.false_ne_true] at inserted
        simp only [List.length_append] at inserted
        omega
    | true =>
        cases found : findCall? content with
        | none =>
            have kept := congrArg List.length (replaced (CodePoint.ofChar '\n' :: content))
            rw [nameContent_eq_self marked found] at kept
            simp only [List.length_append, List.length_cons] at kept
            omega
        | some cut =>
            have same : ∀ line, cut.1 ++ line ++ cut.2 = front ++ line ++ rest := by
              intro line
              rw [← replaced line, nameContent, if_pos marked, replaceCall, found]
            obtain ⟨rfl, rfl⟩ := eq_of_forall_line same
            exact ⟨rfl, rfl, whole⟩
  · rintro ⟨marked, found, whole⟩
    refine ⟨whole, ?_⟩
    intro line
    rw [nameContent, if_pos marked, replaceCall, found]

def WordBetween (front rest : Text) : Prop :=
  front.getLast?.any CodePoint.isWord = false ∧ rest.head?.any CodePoint.isWord = false

theorem Overwritten.exists_arguments [Parser] {content front old rest : Text}
    (overwritten : Overwritten content front old rest) :
    ∃ arguments, old = marker ++ arguments ∧
      (arguments ++ rest).head?.any CodePoint.isWord = false := by
  obtain ⟨-, found, whole⟩ := overwritten_iff.1 overwritten
  obtain ⟨call, ending, -, split⟩ := exists_of_findCall? found
  have same : old = call.toText ++ ending :=
    List.append_cancel_left (List.append_cancel_right (whole.symm.trans split))
  rw [Call.toText_append] at same
  refine ⟨_, same, ?_⟩
  cases lead : call.lead with
  | nil =>
      change (CodePoint.ofChar '(').isWord = false
      decide
  | cons c others =>
      have blank := call.lead_blank c (by rw [lead]; exact List.mem_cons_self)
      exact CodePoint.isWord_of_isBlank blank

/-- What a name overwrites in the first script block. It always starts with the marker, and
the marker ends there as a word. It begins as one too exactly if, in a script that holds the
marker as a word, every call directly behind a word code point has a call in front of it that
is not. -/
theorem overwritten_is_word_iff [Parser] (text : Text) (block : ScriptBlock)
    (found : ScriptBlock.find? text = some block) :
    (∀ front old rest, Overwritten block.content front old rest →
      (∃ arguments, old = marker ++ arguments ∧
        (arguments ++ rest).head?.any CodePoint.isWord = false) ∧
      ∀ name, (patch text name).text =
        { block with content := wrapped (front ++ statement name ++ rest) }.toText) ∧
    ((∀ front arguments rest, Overwritten block.content front (marker ++ arguments) rest →
        WordBetween front (arguments ++ rest)) ↔
      (hasMarker block.content = true → ∀ place, CallAt block.content place →
        BehindWord block.content place → ∃ earlier, earlier < place ∧
          CallAt block.content earlier ∧ ¬ BehindWord block.content earlier)) := by
  refine ⟨?_, ?_, ?_⟩
  · intro front old rest overwritten
    refine ⟨overwritten.exists_arguments, ?_⟩
    intro name
    rw [patch, patchWith_of_find? found, overwritten.replaced]
  · intro agree marked place stands behindWord
    obtain ⟨front, rest, leftmost⟩ := exists_findCall?_of_callAt stands
    obtain ⟨call, ending, -, whole⟩ := exists_of_findCall? leftmost
    have overwritten := overwritten_iff.2 ⟨marked, leftmost, whole⟩
    obtain ⟨arguments, shape, -⟩ := overwritten.exists_arguments
    rw [shape] at overwritten
    have free := (agree front arguments rest overwritten).1
    have freeThere : ¬ BehindWord block.content front.length := by
      rw [overwritten.whole, List.append_assoc, behindWord_append, free]
      exact Bool.false_ne_true
    -- The call at `place` is behind a word code point, so it is not the leftmost one.
    have apart : front.length ≠ place := by
      rintro rfl
      exact freeThere behindWord
    have order := length_le_of_callAt leftmost stands
    exact ⟨front.length, by omega, callAt_of_findCall? leftmost, freeThere⟩
  · intro preceded front arguments rest overwritten
    obtain ⟨marked, leftmost, whole⟩ := overwritten_iff.1 overwritten
    obtain ⟨arguments', shape, ends⟩ := overwritten.exists_arguments
    rw [List.append_cancel_left shape]
    refine ⟨?_, ends⟩
    by_contra behind
    have behindWord : BehindWord block.content front.length := by
      rw [whole, List.append_assoc, behindWord_append]
      simpa using behind
    obtain ⟨earlier, before, stands, -⟩ :=
      preceded marked front.length (callAt_of_findCall? leftmost) behindWord
    have order := length_le_of_callAt leftmost stands
    omega

def qualifiedBlock : ScriptBlock :=
  ⟨[], [], Text.ofString "a.defineOptions(\x7b\x7d);xdefineOptions(\x7b\x7d)", []⟩

theorem overwritten_is_word_iff_qualifiedBlock :
    ScriptBlock.find? qualifiedBlock.toText = some qualifiedBlock ∧
    Overwritten qualifiedBlock.content (Text.ofString "a.")
      (marker ++ Text.ofString "(\x7b\x7d);") (Text.ofString "xdefineOptions(\x7b\x7d)") ∧
    WordBetween (Text.ofString "a.")
      (Text.ofString "(\x7b\x7d);" ++ Text.ofString "xdefineOptions(\x7b\x7d)") := by
  have found : ScriptBlock.find? qualifiedBlock.toText = some qualifiedBlock := by decide +kernel
  have leftmost : findCall? qualifiedBlock.content =
      some (Text.ofString "a.", Text.ofString "xdefineOptions(\x7b\x7d)") := by decide +kernel
  have overwritten : Overwritten qualifiedBlock.content (Text.ofString "a.")
      (marker ++ Text.ofString "(\x7b\x7d);") (Text.ofString "xdefineOptions(\x7b\x7d)") :=
    overwritten_iff.2 ⟨by decide +kernel, leftmost, rfl⟩
  refine ⟨found, overwritten, ?_⟩
  apply (overwritten_is_word_iff qualifiedBlock.toText qualifiedBlock found).2.2 _ _ _ _ overwritten
  intro marked place stands behindWord
  refine ⟨2, ?_, callAt_of_findCall? leftmost, by unfold BehindWord; decide⟩
  have least : 2 ≤ place := length_le_of_callAt leftmost stands
  have apart : place ≠ 2 := by
    rintro rfl
    exact absurd behindWord (by unfold BehindWord; decide)
  omega

def borrowedBlock : ScriptBlock :=
  ⟨[], [], Text.ofString "xdefineOptions(\x7b a \x7d);defineOptions(\x7b b \x7d)", []⟩

theorem overwritten_not_word_borrowedBlock :
    ScriptBlock.find? borrowedBlock.toText = some borrowedBlock ∧
    Overwritten borrowedBlock.content (Text.ofString "x")
      (marker ++ Text.ofString "(\x7b a \x7d);") (Text.ofString "defineOptions(\x7b b \x7d)") ∧
    ¬ WordBetween (Text.ofString "x")
      (Text.ofString "(\x7b a \x7d);" ++ Text.ofString "defineOptions(\x7b b \x7d)") ∧
    (patch borrowedBlock.toText (Text.ofString "A")).text = Text.ofString
      "<script>\nxdefineOptions(\x7b name: \"A\" \x7d);defineOptions(\x7b b \x7d)\n</script>" := by
  have found : ScriptBlock.find? borrowedBlock.toText = some borrowedBlock := by decide +kernel
  have leftmost : findCall? borrowedBlock.content =
      some (Text.ofString "x", Text.ofString "defineOptions(\x7b b \x7d)") := by decide +kernel
  have overwritten : Overwritten borrowedBlock.content (Text.ofString "x")
      (marker ++ Text.ofString "(\x7b a \x7d);") (Text.ofString "defineOptions(\x7b b \x7d)") :=
    overwritten_iff.2 ⟨by decide +kernel, leftmost, rfl⟩
  refine ⟨found, overwritten, ?_, ?_⟩
  · rintro ⟨free, -⟩
    exact absurd free (by decide)
  · rw [patch, patchWith_of_find? found, overwritten.replaced]
    decide +kernel

end ViewNaming.Component
