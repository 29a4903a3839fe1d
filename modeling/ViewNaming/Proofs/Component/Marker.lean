import ViewNaming.Proofs.Component.Call

/-! The marker as a word. A script holds the marker if it stands somewhere with no
word code point directly in front of it and none directly behind it. -/
namespace ViewNaming

namespace CodePoint

def highBlanks : List Nat :=
  [0x85, 0xA0, 0x1680, 0x2000, 0x2001, 0x2002, 0x2003, 0x2004, 0x2005, 0x2006, 0x2007, 0x2008,
    0x2009, 0x200A, 0x2028, 0x2029, 0x202F, 0x205F, 0x3000]

theorem not_letters_of_highBlanks : ∀ n ∈ highBlanks, Ranges.has Ranges.letters n = false := by
  decide +kernel

theorem isWord_of_isBlank {c : CodePoint} (blank : c.isBlank = true) : c.isWord = false := by
  simp only [isBlank, Bool.or_eq_true, Bool.and_eq_true, decide_eq_true_eq, beq_iff_eq] at blank
  by_cases low : c.toNat < 0x80
  · simp only [isWord, isAsciiAlphanumeric, low, if_true, Bool.or_eq_false_iff,
      Bool.and_eq_false_iff, decide_eq_false_iff_not, beq_eq_false_iff_ne]
    omega
  · have listed : c.toNat ∈ highBlanks := by
      simp only [highBlanks, List.mem_cons, List.not_mem_nil, or_false]
      omega
    rw [isWord, if_neg low]
    exact not_letters_of_highBlanks c.toNat listed

end CodePoint

namespace Component

theorem markerEndsHere_iff {text : Text} :
    markerEndsHere text = true ↔
      ∃ rest, text = marker ++ rest ∧ rest.head?.any CodePoint.isWord = false := by
  simp only [markerEndsHere]
  split
  · rename_i missing
    constructor
    · simp
    · rintro ⟨rest, rfl, -⟩
      simp at missing
  · rename_i rest found
    rw [Bool.not_eq_true']
    have equal := Text.after?_eq_some_iff.1 found
    constructor
    · exact fun ends => ⟨rest, equal, ends⟩
    · rintro ⟨rest', equal', ends⟩
      rw [List.append_cancel_left (equal.symm.trans equal')]
      exact ends

theorem hasMarkerAfter_iff {previous : Option CodePoint} {text : Text} :
    hasMarkerAfter previous text = true ↔
      ∃ front rest, text = front ++ marker ++ rest ∧
        (front.getLast?.or previous).any CodePoint.isWord = false ∧
        rest.head?.any CodePoint.isWord = false := by
  induction text generalizing previous with
  | nil =>
      simp [hasMarkerAfter, marker, Text.ofString]
  | cons c text ih =>
      simp only [hasMarkerAfter, Bool.or_eq_true, Bool.and_eq_true, Bool.not_eq_true',
        markerEndsHere_iff, ih]
      constructor
      · rintro (⟨free, rest, equal, ends⟩ | ⟨front, rest, rfl, free, ends⟩)
        · exact ⟨[], rest, equal, free, ends⟩
        · refine ⟨c :: front, rest, rfl, ?_, ends⟩
          rw [List.getLast?_cons]
          cases last : front.getLast? with
          | none => simpa [last] using free
          | some d => simpa [last] using free
      · rintro ⟨front, rest, equal, free, ends⟩
        cases front with
        | nil => exact Or.inl ⟨free, rest, equal, ends⟩
        | cons d front =>
            obtain ⟨rfl, rfl⟩ := List.cons.inj equal
            refine Or.inr ⟨front, rest, rfl, ?_, ends⟩
            rw [List.getLast?_cons] at free
            cases last : front.getLast? with
            | none => simpa [last] using free
            | some d => simpa [last] using free

theorem hasMarker_iff {content : Text} :
    hasMarker content = true ↔
      ∃ front rest, content = front ++ marker ++ rest ∧
        front.getLast?.any CodePoint.isWord = false ∧
        rest.head?.any CodePoint.isWord = false := by
  simp only [hasMarker, hasMarkerAfter_iff, Option.or_none]

/-- Every marker in the script is free of word code points directly in front of
it. -/
def Unprefixed (content : Text) : Prop :=
  ∀ front c rest, content = front ++ c :: (marker ++ rest) → c.isWord = false

theorem unprefixed_nil : Unprefixed [] := by
  intro front c rest split
  simp at split

theorem unprefixed_cons_iff {c : CodePoint} {text : Text} :
    Unprefixed (c :: text) ↔
      (Text.beginsWith marker text = true → c.isWord = false) ∧ Unprefixed text := by
  constructor
  · intro unprefixed
    constructor
    · intro begins
      obtain ⟨rest, rfl⟩ := Text.beginsWith_iff.1 begins
      exact unprefixed [] c rest rfl
    · intro front d rest split
      exact unprefixed (c :: front) d rest (congrArg (c :: ·) split)
  · rintro ⟨here, later⟩ front d rest split
    cases front with
    | nil =>
        obtain ⟨rfl, rfl⟩ := List.cons.inj split
        exact here (Text.beginsWith_iff.2 ⟨rest, rfl⟩)
    | cons e front => exact later front d rest (List.cons.inj split).2

instance decidableUnprefixed : (content : Text) → Decidable (Unprefixed content)
  | [] => isTrue unprefixed_nil
  | _ :: text =>
      have := decidableUnprefixed text
      decidable_of_iff _ unprefixed_cons_iff.symm

theorem getLast?_isWord_of_unprefixed {front rest : Text}
    (unprefixed : Unprefixed (front ++ marker ++ rest)) :
    front.getLast?.any CodePoint.isWord = false := by
  cases last : front.getLast? with
  | none => rfl
  | some c =>
      obtain ⟨earlier, rfl⟩ := List.getLast?_eq_some_iff.1 last
      exact unprefixed earlier c rest (by simp)

theorem hasMarker_statement {front : Text} (free : front.getLast?.any CodePoint.isWord = false)
    (name rest : Text) : hasMarker (front ++ statement name ++ rest) = true := by
  refine hasMarker_iff.2 ⟨front, Text.ofString "(\x7b name: \"" ++ escape name ++
    Text.ofString "\" \x7d);" ++ rest, ?_, free, ?_⟩
  · simp [statement]
  · change (CodePoint.ofChar '(').isWord = false
    decide

end Component

end ViewNaming
