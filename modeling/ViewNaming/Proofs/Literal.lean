import Mathlib.Data.Nat.Digits.Defs
import ViewNaming.Literal
import ViewNaming.Proofs.Text.Scalar

/-! Quoted texts in all their spellings. `Spells` lists the forms that a part of a quoted text
may take and what each of them stands for; a form that spells a number stands for the code
point with that number. No text has two of these forms, so it does not matter in which order
they are tried. Numbers may have any number of digits, and only the braced form reaches
numbers that belong to no code point. -/
namespace ViewNaming.Literal

def IsHexDigit (c : CodePoint) (value : Nat) : Prop :=
  (Text.ofString "0123456789abcdef")[value]? = some c ∨
    (Text.ofString "0123456789ABCDEF")[value]? = some c

instance (c : CodePoint) (value : Nat) : Decidable (IsHexDigit c value) :=
  inferInstanceAs (Decidable (_ ∨ _))

/-- The number that hexadecimal digits stand for, the most significant digit first. -/
def HexNumber (digits : Text) (number : Nat) : Prop :=
  ∃ values, List.Forall₂ IsHexDigit digits values ∧ number = Nat.ofDigits 16 values.reverse

theorem hexValue?_of_isHexDigit {c : CodePoint} {value : Nat} (digit : IsHexDigit c value) :
    c.hexValue? = some value := by
  have lower : ∀ value < 16, ((Text.ofString "0123456789abcdef")[value]?).bind
      CodePoint.hexValue? = some value := by decide
  have upper : ∀ value < 16, ((Text.ofString "0123456789ABCDEF")[value]?).bind
      CodePoint.hexValue? = some value := by decide
  rcases digit with found | found
  · have read := lower value (List.getElem?_eq_some_iff.1 found).1
    rwa [found, Option.bind_some] at read
  · have read := upper value (List.getElem?_eq_some_iff.1 found).1
    rwa [found, Option.bind_some] at read

theorem all_isHexDigit {digits : Text} {values : List Nat}
    (spelled : List.Forall₂ IsHexDigit digits values) :
    digits.all CodePoint.isHexDigit = true := by
  induction spelled with
  | nil => rfl
  | cons digit _ ih =>
      rw [List.all_cons, ih, CodePoint.isHexDigit, hexValue?_of_isHexDigit digit]
      rfl

theorem foldl_hexValue? {digits : Text} {values : List Nat}
    (spelled : List.Forall₂ IsHexDigit digits values) (number : Nat) :
    digits.foldl (fun number digit =>
        number.bind fun n => digit.hexValue?.map fun value => n * 16 + value) (some number) =
      some (number * 16 ^ values.length + Nat.ofDigits 16 values.reverse) := by
  induction spelled generalizing number with
  | nil => simp
  | @cons c value digits values digit _ ih =>
      rw [List.foldl_cons, hexValue?_of_isHexDigit digit, Option.bind_some, Option.map_some, ih,
        Nat.ofDigits_reverse_cons, List.length_cons]
      ring_nf

theorem hexNumber?_of_hexNumber {digits : Text} {number : Nat}
    (spelled : HexNumber digits number) : hexNumber? digits = some number := by
  obtain ⟨values, each, rfl⟩ := spelled
  rw [hexNumber?, foldl_hexValue? each, Nat.zero_mul, Nat.zero_add]

/-- An escape that spells a number: two digits behind `x`, four behind `u`, or any number of
digits in braces behind `u`. -/
inductive NumberEscape (part : Node) (number : Nat) : Prop
  | two {digits : Text} : part.is .escapeSequence = true →
      part.text = Text.ofString "\\x" ++ digits → digits.length = 2 → HexNumber digits number →
      NumberEscape part number
  | four {digits : Text} : part.is .escapeSequence = true →
      part.text = Text.ofString "\\u" ++ digits → digits.length = 4 → HexNumber digits number →
      NumberEscape part number
  | braced {digits : Text} : part.is .escapeSequence = true →
      part.text = Text.ofString "\\u\x7b" ++ digits ++ Text.ofString "\x7d" → digits ≠ [] →
      HexNumber digits number → NumberEscape part number

def letters : List (Char × Char) :=
  [('n', '\n'), ('t', '\t'), ('r', '\r'), ('b', '\x08'), ('f', '\x0c'), ('v', '\x0b'),
    ('0', '\x00')]

def lineBreaks : List Text := [Text.ofString "\n", Text.ofString "\r", Text.ofString "\r\n"]

/-- What a part of a quoted text stands for. -/
inductive Spells (part : Node) : Text → Prop
  | fragment : part.is .stringFragment = true → part.text.Scalar → Spells part part.text
  | letter {mark meaning : Char} : part.is .escapeSequence = true →
      part.text = [CodePoint.ofChar '\\', CodePoint.ofChar mark] → (mark, meaning) ∈ letters →
      Spells part [CodePoint.ofChar meaning]
  | number {c : CodePoint} : NumberEscape part c.toNat → Spells part [c]
  | itself {c : CodePoint} : part.is .escapeSequence = true →
      part.text = [CodePoint.ofChar '\\', c] → c ∉ Text.ofString "ntrbfvxu0123456789\r\n" →
      Spells part [c]
  | continuation {lineBreak : Text} : part.is .escapeSequence = true →
      part.text = CodePoint.ofChar '\\' :: lineBreak → lineBreak ∈ lineBreaks → Spells part []

theorem hexEscape?_two {digits : Text} {number : Nat} (width : digits.length = 2)
    (spelled : HexNumber digits number) :
    hexEscape? (CodePoint.ofChar 'x' :: digits) = some number := by
  simp [hexEscape?, width, hexNumber?_of_hexNumber spelled]

theorem hexEscape?_four {digits : Text} {number : Nat} (width : digits.length = 4)
    (spelled : HexNumber digits number) :
    hexEscape? (CodePoint.ofChar 'u' :: digits) = some number := by
  obtain ⟨values, each, -⟩ := id spelled
  have other : CodePoint.ofChar 'u' ≠ CodePoint.ofChar 'x' := by decide
  simp [hexEscape?, other, width, all_isHexDigit each, hexNumber?_of_hexNumber spelled]

theorem hexEscape?_braced {digits : Text} {number : Nat} (nonempty : digits ≠ [])
    (spelled : HexNumber digits number) :
    hexEscape? (CodePoint.ofChar 'u' :: CodePoint.ofChar '\x7b' ::
      (digits ++ [CodePoint.ofChar '\x7d'])) = some number := by
  have other : CodePoint.ofChar 'u' ≠ CodePoint.ofChar 'x' := by decide
  -- The brace keeps a number in braces from being read as four digits.
  have brace : (CodePoint.ofChar '\x7b').isHexDigit = false := by decide
  simp [hexEscape?, other, brace, nonempty, hexNumber?_of_hexNumber spelled]

theorem decodeEscape_of_hexEscape? {mark : CodePoint} {others : Text} {number : Nat}
    (isMark : mark = CodePoint.ofChar 'x' ∨ mark = CodePoint.ofChar 'u')
    (spelled : hexEscape? (mark :: others) = some number) :
    decodeEscape (CodePoint.ofChar '\\' :: mark :: others) = ofNumber number := by
  have apart : (mark = CodePoint.ofChar '\n' || mark = CodePoint.ofChar '\r') = false ∧
      simple? mark = none := by
    rcases isMark with rfl | rfl <;> decide
  simp [decodeEscape, apart, spelled]

theorem decodePart_of_escape {part : Node} (isEscape : part.is .escapeSequence = true) :
    decodePart part = decodeEscape part.text := by
  have other : part.is .stringFragment = false := by
    rw [Node.is, Node.is_iff.1 isEscape]
    rfl
  rw [decodePart, other, if_neg Bool.false_ne_true, if_pos isEscape]

theorem NumberEscape.decodePart {part : Node} {number : Nat}
    (spelled : NumberEscape part number) : decodePart part = ofNumber number := by
  cases spelled with
  | two isEscape text width digits =>
      rw [decodePart_of_escape isEscape, text]
      exact decodeEscape_of_hexEscape? (Or.inl rfl) (hexEscape?_two width digits)
  | four isEscape text width digits =>
      rw [decodePart_of_escape isEscape, text]
      exact decodeEscape_of_hexEscape? (Or.inr rfl) (hexEscape?_four width digits)
  | braced isEscape text nonempty digits =>
      rw [decodePart_of_escape isEscape, text, List.append_assoc]
      exact decodeEscape_of_hexEscape? (Or.inr rfl) (hexEscape?_braced nonempty digits)

theorem decodeEscape_letter {mark meaning : Char} (known : (mark, meaning) ∈ letters) :
    decodeEscape [CodePoint.ofChar '\\', CodePoint.ofChar mark] =
      .ok [CodePoint.ofChar meaning] := by
  have all : ∀ entry ∈ letters, decodeEscape [CodePoint.ofChar '\\', CodePoint.ofChar entry.1] =
      .ok [CodePoint.ofChar entry.2] := by decide
  exact all _ known

theorem decodeEscape_lineBreak {lineBreak : Text} (known : lineBreak ∈ lineBreaks) :
    decodeEscape (CodePoint.ofChar '\\' :: lineBreak) = .ok [] := by
  have all : ∀ entry ∈ lineBreaks, decodeEscape (CodePoint.ofChar '\\' :: entry) = .ok [] := by
    decide
  exact all _ known

theorem decodeEscape_itself {c : CodePoint}
    (meaningless : c ∉ Text.ofString "ntrbfvxu0123456789\r\n") :
    decodeEscape [CodePoint.ofChar '\\', c] = .ok [c] := by
  have apart : ∀ mark : Char, CodePoint.ofChar mark ∈ Text.ofString "ntrbfvxu0123456789\r\n" →
      c ≠ CodePoint.ofChar mark := by
    rintro mark member rfl
    exact meaningless member
  have nothing : simple? c = none := by
    simp [simple?, apart 'n' (by decide), apart 't' (by decide), apart 'r' (by decide),
      apart 'b' (by decide), apart 'f' (by decide), apart 'v' (by decide), apart '0' (by decide)]
  have noNumber : hexEscape? [c] = none := by simp [hexEscape?]
  simp [decodeEscape, apart '\n' (by decide), apart '\r' (by decide), nothing, noNumber]

theorem Spells.decodePart {part : Node} {text : Text} (spells : Spells part text) :
    decodePart part = .ok text := by
  cases spells with
  | fragment isFragment => rw [Literal.decodePart, if_pos isFragment]
  | letter isEscape text known =>
      rw [decodePart_of_escape isEscape, text, decodeEscape_letter known]
  | @number c spelled => rw [spelled.decodePart, ofNumber, CodePoint.ofNat?_toNat]
  | itself isEscape text meaningless =>
      rw [decodePart_of_escape isEscape, text, decodeEscape_itself meaningless]
  | continuation isEscape text known =>
      rw [decodePart_of_escape isEscape, text, decodeEscape_lineBreak known]

theorem decodeParts_append {front : List Node} {pieces : List Text}
    (spelled : List.Forall₂ Spells front pieces) (back : List Node) :
    decodeParts (front ++ back) = (decodeParts back).map (pieces.flatten ++ ·) := by
  induction spelled with
  | nil =>
      rw [List.nil_append]
      cases decodeParts back <;> rfl
  | cons spells _ ih =>
      rw [List.cons_append, decodeParts, spells.decodePart, ih]
      cases decodeParts back with
      | error e => rfl
      | ok text => simp [Except.map]

/-- Quoted texts in all their spellings. However a text is spelled in parts, it is what the
parts are read as. The first number that belongs to no code point ends the reading, and it is
out of range or, where it is no machine integer either, an overflow. -/
theorem value_of_spelling {literal : Node} (isString : literal.is .string = true) :
    (∀ pieces, List.Forall₂ Spells literal.namedChildren pieces →
      value literal = .ok pieces.flatten) ∧
    ∀ front part back pieces number, literal.namedChildren = front ++ part :: back →
      List.Forall₂ Spells front pieces → NumberEscape part number → 0x10FFFF < number →
      value literal = .error (if number ≤ 0x7FFFFFFF then .outOfRange else .overflow) := by
  rw [value_of_is isString]
  constructor
  · intro pieces spelled
    have read := decodeParts_append spelled []
    rw [List.append_nil] at read
    rw [read]
    simp [decodeParts, Except.map]
  · intro front part back pieces number parts spelled numbered large
    have unnamed : CodePoint.ofNat? number = none := by
      simp [CodePoint.ofNat?, Nat.not_lt.2 large]
    rw [parts, decodeParts_append spelled, decodeParts, numbered.decodePart, ofNumber, unnamed]
    rfl

def literalWith (parts : List Node) : Node :=
  .mk (.phrase .string) none 0 [] parts

def fragmentPart (text : String) : Node :=
  .mk (.phrase .stringFragment) none 0 (Text.ofString text) []

def escapePart (text : String) : Node :=
  .mk (.phrase .escapeSequence) none 0 (Text.ofString text) []

def halvesParts : List Node :=
  [fragmentPart "é", escapePart "\\u\x7b00d83C\x7d", escapePart "\\\r\n", escapePart "\\uDf89",
    escapePart "\\x41", escapePart "\\0", escapePart "\\\""]

def halvesPieces : List Text :=
  [Text.ofString "é", [⟨0xD83C, by decide⟩], [], [⟨0xDF89, by decide⟩], Text.ofString "A",
    Text.ofString "\x00", Text.ofString "\""]

theorem spells_halvesParts : List.Forall₂ Spells halvesParts halvesPieces := by
  have first : HexNumber (Text.ofString "00d83C") 0xD83C := ⟨[0, 0, 13, 8, 3, 12], by decide, rfl⟩
  have second : HexNumber (Text.ofString "Df89") 0xDF89 := ⟨[13, 15, 8, 9], by decide, rfl⟩
  have third : HexNumber (Text.ofString "41") 0x41 := ⟨[4, 1], by decide, rfl⟩
  simp only [halvesParts, halvesPieces, List.forall₂_cons]
  exact ⟨.fragment rfl (Text.scalar_ofString "é"), .number (.braced rfl rfl (by decide) first),
    .continuation rfl rfl (by decide), .number (.four rfl rfl rfl second),
    .number (.two rfl rfl rfl third), .letter rfl rfl (by decide),
    .itself rfl rfl (by decide), .nil⟩

def largeParts : List Node := [escapePart "\\u\x7b080000000\x7d", escapePart "\\u\x7b110000\x7d"]

theorem value_of_spelling_halvesParts :
    List.Forall₂ Spells halvesParts halvesPieces ∧
    value (literalWith halvesParts) = .ok halvesPieces.flatten ∧
    value (literalWith (halvesParts ++ largeParts)) = .error .overflow := by
  have large : HexNumber (Text.ofString "080000000") 0x80000000 :=
    ⟨[0, 8, 0, 0, 0, 0, 0, 0, 0], by decide, rfl⟩
  refine ⟨spells_halvesParts, (value_of_spelling rfl).1 _ spells_halvesParts, ?_⟩
  exact (value_of_spelling rfl).2 halvesParts _ _ _ 0x80000000 rfl spells_halvesParts
    (.braced rfl rfl (by decide) large) (by decide)

end ViewNaming.Literal
