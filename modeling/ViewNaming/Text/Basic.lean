import ViewNaming.Text.CodePoint

/-! Texts are lists of code points. Offsets and lengths count code points. The
searches here find the leftmost place, and their lemmas say how the parts they
return make up the whole. -/
namespace ViewNaming

abbrev Text := List CodePoint

namespace Text

def ofString (s : String) : Text := s.toList.map CodePoint.ofChar

instance : Coe String Text := ⟨ofString⟩

def after? : (lead text : Text) → Option Text
  | [], text => some text
  | _ :: _, [] => none
  | p :: lead, c :: text => if p = c then after? lead text else none

theorem after?_eq_some_iff {lead text rest : Text} :
    after? lead text = some rest ↔ text = lead ++ rest := by
  induction lead generalizing text with
  | nil => simp [after?]
  | cons p lead ih =>
      cases text with
      | nil => simp [after?]
      | cons c text =>
          by_cases same : p = c
          · simp [after?, same, ih]
          · simp [after?, same, Ne.symm same]

def beginsWith (lead text : Text) : Bool := (after? lead text).isSome

theorem beginsWith_iff {lead text : Text} :
    beginsWith lead text = true ↔ ∃ rest, text = lead ++ rest := by
  simp [beginsWith, Option.isSome_iff_exists, after?_eq_some_iff]

def endsWith (tail text : Text) : Bool := beginsWith tail.reverse text.reverse

theorem endsWith_iff {tail text : Text} :
    endsWith tail text = true ↔ ∃ front, text = front ++ tail := by
  rw [endsWith, beginsWith_iff]
  constructor
  · rintro ⟨rest, equal⟩
    exact ⟨rest.reverse, by rw [← List.reverse_reverse text, equal]; simp⟩
  · rintro ⟨front, rfl⟩
    exact ⟨front.reverse, by simp⟩

/-- Cuts the text around the leftmost occurrence of `needle`: what stands in
front of it and what stands behind it. -/
def breakOn? (needle : Text) : Text → Option (Text × Text)
  | [] => (after? needle []).map fun rest => ([], rest)
  | c :: text =>
      match after? needle (c :: text) with
      | some rest => some ([], rest)
      | none => (breakOn? needle text).map fun parts => (c :: parts.1, parts.2)

theorem breakOn?_append {needle text front rest : Text}
    (found : breakOn? needle text = some (front, rest)) :
    text = front ++ needle ++ rest := by
  induction text generalizing front with
  | nil =>
      simp only [breakOn?, Option.map_eq_some_iff, Prod.mk.injEq] at found
      obtain ⟨_, at_start, rfl, rfl⟩ := found
      simpa using after?_eq_some_iff.1 at_start
  | cons c text ih =>
      simp only [breakOn?] at found
      split at found
      · rename_i at_start
        simp only [Option.some.injEq, Prod.mk.injEq] at found
        obtain ⟨rfl, rfl⟩ := found
        simpa using after?_eq_some_iff.1 at_start
      · simp only [Option.map_eq_some_iff, Prod.mk.injEq, Prod.exists] at found
        obtain ⟨inner, _, later, rfl, rfl⟩ := found
        simp [ih later]

/-- The pieces of the text between separators, empty pieces included. -/
def pieces (separates : CodePoint → Bool) : Text → List Text
  | [] => [[]]
  | c :: text =>
      if separates c then [] :: pieces separates text
      else
        match pieces separates text with
        | [] => [[c]]
        | piece :: others => (c :: piece) :: others

def joinWith (separator : Text) : List Text → Text
  | [] => []
  | [text] => text
  | text :: others => text ++ separator ++ joinWith separator others

def trim (drops : CodePoint → Bool) (text : Text) : Text :=
  ((text.dropWhile drops).reverse.dropWhile drops).reverse

def ofNat (n : Nat) : Text := ofString (toString n)

end Text

/-- What trimming removes and what may stand between the parts of a call. The zero width space
and the byte order mark are not blank. -/
def CodePoint.isBlank (c : CodePoint) : Bool :=
  (0x09 ≤ c.toNat && c.toNat ≤ 0x0D) || (0x1C ≤ c.toNat && c.toNat ≤ 0x20) ||
    c.toNat == 0x85 || c.toNat == 0xA0 || c.toNat == 0x1680 ||
    (0x2000 ≤ c.toNat && c.toNat ≤ 0x200A) || c.toNat == 0x2028 || c.toNat == 0x2029 ||
    c.toNat == 0x202F || c.toNat == 0x205F || c.toNat == 0x3000

def Text.strip (text : Text) : Text := text.trim CodePoint.isBlank

end ViewNaming
