import ViewNaming.Proofs.Text.Encoding
import ViewNaming.Proofs.Text.Trim

/-! Texts without surrogates. They are the ones with an encoded form, and they are
closed under everything that only cuts texts apart and puts them together. -/
namespace ViewNaming

namespace Text

/-- No code point of the text is a surrogate. -/
def Scalar (text : Text) : Prop := ∀ c ∈ text, c.isSurrogate = false

@[simp] theorem scalar_nil : Scalar [] := fun _ member => absurd member List.not_mem_nil

@[simp] theorem scalar_cons {c : CodePoint} {text : Text} :
    Scalar (c :: text) ↔ c.isSurrogate = false ∧ Scalar text := List.forall_mem_cons

@[simp] theorem scalar_append {front back : Text} :
    Scalar (front ++ back) ↔ Scalar front ∧ Scalar back := List.forall_mem_append

@[simp] theorem scalar_ofString (s : String) : Scalar (ofString s) := by
  intro c member
  obtain ⟨d, -, rfl⟩ := List.mem_map.1 member
  exact CodePoint.isSurrogate_ofChar d

theorem scalar_of_allBlank {text : Text} (blank : AllBlank text) : Scalar text := by
  intro c member
  have isBlank := blank c member
  simp only [CodePoint.isBlank, Bool.or_eq_true, Bool.and_eq_true, decide_eq_true_eq, beq_iff_eq]
    at isBlank
  simp only [CodePoint.isSurrogate, Bool.and_eq_false_iff, decide_eq_false_iff_not]
  omega

@[simp] theorem scalar_strip {text : Text} : Scalar text.strip ↔ Scalar text := by
  obtain ⟨left, right, blankLeft, blankRight, equal⟩ := exists_blank_sides text
  constructor
  · intro scalar
    rw [equal]
    simp only [scalar_append]
    exact ⟨⟨scalar_of_allBlank blankLeft, scalar⟩, scalar_of_allBlank blankRight⟩
  · intro scalar
    rw [equal] at scalar
    simp only [scalar_append] at scalar
    exact scalar.1.2

theorem scalar_joinWith {separator : Text} (between : Scalar separator) {pieces : List Text}
    (each : ∀ piece ∈ pieces, Scalar piece) : Scalar (joinWith separator pieces) := by
  fun_induction joinWith separator pieces with
  | case1 => exact scalar_nil
  | case2 piece => exact each piece List.mem_cons_self
  | case3 piece pieces _ ih =>
      simp only [scalar_append]
      exact ⟨⟨each piece List.mem_cons_self, between⟩,
        ih fun later member => each later (List.mem_cons_of_mem piece member)⟩

end Text

namespace Utf8

theorem exists_encodeFrom_iff {text : Text} (index : Nat) :
    (∃ bytes, encodeFrom index text = .ok bytes) ↔ text.Scalar := by
  induction text generalizing index with
  | nil => simp [encodeFrom]
  | cons c text ih =>
      rw [Text.scalar_cons, ← ih (index + 1), encodeFrom]
      cases c.isSurrogate with
      | true => simp
      | false =>
          simp only [Bool.false_eq_true, if_false, true_and]
          cases encodeFrom (index + 1) text with
          | error e => simp [Except.map]
          | ok bytes => simp [Except.map]

theorem exists_encode_iff {text : Text} : (∃ bytes, encode text = .ok bytes) ↔ text.Scalar :=
  exists_encodeFrom_iff 0

theorem scalar_of_encode {text : Text} {bytes : Bytes} (encoded : encode text = .ok bytes) :
    text.Scalar := exists_encode_iff.1 ⟨bytes, encoded⟩

end Utf8

end ViewNaming
