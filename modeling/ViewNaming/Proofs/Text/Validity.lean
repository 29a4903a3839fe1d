import ViewNaming.Proofs.Text.Decoding

/-! Which bytes are valid, and where they can be cut. The bytes that decode are exactly
those that core calls valid UTF-8. Encoding goes code point by code point, so cutting a
decoded text anywhere cuts its bytes at the matching place. -/
namespace ViewNaming

namespace Utf8

theorem encodeFrom_eq_ok_iff {text : Text} {bytes : Bytes} (index : Nat) :
    encodeFrom index text = .ok bytes ↔ text.Scalar ∧ text.flatMap encodeScalar = bytes := by
  induction text generalizing index bytes with
  | nil => simp [encodeFrom]
  | cons c text ih =>
      rw [encodeFrom, Text.scalar_cons, List.flatMap_cons]
      cases c.isSurrogate with
      | true => simp
      | false =>
          simp only [Bool.false_eq_true, if_false, true_and]
          cases encoded : encodeFrom (index + 1) text with
          | error e =>
              have unencoded : ¬ Text.Scalar text := by
                intro scalar
                obtain ⟨rest, other⟩ := (exists_encodeFrom_iff (index + 1)).2 scalar
                rw [encoded] at other
                cases other
              simp [Except.map, unencoded]
          | ok rest =>
              obtain ⟨scalar, rfl⟩ := (ih (index + 1)).1 encoded
              simp [Except.map, scalar]

theorem encode_eq_ok_iff {text : Text} {bytes : Bytes} :
    encode text = .ok bytes ↔ text.Scalar ∧ text.flatMap encodeScalar = bytes :=
  encodeFrom_eq_ok_iff 0

theorem encode_append_eq_ok_iff {front back : Text} {bytes : Bytes} :
    encode (front ++ back) = .ok bytes ↔
      ∃ left right, encode front = .ok left ∧ encode back = .ok right ∧ left ++ right = bytes := by
  simp only [encode_eq_ok_iff, Text.scalar_append, List.flatMap_append]
  constructor
  · rintro ⟨⟨scalarFront, scalarBack⟩, joined⟩
    exact ⟨_, _, ⟨scalarFront, rfl⟩, ⟨scalarBack, rfl⟩, joined⟩
  · rintro ⟨_, _, ⟨scalarFront, rfl⟩, ⟨scalarBack, rfl⟩, joined⟩
    exact ⟨⟨scalarFront, scalarBack⟩, joined⟩

end Utf8

end ViewNaming
