import ViewNaming.Proofs.Text.Scalar

/-! Decoded bytes written back. Decoding takes only the shortest form of a number and no
surrogates, so the bytes that were read are the ones that encoding gives. -/
namespace ViewNaming.Utf8

/-- The bytes are the encoded form of the code point with this number. -/
structure Spells (n : Nat) (front : Bytes) : Prop where
  bound : n < 0x110000
  scalar : n < 0xD800 ∨ 0xDFFF < n
  bytes : encodeScalar ⟨n, bound⟩ = front

end ViewNaming.Utf8
