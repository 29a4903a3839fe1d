import ViewNaming.Text.Utf8

/-! Encoded texts read back. Decoding the bytes of a text gives the text again,
one code point at a time: the lead byte tells how many bytes follow, and the bits
they carry make up the number. -/
namespace ViewNaming.Utf8

theorem toNat_byte {n : Nat} (small : n < 256) : (byte n).toNat = n := by
  rw [byte, UInt8.toNat_ofNat']
  exact Nat.mod_eq_of_lt small

theorem consNumber_toNat (c : CodePoint) (text : Text) : consNumber c.toNat text = c :: text := by
  rw [consNumber, CodePoint.ofNat?_toNat]

theorem isContinuation_byte {n : Nat} (small : n < 0x40) :
    isContinuation (byte (0x80 + n)) = true := by
  rw [isContinuation, toNat_byte (by omega)]
  simp only [Bool.and_eq_true, decide_eq_true_eq]
  omega

theorem low_byte {n : Nat} (small : n < 0x40) : low (byte (0x80 + n)) = n := by
  rw [low, toNat_byte (by omega)]
  omega

theorem decodeFrom_one {n : Nat} (bound : n < 0x80) (index : Nat) (bytes : Bytes) :
    decodeFrom index (byte n :: bytes) =
      (decodeFrom (index + 1) bytes).map (consNumber n) := by
  have lead := toNat_byte (show n < 256 by omega)
  rw [decodeFrom.eq_def]
  simp only [lead]
  rw [if_pos bound]

theorem decodeFrom_two {n : Nat} (least : 0x80 ≤ n) (bound : n < 0x800) (index : Nat)
    (bytes : Bytes) :
    decodeFrom index (byte (0xC0 + n / 0x40) :: byte (0x80 + n % 0x40) :: bytes) =
      (decodeFrom (index + 2) bytes).map (consNumber n) := by
  have lead := toNat_byte (show 0xC0 + n / 0x40 < 256 by omega)
  have follows : mayFollow (byte (0xC0 + n / 0x40)) (byte (0x80 + n % 0x40)) = true := by
    rw [mayFollow, isContinuation_byte (by omega), lead, if_neg (by omega), if_neg (by omega),
      if_neg (by omega), if_neg (by omega)]
    rfl
  have number : (0xC0 + n / 0x40) % 0x20 * 0x40 + n % 0x40 = n := by omega
  rw [decodeFrom.eq_def]
  simp only [lead, follows, low_byte (show n % 0x40 < 0x40 by omega), number]
  rw [if_neg (by omega), if_neg (by omega), if_neg (by simp), if_pos (by omega)]

theorem decodeFrom_three {n : Nat} (least : 0x800 ≤ n) (bound : n < 0x10000)
    (scalar : n < 0xD800 ∨ 0xDFFF < n) (index : Nat) (bytes : Bytes) :
    decodeFrom index (byte (0xE0 + n / 0x1000) :: byte (0x80 + n / 0x40 % 0x40) ::
        byte (0x80 + n % 0x40) :: bytes) =
      (decodeFrom (index + 3) bytes).map (consNumber n) := by
  have lead := toNat_byte (show 0xE0 + n / 0x1000 < 256 by omega)
  have second := toNat_byte (show 0x80 + n / 0x40 % 0x40 < 256 by omega)
  -- The lead 0xE0 refuses forms that are too long, and 0xED refuses surrogates.
  have follows :
      mayFollow (byte (0xE0 + n / 0x1000)) (byte (0x80 + n / 0x40 % 0x40)) = true := by
    rw [mayFollow, isContinuation_byte (by omega), lead, second, Bool.true_and]
    split
    · simp only [decide_eq_true_eq]
      omega
    · split
      · simp only [decide_eq_true_eq]
        omega
      · rw [if_neg (by omega), if_neg (by omega)]
  have third := isContinuation_byte (show n % 0x40 < 0x40 by omega)
  have number : (0xE0 + n / 0x1000) % 0x10 * 0x1000 + n / 0x40 % 0x40 * 0x40 + n % 0x40 = n := by
    omega
  rw [decodeFrom.eq_def]
  simp only [lead, follows, third, low_byte (show n % 0x40 < 0x40 by omega),
    low_byte (show n / 0x40 % 0x40 < 0x40 by omega), number]
  rw [if_neg (by omega), if_neg (by omega), if_neg (by simp), if_neg (by omega), if_neg (by simp),
    if_pos (by omega)]

theorem decodeFrom_four {n : Nat} (least : 0x10000 ≤ n) (bound : n < 0x110000) (index : Nat)
    (bytes : Bytes) :
    decodeFrom index (byte (0xF0 + n / 0x40000) :: byte (0x80 + n / 0x1000 % 0x40) ::
        byte (0x80 + n / 0x40 % 0x40) :: byte (0x80 + n % 0x40) :: bytes) =
      (decodeFrom (index + 4) bytes).map (consNumber n) := by
  have lead := toNat_byte (show 0xF0 + n / 0x40000 < 256 by omega)
  have second := toNat_byte (show 0x80 + n / 0x1000 % 0x40 < 256 by omega)
  have follows :
      mayFollow (byte (0xF0 + n / 0x40000)) (byte (0x80 + n / 0x1000 % 0x40)) = true := by
    rw [mayFollow, isContinuation_byte (by omega), lead, second, Bool.true_and,
      if_neg (by omega), if_neg (by omega)]
    split
    · simp only [decide_eq_true_eq]
      omega
    · split
      · simp only [decide_eq_true_eq]
        omega
      · rfl
  have third := isContinuation_byte (show n / 0x40 % 0x40 < 0x40 by omega)
  have fourth := isContinuation_byte (show n % 0x40 < 0x40 by omega)
  have number : (0xF0 + n / 0x40000) % 8 * 0x40000 + n / 0x1000 % 0x40 * 0x1000 +
      n / 0x40 % 0x40 * 0x40 + n % 0x40 = n := by
    omega
  rw [decodeFrom.eq_def]
  simp only [lead, follows, third, fourth, low_byte (show n % 0x40 < 0x40 by omega),
    low_byte (show n / 0x40 % 0x40 < 0x40 by omega),
    low_byte (show n / 0x1000 % 0x40 < 0x40 by omega), number]
  rw [if_neg (by omega), if_neg (by omega), if_neg (by simp), if_neg (by omega), if_neg (by simp),
    if_neg (by omega), if_neg (by simp)]

theorem decodeFrom_encodeScalar {c : CodePoint} (scalar : c.isSurrogate = false) (index : Nat)
    (bytes : Bytes) :
    ∃ next, decodeFrom index (encodeScalar c ++ bytes) = (decodeFrom next bytes).map (c :: ·) := by
  have number : consNumber c.toNat = (c :: ·) := by
    funext text
    exact consNumber_toNat c text
  have bound := c.isLt
  have outside : c.toNat < 0xD800 ∨ 0xDFFF < c.toNat := by
    simp only [CodePoint.isSurrogate, Bool.and_eq_false_iff, decide_eq_false_iff_not] at scalar
    omega
  simp only [encodeScalar]
  split
  · rename_i one
    exact ⟨index + 1, number ▸ decodeFrom_one one index bytes⟩
  · split
    · rename_i least two
      exact ⟨index + 2, number ▸ decodeFrom_two (by omega) two index bytes⟩
    · split
      · rename_i least three
        exact ⟨index + 3, number ▸ decodeFrom_three (by omega) three outside index bytes⟩
      · exact ⟨index + 4, number ▸ decodeFrom_four (by omega) bound index bytes⟩

theorem decodeFrom_of_encodeFrom {text : Text} {bytes : Bytes} {index : Nat}
    (encoded : encodeFrom index text = .ok bytes) (start : Nat) :
    decodeFrom start bytes = .ok text := by
  induction text generalizing bytes index start with
  | nil =>
      simp only [encodeFrom, Except.ok.injEq] at encoded
      subst encoded
      rfl
  | cons c text ih =>
      simp only [encodeFrom] at encoded
      split at encoded
      · simp at encoded
      · rename_i scalar
        cases inner : encodeFrom (index + 1) text with
        | error e =>
            rw [inner] at encoded
            simp [Except.map] at encoded
        | ok rest =>
            rw [inner] at encoded
            simp only [Except.map, Except.ok.injEq] at encoded
            subst encoded
            rw [Bool.not_eq_true] at scalar
            obtain ⟨next, step⟩ := decodeFrom_encodeScalar scalar start rest
            rw [step, ih inner next]
            rfl

theorem decode_of_encode {text : Text} {bytes : Bytes} (encoded : encode text = .ok bytes) :
    decode bytes = .ok text := decodeFrom_of_encodeFrom encoded 0

end ViewNaming.Utf8
