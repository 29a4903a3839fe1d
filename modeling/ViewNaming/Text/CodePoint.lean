/-! Code points of Unicode, surrogates included. A string literal of a script
may spell half of a surrogate pair, and that half is kept as one code point of
its own, so neither `Char` nor `String` can hold every text met here. -/
namespace ViewNaming

/-- A number below 0x110000. Unlike `Char` it may lie in the surrogate range. -/
structure CodePoint where
  toNat : Nat
  isLt : toNat < 0x110000
deriving DecidableEq

namespace CodePoint

theorem toNat_char_lt (c : Char) : c.toNat < 0x110000 := by
  rcases c.valid with low | high
  · exact Nat.lt_of_lt_of_le low (by decide)
  · exact high.2

def ofChar (c : Char) : CodePoint := ⟨c.toNat, toNat_char_lt c⟩

instance : Coe Char CodePoint := ⟨ofChar⟩

@[simp] theorem toNat_ofChar (c : Char) : (ofChar c).toNat = c.toNat := rfl

def ofNat? (n : Nat) : Option CodePoint :=
  if bound : n < 0x110000 then some ⟨n, bound⟩ else none

@[simp] theorem ofNat?_toNat (c : CodePoint) : ofNat? c.toNat = some c := by
  simp [ofNat?, c.isLt]

def isSurrogate (c : CodePoint) : Bool :=
  0xD800 ≤ c.toNat && c.toNat ≤ 0xDFFF

theorem isSurrogate_ofChar (c : Char) : (ofChar c).isSurrogate = false := by
  have scalar : c.toNat < 0xD800 ∨ 0xDFFF < c.toNat := by
    rcases c.valid with low | high
    · exact Or.inl low
    · exact Or.inr high.1
  change (decide (0xD800 ≤ c.toNat) && decide (c.toNat ≤ 0xDFFF)) = false
  simp
  omega

def toChar? (c : CodePoint) : Option Char :=
  if c.isSurrogate then none else some (Char.ofNat c.toNat)

def isDigit (c : CodePoint) : Bool :=
  0x30 ≤ c.toNat && c.toNat ≤ 0x39

def hexValue? (c : CodePoint) : Option Nat :=
  if 0x30 ≤ c.toNat ∧ c.toNat ≤ 0x39 then some (c.toNat - 0x30)
  else if 0x41 ≤ c.toNat ∧ c.toNat ≤ 0x46 then some (c.toNat - 0x37)
  else if 0x61 ≤ c.toNat ∧ c.toNat ≤ 0x66 then some (c.toNat - 0x57)
  else none

def isHexDigit (c : CodePoint) : Bool :=
  c.hexValue?.isSome

def isOctalDigit (c : CodePoint) : Bool :=
  0x30 ≤ c.toNat && c.toNat ≤ 0x37

end CodePoint

/-- Whether a number lies in one of the ranges of a table, which lists the first and the last
number of each. -/
def Ranges.has (table : List (Nat × Nat)) (n : Nat) : Bool :=
  table.any fun range => range.1 ≤ n && n ≤ range.2

end ViewNaming
