import ViewNaming.Text.Quoted

/-! The encoded form of texts on disk: one to four bytes for each code point,
the shortest form only, and none for surrogates. Decoding refuses whatever
encoding cannot produce, and says where and why. -/
namespace ViewNaming

abbrev Bytes := List UInt8

namespace Utf8

structure EncodeError where
  first : CodePoint
  start : Nat
  length : Nat
deriving DecidableEq

inductive DecodeReason
  | startByte
  | continuationByte
  | endOfData
deriving DecidableEq

structure DecodeError where
  first : UInt8
  start : Nat
  length : Nat
  reason : DecodeReason
deriving DecidableEq

def byte (n : Nat) : UInt8 := UInt8.ofNat n

def encodeScalar (c : CodePoint) : Bytes :=
  let n := c.toNat
  if n < 0x80 then [byte n]
  else if n < 0x800 then [byte (0xC0 + n / 0x40), byte (0x80 + n % 0x40)]
  else if n < 0x10000 then
    [byte (0xE0 + n / 0x1000), byte (0x80 + n / 0x40 % 0x40), byte (0x80 + n % 0x40)]
  else
    [byte (0xF0 + n / 0x40000), byte (0x80 + n / 0x1000 % 0x40),
      byte (0x80 + n / 0x40 % 0x40), byte (0x80 + n % 0x40)]

def width (text : Text) : Nat := (text.flatMap encodeScalar).length

def encodeFrom (index : Nat) : Text → Except EncodeError Bytes
  | [] => .ok []
  | c :: text =>
      if c.isSurrogate then
        .error ⟨c, index, 1 + (text.takeWhile CodePoint.isSurrogate).length⟩
      else (encodeFrom (index + 1) text).map (encodeScalar c ++ ·)

def encode (text : Text) : Except EncodeError Bytes := encodeFrom 0 text

def isContinuation (b : UInt8) : Bool := 0x80 ≤ b.toNat && b.toNat < 0xC0

def low (b : UInt8) : Nat := b.toNat % 0x40

/-- Whether `second` may follow `lead`: the forms that are too long, the
surrogates and the numbers above 0x10FFFF are refused here. -/
def mayFollow (lead second : UInt8) : Bool :=
  isContinuation second &&
    (if lead.toNat = 0xE0 then 0xA0 ≤ second.toNat
     else if lead.toNat = 0xED then second.toNat < 0xA0
     else if lead.toNat = 0xF0 then 0x90 ≤ second.toNat
     else if lead.toNat = 0xF4 then second.toNat < 0x90
     else true)

/-- Puts the code point of number `n` in front of a decoded text. The bytes
that were accepted always give a number below 0x110000. -/
def consNumber (n : Nat) (text : Text) : Text :=
  match CodePoint.ofNat? n with
  | some c => c :: text
  | none => text

def decodeFrom (index : Nat) : Bytes → Except DecodeError Text
  | [] => .ok []
  | lead :: bytes =>
      let n := lead.toNat
      if n < 0x80 then (decodeFrom (index + 1) bytes).map (consNumber n)
      else if n < 0xC2 ∨ 0xF4 < n then .error ⟨lead, index, 1, .startByte⟩
      else
        match bytes with
        | [] => .error ⟨lead, index, 1, .endOfData⟩
        | second :: bytes =>
            if !mayFollow lead second then .error ⟨lead, index, 1, .continuationByte⟩
            else if n < 0xE0 then
              (decodeFrom (index + 2) bytes).map (consNumber (n % 0x20 * 0x40 + low second))
            else
              match bytes with
              | [] => .error ⟨lead, index, 2, .endOfData⟩
              | third :: bytes =>
                  if !isContinuation third then .error ⟨lead, index, 2, .continuationByte⟩
                  else if n < 0xF0 then
                    (decodeFrom (index + 3) bytes).map
                      (consNumber (n % 0x10 * 0x1000 + low second * 0x40 + low third))
                  else
                    match bytes with
                    | [] => .error ⟨lead, index, 3, .endOfData⟩
                    | fourth :: bytes =>
                        if !isContinuation fourth then
                          .error ⟨lead, index, 3, .continuationByte⟩
                        else
                          (decodeFrom (index + 4) bytes).map
                            (consNumber (n % 8 * 0x40000 + low second * 0x1000
                              + low third * 0x40 + low fourth))

def decode (bytes : Bytes) : Except DecodeError Text := decodeFrom 0 bytes

def place (start length : Nat) : Text :=
  if length ≤ 1 then Text.ofNat start
  else Text.ofNat start ++ Text.ofString "-" ++ Text.ofNat (start + length - 1)

def DecodeReason.message : DecodeReason → String
  | .startByte => "invalid start byte"
  | .continuationByte => "invalid continuation byte"
  | .endOfData => "unexpected end of data"

def EncodeError.message (e : EncodeError) : Text :=
  let what : Text :=
    if e.length ≤ 1 then Text.ofString "character '" ++ e.first.escape ++ Text.ofString "'"
    else Text.ofString "characters"
  Text.ofString "'utf-8' codec can't encode " ++ what ++ Text.ofString " in position "
    ++ place e.start e.length ++ Text.ofString ": surrogates not allowed"

def DecodeError.message (e : DecodeError) : Text :=
  let what : Text :=
    if e.length ≤ 1 then Text.ofString "byte 0x" ++ hexDigits 2 e.first.toNat
    else Text.ofString "bytes"
  Text.ofString "'utf-8' codec can't decode " ++ what ++ Text.ofString " in position "
    ++ place e.start e.length ++ Text.ofString ": " ++ Text.ofString e.reason.message

end Utf8

end ViewNaming
