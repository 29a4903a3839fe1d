import ViewNaming.Text.Basic
import ViewNaming.Text.Printable

/-! Texts quoted inside messages. The quote is single unless the text holds
single quotes and no double ones. What cannot be printed is written as a
hexadecimal escape of two, four or eight digits. -/
namespace ViewNaming

/-- The lowest `width` hexadecimal digits of a number, most significant first. -/
def hexDigits : (width n : Nat) → Text
  | 0, _ => []
  | width + 1, n =>
      hexDigits width (n / 16) ++ [CodePoint.ofChar (Nat.digitChar (n % 16))]

namespace CodePoint

def escape (c : CodePoint) : Text :=
  if c.toNat ≤ 0xFF then Text.ofString "\\x" ++ hexDigits 2 c.toNat
  else if c.toNat ≤ 0xFFFF then Text.ofString "\\u" ++ hexDigits 4 c.toNat
  else Text.ofString "\\U" ++ hexDigits 8 c.toNat

def quotedIn (quote : CodePoint) (c : CodePoint) : Text :=
  if c = quote ∨ c = '\\' then [CodePoint.ofChar '\\', c]
  else if c = '\t' then Text.ofString "\\t"
  else if c = '\n' then Text.ofString "\\n"
  else if c = '\r' then Text.ofString "\\r"
  else if c.isPrintable then [c]
  else c.escape

end CodePoint

namespace Text

def quote (text : Text) : CodePoint :=
  if text.contains (CodePoint.ofChar '\'') && !text.contains (CodePoint.ofChar '"') then
    CodePoint.ofChar '"'
  else CodePoint.ofChar '\''

def quoted (text : Text) : Text :=
  text.quote :: text.flatMap (CodePoint.quotedIn text.quote) ++ [text.quote]

end Text

end ViewNaming
