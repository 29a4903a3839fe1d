import ViewNaming.Text.Basic

/-! Lexemes of scripts. A scan looks at the front of a text and cuts off the
lexeme that stands there, or finds none. Layout and comments between lexemes
are scanned here too. -/
namespace ViewNaming

abbrev Scan := Text → Option (Text × Text)

namespace Scan

/-- Blank space between lexemes. Besides every Unicode space it takes in the
zero width space, the word joiner and the byte order mark. -/
def isLayout (c : CodePoint) : Bool :=
  let n := c.toNat
  (0x09 ≤ n && n ≤ 0x0D) || n == 0x20 || n == 0x85 || n == 0xA0 || n == 0x1680 ||
    (0x2000 ≤ n && n ≤ 0x200B) || n == 0x2028 || n == 0x2029 || n == 0x202F ||
    n == 0x205F || n == 0x2060 || n == 0x3000 || n == 0xFEFF

def run (holds : CodePoint → Bool) : Scan := fun text =>
  match text.takeWhile holds with
  | [] => none
  | found => some (found, text.dropWhile holds)

def exactly (spelling : Text) : Scan := fun text =>
  (Text.after? spelling text).map fun rest => (spelling, rest)

def followedBy (first second : Scan) : Scan := fun text =>
  match first text with
  | none => none
  | some (front, rest) => (second rest).map fun found => (front ++ found.1, found.2)

def orElse (first second : Scan) : Scan := fun text =>
  match first text with
  | some found => some found
  | none => second text

def optional (scan : Scan) : Scan := fun text => some ((scan text).getD ([], text))

def one (holds : CodePoint → Bool) : Scan
  | [] => none
  | c :: text => if holds c then some ([c], text) else none

def times (holds : CodePoint → Bool) : Nat → Scan
  | 0 => fun text => some ([], text)
  | n + 1 => followedBy (one holds) (times holds n)

/-- Repeats a scan while it finds something, as one lexeme. Every round but the
last takes at least one code point, so the text itself bounds the rounds. -/
def repeatedWithin (scan : Scan) : (bound : Text) → Scan
  | [] => fun text => some ([], text)
  | _ :: bound => fun text =>
      match scan text with
      | none => some ([], text)
      | some ([], _) => some ([], text)
      | some (front, rest) =>
          (repeatedWithin scan bound rest).map fun found => (front ++ found.1, found.2)

def repeated (scan : Scan) : Scan := fun text => repeatedWithin scan text text

def endsLine (c : CodePoint) : Bool :=
  c.toNat == 0x0A || c.toNat == 0x0D || c.toNat == 0x2028 || c.toNat == 0x2029

def lineComment : Scan :=
  followedBy (exactly "//") (optional (run fun c => !endsLine c))

def blockComment : Scan := fun text =>
  match Text.after? "/*" text with
  | none => none
  | some rest =>
      (Text.breakOn? "*/" rest).map fun parts =>
        (Text.ofString "/*" ++ parts.1 ++ Text.ofString "*/", parts.2)

def comment : Scan := orElse lineComment blockComment

/-- A comment of markup that surrounds the script: either of its ends, and the
rest of the line. -/
def htmlComment : Scan :=
  followedBy (orElse (exactly "<!--") (exactly "-->"))
    (optional (run fun c => c ≠ '\n' && c.toNat ≠ 0x2028 && c.toNat ≠ 0x2029))

def hashBang : Scan :=
  followedBy (exactly "#!") (optional (run fun c => !endsLine c))

def punctuation : Text := Text.ofString ":;`\"'@#.,|^&<=>+-*/\\%?!~()[]\x7b\x7d"

def isNamePart (c : CodePoint) : Bool :=
  0x20 < c.toNat && !isLayout c && !punctuation.contains c

def isNameStart (c : CodePoint) : Bool := isNamePart c && !c.isDigit

def nameEscape : Scan :=
  followedBy (exactly "\\u")
    (orElse (times CodePoint.isHexDigit 4)
      (followedBy (exactly "\x7b") (followedBy (run CodePoint.isHexDigit) (exactly "\x7d"))))

def name : Scan :=
  followedBy (orElse (one isNameStart) nameEscape)
    (repeated (orElse (run isNamePart) nameEscape))

def privateName : Scan := followedBy (exactly "#") name

def continuesName : Text → Bool
  | [] => false
  | c :: _ => isNamePart c || c = '\\'

def word (spelling : Text) : Scan := fun text =>
  (exactly spelling text).filter fun found => !continuesName found.2

def nameExcept (reserved : List Text) : Scan := fun text =>
  (name text).filter fun found => !reserved.contains found.1

def underscored (holds : CodePoint → Bool) : Scan :=
  followedBy (run holds) (repeated (followedBy (exactly "_") (run holds)))

def prefixed (mark : Char) (holds : CodePoint → Bool) : Scan :=
  followedBy (exactly "0")
    (followedBy (orElse (one fun c => c = mark) (one fun c => c = mark.toUpper))
      (followedBy (underscored holds) (optional (exactly "n"))))

def exponent : Scan :=
  followedBy (orElse (exactly "e") (exactly "E"))
    (followedBy (optional (orElse (exactly "+") (exactly "-"))) (underscored CodePoint.isDigit))

def decimal : Scan :=
  orElse
    (followedBy (underscored CodePoint.isDigit)
      (orElse (exactly "n")
        (followedBy
          (optional (followedBy (exactly ".") (optional (underscored CodePoint.isDigit))))
          (optional exponent))))
    (followedBy (exactly ".") (followedBy (underscored CodePoint.isDigit) (optional exponent)))

def number : Scan :=
  orElse (prefixed 'x' CodePoint.isHexDigit)
    (orElse (prefixed 'o' CodePoint.isOctalDigit)
      (orElse (prefixed 'b' fun c => c = '0' || c = '1') decimal))

/-- An escape of a quoted text. A backslash takes the longest form that fits:
a line break of two code points, octal digits, a hexadecimal form, or any one
code point that starts none of these. -/
def escapeBody : Scan :=
  orElse
    (followedBy (one fun c => c = '\r' || c = '?')
      (one fun c => c = '\n' || c.toNat == 0x2028 || c.toNat == 0x2029))
    (orElse
      (followedBy (one CodePoint.isOctalDigit)
        (optional (followedBy (one CodePoint.isOctalDigit)
          (optional (one CodePoint.isOctalDigit)))))
      (orElse (followedBy (exactly "x") (times CodePoint.isHexDigit 2))
        (orElse (followedBy (exactly "u") (times CodePoint.isHexDigit 4))
          (orElse
            (followedBy (exactly "u\x7b") (followedBy (run CodePoint.isHexDigit) (exactly "\x7d")))
            (one fun c => c ≠ 'x' && c ≠ 'u')))))

def escape : Scan := followedBy (exactly "\\") escapeBody

def fragment (quote : Char) : Scan :=
  run fun c => c ≠ quote && c ≠ '\\' && c ≠ '\r' && c ≠ '\n'

def loneDollar : Scan
  | [] => none
  | c :: rest => if c = '$' && !Text.beginsWith "\x7b" rest then some ([c], rest) else none

def templatePart : Scan :=
  orElse (run fun c => c.toNat ≠ 0x60 && c ≠ '\\' && c ≠ '$') loneDollar

def templateFragment : Scan :=
  followedBy templatePart (repeated templatePart)

def classMember : Scan :=
  orElse (followedBy (exactly "\\") (one fun c => c ≠ '\n'))
    (one fun c => c ≠ ']' && c ≠ '\n' && c ≠ '\\')

def patternPart : Scan :=
  orElse
    (followedBy (exactly "[") (followedBy (repeated classMember) (exactly "]")))
    (orElse (followedBy (exactly "\\") (one fun c => c ≠ '\n'))
      (one fun c => c ≠ '/' && c ≠ '\\' && c ≠ '[' && c ≠ '\n'))

def pattern : Scan := followedBy patternPart (repeated patternPart)

def patternFlags : Scan := run fun c => 0x61 ≤ c.toNat && c.toNat ≤ 0x7A

/-- Any lexeme at all. This is what is passed over where nothing fits. -/
def any : Scan := orElse name (orElse number (one fun _ => true))

end Scan

end ViewNaming
