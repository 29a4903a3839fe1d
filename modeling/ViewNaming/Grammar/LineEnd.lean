import ViewNaming.Grammar.Scan

/-! Where a statement ends without a semicolon. It ends before a closing brace,
at the end of the source, and at a line break unless the next lexeme goes on
with it. Comments on the same line stay in front of the end. -/
namespace ViewNaming

/-- What was read last. After a type an opening bracket on the next line starts
a new statement; after an expression it goes on with the old one. -/
inductive Reading
  | expression
  | type
deriving DecidableEq

inductive LineEnd
  | ends
  | goesOn
  | comment
deriving DecidableEq

namespace LineEnd

/-- Blank space around line breaks. Spaces that forbid a break are left out. -/
def isSpace (c : CodePoint) : Bool :=
  let n := c.toNat
  (0x09 ≤ n && n ≤ 0x0D) || n == 0x20 || n == 0x1680 || (0x2000 ≤ n && n ≤ 0x2006) ||
    (0x2008 ≤ n && n ≤ 0x200A) || n == 0x2028 || n == 0x2029 || n == 0x205F || n == 0x3000

def skipLines : (bound text : Text) → Text
  | [], text => text
  | _ :: bound, text =>
      let text := text.dropWhile isSpace
      match Scan.comment text with
      | some (_, rest) => skipLines bound rest
      | none => text

def startsLetter : Text → Bool
  | [] => false
  | c :: _ => Scan.isNamePart c && !c.isDigit

def connecting : Text := Text.ofString "`,.;*%><=?^|&/:"

def newStatement (reading : Reading) (line : Text) : Bool :=
  match line with
  | [] => true
  | c :: rest =>
      if connecting.contains c then false
      else if c = '(' || c = '[' then reading = .type
      else if c = '+' then Text.beginsWith "+" rest
      else if c = '-' then Text.beginsWith "-" rest
      else if c = '!' then !Text.beginsWith "=" rest
      else
        match Text.after? "in" line with
        | none => true
        | some rest =>
            if !startsLetter rest then false
            else
              match Text.after? "stanceof" rest with
              | none => true
              | some rest => startsLetter rest

def find (reading : Reading) (text : Text) : LineEnd :=
  match text.dropWhile fun c => isSpace c && c ≠ '\n' with
  | [] => ends
  | c :: rest =>
      if c = '\n' then if newStatement reading (skipLines rest rest) then ends else goesOn
      else if c = '\x7d' then
        if Text.beginsWith ":" (rest.dropWhile isSpace) && reading = .type then goesOn else ends
      else if (Scan.comment (c :: rest)).isSome then comment
      else goesOn

end LineEnd

end ViewNaming
