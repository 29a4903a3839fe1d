import ViewNaming.Text.Basic
import ViewNaming.Text.Word

/-! The statement that names a component, and naming calls in a script. A script that
holds the marker as a whole word is taken to name its component already. The call that
is replaced is found by its outline alone: the marker, an opening parenthesis, a pair of
braces without a closing brace between them, and a closing parenthesis. -/
namespace ViewNaming.Component

def marker : Text := Text.ofString "defineOptions"

def escapeCodePoint (c : CodePoint) : Text :=
  if c = '\\' || c = '"' then [CodePoint.ofChar '\\', c] else [c]

/-- A name as it is written between double quotes. Backslashes and double
quotes get a backslash, and all else stands for itself. -/
def escape (name : Text) : Text := name.flatMap escapeCodePoint

@[simp] theorem escape_nil : escape [] = [] := rfl

@[simp] theorem escape_append (front back : Text) :
    escape (front ++ back) = escape front ++ escape back := by
  simp [escape]

def statement (name : Text) : Text :=
  marker ++ Text.ofString "(\x7b name: \"" ++ escape name ++ Text.ofString "\" \x7d);"

def markerEndsHere (text : Text) : Bool :=
  match Text.after? marker text with
  | none => false
  | some rest => !rest.head?.any CodePoint.isWord

/-- Whether the marker stands in the text as a word, the text being preceded by
`previous`. -/
def hasMarkerAfter (previous : Option CodePoint) : Text → Bool
  | [] => false
  | c :: text =>
      (!previous.any CodePoint.isWord && markerEndsHere (c :: text)) || hasMarkerAfter (some c) text

def hasMarker (content : Text) : Bool := hasMarkerAfter none content

def dropBlank (text : Text) : Text := text.dropWhile CodePoint.isBlank

/-- Spaces and tabs, and then a semicolon if it comes next. -/
def dropEnding (text : Text) : Text :=
  let rest := text.dropWhile fun (c : CodePoint) => c = ' ' || c = '\t'
  (Text.after? (Text.ofString ";") rest).getD rest

def afterCall? (text : Text) : Option Text := do
  let rest ← Text.after? marker text
  let rest ← Text.after? (Text.ofString "(") (dropBlank rest)
  let rest ← Text.after? (Text.ofString "\x7b") (dropBlank rest)
  let (_, rest) ← Text.breakOn? (Text.ofString "\x7d") rest
  let rest ← Text.after? (Text.ofString ")") (dropBlank rest)
  return dropEnding rest

def findCall? : Text → Option (Text × Text)
  | [] => none
  | c :: text =>
      match afterCall? (c :: text) with
      | some rest => some ([], rest)
      | none => (findCall? text).map fun cut => (c :: cut.1, cut.2)

def replaceCall (line content : Text) : Text :=
  match findCall? content with
  | none => content
  | some (front, rest) => front ++ line ++ rest

end ViewNaming.Component
