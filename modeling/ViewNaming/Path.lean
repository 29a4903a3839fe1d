import ViewNaming.Text.Basic

/-! Paths with forward slashes. Empty segments and single dots carry no meaning
and are dropped; double dots are kept until a path is resolved. Components below
the views directory can be left alone by the names of the segments on their way. -/
namespace ViewNaming

/-- Where a path starts. Exactly two leading slashes are kept apart from one. -/
inductive Anchor
  | relative
  | root
  | doubleRoot
deriving DecidableEq

structure Path where
  anchor : Anchor
  segments : List Text
deriving DecidableEq

namespace Path

def slash : Text := Text.ofString "/"

def dot : Text := Text.ofString "."

def doubleDot : Text := Text.ofString ".."

def isSlash (c : CodePoint) : Bool := c = '/'

def isSegment (piece : Text) : Bool := piece ≠ [] && piece ≠ dot

def anchorOf (text : Text) : Anchor :=
  match (text.takeWhile isSlash).length with
  | 0 => .relative
  | 2 => .doubleRoot
  | _ => .root

def ofText (text : Text) : Path :=
  ⟨anchorOf text, (text.pieces isSlash).filter isSegment⟩

def Anchor.toText : Anchor → Text
  | .relative => []
  | .root => slash
  | .doubleRoot => slash ++ slash

/-- The path as it is written. A path without anything in it is a single dot. -/
def toText (path : Path) : Text :=
  match path.anchor, path.segments with
  | .relative, [] => dot
  | anchor, segments => Anchor.toText anchor ++ Text.joinWith slash segments

/-- Goes on from one path with another. A path with an anchor starts anew. -/
def join (left right : Path) : Path :=
  match right.anchor with
  | .relative => ⟨left.anchor, left.segments ++ right.segments⟩
  | _ => right

theorem segments_join_of_relative {left right : Path} (relative : right.anchor = .relative) :
    (left.join right).segments = left.segments ++ right.segments := by
  simp [join, relative]

def climb (place : List Text) (segment : Text) : List Text :=
  if segment = doubleDot then place.dropLast else place ++ [segment]

/-- The path without double dots, seen from the place `base`. -/
def absolute (base : List Text) (path : Path) : Path :=
  match path.anchor with
  | .relative => ⟨.root, (base ++ path.segments).foldl climb []⟩
  | anchor => ⟨anchor, path.segments.foldl climb []⟩

def resolve (base : List Text) (path : Path) : Path :=
  { path.absolute base with anchor := .root }

def parent (path : Path) : Path := { path with segments := path.segments.dropLast }

def componentEnding : Text := Text.ofString ".vue"

def withEnding (relativePath : Text) : Text :=
  if Text.endsWith componentEnding relativePath then relativePath
  else relativePath ++ componentEnding

def component (views : Path) (relativePath : Text) : Path :=
  views.join (ofText (withEnding relativePath))

end Path

def isSeparator (c : CodePoint) : Bool := c = '/' || c = '\\'

def isExcluded (relativePath : Text) (excluded : List Text) : Bool :=
  let segments := relativePath.pieces isSeparator
  excluded.any fun name => segments.contains name

def listedNames (value : Text) : List Text :=
  ((value.pieces fun c => c = ',').map Text.strip).filter fun name => !name.isEmpty

def excludedNames (values : List Text) : List Text := values.flatMap listedNames

theorem excludedNames_append (front back : List Text) :
    excludedNames (front ++ back) = excludedNames front ++ excludedNames back := by
  simp [excludedNames]

end ViewNaming
