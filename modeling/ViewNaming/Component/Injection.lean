import ViewNaming.Text.Utf8
import ViewNaming.TypeScript.Parse

/-! Where a new statement goes in a script: behind the last import of the
module and the line break that follows it, or in front of everything. The
statements of a module are placed by bytes of the encoded script, and the script
is cut by code points. -/
namespace ViewNaming.Component

open TypeScript (Parser)

def lineFeed : Text := Text.ofString "\n"

def carriageReturnLineFeed : Text := Text.ofString "\r\n"

structure Extent where
  kind : Kind
  start : Nat
  stop : Nat
deriving DecidableEq

namespace Extent

def isImport (statement : Extent) : Bool := statement.kind = .phrase .importStatement

def ofNode (content : Text) (node : Node) : Extent :=
  ⟨node.kind, Utf8.width (content.take node.start), Utf8.width (content.take node.stop)⟩

end Extent

def statementsOf [Parser] (content : Text) : List Extent :=
  (Parser.parse content).root.children.map (Extent.ofNode content)

def lastImport? (statements : List Extent) : Option Extent :=
  (statements.filter Extent.isImport).getLast?

/-- The offset of a place that is given in bytes: the number of code points that
the bytes in front of it spell. Scripts have an encoded form, and no place lies
inside a code point. -/
def offsetOfByte (content : Text) (place : Nat) : Nat :=
  match Utf8.encode content with
  | .error _ => 0
  | .ok bytes =>
      match Utf8.decode (bytes.take place) with
      | .error _ => 0
      | .ok front => front.length

/-- The offset behind a line break that stands at `offset`, or `offset` itself. -/
def passLineBreak (content : Text) (offset : Nat) : Nat :=
  let rest := content.drop offset
  if Text.beginsWith carriageReturnLineFeed rest then offset + 2
  else if Text.beginsWith lineFeed rest then offset + 1
  else offset

def insertOffsetIn (statements : List Extent) (content : Text) : Nat :=
  match lastImport? statements with
  | none => 0
  | some last => passLineBreak content (offsetOfByte content last.stop)

def insertOffset [Parser] (content : Text) : Nat := insertOffsetIn (statementsOf content) content

/-- Puts a line into a script at an offset. The line gets the same kind of line
break as the line in front of it, and that line one of its own if it has none. -/
def insertAt (offset : Nat) (line content : Text) : Text :=
  if offset = 0 then line ++ lineFeed ++ content
  else
    let head := content.take offset
    let lineBreak :=
      if Text.endsWith carriageReturnLineFeed head then carriageReturnLineFeed else lineFeed
    let separator := if Text.endsWith lineFeed head then [] else lineBreak
    head ++ separator ++ line ++ lineBreak ++ content.drop offset

end ViewNaming.Component
