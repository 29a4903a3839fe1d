import ViewNaming.Component.Call
import ViewNaming.Component.Injection

/-! Naming a component. Its script block is the first opening tag, the text up to
the closing tag and both tags. Only this block changes: its naming call is
replaced, or a statement is put in, and its content is trimmed. A component
without a script block gets one in front. -/
namespace ViewNaming.Component

def openingTag : Text := Text.ofString "<script"

def tagEnd : Text := Text.ofString ">"

def closingTag : Text := Text.ofString "</script>"

structure ScriptBlock where
  before : Text
  attributes : Text
  content : Text
  after : Text
deriving DecidableEq

namespace ScriptBlock

/-- The first script block of a text. Attributes go to the first tag end, and
the content to the first closing tag behind it. -/
def find? (text : Text) : Option ScriptBlock :=
  match Text.breakOn? openingTag text with
  | none => none
  | some (before, rest) =>
      match Text.breakOn? tagEnd rest with
      | none => none
      | some (attributes, rest) =>
          (Text.breakOn? closingTag rest).map fun cut => ⟨before, attributes, cut.1, cut.2⟩

def render (block : ScriptBlock) : Text :=
  openingTag ++ block.attributes ++ tagEnd ++ block.content ++ closingTag

def start (block : ScriptBlock) : Nat := block.before.length

def stop (block : ScriptBlock) : Nat := block.start + block.render.length

def toText (block : ScriptBlock) : Text := block.before ++ block.render ++ block.after

theorem toText_of_find? {text : Text} {block : ScriptBlock} (found : find? text = some block) :
    block.toText = text := by
  simp only [find?] at found
  split at found
  · simp at found
  · rename_i before rest opened
    split at found
    · simp at found
    · rename_i attributes inner tagged
      simp only [Option.map_eq_some_iff, Prod.exists] at found
      obtain ⟨content, after, closed, rfl⟩ := found
      rw [Text.breakOn?_append opened, Text.breakOn?_append tagged, Text.breakOn?_append closed]
      simp [toText, render]

end ScriptBlock

structure Patched where
  text : Text
  createdScript : Bool
deriving DecidableEq

def newScript (line : Text) : Text :=
  (ScriptBlock.mk [] (Text.ofString " setup") (lineFeed ++ line ++ lineFeed) []).render

/-- The content of a script with the naming line, the place of a new statement
being given by `offset`. -/
def nameContent (offset : Text → Nat) (line content : Text) : Text :=
  if hasMarker content then replaceCall line content
  else insertAt (offset content) line content

def patchWith (offset : Text → Nat) (text name : Text) : Patched :=
  match ScriptBlock.find? text with
  | none => ⟨newScript (statement name) ++ lineFeed ++ text, true⟩
  | some block =>
      let content := (nameContent offset (statement name) block.content).strip
      ⟨{ block with content := lineFeed ++ content ++ lineFeed }.toText, false⟩

def patch [TypeScript.Parser] (text name : Text) : Patched := patchWith insertOffset text name

def parsedScript? (text : Text) : Option Text :=
  ((ScriptBlock.find? text).map ScriptBlock.content).filter fun content => !hasMarker content

end ViewNaming.Component
