import ViewNaming.Component.Patch
import ViewNaming.Proofs.Component.Call

/-! What naming a component leaves alone. The script block is rebuilt with its old
attributes between the old surroundings, and it is found again as the first block
of the new text. This rests on closing tags: none appears in the rebuilt content
unless the name holds one. -/
namespace ViewNaming.Component

open TypeScript (Parser)

open Text (AllBlank Solid)

namespace ScriptBlock

/-- A block that is the first one of its text: no opening tag in front of it, no
tag end in its attributes and no closing tag in its content. -/
structure Exact (block : ScriptBlock) : Prop where
  before : ¬ openingTag <:+: block.before
  attributes : CodePoint.ofChar '>' ∉ block.attributes
  content : ¬ closingTag <:+: block.content

theorem exact_of_find? {text : Text} {block : ScriptBlock} (found : find? text = some block) :
    block.Exact := by
  simp only [find?] at found
  split at found
  · simp at found
  · rename_i before rest opened
    split at found
    · simp at found
    · rename_i attributes inner tagged
      simp only [Option.map_eq_some_iff, Prod.exists] at found
      obtain ⟨content, after, closed, rfl⟩ := found
      exact ⟨Text.not_infix_of_breakOn? (by decide) opened, Text.not_mem_of_breakOn? tagged,
        Text.not_infix_of_breakOn? (by decide) closed⟩

theorem find?_toText {block : ScriptBlock} (exact : block.Exact) :
    find? block.toText = some block := by
  have opened : ∀ rest, Text.breakOn? openingTag (block.before ++ openingTag ++ rest) =
      some (block.before, rest) := fun rest => Text.breakOn?_of_not_infix (by decide) exact.before
  have tagged : ∀ rest, Text.breakOn? tagEnd (block.attributes ++ tagEnd ++ rest) =
      some (block.attributes, rest) := by
    intro rest
    rw [List.append_assoc]
    exact Text.breakOn?_singleton exact.attributes
  have closed : Text.breakOn? closingTag (block.content ++ closingTag ++ block.after) =
      some (block.content, block.after) := Text.breakOn?_of_not_infix (by decide) exact.content
  have layout : block.toText = block.before ++ openingTag ++ (block.attributes ++ tagEnd ++
      (block.content ++ closingTag ++ block.after)) := by
    simp [toText, render]
  rw [layout, find?, opened]
  simp only [tagged, closed, Option.map_some]

theorem take_start (block : ScriptBlock) : block.toText.take block.start = block.before := by
  rw [toText, List.append_assoc]
  exact List.take_left

theorem drop_stop (block : ScriptBlock) : block.toText.drop block.stop = block.after := by
  have length : (block.before ++ block.render).length = block.stop := List.length_append
  rw [toText, ← length]
  exact List.drop_left

end ScriptBlock

def wrapped (content : Text) : Text := lineFeed ++ content.strip ++ lineFeed

theorem lineFeed_blank : AllBlank lineFeed := by
  unfold AllBlank
  decide

theorem carriageReturnLineFeed_blank : AllBlank carriageReturnLineFeed := by
  unfold AllBlank
  decide

theorem infix_wrapped_iff {part content : Text} (solid : Solid part) :
    part <:+: wrapped content ↔ part <:+: content := by
  constructor
  · intro occurs
    have stripped := Text.infix_of_blank_sides lineFeed_blank lineFeed_blank solid occurs
    exact (Text.infix_strip_iff solid).1 stripped
  · intro occurs
    have stripped := (Text.infix_strip_iff solid).2 occurs
    exact stripped.trans ⟨lineFeed, lineFeed, rfl⟩

theorem patchWith_of_find? {offset : Text → Nat} {text : Text} {block : ScriptBlock}
    (found : ScriptBlock.find? text = some block) (name : Text) :
    patchWith offset text name =
      ⟨{ block with
          content := wrapped (nameContent offset (statement name) block.content) }.toText,
        false⟩ := by
  simp only [patchWith, found, wrapped]

theorem patchWith_of_none {offset : Text → Nat} {text : Text}
    (missing : ScriptBlock.find? text = none) (name : Text) :
    patchWith offset text name =
      ⟨(ScriptBlock.mk [] (Text.ofString " setup") (wrapped (statement name))
        (lineFeed ++ text)).toText, true⟩ := by
  simp [patchWith, missing, wrapped, newScript, ScriptBlock.toText, ScriptBlock.render,
    Text.strip_of_solid (solid_statement name)]

theorem exists_insertAt (offset : Nat) (content : Text) :
    ∃ head gap lineBreak tail, content = head ++ tail ∧ AllBlank gap ∧ AllBlank lineBreak ∧
      (head ++ gap = [] ∨ ∃ front, head ++ gap = front ++ lineFeed) ∧
      ∀ line, insertAt offset line content = head ++ gap ++ line ++ (lineBreak ++ tail) := by
  by_cases start : offset = 0
  · refine ⟨[], [], lineFeed, content, rfl, by simp [AllBlank], lineFeed_blank, Or.inl rfl, ?_⟩
    intro line
    simp [insertAt, start]
  · let head := content.take offset
    let lineBreak :=
      if Text.endsWith carriageReturnLineFeed head then carriageReturnLineFeed else lineFeed
    let gap := if Text.endsWith lineFeed head then [] else lineBreak
    have breakBlank : AllBlank lineBreak := by
      dsimp only [lineBreak]
      split
      · exact carriageReturnLineFeed_blank
      · exact lineFeed_blank
    have gapBlank : AllBlank gap := by
      dsimp only [gap]
      split
      · simp [AllBlank]
      · exact breakBlank
    have ends : ∃ front, head ++ gap = front ++ lineFeed := by
      dsimp only [gap]
      split
      · rename_i ended
        obtain ⟨front, equal⟩ := Text.endsWith_iff.1 ended
        exact ⟨front, by rw [List.append_nil, equal]⟩
      · dsimp only [lineBreak]
        split
        · exact ⟨head ++ [CodePoint.ofChar '\r'], by rw [List.append_assoc]; rfl⟩
        · exact ⟨head, rfl⟩
    refine ⟨head, gap, lineBreak, content.drop offset, ?_, gapBlank, breakBlank, Or.inr ends, ?_⟩
    · exact (List.take_append_drop offset content).symm
    · intro line
      simp only [insertAt, start, if_false, head, gap, lineBreak, List.append_assoc]

theorem solid_closingTag : Solid closingTag :=
  ⟨⟨CodePoint.ofChar '<', _, rfl, by decide⟩, ⟨Text.ofString "</script", _, rfl, by decide⟩⟩

theorem closingTag_wrapped {content : Text} (absent : ¬ closingTag <:+: content) :
    ¬ closingTag <:+: wrapped content := by
  rwa [infix_wrapped_iff solid_closingTag]

theorem closingTag_replaceCall {name content : Text} (inName : ¬ closingTag <:+: name)
    (inContent : ¬ closingTag <:+: content) :
    ¬ closingTag <:+: replaceCall (statement name) content := by
  rw [replaceCall]
  split
  · exact inContent
  · rename_i front rest found
    obtain ⟨call, ending, -, rfl⟩ := exists_of_findCall? found
    intro occurs
    rcases closingTag_around_statement occurs with inFront | inName' | inRest
    · exact inContent (List.infix_append_of_infix_left (List.infix_append_of_infix_left inFront))
    · exact inName inName'
    · exact inContent (List.infix_append_of_infix_right inRest)

theorem closingTag_insertAt {name content : Text} (offset : Nat)
    (inName : ¬ closingTag <:+: name) (inContent : ¬ closingTag <:+: content) :
    ¬ closingTag <:+: insertAt offset (statement name) content := by
  obtain ⟨head, gap, lineBreak, tail, rfl, gapBlank, breakBlank, -, shape⟩ :=
    exists_insertAt offset content
  rw [shape]
  have noBlank : AllBlank [] := by simp [AllBlank]
  intro occurs
  rcases closingTag_around_statement occurs with inHead | inName' | inTail
  · have within := Text.infix_of_blank_sides noBlank gapBlank solid_closingTag inHead
    exact inContent (List.infix_append_of_infix_left within)
  · exact inName inName'
  · rw [← List.append_nil (lineBreak ++ tail)] at inTail
    have within := Text.infix_of_blank_sides breakBlank noBlank solid_closingTag inTail
    exact inContent (List.infix_append_of_infix_right within)

theorem closingTag_nameContent {name content : Text} (offset : Text → Nat)
    (inName : ¬ closingTag <:+: name) (inContent : ¬ closingTag <:+: content) :
    ¬ closingTag <:+: nameContent offset (statement name) content := by
  rw [nameContent]
  split
  · exact closingTag_replaceCall inName inContent
  · exact closingTag_insertAt _ inName inContent

theorem find?_patchWith_of_find? (offset : Text → Nat) {text name : Text} {block : ScriptBlock}
    (found : ScriptBlock.find? text = some block) (inName : ¬ closingTag <:+: name) :
    ScriptBlock.find? (patchWith offset text name).text =
      some { block with
        content := wrapped (nameContent offset (statement name) block.content) } := by
  have exact := ScriptBlock.exact_of_find? found
  rw [patchWith_of_find? found]
  exact ScriptBlock.find?_toText ⟨exact.before, exact.attributes,
    closingTag_wrapped (closingTag_nameContent offset inName exact.content)⟩

theorem find?_patchWith_of_none (offset : Text → Nat) {text name : Text}
    (missing : ScriptBlock.find? text = none) (inName : ¬ closingTag <:+: name) :
    ScriptBlock.find? (patchWith offset text name).text =
      some ⟨[], Text.ofString " setup", wrapped (statement name), lineFeed ++ text⟩ := by
  have inStatement : ¬ closingTag <:+: statement name := by
    intro occurs
    have around := closingTag_around_statement (show closingTag <:+: [] ++ statement name ++ [] by
      simpa using occurs)
    rcases around with inFront | inName' | inRest
    · exact absurd inFront (by decide)
    · exact inName inName'
    · exact absurd inRest (by decide)
  have before : ¬ openingTag <:+: [] := by decide
  have attributes : CodePoint.ofChar '>' ∉ Text.ofString " setup" := by decide
  rw [patchWith_of_none missing]
  exact ScriptBlock.find?_toText ⟨before, attributes, closingTag_wrapped inStatement⟩

/-- Naming a component changes its first script block only. The new text has a
block at the same place with the same attributes, and all in front of it and
behind it is kept. A text without a block is kept whole behind a new one. -/
theorem patch_keeps_surroundings [Parser] (text name : Text) (inName : ¬ closingTag <:+: name) :
    (∀ block, ScriptBlock.find? text = some block →
      ∃ block', ScriptBlock.find? (patch text name).text = some block' ∧
        block'.start = block.start ∧ block'.attributes = block.attributes ∧
        (patch text name).text.take block'.start = text.take block.start ∧
        (patch text name).text.drop block'.stop = text.drop block.stop ∧
        (patch text name).createdScript = false) ∧
    (ScriptBlock.find? text = none →
      text <:+ (patch text name).text ∧
      (∃ block', ScriptBlock.find? (patch text name).text = some block' ∧
        block'.start = 0 ∧ block'.attributes = Text.ofString " setup" ∧
        block'.content = lineFeed ++ statement name ++ lineFeed ∧
        (patch text name).text.drop block'.stop = lineFeed ++ text) ∧
      (patch text name).createdScript = true) := by
  constructor
  · intro block found
    have whole := ScriptBlock.toText_of_find? found
    have again := find?_patchWith_of_find? insertOffset found inName
    have rebuilt := ScriptBlock.toText_of_find? again
    refine ⟨_, again, rfl, rfl, ?_, ?_, ?_⟩
    · rw [patch, ← rebuilt, ScriptBlock.take_start, ← whole, ScriptBlock.take_start]
    · rw [patch, ← rebuilt, ScriptBlock.drop_stop, ← whole, ScriptBlock.drop_stop]
    · rw [patch, patchWith_of_find? found]
  · intro missing
    have again := find?_patchWith_of_none insertOffset missing inName
    have rebuilt := ScriptBlock.toText_of_find? again
    refine ⟨?_, ⟨_, again, rfl, rfl, ?_, ?_⟩, ?_⟩
    · rw [patch, ← rebuilt, ScriptBlock.toText]
      exact ((List.suffix_append _ _).trans (List.suffix_append _ _))
    · rw [wrapped, Text.strip_of_solid (solid_statement name)]
    · rw [patch, ← rebuilt, ScriptBlock.drop_stop]
    · rw [patch, patchWith_of_none missing]

def firstBlock : ScriptBlock :=
  ⟨Text.ofString "<p/>", Text.ofString " lang=\"ts\"", Text.ofString "a",
    Text.ofString "\n<script>b</script>\n<style/>"⟩

theorem patch_keeps_surroundings_firstBlock :
    ¬ closingTag <:+: Text.ofString "Home" ∧
    ScriptBlock.find? firstBlock.toText = some firstBlock ∧
    ∃ block', ScriptBlock.find? (patch firstBlock.toText (Text.ofString "Home")).text =
        some block' ∧
      block'.start = firstBlock.start ∧ block'.attributes = firstBlock.attributes ∧
      (patch firstBlock.toText (Text.ofString "Home")).text.take block'.start =
        firstBlock.toText.take firstBlock.start ∧
      (patch firstBlock.toText (Text.ofString "Home")).text.drop block'.stop =
        firstBlock.toText.drop firstBlock.stop ∧
      (patch firstBlock.toText (Text.ofString "Home")).createdScript = false := by
  have tagFree : ¬ closingTag <:+: Text.ofString "Home" := by decide
  have found : ScriptBlock.find? firstBlock.toText = some firstBlock := by decide +kernel
  exact ⟨tagFree, found, (patch_keeps_surroundings firstBlock.toText _ tagFree).1 firstBlock found⟩

end ViewNaming.Component
