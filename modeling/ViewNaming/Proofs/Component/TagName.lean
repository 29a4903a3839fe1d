import ViewNaming.Proofs.Component.Block

/-! Which element is edited. The search for the script block asks for the word that opens a
script and nothing of what follows it, so a tag whose name only begins with this word is taken
for a script as well. The element that is found is a script exactly if no such tag comes
before every script, and it is the first one then. Otherwise the name goes into the other
element. -/
namespace ViewNaming.Component

open TypeScript (Parser)

/-- The name of a tag ends with the word in front of its attributes: nothing, blank space or
a slash follows. -/
def EndsName (attributes : Text) : Prop :=
  ∀ c ∈ attributes.head?, c.isBlank = true ∨ c = '/'

instance (attributes : Text) : Decidable (EndsName attributes) :=
  inferInstanceAs (Decidable (∀ c ∈ attributes.head?, c.isBlank = true ∨ c = '/'))

/-- A tag stands at this place whose name is the opening word or begins with it. All that is
left of the tag counts as attributes. -/
structure TagAt (text : Text) (place : Nat) (attributes : Text) : Prop where
  stands : openingTag ++ (attributes ++ tagEnd) <+: text.drop place
  undivided : CodePoint.ofChar '>' ∉ attributes

def ScriptTagAt (text : Text) (place : Nat) : Prop :=
  ∃ attributes, TagAt text place attributes ∧ EndsName attributes

/-- Another element is opened at this place, whose name begins like that of a script. -/
def OtherTagAt (text : Text) (place : Nat) : Prop :=
  ∃ attributes, TagAt text place attributes ∧ ¬ EndsName attributes

theorem TagAt.prefix_drop {text attributes : Text} {place : Nat}
    (tag : TagAt text place attributes) : openingTag <+: text.drop place :=
  (List.prefix_append openingTag _).trans tag.stands

theorem TagAt.unique {text attributes attributes' : Text} {place : Nat}
    (tag : TagAt text place attributes) (tag' : TagAt text place attributes') :
    attributes = attributes' := by
  obtain ⟨rest, whole⟩ := tag.stands
  obtain ⟨rest', whole'⟩ := tag'.stands
  have same : openingTag ++ (attributes ++ CodePoint.ofChar '>' :: rest) =
      openingTag ++ (attributes' ++ CodePoint.ofChar '>' :: rest') := by
    simpa [tagEnd, Text.ofString] using whole.trans whole'.symm
  exact (Text.eq_of_first tag.undivided tag'.undivided (List.append_cancel_left same)).1

theorem exists_tagAt (front between rest : Text) :
    ∃ attributes, TagAt (front ++ openingTag ++ (between ++ tagEnd ++ rest)) front.length
      attributes := by
  obtain ⟨attributes, behind, found, -⟩ := Text.exists_breakOn? tagEnd between rest
  have whole := Text.breakOn?_append found
  refine ⟨attributes, ⟨behind, ?_⟩, Text.not_mem_of_breakOn? found⟩
  rw [List.append_assoc front, List.drop_left, whole]
  simp

namespace ScriptBlock

theorem tagAt_start {text : Text} {block : ScriptBlock} (whole : block.toText = text)
    (undivided : CodePoint.ofChar '>' ∉ block.attributes) :
    TagAt text block.start block.attributes := by
  refine ⟨⟨block.content ++ closingTag ++ block.after, ?_⟩, undivided⟩
  rw [← whole, toText, start, List.append_assoc block.before, List.drop_left, render]
  simp

theorem start_le_of_tagAt {text attributes : Text} {block : ScriptBlock} {place : Nat}
    (found : find? text = some block) (tag : TagAt text place attributes) :
    block.start ≤ place := by
  by_contra before
  exact (firstAt_start found).2 place (by omega) tag.prefix_drop

/-- The first script of a text, from its tag to the first closing tag behind it. -/
structure FirstScript (text : Text) (block : ScriptBlock) : Prop where
  whole : block.toText = text
  named : EndsName block.attributes
  undivided : CodePoint.ofChar '>' ∉ block.attributes
  unclosed : ¬ closingTag <:+: block.content
  first : ∀ place < block.start, ¬ ScriptTagAt text place

theorem firstScript_of_find? {text : Text} {block : ScriptBlock}
    (found : find? text = some block) (named : EndsName block.attributes) :
    FirstScript text block := by
  have exact := exact_of_find? found
  refine ⟨toText_of_find? found, named, exact.attributes, exact.content, ?_⟩
  rintro place before ⟨attributes, tag, -⟩
  have order := start_le_of_tagAt found tag
  omega

theorem FirstScript.find?_eq {text : Text} {script : ScriptBlock} (first : FirstScript text script)
    (alone : ∀ place < script.start, ¬ OtherTagAt text place) : find? text = some script := by
  have absent : ¬ openingTag <:+: script.before := by
    rintro ⟨front, between, split⟩
    obtain ⟨attributes, tag⟩ := exists_tagAt front (between ++ openingTag ++ script.attributes)
      (script.content ++ closingTag ++ script.after)
    have layout : front ++ openingTag ++ (between ++ openingTag ++ script.attributes ++ tagEnd ++
        (script.content ++ closingTag ++ script.after)) = text := by
      rw [← first.whole, toText, render, ← split]
      simp
    rw [layout] at tag
    have before : front.length < script.start := by
      have positive : 0 < openingTag.length := by decide
      rw [start, ← split, List.length_append, List.length_append]
      omega
    by_cases named : EndsName attributes
    · exact first.first _ before ⟨attributes, tag, named⟩
    · exact alone _ before ⟨attributes, tag, named⟩
  rw [← first.whole]
  exact find?_toText ⟨absent, first.undivided, first.unclosed⟩

theorem exists_find?_of_toText (block : ScriptBlock) :
    ∃ found, find? block.toText = some found := by
  have layout : block.toText = block.before ++ openingTag ++ block.attributes ++ tagEnd ++
      block.content ++ closingTag ++ block.after := by
    simp [toText, render]
  rw [layout]
  exact exists_find? block.before block.attributes block.content block.after

/-- The element that is found, and whose content is the only thing that a name changes, is a
script exactly if every other tag has a script in front of it; it is the first script then.
Where there is a script at all an element is found, which is the first script exactly if no
other tag stands in front of this. -/
theorem find?_is_script_iff [Parser] (text : Text) :
    (∀ block, find? text = some block →
      TagAt text block.start block.attributes ∧
      (EndsName block.attributes ↔
        ∀ place, OtherTagAt text place → ∃ earlier < place, ScriptTagAt text earlier) ∧
      (EndsName block.attributes ↔ FirstScript text block) ∧
      ∀ name, ∃ content, (patch text name).text = { block with content := content }.toText) ∧
    ∀ script, FirstScript text script → ∃ block, find? text = some block ∧
      (block = script ↔ ∀ place < script.start, ¬ OtherTagAt text place) := by
  refine ⟨?_, ?_⟩
  · intro block found
    have tag := tagAt_start (toText_of_find? found) (exact_of_find? found).attributes
    refine ⟨tag, ⟨?_, ?_⟩, ⟨firstScript_of_find? found, FirstScript.named⟩, ?_⟩
    · rintro named place ⟨attributes, other, unnamed⟩
      have apart : block.start ≠ place := by
        rintro rfl
        exact unnamed (tag.unique other ▸ named)
      have order := start_le_of_tagAt found other
      exact ⟨block.start, by omega, block.attributes, tag, named⟩
    · intro preceded
      by_contra unnamed
      obtain ⟨earlier, before, attributes, script, -⟩ :=
        preceded block.start ⟨block.attributes, tag, unnamed⟩
      have order := start_le_of_tagAt found script
      omega
    · intro name
      exact ⟨_, congrArg Patched.text (patchWith_of_find? found name)⟩
  · intro script first
    obtain ⟨block, found⟩ := exists_find?_of_toText script
    rw [first.whole] at found
    refine ⟨block, found, ?_, ?_⟩
    · rintro rfl place before ⟨attributes, tag, -⟩
      have order := start_le_of_tagAt found tag
      omega
    · intro alone
      exact Option.some.inj (found.symm.trans (first.find?_eq alone))

def leadingText : Text := Text.ofString "<script\nsetup>a</script><scripts/>"

def leadingBlock : ScriptBlock :=
  ⟨[], Text.ofString "\nsetup", Text.ofString "a", Text.ofString "<scripts/>"⟩

theorem find?_is_script_iff_leadingText :
    find? leadingText = some leadingBlock ∧
    OtherTagAt leadingText 24 ∧
    FirstScript leadingText leadingBlock ∧
    (∃ earlier < 24, ScriptTagAt leadingText earlier) ∧
    ∃ block, find? leadingText = some block ∧ block = leadingBlock := by
  have found : find? leadingText = some leadingBlock := by decide +kernel
  have named : EndsName leadingBlock.attributes := by decide
  have other : OtherTagAt leadingText 24 :=
    ⟨Text.ofString "s/", ⟨by decide, by decide⟩, by decide⟩
  obtain ⟨elements, scripts⟩ := find?_is_script_iff leadingText
  obtain ⟨-, preceded, first, -⟩ := elements leadingBlock found
  have script := first.1 named
  obtain ⟨block, found', same⟩ := scripts leadingBlock script
  refine ⟨found, other, script, preceded.1 named 24 other, block, found', same.2 ?_⟩
  intro place before
  exact absurd before (Nat.not_lt_zero place)

def editorText : Text := Text.ofString "<p><script-editor/></p><script>a</script>"

def editorBlock : ScriptBlock :=
  ⟨Text.ofString "<p>", Text.ofString "-editor/", Text.ofString "</p><script>a", []⟩

def passedScript : ScriptBlock :=
  ⟨Text.ofString "<p><script-editor/></p>", [], Text.ofString "a", []⟩

theorem firstScript_passedScript : FirstScript editorText passedScript := by
  refine ⟨by decide +kernel, by decide, by decide, by decide, ?_⟩
  rintro place before ⟨attributes, tag, named⟩
  have only : ∀ place < passedScript.start, openingTag <+: editorText.drop place → place = 3 := by
    decide +kernel
  have third := only place before tag.prefix_drop
  subst third
  have editor : TagAt editorText 3 (Text.ofString "-editor/") := ⟨by decide, by decide⟩
  rw [tag.unique editor] at named
  exact absurd named (by decide)

theorem find?_not_script_editorText :
    find? editorText = some editorBlock ∧
    ¬ EndsName editorBlock.attributes ∧
    FirstScript editorText passedScript ∧
    (patch editorText (Text.ofString "A")).text = Text.ofString
      "<p><script-editor/>\ndefineOptions(\x7b name: \"A\" \x7d);\n</p><script>a\n</script>" := by
  have found : find? editorText = some editorBlock := by decide +kernel
  have unmarked : hasMarker editorBlock.content = false := by decide +kernel
  have offset : insertOffset editorBlock.content = 0 := by decide +kernel
  refine ⟨found, by decide, firstScript_passedScript, ?_⟩
  rw [patch, patchWith_of_find? found, nameContent, if_neg (Bool.eq_false_iff.1 unmarked), offset]
  decide +kernel

end ScriptBlock

end ViewNaming.Component
