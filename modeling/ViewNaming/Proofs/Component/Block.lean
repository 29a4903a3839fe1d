import ViewNaming.Proofs.Component.Scope

/-! Which texts have a script block, and which block is found. A block can be found in
a text exactly if an opening tag, a tag end and a closing tag stand in it in this
order. The block that is found begins at the very first opening tag: a later one could
not do any better, because all that stands behind it stands behind the first one too. -/
namespace ViewNaming.Component.ScriptBlock

theorem find?_eq_some_iff {text : Text} {block : ScriptBlock} :
    find? text = some block ↔
      ∃ tagged inner, Text.breakOn? openingTag text = some (block.before, tagged) ∧
        Text.breakOn? tagEnd tagged = some (block.attributes, inner) ∧
        Text.breakOn? closingTag inner = some (block.content, block.after) := by
  obtain ⟨before, attributes, content, after⟩ := block
  simp only [find?]
  cases Text.breakOn? openingTag text with
  | none => simp
  | some opened =>
      cases tagged : Text.breakOn? tagEnd opened.2 with
      | none => grind
      | some ended =>
          cases closed : Text.breakOn? closingTag ended.2 with
          | none => grind
          | some cut => grind

theorem exists_find? (before attributes content after : Text) :
    ∃ block, find? (before ++ openingTag ++ attributes ++ tagEnd ++ content ++ closingTag ++
      after) = some block := by
  -- Each search finds its tag where it was put or earlier, so the later tags are still ahead.
  obtain ⟨front, tagged, opened, more, rfl⟩ := Text.exists_breakOn? openingTag before
    (attributes ++ tagEnd ++ content ++ closingTag ++ after)
  obtain ⟨attributes', inner, ended, more', rfl⟩ := Text.exists_breakOn? tagEnd
    (more ++ attributes) (content ++ closingTag ++ after)
  obtain ⟨content', behind, closed, -⟩ := Text.exists_breakOn? closingTag (more' ++ content) after
  simp only [List.append_assoc] at opened ended closed ⊢
  exact ⟨⟨front, attributes', content', behind⟩,
    find?_eq_some_iff.2 ⟨_, _, opened, ended, closed⟩⟩

theorem firstAt_start {text : Text} {block : ScriptBlock} (found : find? text = some block) :
    Text.FirstAt openingTag text block.start := by
  obtain ⟨tagged, inner, opened, -⟩ := find?_eq_some_iff.1 found
  exact Text.firstAt_of_breakOn? opened

theorem slice_render {text : Text} {block : ScriptBlock} (found : find? text = some block) :
    (text.take block.stop).drop block.start = block.render := by
  have length : (block.before ++ block.render).length = block.stop := List.length_append
  rw [← toText_of_find? found, toText, ← length, List.take_left]
  exact List.drop_left

/-- A block is found exactly where the text has the tags for one. It begins at the first
opening tag, ends its attributes at the first tag end and its content at the first closing
tag, and the text from its start to its stop is the block. -/
theorem find?_by_grammar (text : Text) :
    ((find? text).isSome = true ↔ ∃ before attributes content after : Text,
      CodePoint.ofChar '>' ∉ attributes ∧
        text = before ++ Text.ofString "<script" ++ attributes ++ Text.ofString ">" ++ content ++
          Text.ofString "</script>" ++ after) ∧
    ∀ block, find? text = some block →
      Text.FirstAt (Text.ofString "<script") text block.start ∧
      CodePoint.ofChar '>' ∉ block.attributes ∧
      ¬ Text.ofString "</script>" <:+: block.content ∧
      (text.take block.stop).drop block.start =
        Text.ofString "<script" ++ block.attributes ++ Text.ofString ">" ++ block.content ++
          Text.ofString "</script>" := by
  refine ⟨⟨?_, ?_⟩, ?_⟩
  · intro present
    obtain ⟨block, found⟩ := Option.isSome_iff_exists.1 present
    refine ⟨block.before, block.attributes, block.content, block.after,
      (exact_of_find? found).attributes, ?_⟩
    rw [← toText_of_find? found, toText, render]
    simp only [openingTag, tagEnd, closingTag, List.append_assoc]
  · rintro ⟨before, attributes, content, after, -, rfl⟩
    exact Option.isSome_iff_exists.2 (exists_find? before attributes content after)
  · intro block found
    have exact := exact_of_find? found
    exact ⟨firstAt_start found, exact.attributes, exact.content, slice_render found⟩

def nestedText : Text := Text.ofString "é<scripts a>b<script c>d</script>e"

def nestedBlock : ScriptBlock :=
  ⟨Text.ofString "é", Text.ofString "s a", Text.ofString "b<script c>d", Text.ofString "e"⟩

theorem find?_nestedText :
    find? nestedText = some nestedBlock ∧
    Text.FirstAt (Text.ofString "<script") nestedText 1 ∧
    (nestedText.take 33).drop 1 = Text.ofString "<scripts a>b<script c>d</script>" := by
  have found : find? nestedText = some nestedBlock := by decide
  obtain ⟨first, -, -, slice⟩ := (find?_by_grammar nestedText).2 nestedBlock found
  exact ⟨found, first, slice⟩

end ViewNaming.Component.ScriptBlock
