import ViewNaming.Proofs.Component.Overwriting

/-! What a replacement replaces. A script can be cut at a call in several ways, but only in
one way with the shortest front: the parts of a call end at code points that they cannot
hold, and its ending goes as far as it can. The search finds this cut, and the line takes the
place of the call and its ending as it stands. -/
namespace ViewNaming.Component

open Text (AllBlank)

theorem Call.eq_of_append {call call' : Call} {tail tail' : Text}
    (same : call.toText ++ tail = call'.toText ++ tail') : call = call' ∧ tail = tail' := by
  obtain ⟨lead, inner, body, trail, leadBlank, innerBlank, bodyOpen, trailBlank⟩ := call
  obtain ⟨lead', inner', body', trail', leadBlank', innerBlank', bodyOpen', trailBlank'⟩ := call'
  have outside : ∀ {c : CodePoint} {gap : Text}, AllBlank gap → c.isBlank = false → c ∉ gap :=
    Text.not_mem_of_allBlank
  rw [toText_append, toText_append] at same
  obtain ⟨rfl, same⟩ := Text.eq_of_first (outside leadBlank (by decide))
    (outside leadBlank' (by decide)) (List.append_cancel_left same)
  obtain ⟨rfl, same⟩ := Text.eq_of_first (outside innerBlank (by decide))
    (outside innerBlank' (by decide)) same
  obtain ⟨rfl, same⟩ := Text.eq_of_first bodyOpen bodyOpen' same
  obtain ⟨rfl, rfl⟩ := Text.eq_of_first (outside trailBlank (by decide))
    (outside trailBlank' (by decide)) same
  exact ⟨rfl, rfl⟩

theorem Ends.unique {tail gap mark rest gap' mark' rest' : Text} (ends : Ends tail gap mark rest)
    (ends' : Ends tail gap' mark' rest') : gap = gap' ∧ mark = mark' ∧ rest = rest' := by
  have starts : gap <+: tail := ⟨_, ends.whole.symm⟩
  have starts' : gap' <+: tail := ⟨_, ends'.whole.symm⟩
  have lengths : gap.length = gap'.length :=
    Nat.le_antisymm (ends'.longest gap starts ends.spaced) (ends.longest gap' starts' ends'.spaced)
  obtain ⟨rfl, same⟩ := List.append_inj (ends.whole.symm.trans ends'.whole) lengths
  refine ⟨rfl, ?_⟩
  rcases ends.marked with rfl | ⟨rfl, missing⟩ <;> rcases ends'.marked with rfl | ⟨rfl, missing'⟩
  · exact ⟨rfl, List.append_cancel_left same⟩
  · exact absurd ⟨rest, same⟩ missing'
  · exact absurd ⟨rest', same.symm⟩ missing
  · exact ⟨rfl, same⟩

theorem callAt_of_eq_append {content front tail : Text} {call : Call}
    (whole : content = front ++ call.toText ++ tail) : CallAt content front.length := by
  rw [whole, List.append_assoc]
  exact ⟨call, tail, List.drop_left.symm⟩

/-- A script cut at its leftmost call and at the ending of this call. -/
structure LeftmostCall (content : Text) where
  front : Text
  call : Call
  tail : Text
  gap : Text
  mark : Text
  rest : Text
  whole : content = front ++ call.toText ++ tail
  shortest : ∀ front' (call' : Call) tail', content = front' ++ call'.toText ++ tail' →
    front.length ≤ front'.length
  ends : Ends tail gap mark rest

namespace LeftmostCall

variable {content : Text}

def matched (cut : LeftmostCall content) : Text := cut.call.toText ++ cut.gap ++ cut.mark

theorem eq_append (cut : LeftmostCall content) :
    content = cut.front ++ cut.matched ++ cut.rest := by
  have whole := cut.whole
  rw [cut.ends.whole] at whole
  simpa [matched] using whole

theorem unique (cut cut' : LeftmostCall content) : cut = cut' := by
  obtain ⟨front, call, tail, gap, mark, rest, whole, shortest, ends⟩ := cut
  obtain ⟨front', call', tail', gap', mark', rest', whole', shortest', ends'⟩ := cut'
  have lengths : front.length = front'.length :=
    Nat.le_antisymm (shortest _ _ _ whole') (shortest' _ _ _ whole)
  have same : front ++ (call.toText ++ tail) = front' ++ (call'.toText ++ tail') := by
    rw [← List.append_assoc, ← List.append_assoc, ← whole, ← whole']
  obtain ⟨rfl, behind⟩ := List.append_inj same lengths
  obtain ⟨rfl, rfl⟩ := Call.eq_of_append behind
  obtain ⟨rfl, rfl, rfl⟩ := ends.unique ends'
  rfl

theorem exists_of_findCall? {front rest : Text} (found : findCall? content = some (front, rest)) :
    ∃ cut : LeftmostCall content, cut.front = front ∧ cut.rest = rest := by
  obtain ⟨behind, whole, starts, -⟩ := findCall?_eq_some_iff.1 found
  obtain ⟨call, tail, rfl, rfl⟩ := afterCall?_eq_some_iff.1 starts
  obtain ⟨gap, mark, ends⟩ := exists_ends tail
  rw [← List.append_assoc] at whole
  refine ⟨⟨front, call, tail, gap, mark, dropEnding tail, whole, ?_, ends⟩, rfl, rfl⟩
  intro front' call' tail' other
  exact length_le_of_callAt found (callAt_of_eq_append other)

theorem nonempty_iff :
    Nonempty (LeftmostCall content) ↔
      ∃ front call tail, content = front ++ Call.toText call ++ tail := by
  constructor
  · rintro ⟨cut⟩
    exact ⟨cut.front, cut.call, cut.tail, cut.whole⟩
  · rintro ⟨front, call, tail, whole⟩
    obtain ⟨_, _, found⟩ := exists_findCall?_of_callAt (callAt_of_eq_append whole)
    obtain ⟨cut, -⟩ := exists_of_findCall? found
    exact ⟨cut⟩

theorem findCall?_eq (cut : LeftmostCall content) :
    findCall? content = some (cut.front, cut.rest) := by
  obtain ⟨_, _, found⟩ := exists_findCall?_of_callAt (callAt_of_eq_append cut.whole)
  obtain ⟨other, rfl, rfl⟩ := exists_of_findCall? found
  rw [found, cut.unique other]

end LeftmostCall

/-- A line takes the place of the leftmost call and its ending, as it stands. A script with a
call in it has just one leftmost call, and a script stays as it is exactly if there is no
call in it or the line is what stood there. -/
theorem replaceCall_at_leftmost (line content : Text) :
    (Nonempty (LeftmostCall content) ↔
      ∃ front call tail, content = front ++ Call.toText call ++ tail) ∧
    (∀ cut cut' : LeftmostCall content, cut = cut') ∧
    (∀ cut : LeftmostCall content, content = cut.front ++ cut.matched ++ cut.rest ∧
      replaceCall line content = cut.front ++ line ++ cut.rest) ∧
    (replaceCall line content = content ↔
      (¬ ∃ front call tail, content = front ++ Call.toText call ++ tail) ∨
        ∃ cut : LeftmostCall content, cut.matched = line) := by
  have replaced : ∀ cut : LeftmostCall content,
      replaceCall line content = cut.front ++ line ++ cut.rest := by
    intro cut
    rw [replaceCall, cut.findCall?_eq]
  have unchanged : ∀ cut : LeftmostCall content,
      replaceCall line content = content ↔ cut.matched = line := by
    intro cut
    have same : cut.front ++ line ++ cut.rest = cut.front ++ cut.matched ++ cut.rest ↔
        cut.matched = line := by
      rw [List.append_cancel_right_eq, List.append_cancel_left_eq, eq_comm]
    rw [replaced, ← same, ← cut.eq_append]
  refine ⟨LeftmostCall.nonempty_iff, LeftmostCall.unique, ?_, ?_⟩
  · exact fun cut => ⟨cut.eq_append, replaced cut⟩
  · rw [← LeftmostCall.nonempty_iff]
    constructor
    · intro kept
      by_cases called : Nonempty (LeftmostCall content)
      · obtain ⟨cut⟩ := called
        exact Or.inr ⟨cut, (unchanged cut).1 kept⟩
      · exact Or.inl called
    · rintro (uncalled | ⟨cut, same⟩)
      · have missing : findCall? content = none := by
          rw [Option.eq_none_iff_forall_ne_some]
          intro parts found
          obtain ⟨cut, -⟩ := LeftmostCall.exists_of_findCall? found
          exact uncalled ⟨cut⟩
        rw [replaceCall, missing]
      · exact (unchanged cut).2 same

def openScript : Text :=
  Text.ofString "a;defineOptions(\x7b b;defineOptions ( \x7bc\x7d\n) \t;;d"

theorem replaceCall_at_leftmost_openScript :
    ∃ cut : LeftmostCall openScript, cut.front = Text.ofString "a;" ∧
      cut.matched = Text.ofString "defineOptions(\x7b b;defineOptions ( \x7bc\x7d\n) \t;" ∧
      replaceCall (Text.ofString "\\1\\g<0>") openScript = Text.ofString "a;\\1\\g<0>;d" := by
  have found : findCall? openScript = some (Text.ofString "a;", Text.ofString ";d") := by
    decide +kernel
  obtain ⟨cut, front, rest⟩ := LeftmostCall.exists_of_findCall? found
  obtain ⟨whole, replaced⟩ :=
    (replaceCall_at_leftmost (Text.ofString "\\1\\g<0>") openScript).2.2.1 cut
  rw [front, rest] at whole replaced
  exact ⟨cut, front, List.append_cancel_left (List.append_cancel_right whole.symm), replaced⟩

end ViewNaming.Component
