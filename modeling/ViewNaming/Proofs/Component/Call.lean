import ViewNaming.Component.Call
import ViewNaming.Proofs.Component.Statement

/-! The outline of a call, and which call is the leftmost. A call has the shape
`marker lead ( inner { body } trail )`, and the search finds the first place
where such a shape starts.

What stands in front of the leftmost call may hold the beginning of another one
whose braces are still open. It is not a call of its own only if the braces close
wrongly further on. So the front of a leftmost call stays free of calls when the
call is exchanged for any other text that starts with the same code point:
`Inert` says what such a front is like without mentioning what follows. -/
namespace ViewNaming.Component

open Text (AllBlank)

theorem dropBlank_append {gap : Text} {c : CodePoint} (blank : AllBlank gap)
    (solid : c.isBlank = false) (rest : Text) : dropBlank (gap ++ c :: rest) = c :: rest := by
  rw [dropBlank, List.dropWhile_append_of_pos blank, List.dropWhile_cons, solid]
  rfl

theorem exists_gap (text : Text) : ∃ gap, AllBlank gap ∧ text = gap ++ dropBlank text := by
  refine ⟨text.takeWhile CodePoint.isBlank, ?_, ?_⟩
  · exact fun c member => List.mem_takeWhile_imp member
  · rw [dropBlank, List.takeWhile_append_dropWhile]

/-- The ending of a call: all spaces and tabs that follow it, and a semicolon if it comes
next. -/
structure Ends (tail gap mark rest : Text) : Prop where
  whole : tail = gap ++ (mark ++ rest)
  spaced : ∀ c ∈ gap, c = ' ' ∨ c = '\t'
  longest : ∀ other, other <+: tail → (∀ c ∈ other, c = ' ' ∨ c = '\t') →
    other.length ≤ gap.length
  marked : mark = Text.ofString ";" ∨ mark = [] ∧ ¬ Text.ofString ";" <+: rest

theorem exists_ends (tail : Text) : ∃ gap mark, Ends tail gap mark (dropEnding tail) := by
  let isGap := fun c : CodePoint => decide (c = ' ') || decide (c = '\t')
  have cut : tail.takeWhile isGap ++ tail.dropWhile isGap = tail := List.takeWhile_append_dropWhile
  have spaced : ∀ c ∈ tail.takeWhile isGap, c = ' ' ∨ c = '\t' := by
    intro c member
    simpa [isGap] using List.mem_takeWhile_imp member
  have longest : ∀ other, other <+: tail → (∀ c ∈ other, c = ' ' ∨ c = '\t') →
      other.length ≤ (tail.takeWhile isGap).length := by
    rintro other ⟨more, rfl⟩ spaces
    have all : ∀ c ∈ other, isGap c = true := by simpa [isGap] using spaces
    rw [List.takeWhile_append_of_pos all, List.length_append]
    exact Nat.le_add_right _ _
  change ∃ gap mark, Ends tail gap mark
    ((Text.after? (Text.ofString ";") (tail.dropWhile isGap)).getD (tail.dropWhile isGap))
  cases found : Text.after? (Text.ofString ";") (tail.dropWhile isGap) with
  | none =>
      have missing := Text.after?_eq_none_iff.1 found
      exact ⟨_, [], cut.symm, spaced, longest, Or.inr ⟨rfl, missing⟩⟩
  | some rest =>
      have semicolon := Text.after?_eq_some_iff.1 found
      exact ⟨_, Text.ofString ";", by rw [Option.getD_some, ← semicolon, cut], spaced, longest,
        Or.inl rfl⟩

theorem exists_ending (text : Text) :
    ∃ ending, CodePoint.ofChar '\n' ∉ ending ∧ text = ending ++ dropEnding text := by
  obtain ⟨gap, mark, ends⟩ := exists_ends text
  refine ⟨gap ++ mark, ?_, by rw [List.append_assoc]; exact ends.whole⟩
  rw [List.mem_append]
  rintro (inGap | inMark)
  · exact absurd (ends.spaced _ inGap) (by decide)
  · rcases ends.marked with rfl | ⟨rfl, -⟩
    · exact absurd inMark (by decide)
    · exact absurd inMark List.not_mem_nil

theorem dropEnding_semicolon (rest : Text) :
    dropEnding (CodePoint.ofChar ';' :: rest) = rest := rfl

/-- A call by its parts: blank space in front of the parenthesis and of the
brace, the text between the braces, and blank space behind them. -/
structure Call where
  lead : Text
  inner : Text
  body : Text
  trail : Text
  lead_blank : AllBlank lead
  inner_blank : AllBlank inner
  body_open : CodePoint.ofChar '\x7d' ∉ body
  trail_blank : AllBlank trail

namespace Call

def toText (call : Call) : Text :=
  marker ++ (call.lead ++ CodePoint.ofChar '(' :: (call.inner ++ CodePoint.ofChar '\x7b' ::
    (call.body ++ CodePoint.ofChar '\x7d' :: (call.trail ++ [CodePoint.ofChar ')']))))

theorem toText_append (call : Call) (rest : Text) :
    call.toText ++ rest = marker ++ (call.lead ++ CodePoint.ofChar '(' :: (call.inner ++
      CodePoint.ofChar '\x7b' :: (call.body ++ CodePoint.ofChar '\x7d' ::
        (call.trail ++ CodePoint.ofChar ')' :: rest)))) := by
  simp [toText]

theorem solid_toText (call : Call) : call.toText.Solid := by
  constructor
  · exact ⟨CodePoint.ofChar 'd', _, rfl, by decide⟩
  · refine ⟨marker ++ (call.lead ++ CodePoint.ofChar '(' :: (call.inner ++
      CodePoint.ofChar '\x7b' :: (call.body ++ CodePoint.ofChar '\x7d' :: call.trail))),
      CodePoint.ofChar ')', ?_, by decide⟩
    simp [toText]

end Call

theorem afterCall?_toText (call : Call) (tail : Text) :
    afterCall? (call.toText ++ tail) = some (dropEnding tail) := by
  have opens : ∀ rest, dropBlank (call.lead ++ CodePoint.ofChar '(' :: rest) =
      Text.ofString "(" ++ rest := dropBlank_append call.lead_blank (by decide)
  have braces : ∀ rest, dropBlank (call.inner ++ CodePoint.ofChar '\x7b' :: rest) =
      Text.ofString "\x7b" ++ rest := dropBlank_append call.inner_blank (by decide)
  have body : ∀ rest, Text.breakOn? (Text.ofString "\x7d")
      (call.body ++ CodePoint.ofChar '\x7d' :: rest) = some (call.body, rest) :=
    fun rest => Text.breakOn?_singleton call.body_open
  have closes : ∀ rest, dropBlank (call.trail ++ CodePoint.ofChar ')' :: rest) =
      Text.ofString ")" ++ rest := dropBlank_append call.trail_blank (by decide)
  rw [Call.toText_append]
  simp only [afterCall?, Text.after?_append, opens, braces, body, closes, Option.bind_eq_bind,
    Option.bind_some, Option.pure_def]

theorem afterCall?_eq_some_iff {text rest : Text} :
    afterCall? text = some rest ↔
      ∃ (call : Call) (tail : Text), text = call.toText ++ tail ∧ rest = dropEnding tail := by
  constructor
  · intro found
    simp only [afterCall?, Option.bind_eq_bind, Option.bind_eq_some_iff, Option.pure_def,
      Option.some.injEq, Text.after?_eq_some_iff, Prod.exists] at found
    obtain ⟨_, rfl, afterParen, paren, afterBrace, brace, body, afterBody, cut, tail, closing,
      rfl⟩ := found
    obtain ⟨lead, leadBlank, leadEq⟩ := exists_gap _
    obtain ⟨inner, innerBlank, innerEq⟩ := exists_gap _
    obtain ⟨trail, trailBlank, trailEq⟩ := exists_gap _
    rw [paren] at leadEq
    rw [brace] at innerEq
    rw [closing] at trailEq
    have bodyOpen : CodePoint.ofChar '\x7d' ∉ body := Text.not_mem_of_breakOn? cut
    refine ⟨⟨lead, inner, body, trail, leadBlank, innerBlank, bodyOpen, trailBlank⟩, tail, ?_, rfl⟩
    rw [Call.toText_append, leadEq, innerEq, Text.breakOn?_append cut, trailEq]
    simp [Text.ofString]
  · rintro ⟨call, tail, rfl, rfl⟩
    exact afterCall?_toText call tail

theorem exists_of_afterCall? {text rest : Text} (found : afterCall? text = some rest) :
    ∃ (call : Call) (ending : Text), CodePoint.ofChar '\n' ∉ ending ∧
      text = call.toText ++ ending ++ rest := by
  obtain ⟨call, tail, rfl, rfl⟩ := afterCall?_eq_some_iff.1 found
  obtain ⟨ending, inLine, cut⟩ := exists_ending tail
  refine ⟨call, ending, inLine, ?_⟩
  rw [List.append_assoc, ← cut]

theorem findCall?_eq_some_iff {text front rest : Text} :
    findCall? text = some (front, rest) ↔
      ∃ behind, text = front ++ behind ∧ afterCall? behind = some rest ∧
        ∀ skipped later, front = skipped ++ later → later ≠ [] →
          afterCall? (later ++ behind) = none := by
  induction text generalizing front with
  | nil =>
      constructor
      · intro found
        simp [findCall?] at found
      · rintro ⟨behind, split, starts, -⟩
        obtain ⟨rfl, rfl⟩ := List.append_eq_nil_iff.1 split.symm
        obtain ⟨call, tail, impossible, -⟩ := afterCall?_eq_some_iff.1 starts
        exact absurd impossible (by simp [Call.toText])
  | cons c text ih =>
      simp only [findCall?]
      cases here : afterCall? (c :: text) with
      | some now =>
          constructor
          · intro found
            obtain ⟨rfl, rfl⟩ := Prod.mk.inj (Option.some.inj found)
            refine ⟨c :: text, rfl, here, ?_⟩
            intro skipped later split nonempty
            exact absurd (List.append_eq_nil_iff.1 split.symm).2 nonempty
          · rintro ⟨behind, split, starts, earlier⟩
            cases front with
            | nil =>
                rw [split] at here
                exact congrArg (fun r => some ([], r)) (Option.some.inj (here.symm.trans starts))
            | cons d front =>
                have missing := earlier [] (d :: front) rfl (by simp)
                rw [← split, here] at missing
                simp at missing
      | none =>
          simp only [Option.map_eq_some_iff, Prod.exists, Prod.mk.injEq]
          constructor
          · rintro ⟨inner, _, found, rfl, rfl⟩
            obtain ⟨behind, rfl, starts, earlier⟩ := ih.1 found
            refine ⟨behind, rfl, starts, ?_⟩
            intro skipped later split nonempty
            cases skipped with
            | nil =>
                rw [← List.nil_append later, ← split]
                exact here
            | cons d skipped => exact earlier skipped later (List.cons.inj split).2 nonempty
          · rintro ⟨behind, split, starts, earlier⟩
            cases front with
            | nil =>
                rw [List.nil_append] at split
                rw [split, starts] at here
                simp at here
            | cons d front =>
                obtain ⟨rfl, rfl⟩ := List.cons.inj split
                refine ⟨front, rest, ih.2 ⟨behind, rfl, starts, ?_⟩, rfl, rfl⟩
                intro skipped later inner nonempty
                exact earlier (c :: skipped) later (by rw [inner]; rfl) nonempty

theorem findCall?_eq_none_iff {text : Text} :
    findCall? text = none ↔ ∀ call : Call, ¬ call.toText <:+: text := by
  induction text with
  | nil => simp [findCall?, Call.toText, marker, Text.ofString]
  | cons c text ih =>
      simp only [findCall?]
      cases here : afterCall? (c :: text) with
      | some now =>
          obtain ⟨call, tail, split, -⟩ := afterCall?_eq_some_iff.1 here
          simp only [reduceCtorEq, false_iff, not_forall, not_not]
          exact ⟨call, [], tail, by rw [split]; rfl⟩
      | none =>
          rw [Option.map_eq_none_iff, ih]
          constructor
          · intro absent call occurs
            rcases List.infix_cons_iff.1 occurs with ⟨tail, starts⟩ | later
            · rw [← starts, afterCall?_toText] at here
              simp at here
            · exact absent call later
          · exact fun absent call occurs => absent call (List.infix_cons occurs)

theorem exists_of_findCall? {text front rest : Text} (found : findCall? text = some (front, rest)) :
    ∃ (call : Call) (ending : Text), CodePoint.ofChar '\n' ∉ ending ∧
      text = front ++ (call.toText ++ ending) ++ rest := by
  obtain ⟨behind, rfl, starts, -⟩ := findCall?_eq_some_iff.1 found
  obtain ⟨call, ending, inLine, rfl⟩ := exists_of_afterCall? starts
  exact ⟨call, ending, inLine, by simp⟩

/-- A text at whose front a call starts: a whole one, or one whose braces the
text leaves open. -/
inductive StartsCall : Text → Prop
  | whole (call : Call) (rest : Text) : StartsCall (call.toText ++ rest)
  | unclosed (lead inner body : Text) : AllBlank lead → AllBlank inner →
      CodePoint.ofChar '\x7d' ∉ body →
      StartsCall (marker ++ (lead ++ CodePoint.ofChar '(' :: (inner ++
        CodePoint.ofChar '\x7b' :: body)))

def ClosesCall (text : Text) : Prop :=
  ∃ body trail rest, CodePoint.ofChar '\x7d' ∉ body ∧ AllBlank trail ∧
    text = body ++ CodePoint.ofChar '\x7d' :: (trail ++ CodePoint.ofChar ')' :: rest)

theorem startsCall_of_afterCall? {front back rest : Text} (nonempty : front ≠ [])
    (found : afterCall? (front ++ CodePoint.ofChar 'd' :: back) = some rest) :
    StartsCall front := by
  have solid : (CodePoint.ofChar 'd').isBlank = false := by decide
  obtain ⟨call, tail, split, -⟩ := afterCall?_eq_some_iff.1 found
  obtain ⟨c, front, rfl⟩ := List.exists_cons_of_ne_nil nonempty
  rw [Call.toText_append] at split
  -- The first code point of the marker is taken off, since it is the seam itself.
  have peeled : c = CodePoint.ofChar 'd' ∧ front ++ CodePoint.ofChar 'd' :: back =
      Text.ofString "efineOptions" ++ (call.lead ++ CodePoint.ofChar '(' :: (call.inner ++
        CodePoint.ofChar '\x7b' :: (call.body ++ CodePoint.ofChar '\x7d' ::
          (call.trail ++ CodePoint.ofChar ')' :: tail)))) := List.cons.inj split
  obtain ⟨rfl, inMarker⟩ := peeled
  obtain ⟨front, rfl, inLead⟩ := Text.eq_append_of_seam (by decide) inMarker
  obtain ⟨front, rfl, atParenthesis⟩ :=
    Text.eq_append_of_seam (Text.not_mem_of_allBlank call.lead_blank solid) inLead
  obtain ⟨front, rfl, inInner⟩ := Text.eq_append_of_seam_cons (by decide) atParenthesis
  obtain ⟨front, rfl, atBrace⟩ :=
    Text.eq_append_of_seam (Text.not_mem_of_allBlank call.inner_blank solid) inInner
  obtain ⟨front, rfl, inBody⟩ := Text.eq_append_of_seam_cons (by decide) atBrace
  rcases List.append_eq_append_iff.1 inBody with ⟨more, body, -⟩ | ⟨front, rfl, atEnd⟩
  · have bodyOpen : CodePoint.ofChar '\x7d' ∉ front := by
      intro member
      exact call.body_open (by rw [body]; exact List.mem_append_left _ member)
    exact StartsCall.unclosed call.lead call.inner front call.lead_blank call.inner_blank bodyOpen
  · obtain ⟨front, rfl, inTrail⟩ := Text.eq_append_of_seam_cons (by decide) atEnd.symm
    obtain ⟨front, rfl, atClosing⟩ :=
      Text.eq_append_of_seam (Text.not_mem_of_allBlank call.trail_blank solid) inTrail
    obtain ⟨front, rfl, -⟩ := Text.eq_append_of_seam_cons (by decide) atClosing
    have whole := StartsCall.whole call front
    rw [Call.toText_append] at whole
    exact whole

theorem afterCall?_of_startsCall {front back : Text} (starts : StartsCall front)
    (closes : ClosesCall back) : afterCall? (front ++ back) ≠ none := by
  cases starts with
  | whole call rest =>
      rw [List.append_assoc, afterCall?_toText]
      simp
  | unclosed lead inner body leadBlank innerBlank bodyOpen =>
      obtain ⟨body', trail, rest, bodyOpen', trailBlank, rfl⟩ := closes
      have joined : CodePoint.ofChar '\x7d' ∉ body ++ body' := by
        simp [bodyOpen, bodyOpen']
      have found := afterCall?_toText
        ⟨lead, inner, body ++ body', trail, leadBlank, innerBlank, joined, trailBlank⟩ rest
      rw [Call.toText_append] at found
      simp only [List.append_assoc, List.cons_append] at found ⊢
      rw [found]
      simp

theorem exists_of_startsCall {text : Text} (starts : StartsCall text) :
    ∃ lead rest, AllBlank lead ∧ text = marker ++ (lead ++ CodePoint.ofChar '(' :: rest) := by
  cases starts with
  | whole call rest => exact ⟨call.lead, _, call.lead_blank, call.toText_append rest⟩
  | unclosed lead inner body leadBlank _ _ => exact ⟨lead, _, leadBlank, rfl⟩

/-- A text in which no call starts, whatever marker may follow it. -/
def Inert (front : Text) : Prop := ∀ later, later <:+ front → ¬ StartsCall later

theorem not_startsCall_nil : ¬ StartsCall [] := by
  intro starts
  obtain ⟨lead, rest, -, equal⟩ := exists_of_startsCall starts
  simp [marker, Text.ofString] at equal

theorem closesCall_of_afterCall? {text rest : Text} (found : afterCall? text = some rest) :
    ClosesCall text := by
  obtain ⟨call, tail, rfl, -⟩ := afterCall?_eq_some_iff.1 found
  refine ⟨marker ++ (call.lead ++ CodePoint.ofChar '(' ::
    (call.inner ++ CodePoint.ofChar '\x7b' :: call.body)), call.trail, tail, ?_,
    call.trail_blank, ?_⟩
  · have solid : (CodePoint.ofChar '\x7d').isBlank = false := by decide
    have inMarker : CodePoint.ofChar '\x7d' ∉ marker := by decide
    have notParenthesis : CodePoint.ofChar '\x7d' ≠ CodePoint.ofChar '(' := by decide
    have notBrace : CodePoint.ofChar '\x7d' ≠ CodePoint.ofChar '\x7b' := by decide
    simp [inMarker, notParenthesis, notBrace, Text.not_mem_of_allBlank call.lead_blank solid,
      Text.not_mem_of_allBlank call.inner_blank solid, call.body_open]
  · rw [Call.toText_append]
    simp

theorem inert_of_findCall? {text front rest : Text} (found : findCall? text = some (front, rest)) :
    Inert front := by
  obtain ⟨behind, -, starts, earlier⟩ := findCall?_eq_some_iff.1 found
  rintro later ⟨skipped, split⟩ startsEarlier
  have nonempty : later ≠ [] := by
    rintro rfl
    exact not_startsCall_nil startsEarlier
  exact afterCall?_of_startsCall startsEarlier (closesCall_of_afterCall? starts)
    (earlier skipped later split.symm nonempty)

theorem findCall?_append_of_inert {front back rest : Text} (inert : Inert front)
    (found : afterCall? (CodePoint.ofChar 'd' :: back) = some rest) :
    findCall? (front ++ CodePoint.ofChar 'd' :: back) = some (front, rest) := by
  refine findCall?_eq_some_iff.2 ⟨_, rfl, found, ?_⟩
  intro skipped later split nonempty
  rw [Option.eq_none_iff_forall_ne_some]
  intro more earlier
  exact inert later ⟨skipped, split.symm⟩ (startsCall_of_afterCall? nonempty earlier)

theorem inert_lineBreak_dropBlank {front : Text} (inert : Inert front) :
    Inert (CodePoint.ofChar '\n' :: dropBlank front) := by
  intro later suffix starts
  rcases List.suffix_cons_iff.1 suffix with rfl | within
  · obtain ⟨lead, rest, -, equal⟩ := exists_of_startsCall starts
    have first : CodePoint.ofChar '\n' = CodePoint.ofChar 'd' := (List.cons.inj equal).1
    exact absurd first (by decide)
  · exact inert later (within.trans (List.dropWhile_suffix _)) starts

theorem afterCall?_statement {name : Text} (nameOpen : CodePoint.ofChar '\x7d' ∉ name)
    (rest : Text) : afterCall? (statement name ++ rest) = some rest := by
  have bodyOpen : CodePoint.ofChar '\x7d' ∉
      Text.ofString " name: \"" ++ escape name ++ Text.ofString "\" " := by
    intro member
    simp only [List.mem_append] at member
    rcases member with (inLead | inName) | inTail
    · exact absurd inLead (by decide)
    · rcases mem_of_mem_escape inName with inName | backslash
      · exact nameOpen inName
      · exact absurd backslash (by decide)
    · exact absurd inTail (by decide)
  have noBlank : AllBlank [] := by simp [AllBlank]
  have found := afterCall?_toText ⟨[], [], _, [], noBlank, noBlank, bodyOpen, noBlank⟩
    (CodePoint.ofChar ';' :: rest)
  rw [dropEnding_semicolon, Call.toText_append] at found
  rw [← found, statement]
  simp [Text.ofString]

theorem findCall?_statement {front name : Text} (inert : Inert front)
    (nameOpen : CodePoint.ofChar '\x7d' ∉ name) (rest : Text) :
    findCall? (front ++ statement name ++ rest) = some (front, rest) := by
  have found := afterCall?_statement nameOpen rest
  rw [List.append_assoc]
  rw [statement_eq] at found ⊢
  exact findCall?_append_of_inert inert found

theorem replaceCall_statement {front name : Text} (inert : Inert front)
    (nameOpen : CodePoint.ofChar '\x7d' ∉ name) (line rest : Text) :
    replaceCall line (front ++ statement name ++ rest) = front ++ line ++ rest := by
  rw [replaceCall, findCall?_statement inert nameOpen]

end ViewNaming.Component
