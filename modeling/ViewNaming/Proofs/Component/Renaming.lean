import Mathlib.Data.List.Infix
import ViewNaming.Proofs.Component.Marker
import ViewNaming.Proofs.Component.Scope

/-! Naming a component again. A statement that was written once is found again as
the leftmost call, so a later name takes the place of an earlier one and leaves
no trace of it. Names with a closing brace are not found again as a whole, and a
closing tag in a name ends the script too early; a marker directly behind a word
code point is replaced but not seen. These are the exceptions below. -/
namespace ViewNaming.Component

open Text (AllBlank Solid)

theorem wrapped_append_solid {line : Text} (solid : Solid line) (front rest : Text) :
    wrapped (front ++ line ++ rest) =
      (CodePoint.ofChar '\n' :: dropBlank front) ++ line ++
        (rest.rdropWhile CodePoint.isBlank ++ lineFeed) := by
  rw [wrapped, Text.strip_append_solid solid, dropBlank]
  simp [lineFeed, Text.ofString]

theorem dropBlank_lineBreak_dropBlank (front : Text) :
    dropBlank (CodePoint.ofChar '\n' :: dropBlank front) = dropBlank front := by
  have blank : (CodePoint.ofChar '\n').isBlank = true := by decide
  rw [dropBlank, List.dropWhile_cons, if_pos blank, dropBlank, List.dropWhile_idempotent]

theorem wrapped_wrapped (content : Text) : wrapped (wrapped content) = wrapped content := by
  have stripped := Text.strip_append_blank lineFeed_blank lineFeed_blank content.strip
  rw [wrapped, wrapped, stripped, Text.strip_strip]

theorem solid_marker : Solid marker :=
  ⟨⟨CodePoint.ofChar 'd', _, rfl, by decide⟩, ⟨Text.ofString "defineOption", _, rfl, by decide⟩⟩

theorem hasMarker_wrapped {content : Text} (marked : hasMarker content = true) :
    hasMarker (wrapped content) = true := by
  obtain ⟨front, rest, split, free, ends⟩ := hasMarker_iff.1 marked
  obtain ⟨left, right, blankLeft, blankRight, sides⟩ := Text.exists_blank_sides content
  obtain ⟨front', rest', rfl, rfl, inner⟩ :=
    Text.eq_append_of_blank_sides blankLeft blankRight solid_marker (split.symm.trans sides)
  refine hasMarker_iff.2 ⟨lineFeed ++ front', rest' ++ lineFeed, ?_, ?_, ?_⟩
  · rw [wrapped, ← inner]
    simp
  · rw [List.getLast?_append] at free ⊢
    cases last : front'.getLast? with
    | none => decide
    | some c => simpa [last] using free
  · rw [List.head?_append] at ends ⊢
    cases first : rest'.head? with
    | none => decide
    | some c => simpa [first] using ends

theorem findCall?_wrapped {content : Text} (absent : findCall? content = none) :
    findCall? (wrapped content) = none := by
  rw [findCall?_eq_none_iff] at absent ⊢
  intro call
  rw [infix_wrapped_iff call.solid_toText]
  exact absent call

theorem inert_of_no_marker {head gap tail : Text} (gapBlank : AllBlank gap)
    (unprefixed : Unprefixed (head ++ tail)) (unmarked : hasMarker (head ++ tail) = false) :
    Inert (head ++ gap) := by
  rintro later ⟨skipped, split⟩ starts
  -- Behind the marker of a call comes blank space or a parenthesis, so it ends there as a word.
  obtain ⟨lead, rest, leadBlank, rfl⟩ := exists_of_startsCall starts
  have opening : Solid (marker ++ lead ++ [CodePoint.ofChar '(']) :=
    ⟨⟨CodePoint.ofChar 'd', _, rfl, by decide⟩, ⟨_, _, rfl, by decide⟩⟩
  have sides : skipped ++ (marker ++ lead ++ [CodePoint.ofChar '(']) ++ rest =
      [] ++ head ++ gap := by
    simpa using split
  obtain ⟨front, rest', -, -, rfl⟩ :=
    Text.eq_append_of_blank_sides (by simp [AllBlank]) gapBlank opening sides
  have layout : front ++ (marker ++ lead ++ [CodePoint.ofChar '(']) ++ rest' ++ tail =
      front ++ marker ++ (lead ++ CodePoint.ofChar '(' :: (rest' ++ tail)) := by
    simp
  rw [layout] at unprefixed unmarked
  rw [Bool.eq_false_iff] at unmarked
  apply unmarked
  refine hasMarker_iff.2 ⟨front, _, rfl, getLast?_isWord_of_unprefixed unprefixed, ?_⟩
  cases lead with
  | nil =>
      change (CodePoint.ofChar '(').isWord = false
      decide
  | cons c lead => exact CodePoint.isWord_of_isBlank (leadBlank c List.mem_cons_self)

theorem nameContent_eq_self {offset : Text → Nat} {content : Text}
    (marked : hasMarker content = true) (absent : findCall? content = none) (line : Text) :
    nameContent offset line content = content := by
  rw [nameContent, if_pos marked, replaceCall, absent]

theorem nameContent_forms (offset : Text → Nat) (content : Text) :
    (hasMarker content = true ∧ findCall? content = none) ∨
    (hasMarker content = true ∧ ∃ front rest, findCall? content = some (front, rest) ∧
      ∀ line, nameContent offset line content = front ++ line ++ rest) ∨
    (hasMarker content = false ∧ ∃ head gap lineBreak tail, content = head ++ tail ∧
      AllBlank gap ∧ AllBlank lineBreak ∧
      (head ++ gap = [] ∨ ∃ front, head ++ gap = front ++ lineFeed) ∧
      ∀ line, nameContent offset line content = head ++ gap ++ line ++ (lineBreak ++ tail)) := by
  cases marked : hasMarker content with
  | true =>
      cases found : findCall? content with
      | none => exact Or.inl ⟨rfl, rfl⟩
      | some cut =>
          refine Or.inr (Or.inl ⟨rfl, cut.1, cut.2, rfl, ?_⟩)
          intro line
          rw [nameContent, if_pos marked, replaceCall, found]
  | false =>
      obtain ⟨head, gap, lineBreak, tail, split, gapBlank, breakBlank, ends, shape⟩ :=
        exists_insertAt (offset content) content
      refine Or.inr (Or.inr ⟨rfl, head, gap, lineBreak, tail, split, gapBlank, breakBlank,
        ends, ?_⟩)
      intro line
      rw [nameContent, if_neg (by simp [marked])]
      exact shape line

theorem nameContent_cases (offset : Text → Nat) {content : Text}
    (unprefixed : Unprefixed content) :
    (hasMarker content = true ∧ findCall? content = none) ∨
      ∃ front rest, Inert front ∧ front.getLast?.any CodePoint.isWord = false ∧
        ∀ line, nameContent offset line content = front ++ line ++ rest := by
  rcases nameContent_forms offset content with stuck | ⟨-, front, rest, found, shape⟩ |
    ⟨unmarked, head, gap, lineBreak, tail, rfl, gapBlank, -, ends, shape⟩
  · exact Or.inl stuck
  · refine Or.inr ⟨front, rest, inert_of_findCall? found, ?_, shape⟩
    obtain ⟨behind, rfl, starts, -⟩ := findCall?_eq_some_iff.1 found
    obtain ⟨call, tail, rfl, -⟩ := afterCall?_eq_some_iff.1 starts
    rw [Call.toText_append, ← List.append_assoc] at unprefixed
    exact getLast?_isWord_of_unprefixed unprefixed
  · refine Or.inr ⟨head ++ gap, lineBreak ++ tail,
      inert_of_no_marker gapBlank unprefixed unmarked, ?_, shape⟩
    rcases ends with empty | ⟨front, ended⟩
    · rw [empty]
      rfl
    · rw [ended, List.getLast?_append]
      change (CodePoint.ofChar '\n').isWord = false
      decide

theorem getLast?_dropBlank {front : Text} (free : front.getLast?.any CodePoint.isWord = false) :
    (CodePoint.ofChar '\n' :: dropBlank front).getLast?.any CodePoint.isWord = false := by
  obtain ⟨gap, -, split⟩ := exists_gap front
  rw [split, List.getLast?_append] at free
  rw [List.getLast?_cons]
  cases last : (dropBlank front).getLast? with
  | none => decide
  | some c => simpa [last] using free

theorem wrapped_nameContent_statement {front name : Text} (inert : Inert front)
    (free : front.getLast?.any CodePoint.isWord = false)
    (nameOpen : CodePoint.ofChar '\x7d' ∉ name) (offset : Text → Nat) (rest next : Text) :
    wrapped (nameContent offset (statement next) (wrapped (front ++ statement name ++ rest))) =
      wrapped (front ++ statement next ++ rest) := by
  have marked := hasMarker_statement (getLast?_dropBlank free) name
    (rest.rdropWhile CodePoint.isBlank ++ lineFeed)
  have replaced := replaceCall_statement (inert_lineBreak_dropBlank inert) nameOpen
    (statement next) (rest.rdropWhile CodePoint.isBlank ++ lineFeed)
  have rest' : (rest.rdropWhile CodePoint.isBlank ++ lineFeed).rdropWhile CodePoint.isBlank =
      rest.rdropWhile CodePoint.isBlank := by
    rw [Text.rdropWhile_append_blank lineFeed_blank, List.rdropWhile_idempotent]
  rw [wrapped_append_solid (solid_statement name), nameContent, if_pos marked, replaced,
    wrapped_append_solid (solid_statement next), wrapped_append_solid (solid_statement next),
    dropBlank_lineBreak_dropBlank, rest']

theorem wrapped_nameContent_wrapped (offset : Text → Nat) {content name : Text}
    (unprefixed : Unprefixed content) (nameOpen : CodePoint.ofChar '\x7d' ∉ name) (next : Text) :
    wrapped (nameContent offset (statement next)
        (wrapped (nameContent offset (statement name) content))) =
      wrapped (nameContent offset (statement next) content) := by
  rcases nameContent_cases offset unprefixed with
    ⟨marked, absent⟩ | ⟨front, rest, inert, free, shape⟩
  · rw [nameContent_eq_self marked absent, nameContent_eq_self marked absent,
      nameContent_eq_self (hasMarker_wrapped marked) (findCall?_wrapped absent)]
    exact wrapped_wrapped content
  · rw [shape, shape]
    exact wrapped_nameContent_statement inert free nameOpen offset rest next

theorem inert_nil : Inert [] := by
  intro later suffix starts
  rw [List.suffix_nil.1 suffix] at starts
  exact not_startsCall_nil starts

/-- Names whose statement is found again as a whole. -/
structure Erasable (name : Text) : Prop where
  braceFree : CodePoint.ofChar '\x7d' ∉ name
  tagFree : ¬ closingTag <:+: name

instance (name : Text) : Decidable (Erasable name) :=
  decidable_of_iff (CodePoint.ofChar '\x7d' ∉ name ∧ ¬ closingTag <:+: name)
    ⟨fun free => ⟨free.1, free.2⟩, fun erasable => ⟨erasable.braceFree, erasable.tagFree⟩⟩

/-- The first script block of a text, if there is one, holds no marker directly
behind a word code point. -/
def UnprefixedScript (text : Text) : Prop :=
  ∀ block, ScriptBlock.find? text = some block → Unprefixed block.content

instance (text : Text) : Decidable (UnprefixedScript text) :=
  inferInstanceAs (Decidable (∀ block ∈ ScriptBlock.find? text, Unprefixed block.content))

theorem patchWith_patchWith (offset : Text → Nat) {text name : Text} (erasable : Erasable name)
    (unprefixed : UnprefixedScript text) (next : Text) :
    patchWith offset (patchWith offset text name).text next =
      ⟨(patchWith offset text next).text, false⟩ := by
  cases found : ScriptBlock.find? text with
  | none =>
      rw [patchWith_of_find? (find?_patchWith_of_none offset found erasable.tagFree),
        patchWith_of_none found]
      have once := wrapped_nameContent_statement inert_nil rfl erasable.braceFree offset [] next
      simp only [List.nil_append, List.append_nil] at once
      simp only [once]
  | some block =>
      rw [patchWith_of_find? (find?_patchWith_of_find? offset found erasable.tagFree),
        patchWith_of_find? found]
      simp only [wrapped_nameContent_wrapped offset (unprefixed block found) erasable.braceFree
        next]

theorem createdScript_patchWith (offset : Text → Nat) (text name : Text) :
    (patchWith offset text name).createdScript = (ScriptBlock.find? text).isNone := by
  cases found : ScriptBlock.find? text with
  | none =>
      rw [patchWith_of_none found]
      rfl
  | some block =>
      rw [patchWith_of_find? found]
      rfl

/-- Gives a component one name after another and keeps what each step leaves. -/
def patchSteps (offset : Text → Nat) : Text → List Text → List Patched
  | _, [] => []
  | text, name :: names =>
      let patched := patchWith offset text name
      patched :: patchSteps offset patched.text names

theorem patchSteps_patchWith (offset : Text → Nat) {text : Text}
    (unprefixed : UnprefixedScript text) {names : List Text}
    (erasable : ∀ name ∈ names, Erasable name) {first : Text} (firstErasable : Erasable first)
    (last : Text) :
    patchSteps offset (patchWith offset text first).text (names ++ [last]) =
      (names ++ [last]).map fun name => ⟨(patchWith offset text name).text, false⟩ := by
  induction names generalizing first with
  | nil =>
      have step := patchWith_patchWith offset firstErasable unprefixed last
      simp only [List.nil_append, patchSteps, step, List.map_cons, List.map_nil]
  | cons next names ih =>
      have step := patchWith_patchWith offset firstErasable unprefixed next
      have later := ih (fun name member => erasable name (List.mem_cons_of_mem next member))
        (erasable next List.mem_cons_self)
      simp only [List.cons_append, patchSteps, step, List.map_cons, later]

/-- The last name wins. Whatever names a component was given before, it ends up as
if the last one had been the only one, and a script block is added in the first
step or never. Nothing is asked of the place that `offset` gives to a new
statement. -/
theorem last_name_wins (offset : Text → Nat) (text : Text) (names : List Text) (last : Text)
    (erasable : ∀ name ∈ names, Erasable name) (unprefixed : UnprefixedScript text) :
    ((patchSteps offset text (names ++ [last])).getLast?.map Patched.text =
      some (patchWith offset text last).text) ∧
    (patchSteps offset text (names ++ [last])).map Patched.createdScript =
      (ScriptBlock.find? text).isNone :: List.replicate names.length false := by
  cases names with
  | nil => simp [patchSteps, createdScript_patchWith]
  | cons first names =>
      have later := patchSteps_patchWith offset unprefixed
        (fun name member => erasable name (List.mem_cons_of_mem first member))
        (erasable first List.mem_cons_self) last
      rw [List.cons_append, patchSteps, later]
      constructor
      · rw [List.map_append, ← List.cons_append]
        simp only [List.map_cons, List.map_nil, List.getLast?_concat, Option.map_some]
      · have flags : ((names ++ [last]).map fun _ => false) =
            List.replicate (first :: names).length false := by
          rw [List.map_const', List.length_append]
          rfl
        simp only [List.map_cons, createdScript_patchWith, List.map_map, Function.comp_def, flags]

def calledTwice : Text :=
  Text.ofString "<script>\na.defineOptions ( \x7b x \x7d ) ;\ndefineOptions()\n</script>"

theorem last_name_wins_calledTwice :
    (∀ name ∈ [Text.ofString "List", Text.ofString "a \"b\""], Erasable name) ∧
    UnprefixedScript calledTwice ∧
    (patchSteps insertOffset calledTwice
      [Text.ofString "List", Text.ofString "a \"b\"", Text.ofString "C\x7d"]).getLast?.map
        Patched.text = some (patchWith insertOffset calledTwice (Text.ofString "C\x7d")).text :=
  ⟨by decide, by decide +kernel,
    (last_name_wins insertOffset calledTwice [Text.ofString "List", Text.ofString "a \"b\""]
      (Text.ofString "C\x7d") (by decide) (by decide +kernel)).1⟩

end ViewNaming.Component
