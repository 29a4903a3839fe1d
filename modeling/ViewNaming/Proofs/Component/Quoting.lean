import ViewNaming.Literal
import ViewNaming.Proofs.Component.Statement

/-! A written name read back. Between its quotes a statement holds the name with a backslash
in front of every backslash and every double quote. Whatever way this is cut into fragments
and escapes, each part gives back the stretch of the name that it was written for, because a
fragment can hold no backslash and an escape holds exactly one code point behind it. Only a
line break in the name leaves no such cut. -/
namespace ViewNaming.Component

/-- What stands between the first and the last double quote of a line. -/
def betweenQuotes (line : Text) : Text :=
  let isOther := fun c : CodePoint => c ≠ CodePoint.ofChar '"'
  ((line.dropWhile isOther).tail.rdropWhile isOther).dropLast

theorem betweenQuotes_append {lead inner tail : Text} (inLead : CodePoint.ofChar '"' ∉ lead)
    (inTail : CodePoint.ofChar '"' ∉ tail) :
    betweenQuotes (lead ++ CodePoint.ofChar '"' :: (inner ++ CodePoint.ofChar '"' :: tail)) =
      inner := by
  have leadOther : ∀ c ∈ lead, decide (c ≠ CodePoint.ofChar '"') = true := by
    intro c member
    exact decide_eq_true fun same => inLead (same ▸ member)
  have tailOther : ∀ c ∈ tail.reverse, decide (c ≠ CodePoint.ofChar '"') = true := by
    intro c member
    exact decide_eq_true fun same => inTail (same ▸ List.mem_reverse.1 member)
  simp only [betweenQuotes]
  rw [List.dropWhile_append_of_pos leadOther, List.dropWhile_cons_of_neg (by simp), List.tail_cons,
    List.rdropWhile, List.reverse_append, List.reverse_cons, List.append_assoc,
    List.dropWhile_append_of_pos tailOther, List.singleton_append,
    List.dropWhile_cons_of_neg (by simp), List.reverse_cons, List.reverse_reverse,
    List.dropLast_concat]

theorem betweenQuotes_statement (name : Text) : betweenQuotes (statement name) = escape name := by
  have inLead : CodePoint.ofChar '"' ∉
      CodePoint.ofChar 'd' :: Text.ofString "efineOptions(\x7b name: " := by decide
  have inTail : CodePoint.ofChar '"' ∉ Text.ofString " \x7d)" ++ [CodePoint.ofChar ';'] := by decide
  rw [statement_eq, ← List.cons_append]
  exact betweenQuotes_append inLead inTail

/-- A part of a text in double quotes: a fragment, which holds no quote, no backslash and no
line break, or a backslash with one code point behind it. -/
inductive IsPart (part : Node) : Prop
  | fragment : part.is .stringFragment = true →
      (∀ c ∈ part.text, c ≠ CodePoint.ofChar '"' ∧ c ≠ CodePoint.ofChar '\\' ∧
        c ≠ CodePoint.ofChar '\r' ∧ c ≠ CodePoint.ofChar '\n') → IsPart part
  | escaped (c : CodePoint) : part.is .escapeSequence = true →
      part.text = [CodePoint.ofChar '\\', c] → IsPart part

/-- A text in double quotes, cut into parts, and what stands between its quotes. -/
structure Quotes (literal : Node) (inside : Text) : Prop where
  isString : literal.is .string = true
  parts : ∀ part ∈ literal.namedChildren, IsPart part
  text : literal.namedChildren.flatMap Node.text = inside

def OneLine (text : Text) : Prop := CodePoint.ofChar '\r' ∉ text ∧ CodePoint.ofChar '\n' ∉ text

theorem oneLine_append {front back : Text} :
    OneLine (front ++ back) ↔ OneLine front ∧ OneLine back := by
  simp only [OneLine, List.mem_append, not_or]
  exact and_and_and_comm

theorem escape_of_plain {text : Text} (plain : Plain text) : escape text = text := by
  induction text with
  | nil => rfl
  | cons c text ih =>
      have first := plain c List.mem_cons_self
      rw [escape_cons, ih fun d member => plain d (List.mem_cons_of_mem c member), escapeCodePoint]
      simp [first]

theorem escape_eq_nil_iff {name : Text} : escape name = [] ↔ name = [] := by
  cases name with
  | nil => simp
  | cons c name =>
      rw [escape_cons, escapeCodePoint]
      split <;> simp

theorem decodeEscape_special {c : CodePoint} (special : (c = '\\' || c = '"') = true) :
    Literal.decodeEscape [CodePoint.ofChar '\\', c] = .ok [c] ∧ OneLine [c] := by
  simp only [Bool.or_eq_true, decide_eq_true_eq] at special
  rcases special with rfl | rfl
  · exact ⟨rfl, by unfold OneLine; decide⟩
  · exact ⟨rfl, by unfold OneLine; decide⟩

theorem IsPart.reads {part : Node} {rest name : Text} (isPart : IsPart part)
    (split : part.text ++ rest = escape name) :
    ∃ front back, name = front ++ back ∧ rest = escape back ∧
      Literal.decodePart part = .ok front ∧ OneLine front := by
  cases isPart with
  | fragment isFragment clean =>
      have plain : Plain part.text := fun c member => ⟨(clean c member).2.1, (clean c member).1⟩
      obtain ⟨back, rfl⟩ := prefix_of_prefix_escape plain ⟨rest, split⟩
      rw [escape_append, escape_of_plain plain] at split
      refine ⟨part.text, back, rfl, List.append_cancel_left split, ?_, ?_⟩
      · rw [Literal.decodePart, if_pos isFragment]
      · exact ⟨fun member => (clean _ member).2.2.1 rfl, fun member => (clean _ member).2.2.2 rfl⟩
  | escaped c isEscape text =>
      have notFragment : part.is .stringFragment ≠ true := by
        rw [Node.is_iff] at isEscape
        simp [Node.is, isEscape]
      cases name with
      | nil => simp [text] at split
      | cons d name =>
          rw [text, escape_cons, escapeCodePoint] at split
          split at split
          · rename_i special
            obtain ⟨-, tail⟩ := List.cons.inj split
            obtain ⟨rfl, rfl⟩ := List.cons.inj tail
            obtain ⟨decoded, oneLine⟩ := decodeEscape_special special
            refine ⟨[c], name, rfl, rfl, ?_, oneLine⟩
            rw [Literal.decodePart, if_neg notFragment, if_pos isEscape, text, decoded]
          · rename_i plain
            obtain ⟨rfl, -⟩ := List.cons.inj split
            simp at plain

theorem decodeParts_escape {parts : List Node} {name : Text}
    (isPart : ∀ part ∈ parts, IsPart part) (text : parts.flatMap Node.text = escape name) :
    Literal.decodeParts parts = .ok name ∧ OneLine name := by
  induction parts generalizing name with
  | nil =>
      rw [escape_eq_nil_iff.1 text.symm]
      exact ⟨rfl, by unfold OneLine; decide⟩
  | cons part parts ih =>
      rw [List.flatMap_cons] at text
      obtain ⟨front, back, rfl, later, decoded, oneLine⟩ :=
        (isPart part List.mem_cons_self).reads text
      obtain ⟨decodedLater, oneLineLater⟩ :=
        ih (fun other member => isPart other (List.mem_cons_of_mem part member)) later
      refine ⟨?_, oneLine_append.2 ⟨oneLine, oneLineLater⟩⟩
      rw [Literal.decodeParts, decoded, decodedLater]
      rfl

def partOf (c : CodePoint) : Node :=
  .mk (.phrase (if c = '\\' || c = '"' then .escapeSequence else .stringFragment)) none 0
    (escapeCodePoint c) []

theorem isPart_partOf {c : CodePoint} (oneLine : OneLine [c]) : IsPart (partOf c) := by
  simp only [OneLine, List.mem_singleton] at oneLine
  by_cases special : (c = '\\' || c = '"') = true
  · refine IsPart.escaped c ?_ ?_
    · simp only [Node.is, partOf, Node.kind, if_pos special, decide_true]
    · simp only [partOf, Node.text, escapeCodePoint, if_pos special]
  · refine IsPart.fragment ?_ ?_
    · simp only [Node.is, partOf, Node.kind, if_neg special, decide_true]
    · simp only [partOf, Node.text, escapeCodePoint, if_neg special, List.mem_singleton]
      simp only [Bool.or_eq_true, decide_eq_true_eq, not_or] at special
      rintro d rfl
      exact ⟨special.2, special.1, Ne.symm oneLine.1, Ne.symm oneLine.2⟩

def literalOf (name : Text) : Node := .mk (.phrase .string) none 0 [] (name.map partOf)

theorem quotes_literalOf {name : Text} (oneLine : OneLine name) :
    Quotes (literalOf name) (escape name) := by
  have named : (literalOf name).namedChildren = name.map partOf := by
    change (name.map partOf).filter Node.isNamed = name.map partOf
    rw [List.filter_eq_self]
    intro part member
    obtain ⟨c, -, rfl⟩ := List.mem_map.1 member
    rfl
  refine ⟨rfl, ?_, ?_⟩
  · rw [named]
    intro part member
    obtain ⟨c, inName, rfl⟩ := List.mem_map.1 member
    obtain ⟨front, back, rfl⟩ := List.append_of_mem inName
    rw [← List.singleton_append, oneLine_append, oneLine_append] at oneLine
    exact isPart_partOf oneLine.2.1
  · rw [named, List.flatMap_map]
    rfl

theorem escapeCodePoint_append_inj {c d : CodePoint} {rest rest' : Text}
    (same : escapeCodePoint c ++ rest = escapeCodePoint d ++ rest') : c = d ∧ rest = rest' := by
  simp only [escapeCodePoint] at same
  split at same
  · split at same
    · obtain ⟨-, tail⟩ := List.cons.inj same
      exact List.cons.inj tail
    · rename_i plain
      obtain ⟨rfl, -⟩ := List.cons.inj same
      simp at plain
  · rename_i plain
    split at same
    · obtain ⟨rfl, -⟩ := List.cons.inj same
      simp at plain
    · exact List.cons.inj same

theorem escape_injective : Function.Injective escape := by
  intro name
  induction name with
  | nil =>
      intro other same
      exact (escape_eq_nil_iff.1 same.symm).symm
  | cons c name ih =>
      intro other same
      cases other with
      | nil => exact escape_eq_nil_iff.1 same
      | cons d other =>
          obtain ⟨rfl, later⟩ := escapeCodePoint_append_inj same
          rw [ih later]

/-- A written name reads back. What stands between the quotes of a statement is the inside of
a quoted text exactly if the name is on one line, and however it is cut into fragments and
escapes, its value is the name. No two names share a statement. -/
theorem statement_reads_back (name : Text) :
    ((∃ literal, Quotes literal (betweenQuotes (statement name))) ↔
      CodePoint.ofChar '\r' ∉ name ∧ CodePoint.ofChar '\n' ∉ name) ∧
    (∀ literal, Quotes literal (betweenQuotes (statement name)) →
      Literal.value literal = .ok name) ∧
    Function.Injective statement := by
  rw [betweenQuotes_statement]
  refine ⟨⟨?_, ?_⟩, ?_, ?_⟩
  · rintro ⟨literal, quotes⟩
    exact (decodeParts_escape quotes.parts quotes.text).2
  · intro oneLine
    exact ⟨literalOf name, quotes_literalOf oneLine⟩
  · intro literal quotes
    rw [Literal.value_of_is quotes.isString, (decodeParts_escape quotes.parts quotes.text).1]
  · intro first second same
    apply escape_injective
    rw [← betweenQuotes_statement, same, betweenQuotes_statement]

def trickyName : Text := Text.ofString "\\u\"n\\"

def trickyLiteral : Node :=
  .mk (.phrase .string) none 0 (Text.ofString "\"\\\\u\\\"n\\\\\"")
    [.mk (.token "\"") none 0 (Text.ofString "\"") [],
      .mk (.phrase .escapeSequence) none 1 (Text.ofString "\\\\") [],
      .mk (.phrase .stringFragment) none 3 (Text.ofString "u") [],
      .mk (.phrase .escapeSequence) none 4 (Text.ofString "\\\"") [],
      .mk (.phrase .stringFragment) none 6 (Text.ofString "n") [],
      .mk (.phrase .escapeSequence) none 7 (Text.ofString "\\\\") [],
      .mk (.token "\"") none 9 (Text.ofString "\"") []]

theorem statement_reads_back_trickyName :
    Quotes trickyLiteral (betweenQuotes (statement trickyName)) ∧
    Literal.value trickyLiteral = .ok trickyName := by
  have quotes : Quotes trickyLiteral (betweenQuotes (statement trickyName)) := by
    refine ⟨rfl, ?_, rfl⟩
    change ∀ part ∈ [_, _, _, _, _], IsPart part
    simp only [List.forall_mem_cons, List.not_mem_nil, false_implies, implies_true, and_true]
    exact ⟨.escaped _ rfl rfl, .fragment rfl (by decide), .escaped _ rfl rfl,
      .fragment rfl (by decide), .escaped _ rfl rfl⟩
  exact ⟨quotes, (statement_reads_back trickyName).2.1 trickyLiteral quotes⟩

end ViewNaming.Component
