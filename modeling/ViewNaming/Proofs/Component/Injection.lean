import Mathlib.Data.List.Infix
import ViewNaming.Component.Injection
import ViewNaming.Proofs.Text.Validity

/-! Where a new statement is put. The imports of a module are found as stretches of bytes,
and the script is cut by code points, so what is in front of an import counts by its width
there and by its length here. The cut comes behind the last import and the line break that
follows it, and the new line is the only thing that is added, on a line of its own. -/
namespace ViewNaming

namespace Text

theorem beginsWith_iff_prefix {lead text : Text} : beginsWith lead text = true ↔ lead <+: text := by
  rw [beginsWith_iff, List.IsPrefix]
  exact exists_congr fun _ => eq_comm

theorem endsWith_iff_suffix {tail text : Text} : endsWith tail text = true ↔ tail <:+ text := by
  rw [endsWith_iff, List.IsSuffix]
  exact exists_congr fun _ => eq_comm

end Text

namespace Utf8

@[simp] theorem width_append (front back : Text) :
    width (front ++ back) = width front + width back := by
  simp [width]

theorem width_take_le {text : Text} {first second : Nat} (le : first ≤ second) :
    width (text.take first) ≤ width (text.take second) := by
  obtain ⟨rest, whole⟩ := List.take_prefix_take_left (l := text) le
  rw [← whole, width_append]
  exact Nat.le_add_right _ _

theorem width_pos {text : Text} (nonempty : text ≠ []) : 0 < width text := by
  cases text with
  | nil => exact absurd rfl nonempty
  | cons c text =>
      have some : encodeScalar c ≠ [] := by
        rw [encodeScalar]
        split_ifs <;> simp
      rw [width, List.flatMap_cons, List.length_append]
      exact Nat.add_pos_left (List.length_pos_iff.2 some) _

theorem width_take_lt {text : Text} {first second : Nat} (lt : first < second)
    (within : second ≤ text.length) : width (text.take first) < width (text.take second) := by
  obtain ⟨rest, whole⟩ := List.take_prefix_take_left (l := text) (Nat.le_of_lt lt)
  have nonempty : rest ≠ [] := by
    rintro rfl
    have length := congrArg List.length whole
    simp only [List.append_nil, List.length_take] at length
    omega
  rw [← whole, width_append]
  exact Nat.lt_add_of_pos_right (width_pos nonempty)

theorem encode_take_width {front back : Text} {bytes : Bytes}
    (encoded : encode (front ++ back) = .ok bytes) :
    encode front = .ok (bytes.take (width front)) := by
  obtain ⟨left, right, encodedFront, -, rfl⟩ := encode_append_eq_ok_iff.1 encoded
  have length : width front = left.length :=
    congrArg List.length (encode_eq_ok_iff.1 encodedFront).2
  rw [length, List.take_left, encodedFront]

end Utf8

namespace Component

theorem offsetOfByte_width {front back : Text} (scalar : (front ++ back).Scalar) :
    offsetOfByte (front ++ back) (Utf8.width front) = front.length := by
  obtain ⟨bytes, encoded⟩ := Utf8.exists_encode_iff.2 scalar
  have decoded := Utf8.decode_of_encode (Utf8.encode_take_width encoded)
  simp only [offsetOfByte, encoded, decoded]

/-- The line break that a text begins with, where `lineBreak` is what was taken of the text
and `tail` what was left. A carriage return alone is left. -/
def TakesLineBreak (lineBreak tail : Text) : Prop :=
  lineBreak = carriageReturnLineFeed ∨ lineBreak = lineFeed ∨
    lineBreak = [] ∧ ¬ carriageReturnLineFeed <+: tail ∧ ¬ lineFeed <+: tail

theorem passLineBreak_append (front rest : Text) :
    ∃ lineBreak tail, rest = lineBreak ++ tail ∧ TakesLineBreak lineBreak tail ∧
      passLineBreak (front ++ rest) front.length = (front ++ lineBreak).length := by
  simp only [passLineBreak, List.drop_left, Text.beginsWith_iff_prefix, List.length_append]
  split
  · rename_i crlf
    obtain ⟨tail, rfl⟩ := crlf
    exact ⟨carriageReturnLineFeed, tail, rfl, Or.inl rfl, rfl⟩
  · rename_i noCrlf
    split
    · rename_i lf
      obtain ⟨tail, rfl⟩ := lf
      exact ⟨lineFeed, tail, rfl, Or.inr (Or.inl rfl), rfl⟩
    · rename_i noLf
      exact ⟨[], rest, rfl, Or.inr (Or.inr ⟨rfl, noCrlf, noLf⟩), rfl⟩

theorem TakesLineBreak.not_split {lineBreak tail : Text} (takes : TakesLineBreak lineBreak tail)
    (front : Text) :
    ¬ ([CodePoint.ofChar '\r'] <:+ front ++ lineBreak ∧ lineFeed <+: tail) := by
  have apart : CodePoint.ofChar '\n' ≠ CodePoint.ofChar '\r' := by decide
  rintro ⟨⟨before, ends⟩, begins⟩
  rcases takes with rfl | rfl | ⟨-, -, noLf⟩
  · have last := congrArg List.getLast? ends
    simp [carriageReturnLineFeed, Text.ofString, apart.symm] at last
  · have last := congrArg List.getLast? ends
    simp [lineFeed, Text.ofString, apart.symm] at last
  · exact noLf begins

/-- The statements of a module stand one behind the other in the encoded script. None of
them is empty, and each ends where a code point of the script ends. -/
structure Laid (content : Text) (statements : List Extent) : Prop where
  nonempty : ∀ statement ∈ statements, statement.start < statement.stop
  ordered : statements.Pairwise fun earlier later => earlier.stop ≤ later.start
  boundary : ∀ statement ∈ statements, ∃ front, front <+: content ∧
    Utf8.width front = statement.stop

instance (content : Text) (statements : List Extent) : Decidable (Laid content statements) :=
  decidable_of_iff
    ((∀ statement ∈ statements, statement.start < statement.stop) ∧
      (statements.Pairwise fun earlier later => earlier.stop ≤ later.start) ∧
      ∀ statement ∈ statements, ∃ front ∈ content.inits, Utf8.width front = statement.stop)
    ⟨fun ⟨nonempty, ordered, boundary⟩ => ⟨nonempty, ordered, fun statement member =>
        (boundary statement member).imp fun _ => And.imp_left (List.mem_inits _ _).1⟩,
      fun laid => ⟨laid.nonempty, laid.ordered, fun statement member =>
        (laid.boundary statement member).imp fun _ => And.imp_left (List.mem_inits _ _).2⟩⟩

/-- An import of the module behind which no other one ends. -/
structure IsLastImport (statements : List Extent) (last : Extent) : Prop where
  member : last ∈ statements
  isImport : last.isImport = true
  latest : ∀ statement ∈ statements, statement.isImport = true → statement.stop ≤ last.stop

theorem lastImport?_eq_none_iff {statements : List Extent} :
    lastImport? statements = none ↔ ∀ statement ∈ statements, statement.isImport = false := by
  simp [lastImport?]

theorem Laid.isLastImport {content : Text} {statements : List Extent} {last : Extent}
    (laid : Laid content statements) (found : lastImport? statements = some last) :
    IsLastImport statements last := by
  obtain ⟨earlier, imports⟩ := List.getLast?_eq_some_iff.1 found
  have mem_iff : ∀ statement, statement ∈ earlier ++ [last] ↔
      statement ∈ statements ∧ statement.isImport = true := by
    intro statement
    rw [← imports, List.mem_filter]
  obtain ⟨member, isImport⟩ := (mem_iff last).1 (by simp)
  refine ⟨member, isImport, ?_⟩
  intro statement among imported
  have inOrder : (earlier ++ [last]).Pairwise fun e l => e.stop ≤ l.start := by
    rw [← imports]
    exact laid.ordered.filter _
  rcases List.mem_append.1 ((mem_iff statement).2 ⟨among, imported⟩) with before | same
  · have apart := (List.pairwise_append.1 inOrder).2.2 statement before last (by simp)
    exact Nat.le_of_lt (Nat.lt_of_le_of_lt apart (laid.nonempty last member))
  · rw [List.mem_singleton.1 same]

/-- A script cut behind an import: the head reaches to the end of the import and takes in
the line break that directly follows. -/
structure CutBehind (content : Text) (last : Extent) (head tail : Text) : Prop where
  whole : content = head ++ tail
  reach : ∃ front lineBreak, head = front ++ lineBreak ∧ Utf8.width front = last.stop ∧
    TakesLineBreak lineBreak tail

theorem CutBehind.stop_le_width {content head tail : Text} {last : Extent}
    (cut : CutBehind content last head tail) : last.stop ≤ Utf8.width head := by
  obtain ⟨front, lineBreak, rfl, width, -⟩ := cut.reach
  rw [Utf8.width_append, width]
  exact Nat.le_add_right ..

theorem CutBehind.not_split {content head tail : Text} {last : Extent}
    (cut : CutBehind content last head tail) :
    ¬ ([CodePoint.ofChar '\r'] <:+ head ∧ lineFeed <+: tail) := by
  obtain ⟨front, lineBreak, rfl, -, takes⟩ := cut.reach
  exact takes.not_split front

theorem exists_cutBehind {content : Text} {statements : List Extent} {last : Extent}
    (scalar : content.Scalar) (laid : Laid content statements)
    (found : lastImport? statements = some last) :
    ∃ head tail, CutBehind content last head tail ∧
      insertOffsetIn statements content = head.length := by
  obtain ⟨front, ⟨rest, rfl⟩, width⟩ :=
    laid.boundary last (laid.isLastImport found).member
  obtain ⟨lineBreak, tail, rfl, takes, offset⟩ := passLineBreak_append front rest
  refine ⟨front ++ lineBreak, tail, ⟨by simp, front, lineBreak, rfl, width, takes⟩, ?_⟩
  simp only [insertOffsetIn, found, ← width, offsetOfByte_width scalar, offset]

def separator (head : Text) : Text := if lineFeed <:+ head then [] else lineFeed

def newLineBreak (head : Text) : Text :=
  if carriageReturnLineFeed <:+ head then carriageReturnLineFeed else lineFeed

theorem insertAt_length {head : Text} (nonempty : head ≠ []) (line tail : Text) :
    insertAt head.length line (head ++ tail) =
      head ++ separator head ++ line ++ newLineBreak head ++ tail := by
  have offset : head.length ≠ 0 := by simpa using nonempty
  have crlfEnds : carriageReturnLineFeed <:+ head → lineFeed <:+ head :=
    fun ends => (List.suffix_append [CodePoint.ofChar '\r'] lineFeed).trans ends
  simp only [insertAt, if_neg offset, List.take_left, List.drop_left,
    Text.endsWith_iff_suffix, separator, newLineBreak]
  by_cases lf : lineFeed <:+ head
  · simp only [if_pos lf]
  · simp only [if_neg lf, if_neg fun crlf => lf (crlfEnds crlf)]

theorem exists_insertion {content : Text} {statements : List Extent} {last : Extent}
    (scalar : content.Scalar) (laid : Laid content statements)
    (found : lastImport? statements = some last) (line : Text) :
    ∃ head tail, CutBehind content last head tail ∧
      insertOffsetIn statements content = head.length ∧
      insertAt (insertOffsetIn statements content) line content =
        head ++ separator head ++ line ++ newLineBreak head ++ tail := by
  obtain ⟨head, tail, cut, offset⟩ := exists_cutBehind scalar laid found
  have reached := cut.stop_le_width
  have begins := laid.nonempty last (laid.isLastImport found).member
  have nonempty : head ≠ [] := by
    rintro rfl
    exact Nat.not_lt_zero _ (Nat.lt_of_lt_of_le begins reached)
  refine ⟨head, tail, cut, offset, ?_⟩
  rw [offset, cut.whole, insertAt_length nonempty]

theorem insertAt_of_none {statements : List Extent} (found : lastImport? statements = none)
    (line content : Text) :
    insertAt (insertOffsetIn statements content) line content = line ++ lineFeed ++ content := by
  rw [insertOffsetIn, found, insertAt, if_pos rfl]

theorem lineFeed_suffix_separator (head : Text) : lineFeed <:+ head ++ separator head := by
  rw [separator]
  split
  · rename_i ends
    simpa using ends
  · exact List.suffix_append head lineFeed

/-- The injection point. With imports, the script is cut behind the last one and the line
break that follows it; all imports are in front of the cut, no line break is cut in two, and
the new line stands between the parts, on a line of its own that ends like the line before.
Without imports the new line comes first. -/
theorem insertAt_behind_imports (content line : Text) (statements : List Extent)
    (scalar : content.Scalar) (laid : Laid content statements) :
    ((∃ statement ∈ statements, statement.isImport = true) →
      ∃ last head tail, IsLastImport statements last ∧ CutBehind content last head tail ∧
        insertOffsetIn statements content = head.length ∧
        insertAt (insertOffsetIn statements content) line content =
          head ++ separator head ++ line ++ newLineBreak head ++ tail ∧
        lineFeed <:+ head ++ separator head ∧
        (∀ statement ∈ statements, statement.isImport = true →
          statement.stop ≤ Utf8.width head ∧ ¬ Utf8.width head ≤ statement.start) ∧
        ¬ ([CodePoint.ofChar '\r'] <:+ head ∧ lineFeed <+: tail)) ∧
    ((∀ statement ∈ statements, statement.isImport = false) →
      insertAt (insertOffsetIn statements content) line content =
        line ++ lineFeed ++ content) := by
  constructor
  · rintro ⟨statement, member, imported⟩
    cases found : lastImport? statements with
    | none =>
        rw [lastImport?_eq_none_iff.1 found statement member] at imported
        cases imported
    | some last =>
        have isLast := laid.isLastImport found
        obtain ⟨head, tail, cut, offset, inserted⟩ := exists_insertion scalar laid found line
        have reached := cut.stop_le_width
        have inside : ∀ other ∈ statements, other.isImport = true →
            other.stop ≤ Utf8.width head ∧ ¬ Utf8.width head ≤ other.start := by
          intro other among otherImported
          have ends := isLast.latest other among otherImported
          have begins := laid.nonempty other among
          omega
        exact ⟨last, head, tail, isLast, cut, offset, inserted, lineFeed_suffix_separator head,
          inside, cut.not_split⟩
  · intro importFree
    exact insertAt_of_none (lastImport?_eq_none_iff.2 importFree) line content

def wideScript : Text := Text.ofString "import'a';/*é😀*/import'b'\r\n//c"

def wideStatements : List Extent :=
  [⟨.phrase .importStatement, 0, 10⟩, ⟨.phrase .comment, 10, 20⟩,
    ⟨.phrase .importStatement, 20, 29⟩, ⟨.phrase .comment, 31, 34⟩]

def importFreeScript : Text := Text.ofString "//é"

theorem insertAt_behind_imports_wideScript :
    statementsOf wideScript = wideStatements ∧ wideScript.Scalar ∧
    Laid wideScript wideStatements ∧
    (∃ statement ∈ wideStatements, statement.isImport = true) ∧
    (∃ last head tail, IsLastImport wideStatements last ∧ CutBehind wideScript last head tail ∧
      insertOffset wideScript = head.length ∧ head.length = 27 ∧
      insertAt (insertOffset wideScript) lineFeed wideScript =
        head ++ separator head ++ lineFeed ++ newLineBreak head ++ tail) ∧
    statementsOf importFreeScript = [⟨.phrase .comment, 0, 4⟩] ∧
    insertAt (insertOffset importFreeScript) lineFeed importFreeScript =
      lineFeed ++ lineFeed ++ importFreeScript := by
  have listed : statementsOf wideScript = wideStatements := by decide +kernel
  have listedFree : statementsOf importFreeScript = [⟨.phrase .comment, 0, 4⟩] := by decide +kernel
  have scalar : wideScript.Scalar := Text.scalar_ofString _
  have laid : Laid wideScript wideStatements := by decide +kernel
  have laidFree : Laid importFreeScript [⟨.phrase .comment, 0, 4⟩] := by decide +kernel
  have imported : ∃ statement ∈ wideStatements, statement.isImport = true := by decide
  have place : insertOffsetIn wideStatements wideScript = 27 := by decide +kernel
  obtain ⟨last, head, tail, isLast, cut, offset, inserted, -⟩ :=
    (insertAt_behind_imports wideScript lineFeed wideStatements scalar laid).1 imported
  rw [insertOffset, insertOffset, listed, listedFree]
  exact ⟨rfl, scalar, laid, imported,
    ⟨last, head, tail, isLast, cut, offset, offset.symm.trans place, inserted⟩, rfl,
    (insertAt_behind_imports importFreeScript lineFeed _ (Text.scalar_ofString _) laidFree).2
      (by decide)⟩

end Component

end ViewNaming
