import ViewNaming.Proofs.Text.Scalar
import ViewNaming.Task

/-! Which messages reporters take. Neither the recorder nor the console refuses a
message that has an encoded form. Colour codes are plain ASCII, so dropping them takes away
no surrogate, and the console refuses every other message on the stream for information. -/
namespace ViewNaming

def isColourMark (c : CodePoint) : Bool := c = ';' || c = '?' || c.isDigit

theorem not_surrogate_of_colourMark {c : CodePoint} (mark : isColourMark c = true) :
    c.isSurrogate = false := by
  simp only [isColourMark, Bool.or_eq_true, decide_eq_true_eq, CodePoint.isDigit,
    Bool.and_eq_true] at mark
  rcases mark with (rfl | rfl) | digit
  · exact CodePoint.isSurrogate_ofChar ';'
  · exact CodePoint.isSurrogate_ofChar '?'
  · simp only [CodePoint.isSurrogate, Bool.and_eq_false_iff, decide_eq_false_iff_not]
    omega

theorem exists_code_of_colourEnd? {text rest : Text} (found : colourEnd? text = some rest) :
    ∃ code : Text, code.Scalar ∧ text = code ++ rest := by
  rw [colourEnd?] at found
  split at found
  · cases found
  · rename_i c behind dropped
    split at found
    · rename_i letter
      cases found
      refine ⟨text.takeWhile isColourMark ++ [c], ?_, ?_⟩
      · simp only [Bool.or_eq_true, Bool.and_eq_true, decide_eq_true_eq] at letter
        simp only [Text.scalar_append, Text.scalar_cons, Text.scalar_nil, and_true]
        refine ⟨fun d member => not_surrogate_of_colourMark (List.mem_takeWhile_imp member), ?_⟩
        simp only [CodePoint.isSurrogate, Bool.and_eq_false_iff, decide_eq_false_iff_not]
        omega
      · rw [List.append_assoc, List.singleton_append, ← dropped]
        exact List.takeWhile_append_dropWhile.symm
    · cases found

theorem exists_code_of_afterColour? {text rest : Text} (found : afterColour? text = some rest) :
    ∃ code : Text, code.Scalar ∧ code ≠ [] ∧ text = code ++ rest := by
  rw [afterColour?, Option.bind_eq_some_iff] at found
  obtain ⟨behind, opened, ended⟩ := found
  obtain ⟨code, scalar, rfl⟩ := exists_code_of_colourEnd? ended
  exact ⟨Text.ofString "\x1b[" ++ code, by simp [scalar], by simp [Text.ofString],
    by rw [List.append_assoc, ← Text.after?_eq_some_iff.1 opened]⟩

theorem scalar_plainWithin_iff {bound text : Text} (enough : text.length ≤ bound.length) :
    (plainWithin bound text).Scalar ↔ text.Scalar := by
  fun_induction plainWithin bound text with
  | case1 text => simp [List.length_eq_zero_iff.1 (Nat.le_zero.1 enough)]
  | case2 => exact Iff.rfl
  | case3 _ bound c text rest found ih =>
      obtain ⟨code, scalar, filled, whole⟩ := exists_code_of_afterColour? found
      have shorter : rest.length ≤ bound.length := by
        have length := congrArg List.length whole
        have positive := List.length_pos_iff.2 filled
        simp only [List.length_cons, List.length_append] at length enough
        omega
      rw [ih shorter, whole, Text.scalar_append]
      exact (and_iff_right scalar).symm
  | case4 _ bound c text _ ih =>
      rw [Text.scalar_cons, Text.scalar_cons, ih (Nat.le_of_succ_le_succ enough)]

namespace Reporter

/-- Refuses no message that has an encoded form. -/
def TakesScalar (reporter : Reporter) : Prop :=
  ∀ message : Message, message.text.Scalar → reporter.refusal? message = none

theorem takesScalar_recorder : recorder.TakesScalar := fun _ _ => rfl

theorem refusal?_console_eq_none_iff {level : Level} {text : Text} :
    console.refusal? ⟨level, text⟩ = none ↔ level = .info → text.Scalar := by
  have line : (Console.line ⟨level, text⟩).Scalar ↔ text.Scalar := by
    rw [Console.line, Text.scalar_append, plain, scalar_plainWithin_iff (Nat.le_refl _)]
    exact and_iff_left (Text.scalar_ofString "\n")
  cases level with
  | info =>
      rw [← line, ← Utf8.exists_encode_iff]
      cases encoded : Utf8.encode (Console.line ⟨.info, text⟩) with
      | ok bytes => simp [console, Console.refusal?, encoded]
      | error e => simp [console, Console.refusal?, encoded]
  | warn => simp [console, Console.refusal?]
  | error => simp [console, Console.refusal?]

theorem takesScalar_console : console.TakesScalar :=
  fun _ scalar => refusal?_console_eq_none_iff.2 fun _ => scalar

/-- Whether a message is taken depends on its level and on whether it has an encoded form. -/
def JudgesEncoding (reporter : Reporter) : Prop :=
  ∀ (level : Level) (text other : Text), (text.Scalar ↔ other.Scalar) →
    (reporter.refusal? ⟨level, text⟩ = none ↔ reporter.refusal? ⟨level, other⟩ = none)

theorem judgesEncoding_recorder : recorder.JudgesEncoding := fun _ _ _ _ => Iff.rfl

theorem judgesEncoding_console : console.JudgesEncoding := by
  intro level text other same
  rw [refusal?_console_eq_none_iff, refusal?_console_eq_none_iff, same]

end Reporter

end ViewNaming
