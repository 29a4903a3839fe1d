import ViewNaming.Grammar.Scan

/-! What scans cut off. A lexeme is the front of the text it was found in, and the text behind it
is the rest of that text, so nothing is lost or made up on the way. The lexemes that end up in a
tree are not empty. Both hold of the small scans and are kept by putting scans together. -/
namespace ViewNaming.Scan

/-- The lexeme and the text behind it make up the text. -/
def Cuts (scan : Scan) : Prop :=
  ∀ text lexeme rest, scan text = some (lexeme, rest) → text = lexeme ++ rest

def Proper (scan : Scan) : Prop :=
  ∀ text lexeme rest, scan text = some (lexeme, rest) → text = lexeme ++ rest ∧ lexeme ≠ []

variable {first second scan : Scan}

theorem Proper.cuts (proper : scan.Proper) : scan.Cuts :=
  fun text lexeme rest found => (proper text lexeme rest found).1

theorem proper_run (holds : CodePoint → Bool) : (run holds).Proper := by
  intro text lexeme rest found
  rw [run] at found
  split at found
  · cases found
  · rename_i nonempty
    cases found
    exact ⟨List.takeWhile_append_dropWhile.symm, nonempty⟩

theorem cuts_exactly (spelling : Text) : (exactly spelling).Cuts := by
  intro text lexeme rest found
  obtain ⟨behind, after, same⟩ := Option.map_eq_some_iff.1 found
  cases same
  exact Text.after?_eq_some_iff.1 after

theorem proper_exactly {spelling : Text} (nonempty : spelling ≠ []) :
    (exactly spelling).Proper := by
  intro text lexeme rest found
  refine ⟨cuts_exactly spelling text lexeme rest found, ?_⟩
  obtain ⟨behind, -, same⟩ := Option.map_eq_some_iff.1 found
  cases same
  exact nonempty

theorem proper_of_head {test : CodePoint → Text → Bool} (none_nil : scan [] = none)
    (head : ∀ c text, scan (c :: text) = if test c text then some ([c], text) else none) :
    scan.Proper := by
  intro text lexeme rest found
  cases text with
  | nil => simp [none_nil] at found
  | cons c text =>
      rw [head] at found
      split at found
      · cases found
        exact ⟨rfl, List.cons_ne_nil c []⟩
      · cases found

theorem proper_one (holds : CodePoint → Bool) : (one holds).Proper :=
  proper_of_head rfl fun _ _ => rfl

theorem proper_loneDollar : loneDollar.Proper := proper_of_head rfl fun _ _ => rfl

theorem proper_blockComment : blockComment.Proper := by
  intro text lexeme rest found
  rw [blockComment] at found
  split at found
  · cases found
  · rename_i behind opened
    obtain ⟨parts, closed, same⟩ := Option.map_eq_some_iff.1 found
    cases same
    rw [Text.after?_eq_some_iff.1 opened, Text.breakOn?_append closed]
    simp [Text.ofString]

theorem Cuts.followedBy (firstCuts : first.Cuts) (secondCuts : second.Cuts) :
    (followedBy first second).Cuts := by
  intro text lexeme rest found
  rw [Scan.followedBy] at found
  split at found
  · cases found
  · rename_i front behind taken
    obtain ⟨back, taken', same⟩ := Option.map_eq_some_iff.1 found
    cases same
    rw [firstCuts _ _ _ taken, secondCuts _ _ _ taken', List.append_assoc]

theorem Proper.followedBy (proper : first.Proper) (cuts : second.Cuts) :
    (followedBy first second).Proper := by
  intro text lexeme rest found
  refine ⟨proper.cuts.followedBy cuts text lexeme rest found, ?_⟩
  rw [Scan.followedBy] at found
  split at found
  · cases found
  · rename_i front behind taken
    obtain ⟨back, -, same⟩ := Option.map_eq_some_iff.1 found
    cases same
    exact List.append_ne_nil_of_left_ne_nil (proper _ _ _ taken).2 _

theorem orElse_cases {text lexeme rest : Text}
    (found : orElse first second text = some (lexeme, rest)) :
    first text = some (lexeme, rest) ∨ second text = some (lexeme, rest) := by
  rw [orElse] at found
  split at found
  · rename_i taken
    cases found
    exact Or.inl taken
  · exact Or.inr found

theorem Cuts.orElse (firstCuts : first.Cuts) (secondCuts : second.Cuts) :
    (orElse first second).Cuts :=
  fun text lexeme rest found =>
    (orElse_cases found).elim (firstCuts text lexeme rest) (secondCuts text lexeme rest)

theorem Proper.orElse (firstProper : first.Proper) (secondProper : second.Proper) :
    (orElse first second).Proper :=
  fun text lexeme rest found =>
    (orElse_cases found).elim (firstProper text lexeme rest) (secondProper text lexeme rest)

theorem Cuts.optional (cuts : scan.Cuts) : (optional scan).Cuts := by
  intro text lexeme rest found
  have taken := Option.some.inj found
  cases here : scan text with
  | none =>
      rw [here] at taken
      cases taken
      rfl
  | some parts =>
      rw [here] at taken
      cases taken
      exact cuts _ _ _ here

theorem cuts_times (holds : CodePoint → Bool) (n : Nat) : (times holds n).Cuts := by
  induction n with
  | zero =>
      intro text lexeme rest found
      cases found
      rfl
  | succ n ih => exact (proper_one holds).cuts.followedBy ih

theorem Cuts.repeatedWithin (cuts : scan.Cuts) (bound : Text) :
    (repeatedWithin scan bound).Cuts := by
  induction bound with
  | nil =>
      intro text lexeme rest found
      cases found
      rfl
  | cons _ bound ih =>
      intro text lexeme rest found
      simp only [Scan.repeatedWithin] at found
      split at found
      · cases found
        rfl
      · cases found
        rfl
      · rename_i front behind _ taken
        obtain ⟨back, taken', same⟩ := Option.map_eq_some_iff.1 found
        cases same
        rw [cuts _ _ _ taken, ih _ _ _ taken', List.append_assoc]

theorem Cuts.repeated (cuts : scan.Cuts) : (repeated scan).Cuts :=
  fun text => cuts.repeatedWithin text text

theorem Proper.filter (proper : scan.Proper) (holds : Text × Text → Bool) :
    Proper fun text => (scan text).filter holds :=
  fun text lexeme rest found => proper text lexeme rest (Option.filter_eq_some_iff.1 found).1

theorem proper_word {spelling : Text} (nonempty : spelling ≠ []) : (word spelling).Proper :=
  (proper_exactly nonempty).filter _

theorem proper_nameEscape : nameEscape.Proper :=
  (proper_exactly (by decide)).followedBy ((cuts_times _ 4).orElse
    ((cuts_exactly _).followedBy ((proper_run _).cuts.followedBy (cuts_exactly _))))

theorem proper_name : name.Proper :=
  ((proper_one _).orElse proper_nameEscape).followedBy
    ((proper_run _).cuts.orElse proper_nameEscape.cuts).repeated

theorem proper_nameExcept (reserved : List Text) : (nameExcept reserved).Proper :=
  proper_name.filter _

theorem proper_privateName : privateName.Proper :=
  (proper_exactly (by decide)).followedBy proper_name.cuts

theorem proper_underscored (holds : CodePoint → Bool) : (underscored holds).Proper :=
  (proper_run holds).followedBy ((cuts_exactly _).followedBy (proper_run holds).cuts).repeated

theorem proper_prefixed (mark : Char) (holds : CodePoint → Bool) :
    (prefixed mark holds).Proper := by
  have letter := (proper_one fun c => c = mark).orElse (proper_one fun c => c = mark.toUpper)
  have digits := (proper_underscored holds).cuts
  exact (proper_exactly (by decide)).followedBy
    (letter.cuts.followedBy (digits.followedBy (cuts_exactly _).optional))

theorem cuts_exponent : exponent.Cuts :=
  ((cuts_exactly _).orElse (cuts_exactly _)).followedBy
    (((cuts_exactly _).orElse (cuts_exactly _)).optional.followedBy (proper_underscored _).cuts)

theorem proper_decimal : decimal.Proper := by
  have digits := proper_underscored CodePoint.isDigit
  have fraction := (cuts_exactly (Text.ofString ".")).followedBy digits.cuts.optional
  have scaled := fraction.optional.followedBy cuts_exponent.optional
  exact (digits.followedBy ((cuts_exactly _).orElse scaled)).orElse
    ((proper_exactly (by decide)).followedBy (digits.cuts.followedBy cuts_exponent.optional))

theorem proper_number : number.Proper :=
  (proper_prefixed _ _).orElse
    ((proper_prefixed _ _).orElse ((proper_prefixed _ _).orElse proper_decimal))

theorem proper_fragment (quote : Char) : (fragment quote).Proper := proper_run _

theorem cuts_escapeBody : escapeBody.Cuts := by
  have digit := (proper_one CodePoint.isOctalDigit).cuts
  have octal := digit.followedBy (digit.followedBy digit.optional).optional
  have braced := (cuts_exactly (Text.ofString "u\x7b")).followedBy
    ((proper_run CodePoint.isHexDigit).cuts.followedBy (cuts_exactly (Text.ofString "\x7d")))
  exact ((proper_one _).cuts.followedBy (proper_one _).cuts).orElse (octal.orElse
    (((cuts_exactly _).followedBy (cuts_times _ 2)).orElse
      (((cuts_exactly _).followedBy (cuts_times _ 4)).orElse (braced.orElse (proper_one _).cuts))))

theorem proper_escape : escape.Proper := (proper_exactly (by decide)).followedBy cuts_escapeBody

theorem proper_templateFragment : templateFragment.Proper := by
  have part : templatePart.Proper := (proper_run _).orElse proper_loneDollar
  exact part.followedBy part.cuts.repeated

theorem proper_pattern : pattern.Proper := by
  have escaped : (followedBy (exactly "\\") (one fun c => c ≠ '\n')).Proper :=
    (proper_exactly (by decide)).followedBy (proper_one _).cuts
  have member : classMember.Cuts := escaped.cuts.orElse (proper_one _).cuts
  have part : patternPart.Proper :=
    ((proper_exactly (by decide)).followedBy (member.repeated.followedBy (cuts_exactly _))).orElse
      (escaped.orElse (proper_one _))
  exact part.followedBy part.cuts.repeated

theorem proper_patternFlags : patternFlags.Proper := proper_run _

theorem proper_htmlComment : htmlComment.Proper :=
  ((proper_exactly (by decide)).orElse (proper_exactly (by decide))).followedBy
    (proper_run _).cuts.optional

theorem proper_hashBang : hashBang.Proper :=
  (proper_exactly (by decide)).followedBy (proper_run _).cuts.optional

theorem proper_comment : comment.Proper :=
  ((proper_exactly (by decide)).followedBy (proper_run _).cuts.optional).orElse
    proper_blockComment

theorem proper_any : any.Proper := proper_name.orElse (proper_number.orElse (proper_one _))

end ViewNaming.Scan
