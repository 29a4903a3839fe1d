import ViewNaming.Proofs.Exclusion
import ViewNaming.Proofs.Path
import ViewNaming.Proofs.Run.Messages

/-! The two spellings of a component, with and without the ending of its file. Both lead to
the same file. Exclusion is by whole segments of the path as it is written, and the file is a
segment like the directories in front of it. So the spellings are treated alike exactly where
their last segments are, or where a directory decides. -/
namespace ViewNaming

open TypeScript (Parser)

def directories (relativePath : Text) : List Text := (relativePath.pieces isSeparator).dropLast

def fileName (relativePath : Text) : Text := (relativePath.pieces isSeparator).getLastD []

theorem pieces_ending (relativePath : Text) :
    relativePath.pieces isSeparator = directories relativePath ++ [fileName relativePath] ∧
    (relativePath ++ Path.componentEnding).pieces isSeparator =
      directories relativePath ++ [fileName relativePath ++ Path.componentEnding] := by
  have free : ∀ c ∈ Path.componentEnding, isSeparator c = false := by decide
  obtain ⟨front, last, whole, longer⟩ := Text.exists_pieces_append isSeparator relativePath free
  simp [directories, fileName, whole, longer]

/-- Exclusion answers alike for both spellings: a directory is excluded, or the file is
excluded with its ending and without it, or neither way. -/
def SpelledAlike (excluded : List Text) (relativePath : Text) : Prop :=
  (∃ name ∈ excluded, name ∈ directories relativePath) ∨
    (fileName relativePath ∈ excluded ↔ fileName relativePath ++ Path.componentEnding ∈ excluded)

theorem isExcluded_ending_iff {excluded : List Text} {relativePath : Text} :
    isExcluded (relativePath ++ Path.componentEnding) excluded = isExcluded relativePath excluded ↔
      SpelledAlike excluded relativePath := by
  obtain ⟨whole, longer⟩ := pieces_ending relativePath
  rw [Bool.eq_iff_iff, isExcluded_iff, isExcluded_iff, whole, longer, SpelledAlike]
  simp only [List.mem_append, List.mem_singleton, and_or_left, exists_or, exists_eq_right]
  by_cases through : ∃ name, name ∈ excluded ∧ name ∈ directories relativePath
  · simp [through]
  · simp only [through, false_or]
    exact iff_comm

theorem unaliased_ending {relativePath : Text}
    (unaliased : Text.beginsWith viewsAlias relativePath = false) :
    Text.beginsWith viewsAlias (relativePath ++ Path.componentEnding) = false := by
  rw [Bool.eq_false_iff, ne_eq, Text.beginsWith_iff] at unaliased ⊢
  rintro ⟨rest, whole⟩
  rcases List.append_eq_append_iff.1 whole with ⟨seam, front, back⟩ | ⟨seam, behind, -⟩
  · -- The alias would have to end within the ending, but it has no dot in it.
    cases seam with
    | nil => exact unaliased ⟨[], by rw [front, List.append_nil, List.append_nil]⟩
    | cons c seam =>
        have dotted : c = '.' := (List.cons.inj back).1.symm
        have inside : c ∈ viewsAlias := by simp [front]
        rw [dotted] at inside
        exact absurd inside (by decide)
  · exact unaliased ⟨seam, behind⟩

def Route.spelledOut (route : Route) : Route :=
  ⟨route.name, route.relativePath ++ Path.componentEnding, route.name_ne,
    List.append_ne_nil_of_left_ne_nil route.relativePath_ne _, unaliased_ending route.unaliased⟩

theorem Path.withEnding_append (relativePath : Text) :
    withEnding (relativePath ++ componentEnding) = relativePath ++ componentEnding := by
  rw [withEnding, if_pos (Text.endsWith_iff.2 ⟨relativePath, rfl⟩)]

theorem Path.component_spelledOut {route : Route}
    (bare : Text.endsWith componentEnding route.relativePath = false) (views : Path) :
    views.component route.spelledOut.relativePath = views.component route.relativePath := by
  rw [component, component, Route.spelledOut, withEnding_append, withEnding,
    if_neg (Bool.eq_false_iff.1 bare)]

namespace Run

variable {reporter : Reporter} {views : Path} {excluded : List Text} {disk : Disk} {route : Route}

theorem Step.excluded_iff [Parser] {last : Disk} {ending : Ending}
    (step : Step reporter views excluded disk route ending last) :
    ending = .excluded ↔ isExcluded route.relativePath excluded = true := by
  cases step with
  | skipped outside => simp [outside]
  | absent inside => simp [inside]
  | named inside =>
      rw [inside, namedEnding]
      split <;> simp

theorem patchComponent_of_excluded [Parser] (reporter : Reporter) (views : Path) (disk : Disk)
    (outside : isExcluded route.relativePath excluded = true) :
    (patchComponent reporter views excluded route disk).disk = disk ∧
    ∀ ending, (patchComponent reporter views excluded route disk).result = .ok ending ↔
      ending = .excluded ∧ reporter.refusal? (endingMessage views route .excluded) = none := by
  rw [patchComponent, if_pos outside, Task.bind_pure_apply, Reporter.report, endingMessage]
  cases reporter.refusal? _ with
  | none => simp [Except.map, eq_comm]
  | some e => simp [Except.map]

theorem patchComponent_congr [Parser] {other : Route}
    (inside : isExcluded route.relativePath excluded = false)
    (otherInside : isExcluded other.relativePath excluded = false) (named : other.name = route.name)
    (path : views.component other.relativePath = views.component route.relativePath) :
    patchComponent reporter views excluded other =
      patchComponent reporter views excluded route := by
  rw [patchComponent, patchComponent, if_neg (Bool.eq_false_iff.1 inside),
    if_neg (Bool.eq_false_iff.1 otherInside), path, named]

theorem refusal?_spelledOut (judges : reporter.JudgesEncoding) (views : Path) (route : Route) :
    reporter.refusal? (endingMessage views route.spelledOut .excluded) = none ↔
      reporter.refusal? (endingMessage views route .excluded) = none := by
  apply judges
  simp [Route.spelledOut, Path.componentEnding]

/-- Both spellings of a component lead to one file. They end alike and leave the same disk if
exclusion answers alike for both, and otherwise they cannot end alike. -/
theorem patchComponent_spelledOut [Parser] (reporter : Reporter) (views : Path)
    (excluded : List Text) (route : Route) (disk : Disk) (judges : reporter.JudgesEncoding)
    (bare : Text.endsWith Path.componentEnding route.relativePath = false) :
    views.component route.spelledOut.relativePath = views.component route.relativePath ∧
    (SpelledAlike excluded route.relativePath →
      (∀ ending, (patchComponent reporter views excluded route.spelledOut disk).result =
          .ok ending ↔ (patchComponent reporter views excluded route disk).result = .ok ending) ∧
      (patchComponent reporter views excluded route.spelledOut disk).disk =
        (patchComponent reporter views excluded route disk).disk) ∧
    (¬ SpelledAlike excluded route.relativePath → ∀ ending,
      (patchComponent reporter views excluded route disk).result = .ok ending →
      (patchComponent reporter views excluded route.spelledOut disk).result ≠ .ok ending) := by
  have path := Path.component_spelledOut bare views
  refine ⟨path, ?_, ?_⟩
  · intro alike
    have same := isExcluded_ending_iff.2 alike
    cases outside : isExcluded route.relativePath excluded with
    | false =>
        have equal : patchComponent reporter views excluded route.spelledOut =
            patchComponent reporter views excluded route :=
          patchComponent_congr outside (same.trans outside) rfl path
        rw [equal]
        exact ⟨fun _ => Iff.rfl, rfl⟩
    | true =>
        have outside' : isExcluded route.spelledOut.relativePath excluded = true :=
          same.trans outside
        obtain ⟨kept, ended⟩ := patchComponent_of_excluded reporter views disk outside
        obtain ⟨kept', ended'⟩ := patchComponent_of_excluded reporter views disk outside'
        refine ⟨?_, kept'.trans kept.symm⟩
        intro ending
        rw [ended, ended', refusal?_spelledOut judges]
  · intro apart ending ended ended'
    have first := (finishes_patchComponent.1 ⟨ended, rfl⟩).excluded_iff
    have second := (finishes_patchComponent.1 ⟨ended', rfl⟩).excluded_iff
    exact apart (isExcluded_ending_iff.1 (Bool.eq_iff_iff.2 (second.symm.trans first)))

theorem patchComponent_spelledOut_plainRoute :
    Reporter.recorder.JudgesEncoding ∧
    Text.endsWith Path.componentEnding plainRoute.relativePath = false ∧
    SpelledAlike [Text.ofString "b"] plainRoute.relativePath ∧
    (patchComponent .recorder sharedViews [Text.ofString "b"] plainRoute.spelledOut
      (sharedDisk [])).result = .ok .created ∧
    (patchComponent .recorder sharedViews [Text.ofString "b"] plainRoute.spelledOut
        (sharedDisk [])).disk =
      (patchComponent .recorder sharedViews [Text.ofString "b"] plainRoute
        (sharedDisk [])).disk := by
  have evaluated : Text.endsWith Path.componentEnding plainRoute.relativePath = false ∧
      (fileName plainRoute.relativePath ∈ [Text.ofString "b"] ↔
        fileName plainRoute.relativePath ++ Path.componentEnding ∈ [Text.ofString "b"]) ∧
      (patchComponent .recorder sharedViews [Text.ofString "b"] plainRoute
        (sharedDisk [])).result.toOption = some .created := by
    decide +kernel
  obtain ⟨bare, same, created⟩ := evaluated
  have alike : SpelledAlike [Text.ofString "b"] plainRoute.relativePath := Or.inr same
  obtain ⟨-, ended, -⟩ := patchComponent_spelledOut .recorder sharedViews [Text.ofString "b"]
    plainRoute (sharedDisk []) Reporter.judgesEncoding_recorder bare
  exact ⟨Reporter.judgesEncoding_recorder, bare, alike,
    ((ended alike).1 .created).2 (Task.eq_ok_of_toOption created), (ended alike).2⟩

theorem patchComponent_tells_spellings_apart :
    Text.endsWith Path.componentEnding plainRoute.relativePath = false ∧
    (patchComponent .recorder sharedViews [Text.ofString "a"] plainRoute
      (sharedDisk [])).result = .ok .excluded ∧
    (patchComponent .recorder sharedViews [Text.ofString "a"] plainRoute.spelledOut
      (sharedDisk [])).result = .ok .created ∧
    (patchComponent .recorder sharedViews [Text.ofString "a"] plainRoute.spelledOut
        (sharedDisk [])).disk.content? sharedView ≠
      (patchComponent .recorder sharedViews [Text.ofString "a"] plainRoute
        (sharedDisk [])).disk.content? sharedView := by
  have evaluated : Text.endsWith Path.componentEnding plainRoute.relativePath = false ∧
      (patchComponent .recorder sharedViews [Text.ofString "a"] plainRoute
        (sharedDisk [])).result.toOption = some .excluded ∧
      (patchComponent .recorder sharedViews [Text.ofString "a"] plainRoute.spelledOut
        (sharedDisk [])).result.toOption = some .created ∧
      (patchComponent .recorder sharedViews [Text.ofString "a"] plainRoute.spelledOut
          (sharedDisk [])).disk.content? sharedView ≠
        (patchComponent .recorder sharedViews [Text.ofString "a"] plainRoute
          (sharedDisk [])).disk.content? sharedView := by
    decide +kernel
  obtain ⟨bare, skipped, created, apart⟩ := evaluated
  exact ⟨bare, Task.eq_ok_of_toOption skipped, Task.eq_ok_of_toOption created, apart⟩

end Run

end ViewNaming
