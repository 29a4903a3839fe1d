import ViewNaming.Proofs.Component.Scalar
import ViewNaming.Proofs.Report
import ViewNaming.Proofs.Run.Again
import ViewNaming.Proofs.Text.Decoding

/-! What is left when naming the component of one route fails. Nearly always nothing has
been written by then. The exception is a name with a surrogate: the file is emptied
first, and only then does it turn out that the new text has no encoded form. -/
namespace ViewNaming.Run

open TypeScript (Parser)

variable {reporter : Reporter} {views : Path} {excluded : List Text}

/-- What naming the component of one route has done when it fails. -/
inductive Breakdown [Parser] (reporter : Reporter) (views : Path) (excluded : List Text)
    (disk : Disk) (route : Route) : Failure → Disk → Prop
  | skipped {e : Utf8.EncodeError} : isExcluded route.relativePath excluded = true →
      reporter.refusal? ⟨.info, Text.ofString "Skipping component in excluded directory: "
        ++ route.relativePath⟩ = some e →
      Breakdown reporter views excluded disk route (.encode e) disk
  | unanswered {fault : Disk.Fault} : isExcluded route.relativePath excluded = false →
      disk.isFile (views.component route.relativePath) = .error fault →
      Breakdown reporter views excluded disk route
        (.disk fault (views.component route.relativePath).toText) disk
  | absent {e : Utf8.EncodeError} : isExcluded route.relativePath excluded = false →
      disk.isFile (views.component route.relativePath) = .ok false →
      reporter.refusal? ⟨.warn, Text.ofString "File not found: "
        ++ (views.component route.relativePath).toText⟩ = some e →
      Breakdown reporter views excluded disk route (.encode e) disk
  | undecodable {location : Location} {old : Bytes} {e : Utf8.DecodeError} :
      isExcluded route.relativePath excluded = false →
      disk.read (views.component route.relativePath) = .ok (location, old) →
      Utf8.decode old = .error e →
      Breakdown reporter views excluded disk route (.decode e) disk
  | unencodable {location : Location} {old : Bytes} {text : Text} {e : Utf8.EncodeError} :
      isExcluded route.relativePath excluded = false →
      disk.read (views.component route.relativePath) = .ok (location, old) →
      Utf8.decode old = .ok text →
      Utf8.encode (Component.patch text route.name).text = .error e →
      Breakdown reporter views excluded disk route (.encode e) (disk.put location (.file []))
  | unannounced {location : Location} {old new : Bytes} {text : Text} {e : Utf8.EncodeError} :
      isExcluded route.relativePath excluded = false →
      disk.read (views.component route.relativePath) = .ok (location, old) →
      Utf8.decode old = .ok text →
      Utf8.encode (Component.patch text route.name).text = .ok new →
      reporter.refusal? (namedMessage (Component.patch text route.name).createdScript
        (views.component route.relativePath)) = some e →
      Breakdown reporter views excluded disk route (.encode e) (disk.put location (.file new))

theorem not_fails_parse [Parser] {text : Text} {disk last : Disk} {failure : Failure} :
    ¬ (parse text).Fails disk failure last := by
  simp only [parse]
  split
  · simp [Task.fails_bind, Task.not_fails_note, Task.not_fails_pure]
  · exact Task.not_fails_pure

theorem not_fails_noteMalformed [Parser] {text : Text} {disk last : Disk} {failure : Failure} :
    ¬ (noteMalformed text).Fails disk failure last := by
  rw [noteMalformed]
  split
  · exact Task.not_fails_pure
  · simp [Task.fails_bind, not_fails_parse, Task.not_fails_pure]

theorem fails_announcement {created : Bool} {path : Path} {disk last : Disk} {failure : Failure} :
    Task.Fails (if created then do
        reporter.report .info (Text.ofString "Added <script setup> to: " ++ path.toText)
        return Ending.created
      else do
        reporter.report .info (Text.ofString "Patched: " ++ path.toText)
        return Ending.patched) disk failure last ↔
      ∃ e, reporter.refusal? (namedMessage created path) = some e ∧ failure = .encode e ∧
        last = disk := by
  cases created
  all_goals
    simp only [Bool.false_eq_true, if_false, if_true, Task.fails_bind, Reporter.fails_report,
      Task.not_fails_pure, namedMessage, and_false, exists_false, or_false]

theorem fails_patchFile [Parser] {name : Text} {path : Path} {disk last : Disk} {failure : Failure}
    {location : Location} {old : Bytes} (there : disk.read path = .ok (location, old)) :
    (patchFile reporter name path).Fails disk failure last ↔
      (∃ e, Utf8.decode old = .error e ∧ failure = .decode e ∧ last = disk) ∨
      ∃ text, Utf8.decode old = .ok text ∧
        ((∃ e, Utf8.encode (Component.patch text name).text = .error e ∧
            failure = .encode e ∧ last = disk.put location (.file [])) ∨
          ∃ new e, Utf8.encode (Component.patch text name).text = .ok new ∧
            reporter.refusal? (namedMessage (Component.patch text name).createdScript path) =
              some e ∧ failure = .encode e ∧ last = disk.put location (.file new)) := by
  simp only [patchFile, Task.fails_bind, Task.fails_read, Task.finishes_read,
    finishes_noteMalformed, not_fails_noteMalformed, Task.fails_write, Task.finishes_write,
    Task.not_fails_note, Task.finishes_note, fails_announcement, false_or, there,
    Except.ok.injEq, Prod.mk.injEq, reduceCtorEq, false_and, exists_false]
  constructor
  · rintro (⟨⟨_, _, e, ⟨rfl, rfl⟩, undecoded, rfl⟩, rfl⟩ |
      ⟨text, _, ⟨⟨_, _, ⟨rfl, rfl⟩, decoded⟩, rfl⟩, _, _, rfl, failed⟩)
    · exact Or.inl ⟨e, undecoded, rfl, rfl⟩
    · refine Or.inr ⟨text, decoded, ?_⟩
      rcases failed with (⟨fault, missing, -⟩ | ⟨_, _, e, found, unencoded, rfl, rfl⟩) |
        ⟨_, _, ⟨_, _, new, found, encoded, rfl⟩, _, _, rfl, e, refused, rfl, rfl⟩
      · rw [there] at missing
        cases missing
      · rw [there] at found
        cases found
        exact Or.inl ⟨e, unencoded, rfl, rfl⟩
      · rw [there] at found
        cases found
        exact Or.inr ⟨new, e, encoded, refused, rfl, rfl⟩
  · rintro (⟨e, undecoded, rfl, rfl⟩ | ⟨text, decoded, failed⟩)
    · exact Or.inl ⟨⟨location, old, e, ⟨rfl, rfl⟩, undecoded, rfl⟩, rfl⟩
    · refine Or.inr ⟨text, disk, ⟨⟨location, old, ⟨rfl, rfl⟩, decoded⟩, rfl⟩, (), disk, rfl, ?_⟩
      rcases failed with ⟨e, unencoded, rfl, rfl⟩ | ⟨new, e, encoded, refused, rfl, rfl⟩
      · exact Or.inl (Or.inr ⟨location, old, e, there, unencoded, rfl, rfl⟩)
      · exact Or.inr ⟨(), _, ⟨location, old, new, there, encoded, rfl⟩, (), _, rfl, e, refused,
          rfl, rfl⟩

theorem exists_read_of_isFile {disk : Disk} {path : Path} (answer : disk.isFile path = .ok true) :
    ∃ location bytes, disk.read path = .ok (location, bytes) := by
  rw [Disk.isFile] at answer
  split at answer
  · rename_i found there
    exact ⟨found.1, found.2, there⟩
  · cases answer
  · cases answer

theorem fails_patchComponent [Parser] {route : Route} {disk last : Disk} {failure : Failure} :
    (patchComponent reporter views excluded route).Fails disk failure last ↔
      Breakdown reporter views excluded disk route failure last := by
  rw [patchComponent]
  by_cases out : isExcluded route.relativePath excluded = true
  · simp only [out, if_true, Task.fails_bind, Reporter.fails_report, Task.not_fails_pure, and_false,
      exists_false, or_false]
    constructor
    · rintro ⟨e, refused, rfl, rfl⟩
      exact Breakdown.skipped out refused
    · intro broken
      cases broken with
      | skipped _ refused => exact ⟨_, refused, rfl, rfl⟩
      | unanswered inside => simp [out] at inside
      | absent inside => simp [out] at inside
      | undecodable inside => simp [out] at inside
      | unencodable inside => simp [out] at inside
      | unannounced inside => simp [out] at inside
  · simp only [out, Bool.false_eq_true, if_false, Task.fails_bind, Task.fails_isFile,
      Task.finishes_isFile]
    rw [Bool.not_eq_true] at out
    constructor
    · rintro (⟨fault, unanswered, rfl, rfl⟩ | ⟨found, _, ⟨answer, rfl⟩, failed⟩)
      · exact Breakdown.unanswered out unanswered
      · cases found with
        | false =>
            simp only [Bool.false_eq_true, if_false, Task.fails_bind, Reporter.fails_report,
              Task.not_fails_pure, and_false, exists_false, or_false] at failed
            obtain ⟨e, refused, rfl, rfl⟩ := failed
            exact Breakdown.absent out answer refused
        | true =>
            obtain ⟨location, old, there⟩ := exists_read_of_isFile answer
            rw [if_pos rfl, fails_patchFile there] at failed
            rcases failed with ⟨e, undecoded, rfl, rfl⟩ | ⟨text, decoded, failed⟩
            · exact Breakdown.undecodable out there undecoded
            · rcases failed with ⟨e, unencoded, rfl, rfl⟩ | ⟨new, e, encoded, refused, rfl, rfl⟩
              · exact Breakdown.unencodable out there decoded unencoded
              · exact Breakdown.unannounced out there decoded encoded refused
    · intro broken
      cases broken with
      | skipped outside => simp [out] at outside
      | unanswered _ unanswered => exact Or.inl ⟨_, unanswered, rfl, rfl⟩
      | absent _ answer refused =>
          refine Or.inr ⟨false, disk, ⟨answer, rfl⟩, ?_⟩
          rw [if_neg Bool.false_ne_true, Task.fails_bind]
          exact Or.inl (Reporter.fails_report.2 ⟨_, refused, rfl, rfl⟩)
      | undecodable _ there undecoded =>
          refine Or.inr ⟨true, disk, ⟨isFile_of_read there, rfl⟩, ?_⟩
          rw [if_pos rfl, fails_patchFile there]
          exact Or.inl ⟨_, undecoded, rfl, rfl⟩
      | unencodable _ there decoded unencoded =>
          refine Or.inr ⟨true, disk, ⟨isFile_of_read there, rfl⟩, ?_⟩
          rw [if_pos rfl, fails_patchFile there]
          exact Or.inr ⟨_, decoded, Or.inl ⟨_, unencoded, rfl, rfl⟩⟩
      | unannounced _ there decoded encoded refused =>
          refine Or.inr ⟨true, disk, ⟨isFile_of_read there, rfl⟩, ?_⟩
          rw [if_pos rfl, fails_patchFile there]
          exact Or.inr ⟨_, decoded, Or.inr ⟨_, _, encoded, refused, rfl, rfl⟩⟩

namespace Breakdown

variable {disk last : Disk} {route : Route} {failure : Failure}

theorem content?_of_other_target [Parser]
    (broken : Breakdown reporter views excluded disk route failure last)
    {location : Location} (elsewhere : target? views excluded disk route ≠ some location) :
    last.content? location = disk.content? location := by
  have untouched : ∀ {place : Location} {old : Bytes} (new : Bytes),
      isExcluded route.relativePath excluded = false →
      disk.read (views.component route.relativePath) = .ok (place, old) →
      (disk.put place (.file new)).content? location = disk.content? location := by
    intro place old new inside there
    have apart : place ≠ location := by
      rintro rfl
      exact elsewhere (target?_eq_some_iff.2 ⟨inside, old, there⟩)
    rw [Disk.content?_put (Disk.read_eq_ok_iff.1 there).2, if_neg apart]
  cases broken with
  | skipped => rfl
  | unanswered => rfl
  | absent => rfl
  | undecodable => rfl
  | unencodable inside there => exact untouched [] inside there
  | unannounced inside there => exact untouched _ inside there

end Breakdown

def sharedViews : Path := ⟨.root, [Text.ofString "v"]⟩

def sharedView : Location := [Text.ofString "v", Text.ofString "a.vue"]

def sharedDisk (content : Bytes) : Disk :=
  ⟨[], [([Text.ofString "v"], .directory), (sharedView, .file content)]⟩

def plainRoute : Route :=
  ⟨Text.ofString "A", Text.ofString "a", by decide, by decide, by decide⟩

theorem exists_error_of_isOk {result : Except Failure Ending} (failed : result.isOk = false) :
    ∃ failure, result = .error failure := by
  cases result with
  | error failure => exact ⟨failure, rfl⟩
  | ok ending => cases failed

end ViewNaming.Run
