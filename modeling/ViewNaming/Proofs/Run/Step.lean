import ViewNaming.Proofs.Task
import ViewNaming.Proofs.Text.Encoding
import ViewNaming.Run.Components

/-! The effect of naming the component of one route. Either the disk stays as it
is, or the one file that the route leads to is written. Which file that is depends
on the shape of the disk alone, so it is the same before and after. -/
namespace ViewNaming.Run

open TypeScript (Parser)

variable {reporter : Reporter} {views : Path} {excluded : List Text}

def namedMessage (created : Bool) (path : Path) : Message :=
  ⟨.info, (if created then Text.ofString "Added <script setup> to: "
    else Text.ofString "Patched: ") ++ path.toText⟩

def namedEnding (created : Bool) : Ending := if created then .created else .patched

/-- What naming the component of one route can do when it finishes. -/
inductive Step [Parser] (reporter : Reporter) (views : Path) (excluded : List Text) (disk : Disk)
    (route : Route) : Ending → Disk → Prop
  | skipped : isExcluded route.relativePath excluded = true →
      reporter.refusal? ⟨.info, Text.ofString "Skipping component in excluded directory: "
        ++ route.relativePath⟩ = none →
      Step reporter views excluded disk route .excluded disk
  | absent : isExcluded route.relativePath excluded = false →
      disk.isFile (views.component route.relativePath) = .ok false →
      reporter.refusal? ⟨.warn, Text.ofString "File not found: "
        ++ (views.component route.relativePath).toText⟩ = none →
      Step reporter views excluded disk route .missing disk
  | named {location : Location} {old new : Bytes} {text : Text} :
      isExcluded route.relativePath excluded = false →
      disk.read (views.component route.relativePath) = .ok (location, old) →
      Utf8.decode old = .ok text →
      Utf8.encode (Component.patch text route.name).text = .ok new →
      reporter.refusal? (namedMessage (Component.patch text route.name).createdScript
        (views.component route.relativePath)) = none →
      Step reporter views excluded disk route
        (namedEnding (Component.patch text route.name).createdScript)
        (disk.put location (.file new))

theorem finishes_parse [Parser] {text : Text} {disk last : Disk} {script : TypeScript.Script} :
    (parse text).Finishes disk script last ↔ script = Parser.parse text ∧ last = disk := by
  simp only [parse]
  split
  · simp only [Task.finishes_bind, Task.finishes_note, Task.finishes_pure]
    constructor
    · rintro ⟨_, _, rfl, rfl, rfl⟩
      exact ⟨rfl, rfl⟩
    · rintro ⟨rfl, rfl⟩
      exact ⟨(), _, rfl, rfl, rfl⟩
  · exact Task.finishes_pure

theorem finishes_noteMalformed [Parser] {text : Text} {disk last : Disk} {value : Unit} :
    (noteMalformed text).Finishes disk value last ↔ last = disk := by
  rw [noteMalformed]
  split
  · simp [Task.finishes_pure]
  · simp only [Task.finishes_bind, finishes_parse, Task.finishes_pure]
    constructor
    · rintro ⟨_, _, ⟨_, rfl⟩, _, rfl⟩
      rfl
    · rintro rfl
      exact ⟨_, _, ⟨rfl, rfl⟩, trivial, rfl⟩

theorem finishes_announcement {created : Bool} {path : Path} {disk last : Disk} {ending : Ending} :
    Task.Finishes (if created then do
        reporter.report .info (Text.ofString "Added <script setup> to: " ++ path.toText)
        return Ending.created
      else do
        reporter.report .info (Text.ofString "Patched: " ++ path.toText)
        return Ending.patched) disk ending last ↔
      reporter.refusal? (namedMessage created path) = none ∧ ending = namedEnding created ∧
        last = disk := by
  cases created
  all_goals
    simp only [Bool.false_eq_true, if_false, if_true, Task.finishes_bind, Reporter.finishes_report,
      Task.finishes_pure, namedMessage, namedEnding]
    constructor
    · rintro ⟨_, _, ⟨accepted, rfl⟩, rfl, rfl⟩
      exact ⟨accepted, rfl, rfl⟩
    · rintro ⟨accepted, rfl, rfl⟩
      exact ⟨(), _, ⟨accepted, rfl⟩, rfl, rfl⟩

theorem finishes_patchFile [Parser] {name : Text} {path : Path} {disk last : Disk}
    {ending : Ending} :
    (patchFile reporter name path).Finishes disk ending last ↔
      ∃ location old text new, disk.read path = .ok (location, old) ∧
        Utf8.decode old = .ok text ∧ Utf8.encode (Component.patch text name).text = .ok new ∧
        reporter.refusal? (namedMessage (Component.patch text name).createdScript path) = none ∧
        ending = namedEnding (Component.patch text name).createdScript ∧
        last = disk.put location (.file new) := by
  simp only [patchFile, Task.finishes_bind, Task.finishes_read, finishes_noteMalformed,
    Task.finishes_write, Task.finishes_note, finishes_announcement]
  constructor
  · rintro ⟨text, _, ⟨⟨location, old, there, decoded⟩, rfl⟩, _, _, rfl, _, _,
      ⟨location', _, new, there', encoded, rfl⟩, _, _, rfl, accepted, rfl, rfl⟩
    rw [there] at there'
    cases there'
    exact ⟨location, old, text, new, there, decoded, encoded, accepted, rfl, rfl⟩
  · rintro ⟨location, old, text, new, there, decoded, encoded, accepted, rfl, rfl⟩
    exact ⟨text, disk, ⟨⟨location, old, there, decoded⟩, rfl⟩, (), disk, rfl, (), _,
      ⟨location, old, new, there, encoded, rfl⟩, (), _, rfl, accepted, rfl, rfl⟩

theorem isFile_of_read {disk : Disk} {path : Path} {location : Location} {bytes : Bytes}
    (there : disk.read path = .ok (location, bytes)) : disk.isFile path = .ok true := by
  rw [Disk.isFile, there]

theorem finishes_patchComponent [Parser] {route : Route} {disk last : Disk} {ending : Ending} :
    (patchComponent reporter views excluded route).Finishes disk ending last ↔
      Step reporter views excluded disk route ending last := by
  rw [patchComponent]
  by_cases out : isExcluded route.relativePath excluded = true
  · simp only [out, if_true, Task.finishes_bind, Reporter.finishes_report, Task.finishes_pure]
    constructor
    · rintro ⟨_, _, ⟨accepted, rfl⟩, rfl, rfl⟩
      exact Step.skipped out accepted
    · intro step
      cases step with
      | skipped _ accepted => exact ⟨(), disk, ⟨accepted, rfl⟩, rfl, rfl⟩
      | absent inside => simp [out] at inside
      | named inside => simp [out] at inside
  · simp only [out, Bool.false_eq_true, if_false, Task.finishes_bind, Task.finishes_isFile]
    rw [Bool.not_eq_true] at out
    constructor
    · rintro ⟨found, _, ⟨there, rfl⟩, finished⟩
      cases found with
      | false =>
          simp only [Bool.false_eq_true, if_false, Task.finishes_bind, Reporter.finishes_report,
            Task.finishes_pure] at finished
          obtain ⟨_, _, ⟨accepted, rfl⟩, rfl, rfl⟩ := finished
          exact Step.absent out there accepted
      | true =>
          simp only [if_true, finishes_patchFile] at finished
          obtain ⟨location, old, text, new, there, decoded, encoded, accepted, rfl, rfl⟩ := finished
          exact Step.named out there decoded encoded accepted
    · intro step
      cases step with
      | skipped outside => simp [out] at outside
      | absent _ missing accepted =>
          refine ⟨false, _, ⟨missing, rfl⟩, ?_⟩
          rw [if_neg Bool.false_ne_true, Task.finishes_bind]
          exact ⟨(), _, Reporter.finishes_report.2 ⟨accepted, rfl⟩,
            Task.finishes_pure.2 ⟨rfl, rfl⟩⟩
      | named _ there decoded encoded accepted =>
          refine ⟨true, disk, ⟨isFile_of_read there, rfl⟩, ?_⟩
          rw [if_pos rfl, finishes_patchFile]
          exact ⟨_, _, _, _, there, decoded, encoded, accepted, rfl, rfl⟩

/-- The file that a route leads to: none if the route is excluded or if there is no
file at its path. -/
def target? (views : Path) (excluded : List Text) (disk : Disk) (route : Route) :
    Option Location :=
  if isExcluded route.relativePath excluded then none
  else
    match disk.read (views.component route.relativePath) with
    | .ok (location, _) => some location
    | .error _ => none

theorem target?_eq_some_iff {disk : Disk} {route : Route} {location : Location} :
    target? views excluded disk route = some location ↔
      isExcluded route.relativePath excluded = false ∧
        ∃ bytes, disk.read (views.component route.relativePath) = .ok (location, bytes) := by
  rw [target?]
  cases isExcluded route.relativePath excluded with
  | true => simp
  | false =>
      cases disk.read (views.component route.relativePath) with
      | error fault => simp
      | ok found => cases found; simp

theorem target?_of_sameShape {disk other : Disk} (shape : Disk.SameShape disk other)
    (route : Route) :
    target? views excluded other route = target? views excluded disk route := by
  rw [target?, target?]
  rcases shape.read_cases (views.component route.relativePath) with
    ⟨fault, before, after⟩ | ⟨location, old, new, before, after⟩
  all_goals rw [before, after]

namespace Step

variable {disk last : Disk} {route : Route} {ending : Ending}

theorem of_no_target [Parser] (step : Step reporter views excluded disk route ending last)
    (nowhere : target? views excluded disk route = none) :
    last = disk ∧ ∀ other, Disk.SameShape disk other →
      Step reporter views excluded other route ending other := by
  cases step with
  | skipped outside accepted =>
      exact ⟨rfl, fun _ _ => Step.skipped outside accepted⟩
  | absent inside missing accepted =>
      refine ⟨rfl, fun other shape => Step.absent inside ?_ accepted⟩
      rw [shape.isFile, missing]
  | named inside there =>
      rw [target?_eq_some_iff.2 ⟨inside, _, there⟩] at nowhere
      cases nowhere

theorem of_target [Parser] {location : Location}
    (step : Step reporter views excluded disk route ending last)
    (aimed : target? views excluded disk route = some location) :
    ∃ old text new, disk.content? location = some old ∧ Utf8.decode old = .ok text ∧
      Utf8.encode (Component.patch text route.name).text = .ok new ∧
      last = disk.put location (.file new) ∧
      ∀ other, Disk.SameShape disk other → other.content? location = some old →
        Step reporter views excluded other route ending (other.put location (.file new)) := by
  obtain ⟨inside, bytes, there⟩ := target?_eq_some_iff.1 aimed
  cases step with
  | skipped outside =>
      rw [inside] at outside
      cases outside
  | absent _ missing =>
      rw [isFile_of_read there] at missing
      cases missing
  | @named _ old new text _ found decoded encoded accepted =>
      rw [there] at found
      cases found
      obtain ⟨located, holds⟩ := Disk.read_eq_ok_iff.1 there
      refine ⟨bytes, text, new, holds, decoded, encoded, rfl, ?_⟩
      intro other shape same
      have there' := Disk.read_eq_ok_iff.2 ⟨(shape.locate _).trans located, same⟩
      exact Step.named inside there' decoded encoded accepted

theorem sameShape [Parser] (step : Step reporter views excluded disk route ending last) :
    Disk.SameShape disk last := by
  cases aimed : target? views excluded disk route with
  | none =>
      obtain ⟨rfl, -⟩ := step.of_no_target aimed
      exact Disk.SameShape.refl last
  | some location =>
      obtain ⟨old, text, new, holds, -, -, rfl, -⟩ := step.of_target aimed
      exact Disk.SameShape.put holds new

theorem content?_of_other_target [Parser] {location : Location}
    (step : Step reporter views excluded disk route ending last)
    (elsewhere : target? views excluded disk route ≠ some location) :
    last.content? location = disk.content? location := by
  cases aimed : target? views excluded disk route with
  | none => rw [(step.of_no_target aimed).1]
  | some place =>
      obtain ⟨old, text, new, holds, -, -, rfl, -⟩ := step.of_target aimed
      have apart : place ≠ location := by
        rintro rfl
        exact elsewhere aimed
      rw [Disk.content?_put holds, if_neg apart]

theorem comm [Parser] {middle : Disk} {next : Route} {nextEnding : Ending}
    (step : Step reporter views excluded disk route ending middle)
    (after : Step reporter views excluded middle next nextEnding last)
    (apart : ∀ location, target? views excluded disk route = some location →
      target? views excluded disk next ≠ some location) :
    ∃ between, Step reporter views excluded disk next nextEnding between ∧
      Step reporter views excluded between route ending last := by
  have shape := step.sameShape
  cases aimed : target? views excluded disk route with
  | none =>
      obtain ⟨rfl, again⟩ := step.of_no_target aimed
      exact ⟨last, after, again last after.sameShape⟩
  | some location =>
      obtain ⟨old, text, new, holds, decoded, encoded, rfl, again⟩ := step.of_target aimed
      have nextAimed : target? views excluded (disk.put location (.file new)) next =
          target? views excluded disk next := target?_of_sameShape shape next
      cases goal : target? views excluded disk next with
      | none =>
          obtain ⟨rfl, anywhere⟩ := after.of_no_target (nextAimed.trans goal)
          exact ⟨disk, anywhere disk shape.symm, step⟩
      | some place =>
          have distinct : location ≠ place := by
            rintro rfl
            exact apart location aimed goal
          obtain ⟨nextOld, _, nextNew, nextHolds, -, -, rfl, anywhere⟩ :=
            after.of_target (nextAimed.trans goal)
          -- The files differ, so each step finds what it would have found in the other order.
          rw [Disk.content?_put holds, if_neg distinct] at nextHolds
          refine ⟨disk.put place (.file nextNew), anywhere disk shape.symm nextHolds, ?_⟩
          rw [Disk.put_comm distinct holds nextHolds]
          apply again _ (Disk.SameShape.put nextHolds nextNew)
          rw [Disk.content?_put nextHolds, if_neg distinct.symm, holds]

end Step

end ViewNaming.Run
