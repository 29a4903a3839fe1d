import ViewNaming.Proofs.Run.Again
import ViewNaming.Run.Views

/-! Two runs in a row. The second run finds the same routes if the first one left the
route file alone, and it always finishes. A file keeps its content exactly if its
names, given to it once more, lead back to the text that they led to at first. -/
namespace ViewNaming.Run

open TypeScript (Parser)

variable {reporter : Reporter} {settings : Settings}

theorem agrees_parse [Parser] (text : Text) (disk other : Disk) :
    (parse text).Agrees disk other := by
  rw [parse]
  split
  · exact Task.agrees_bind (Task.agrees_note _ disk other) fun _ =>
      Task.agrees_pure _ disk other
  · exact Task.agrees_pure _ disk other

theorem agrees_extractFile [Parser] {path : Path} {disk other : Disk}
    (same : other.read path = disk.read path) : (extractFile path).Agrees disk other := by
  have parsed : (parseFile path).Agrees disk other :=
    Task.agrees_bind (Task.agrees_read same) fun text => agrees_parse (unifyLines text) disk other
  apply Task.agrees_bind parsed
  intro script
  split
  · exact Task.agrees_bind (Task.agrees_note _ disk other) fun _ =>
      Task.agrees_pure _ disk other
  · exact Task.agrees_fail _ disk other
  · exact Task.agrees_fail _ disk other

theorem disk_extractFile [Parser] (path : Path) (disk : Disk) :
    (extractFile path disk).disk = disk :=
  (agrees_extractFile rfl : (extractFile path).Agrees disk disk).left

/-- What a run that finishes did, by what was extracted. -/
inductive Served [Parser] (settings : Settings) (reporter : Reporter) (disk : Disk) :
    Except Failure (List Route) → Disk → Prop
  | failed {failure : Failure} {text : Text} : structuralMessage? failure = some text →
      reporter.refusal? ⟨.error, text⟩ = none → Served settings reporter disk (.error failure) disk
  | empty : reporter.refusal? ⟨.warn, noRoutes⟩ = none →
      Served settings reporter disk (.ok []) disk
  | batch {routes : List Route} {endings : List Ending} {last : Disk} : routes ≠ [] →
      Steps reporter settings.views settings.excluded disk routes endings last →
      reporter.refusal? ⟨.info, summary endings⟩ = none →
      Served settings reporter disk (.ok routes) last

theorem finishes_routes?_of_ok [Parser] {path : Path} {disk last : Disk} {routes : List Route}
    {value : Option (List Route)} (extracted : (extractFile path disk).result = .ok routes) :
    (routes? reporter path).Finishes disk value last ↔ value = some routes ∧ last = disk := by
  rw [Task.Finishes, routes?]
  simp only [extracted, Except.ok.injEq, disk_extractFile]
  exact and_congr eq_comm eq_comm

theorem finishes_routes?_of_error [Parser] {path : Path} {disk last : Disk} {failure : Failure}
    {value : Option (List Route)} (extracted : (extractFile path disk).result = .error failure) :
    (routes? reporter path).Finishes disk value last ↔
      (∃ text, structuralMessage? failure = some text ∧
        reporter.refusal? ⟨.error, text⟩ = none) ∧ value = none ∧ last = disk := by
  rw [Task.Finishes, routes?]
  cases structural : structuralMessage? failure with
  | none => simp [extracted, structural]
  | some text =>
      cases refused : reporter.refusal? ⟨.error, text⟩ with
      | some e => simp [extracted, structural, Reporter.report, refused, Except.map]
      | none =>
          simp only [extracted, structural, Reporter.report, refused, disk_extractFile, Except.map,
            Except.ok.injEq, Option.some.injEq, exists_eq_left', true_and]
          exact and_congr eq_comm eq_comm

theorem finishes_nameViews [Parser] {disk last : Disk} {value : Unit} :
    (nameViews settings reporter).Finishes disk value last ↔
      Served settings reporter disk (extractFile settings.routeFile disk).result last := by
  simp only [nameViews, Task.finishes_bind, Task.finishes_note]
  cases extracted : (extractFile settings.routeFile disk).result with
  | error failure =>
      constructor
      · rintro ⟨_, _, rfl, _, _, found, finished⟩
        obtain ⟨⟨text, structural, accepted⟩, rfl, rfl⟩ :=
          (finishes_routes?_of_error extracted).1 found
        obtain ⟨-, rfl⟩ := Task.finishes_pure.1 finished
        exact Served.failed structural accepted
      · intro served
        cases served with
        | failed structural accepted =>
            exact ⟨(), disk, rfl, none, disk,
              (finishes_routes?_of_error extracted).2 ⟨⟨_, structural, accepted⟩, rfl, rfl⟩,
              Task.finishes_pure.2 ⟨rfl, rfl⟩⟩
  | ok routes =>
      constructor
      · rintro ⟨_, _, rfl, _, _, found, finished⟩
        obtain ⟨rfl, rfl⟩ := (finishes_routes?_of_ok extracted).1 found
        cases routes with
        | nil =>
            obtain ⟨accepted, rfl⟩ := Reporter.finishes_report.1 finished
            exact Served.empty accepted
        | cons route routes =>
            obtain ⟨_, _, noted, batch⟩ := Task.finishes_bind.1 finished
            obtain rfl := Task.finishes_note.1 noted
            obtain ⟨endings, steps, accepted⟩ := finishes_patchComponents.1 batch
            exact Served.batch (List.cons_ne_nil route routes) steps accepted
      · intro served
        refine ⟨(), disk, rfl, some routes, disk,
          (finishes_routes?_of_ok extracted).2 ⟨rfl, rfl⟩, ?_⟩
        cases served with
        | empty accepted => exact Reporter.finishes_report.2 ⟨accepted, rfl⟩
        | batch nonempty steps accepted =>
            cases routes with
            | nil => exact absurd rfl nonempty
            | cons route routes =>
                exact Task.finishes_bind.2 ⟨(), disk, Task.finishes_note.2 rfl,
                  finishes_patchComponents.2 ⟨_, steps, accepted⟩⟩

theorem Served.exists_again [Parser] (takes : reporter.TakesScalar) {disk last : Disk}
    {extracted : Except Failure (List Route)}
    (served : Served settings reporter disk extracted last) :
    ∃ latest, Served settings reporter last extracted latest ∧ ∀ location,
      (latest.content? location = last.content? location ↔
        ∀ routes old text, extracted = .ok routes → disk.content? location = some old →
          Utf8.decode old = .ok text →
          Stable text (namesFor settings.views settings.excluded disk location routes)) := by
  cases served with
  | failed structural accepted =>
      refine ⟨disk, Served.failed structural accepted, ?_⟩
      intro location
      refine iff_of_true rfl ?_
      intro routes old text other
      cases other
  | empty accepted =>
      refine ⟨disk, Served.empty accepted, ?_⟩
      intro location
      refine iff_of_true rfl ?_
      rintro _ old text ⟨⟩ _ _
      rfl
  | @batch routes _ _ nonempty steps _ =>
      obtain ⟨endings, latest, again⟩ := steps.exists_again takes
      refine ⟨latest, Served.batch nonempty again (takes _ (scalar_summary endings)), ?_⟩
      intro location
      rw [steps.content?_again again location]
      constructor
      · rintro stable _ old text ⟨⟩ holds decoded
        exact stable old text holds decoded
      · intro stable old text holds decoded
        exact stable routes old text rfl holds decoded

/-- Running twice. The second run finishes, and a file is the same after it exactly if
its names are stable on its first text. For a single name this means that the statement
is read back as a whole. Names that hold neither a closing brace nor a closing tag are
stable, unless a marker of the component follows a word code point. -/
theorem nameViews_twice [Parser] (settings : Settings) (reporter : Reporter) (disk : Disk)
    (takes : reporter.TakesScalar)
    (finished : (nameViews settings reporter disk).result = .ok ())
    (kept : (nameViews settings reporter disk).disk.read settings.routeFile =
      disk.read settings.routeFile) :
    (nameViews settings reporter (nameViews settings reporter disk).disk).result = .ok () ∧
    ∀ location,
      ((nameViews settings reporter (nameViews settings reporter disk).disk).disk.content?
          location = (nameViews settings reporter disk).disk.content? location ↔
        ∀ routes old text, (extractFile settings.routeFile disk).result = .ok routes →
          disk.content? location = some old → Utf8.decode old = .ok text →
          Stable text (namesFor settings.views settings.excluded disk location routes)) ∧
      (∀ routes old text name, (extractFile settings.routeFile disk).result = .ok routes →
        disk.content? location = some old → Utf8.decode old = .ok text →
        namesFor settings.views settings.excluded disk location routes = [name] →
        ((nameViews settings reporter (nameViews settings reporter disk).disk).disk.content?
            location = (nameViews settings reporter disk).disk.content? location ↔
          Component.ReadsBack (Component.patch text name).text name)) ∧
      ((∀ routes old text, (extractFile settings.routeFile disk).result = .ok routes →
          disk.content? location = some old → Utf8.decode old = .ok text →
          Component.UnprefixedScript text ∧
            ∀ name ∈ namesFor settings.views settings.excluded disk location routes,
              Component.Erasable name) →
        (nameViews settings reporter (nameViews settings reporter disk).disk).disk.content?
          location = (nameViews settings reporter disk).disk.content? location) := by
  have served := finishes_nameViews.1 ⟨finished, rfl⟩
  obtain ⟨latest, again, same⟩ := served.exists_again takes
  -- The second run reads the same route file, so it serves the same routes.
  rw [← (agrees_extractFile kept).result] at again
  obtain ⟨ended, reached⟩ := finishes_nameViews.2 again
  rw [← reached] at same
  refine ⟨ended, fun location => ⟨same location, ?_, ?_⟩⟩
  · intro routes old text name extracted holds decoded single
    rw [same location, ← stable_singleton_iff, ← single]
    constructor
    · intro stable
      exact stable routes old text extracted holds decoded
    · intro stable routes' old' text' extracted' holds' decoded'
      rw [extracted] at extracted'
      rw [holds] at holds'
      cases extracted'
      cases holds'
      rw [decoded] at decoded'
      cases decoded'
      exact stable
  · intro harmless
    rw [same location]
    intro routes old text extracted holds decoded
    obtain ⟨unprefixed, erasable⟩ := harmless routes old text extracted holds decoded
    exact stable_of_erasable unprefixed erasable

def oneRoute (name : String) : Text :=
  Text.ofString "export default [\x7bname:'" ++ Text.ofString name ++
    Text.ofString "',component:()=>import('@/views/a')\x7d]"

def oneView : Location := [Text.ofString "v", Text.ofString "a.vue"]

def oneSettings : Settings :=
  ⟨⟨.root, [Text.ofString "r.ts"]⟩, ⟨.root, [Text.ofString "v"]⟩, []⟩

def oneDisk (name : String) : Disk :=
  ⟨[], [([Text.ofString "r.ts"], .file ((Utf8.encode (oneRoute name)).toOption.getD [])),
    ([Text.ofString "v"], .directory), (oneView, .file [])]⟩

theorem nameViews_twice_oneDisk :
    Reporter.recorder.TakesScalar ∧
    (nameViews oneSettings .recorder (oneDisk "Home")).result = .ok () ∧
    (nameViews oneSettings .recorder (oneDisk "Home")).disk.read oneSettings.routeFile =
      (oneDisk "Home").read oneSettings.routeFile ∧
    (nameViews oneSettings .recorder
      (nameViews oneSettings .recorder (oneDisk "Home")).disk).result = .ok () ∧
    (nameViews oneSettings .recorder
      (nameViews oneSettings .recorder (oneDisk "Home")).disk).disk.content? oneView =
        (nameViews oneSettings .recorder (oneDisk "Home")).disk.content? oneView := by
  have evaluated : (nameViews oneSettings .recorder (oneDisk "Home")).result.isOk = true ∧
      (nameViews oneSettings .recorder (oneDisk "Home")).disk.read oneSettings.routeFile =
        (oneDisk "Home").read oneSettings.routeFile ∧
      (extractFile oneSettings.routeFile (oneDisk "Home")).result.toOption.map
        (namesFor oneSettings.views [] (oneDisk "Home") oneView) = some [Text.ofString "Home"] := by
    decide +kernel
  obtain ⟨ended, kept, named⟩ := evaluated
  have finished := Task.eq_ok_iff_isOk.2 ended
  obtain ⟨again, contents⟩ := nameViews_twice oneSettings .recorder (oneDisk "Home")
    Reporter.takesScalar_recorder finished kept
  refine ⟨Reporter.takesScalar_recorder, finished, kept, again, (contents oneView).2.2 ?_⟩
  intro routes old text extracted holds decoded
  have names : namesFor oneSettings.views oneSettings.excluded (oneDisk "Home") oneView routes =
      [Text.ofString "Home"] := by
    rw [extracted] at named
    exact Option.some.inj named
  have empty : text = [] := by
    cases holds
    cases decoded
    rfl
  rw [names, empty]
  exact ⟨by decide, by decide⟩

theorem nameViews_grows :
    (nameViews oneSettings .recorder (oneDisk "\x7d)")).result = .ok () ∧
    (nameViews oneSettings .recorder
      (nameViews oneSettings .recorder (oneDisk "\x7d)")).disk).disk.content? oneView ≠
        (nameViews oneSettings .recorder (oneDisk "\x7d)")).disk.content? oneView := by
  rw [Task.eq_ok_iff_isOk]
  decide +kernel

end ViewNaming.Run
