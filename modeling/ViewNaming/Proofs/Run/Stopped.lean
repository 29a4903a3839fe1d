import ViewNaming.Proofs.Run.Messages

/-! Batches that fail midway. The routes in front of the one that fails have done all their
work, that route has shown nothing and touched no file but its own, and the routes behind it
never had their turn. -/
namespace ViewNaming.Run

open TypeScript (Parser)

variable {reporter : Reporter} {views : Path} {excluded : List Text}

theorem Breakdown.sameShape [Parser] {disk last : Disk} {route : Route} {failure : Failure}
    (broken : Breakdown reporter views excluded disk route failure last) :
    Disk.SameShape disk last := by
  cases broken with
  | skipped => exact Disk.SameShape.refl disk
  | unanswered => exact Disk.SameShape.refl disk
  | absent => exact Disk.SameShape.refl disk
  | undecodable => exact Disk.SameShape.refl disk
  | unencodable _ there => exact Disk.SameShape.put (Disk.read_eq_ok_iff.1 there).2 []
  | unannounced _ there => exact Disk.SameShape.put (Disk.read_eq_ok_iff.1 there).2 _

/-- The routes of `front` go through, and then the route fails. -/
structure StopsAt [Parser] (reporter : Reporter) (views : Path) (excluded : List Text) (disk : Disk)
    (front : List Route) (route : Route) (failure : Failure) : Prop where
  through : ∃ endings, (patchEach reporter views excluded front disk).result = .ok endings
  failed : (patchComponent reporter views excluded route
    (patchEach reporter views excluded front disk).disk).result = .error failure

theorem stopsAt_iff [Parser] {disk : Disk} {front : List Route} {route : Route}
    {failure : Failure} :
    StopsAt reporter views excluded disk front route failure ↔
      ∃ endings middle last, Steps reporter views excluded disk front endings middle ∧
        Breakdown reporter views excluded middle route failure last := by
  constructor
  · rintro ⟨⟨endings, through⟩, failed⟩
    exact ⟨endings, _, _, finishes_patchEach.1 ⟨through, rfl⟩, fails_patchComponent.1 ⟨failed, rfl⟩⟩
  · rintro ⟨endings, middle, last, steps, broken⟩
    obtain ⟨through, rfl⟩ := finishes_patchEach.2 steps
    exact ⟨⟨endings, through⟩, (fails_patchComponent.2 broken).1⟩

theorem StopsAt.cons [Parser] {disk middle : Disk} {first route : Route} {front : List Route}
    {ending : Ending} {failure : Failure}
    (step : Step reporter views excluded disk first ending middle)
    (stops : StopsAt reporter views excluded middle front route failure) :
    StopsAt reporter views excluded disk (first :: front) route failure := by
  obtain ⟨endings, reached, last, steps, broken⟩ := stopsAt_iff.1 stops
  exact stopsAt_iff.2 ⟨ending :: endings, reached, last, Steps.cons step steps, broken⟩

theorem exists_stopsAt [Parser] {routes : List Route} {disk last : Disk} {failure : Failure}
    (failed : (patchEach reporter views excluded routes).Fails disk failure last) :
    ∃ front route back, routes = front ++ route :: back ∧
      StopsAt reporter views excluded disk front route failure := by
  induction routes generalizing disk with
  | nil => exact absurd failed Task.not_fails_pure
  | cons first routes ih =>
      simp only [patchEach, Task.fails_bind, Task.not_fails_pure, and_false, exists_false,
        or_false, fails_patchComponent, finishes_patchComponent] at failed
      rcases failed with broken | ⟨ending, middle, step, later⟩
      · exact ⟨[], first, routes, rfl, stopsAt_iff.2 ⟨[], disk, last, Steps.nil, broken⟩⟩
      · obtain ⟨front, route, back, rfl, stops⟩ := ih later
        exact ⟨first :: front, route, back, rfl, stops.cons step⟩

theorem patchComponents_of_breakdown [Parser] {disk middle last : Disk} {front : List Route}
    {endings : List Ending} {route : Route} {failure : Failure}
    (steps : Steps reporter views excluded disk front endings middle)
    (broken : Breakdown reporter views excluded middle route failure last) (back : List Route) :
    patchComponents reporter views excluded (front ++ route :: back) disk =
      ⟨.error failure, last, (calls reporter views excluded disk front).flatMap Outcome.events ++
        (patchComponent reporter views excluded route middle).events⟩ := by
  have stopped : patchEach reporter views excluded (front ++ route :: back) disk =
      ⟨.error failure, last, (calls reporter views excluded disk front).flatMap Outcome.events ++
        (patchComponent reporter views excluded route middle).events⟩ := by
    rw [steps.patchEach_append, patchEach_cons_of_fails (fails_patchComponent.2 broken)]
    rfl
  rw [patchComponents, Task.bind_apply_error (by rw [stopped]), stopped]

theorem messages_of_breakdown [Parser] {disk middle last : Disk} {front : List Route}
    {endings : List Ending} {route : Route} {failure : Failure}
    (steps : Steps reporter views excluded disk front endings middle)
    (broken : Breakdown reporter views excluded middle route failure last) (back : List Route) :
    (patchComponents reporter views excluded (front ++ route :: back) disk).messages =
      (calls reporter views excluded disk front).flatMap Outcome.messages := by
  have silent := broken.messages
  rw [Outcome.messages] at silent
  rw [patchComponents_of_breakdown steps broken, Outcome.messages, List.filterMap_append, silent,
    List.append_nil, List.filterMap_flatMap]
  rfl

theorem disk_patchComponents [Parser] (reporter : Reporter) (views : Path) (excluded : List Text)
    (routes : List Route) (disk : Disk) :
    (patchComponents reporter views excluded routes disk).disk =
      (patchEach reporter views excluded routes disk).disk := by
  have untouched : ∀ text middle, (reporter.report .info text middle).disk = middle := by
    intro text middle
    rw [Reporter.report]
    split <;> rfl
  rw [patchComponents]
  cases ended : (patchEach reporter views excluded routes disk).result with
  | error failure => rw [Task.bind_apply_error ended]
  | ok endings => rw [Task.bind_apply_ok ended, untouched]

def summaryText (patched created skipped missing : Nat) : Text :=
  Text.ofString "Done: " ++ Text.ofNat patched ++ Text.ofString " patched, "
    ++ Text.ofNat created ++ Text.ofString " created, "
    ++ Text.ofNat skipped ++ Text.ofString " excluded, "
    ++ Text.ofNat missing ++ Text.ofString " missing"

theorem summary_eq (endings : List Ending) :
    summary endings = summaryText (endings.count .patched) (endings.count .created)
      (endings.count .excluded) (endings.count .missing) := rfl

theorem endingMessage_ne_summaryText (views : Path) (route : Route) (ending : Ending)
    (patched created skipped missing : Nat) :
    endingMessage views route ending ≠ ⟨.info, summaryText patched created skipped missing⟩ := by
  intro same
  have first := congrArg (fun message => message.text.head?) same
  have summaryFirst : (summaryText patched created skipped missing).head? =
      some (CodePoint.ofChar 'D') := rfl
  rw [summaryFirst] at first
  cases ending
  all_goals
    revert first
    change ¬ (some _ = some _)
    decide

theorem summaryText_not_mem_messages [Parser] {disk last : Disk} {routes : List Route}
    {endings : List Ending} (steps : Steps reporter views excluded disk routes endings last)
    (patched created skipped missing : Nat) :
    ⟨.info, summaryText patched created skipped missing⟩ ∉
      (calls reporter views excluded disk routes).flatMap Outcome.messages := by
  rw [steps.messages, List.mem_iff_getElem?]
  rintro ⟨i, shown⟩
  obtain ⟨route, ending, -, -, same⟩ := List.getElem?_zipWith_eq_some.1 shown
  exact endingMessage_ne_summaryText views route ending _ _ _ _ same

/-- A batch that fails stops at a route, unless the reporter refuses the summary. What it
shows are the messages of the routes before that one, and there is no summary. Only the file
of the route that fails can differ from what those routes alone leave, the routes behind it
do not matter at all, and the files that exist stay the same. -/
theorem patchComponents_stops_at_failure [Parser] (reporter : Reporter) (views : Path)
    (excluded : List Text) (routes : List Route) (disk : Disk) :
    (∀ failure, (patchComponents reporter views excluded routes disk).result = .error failure →
      (∃ front route back, routes = front ++ route :: back ∧
        StopsAt reporter views excluded disk front route failure) ∨
      ∃ endings e, (patchEach reporter views excluded routes disk).result = .ok endings ∧
        reporter.refusal? ⟨.info, summary endings⟩ = some e ∧ failure = .encode e) ∧
    ∀ front route back failure, routes = front ++ route :: back →
      StopsAt reporter views excluded disk front route failure →
      (patchComponents reporter views excluded routes disk).result = .error failure ∧
      (patchComponents reporter views excluded routes disk).messages =
        (calls reporter views excluded disk front).flatMap Outcome.messages ∧
      (∀ patched created skipped missing, ⟨.info, summaryText patched created skipped missing⟩ ∉
        (patchComponents reporter views excluded routes disk).messages) ∧
      (∀ location, target? views excluded disk route ≠ some location →
        (patchComponents reporter views excluded routes disk).disk.content? location =
          (patchComponents reporter views excluded front disk).disk.content? location) ∧
      (∀ other, patchComponents reporter views excluded (front ++ route :: other) disk =
        patchComponents reporter views excluded routes disk) ∧
      ∀ location, ((patchComponents reporter views excluded routes disk).disk.content?
        location).isSome = (disk.content? location).isSome := by
  constructor
  · intro failure failed
    rcases Task.fails_bind.1 ⟨failed, rfl⟩ with stopped | ⟨endings, last, finished, refused⟩
    · exact Or.inl (exists_stopsAt stopped)
    · obtain ⟨e, refusal, rfl, -⟩ := Reporter.fails_report.1 refused
      exact Or.inr ⟨endings, e, finished.1, refusal, rfl⟩
  · rintro front route back failure rfl stops
    obtain ⟨endings, middle, last, steps, broken⟩ := stopsAt_iff.1 stops
    have outcome := patchComponents_of_breakdown steps broken
    have messages := messages_of_breakdown steps broken back
    have elsewhere : ∀ location, target? views excluded disk route ≠ some location →
        last.content? location = middle.content? location := by
      intro location apart
      rw [← target?_of_sameShape steps.sameShape] at apart
      exact broken.content?_of_other_target apart
    refine ⟨by rw [outcome], messages, ?_, ?_, ?_, ?_⟩
    · intro patched created skipped missing
      rw [messages]
      exact summaryText_not_mem_messages steps patched created skipped missing
    · intro location apart
      rw [outcome, disk_patchComponents, steps.patchEach_eq]
      exact elsewhere location apart
    · intro other
      rw [outcome, outcome]
    · rw [outcome]
      exact (steps.sameShape.trans broken.sameShape).isSome_content?

def strayDisk : Disk :=
  ⟨[], [([Text.ofString "views"], .directory), (listFile, .file []), (homeFile, .file [0xFF])]⟩

theorem patchComponents_stops_at_failure_strayDisk :
    (∃ failure, StopsAt .recorder sampleViews [] strayDisk [listRoute] homeRoute failure) ∧
    (patchComponents .recorder sampleViews [] [listRoute, homeRoute, allRoute]
      strayDisk).messages = [endingMessage sampleViews listRoute .created] ∧
    (patchComponents .recorder sampleViews [] [listRoute, homeRoute, allRoute]
      strayDisk).disk.content? listFile =
        (patchComponents .recorder sampleViews [] [listRoute] strayDisk).disk.content? listFile ∧
    patchComponents .recorder sampleViews [] [listRoute, homeRoute] strayDisk =
      patchComponents .recorder sampleViews [] [listRoute, homeRoute, allRoute] strayDisk := by
  have evaluated : (patchEach .recorder sampleViews [] [listRoute] strayDisk).result.isOk = true ∧
      (patchComponent .recorder sampleViews [] homeRoute
        (patchEach .recorder sampleViews [] [listRoute] strayDisk).disk).result.isOk = false ∧
      (calls .recorder sampleViews [] strayDisk [listRoute]).flatMap Outcome.messages =
        [endingMessage sampleViews listRoute .created] ∧
      target? sampleViews [] strayDisk homeRoute ≠ some listFile := by
    decide +kernel
  obtain ⟨through, raised, shown, apart⟩ := evaluated
  obtain ⟨failure, failed⟩ := exists_error_of_isOk raised
  have stops : StopsAt .recorder sampleViews [] strayDisk [listRoute] homeRoute failure :=
    ⟨Task.exists_ok_of_isOk through, failed⟩
  obtain ⟨-, messages, -, kept, same, -⟩ := (patchComponents_stops_at_failure .recorder
    sampleViews [] [listRoute, homeRoute, allRoute] strayDisk).2 [listRoute] homeRoute [allRoute]
    failure rfl stops
  exact ⟨⟨failure, stops⟩, messages.trans shown, kept listFile apart, same []⟩

end ViewNaming.Run
