import ViewNaming.Proofs.Run.Stopped
import ViewNaming.Proofs.Run.Twice

/-! The courses of a whole run. What is extracted decides between a route file that is of
no use, one that cannot be read, one without routes, and a batch of routes, and the batch
either goes through or stops. Each course has its own messages, and only a batch opens files
for writing. -/
namespace ViewNaming.Run

open TypeScript (Parser)

variable {reporter : Reporter} {settings : Settings}

/-- The failure concerns the route file as a whole: nothing is exported by default, or what
is exported leads to no array. -/
def Structural (failure : Failure) : Prop :=
  ∃ place, failure = .extraction place .noDefaultExport ∨
    failure = .extraction place .noRouteArray

theorem structuralMessage?_of_structural {failure : Failure} (structural : Structural failure) :
    structuralMessage? failure = some failure.message := by
  obtain ⟨place, rfl | rfl⟩ := structural
  · rfl
  · rfl

theorem structuralMessage?_of_not {failure : Failure} (other : ¬ Structural failure) :
    structuralMessage? failure = none := by
  unfold structuralMessage?
  split
  · exact absurd ⟨_, Or.inl rfl⟩ other
  · exact absurd ⟨_, Or.inr rfl⟩ other
  · rfl

theorem silent_extractFile [Parser] (path : Path) : (extractFile path).Silent := by
  have parsed : (parseFile path).Silent :=
    Task.silent_bind (Task.silent_read path) fun _ => silent_parse _
  apply Task.silent_bind parsed
  intro script
  split
  · exact Task.silent_bind (Task.silent_note _) fun _ => Task.silent_pure _
  · exact Task.silent_fail _
  · exact Task.silent_fail _

theorem exists_read_of_extraction [Parser] {path : Path} {disk : Disk} {place : Text}
    {error : Route.ExtractionError}
    (failed : (extractFile path disk).result = .error (.extraction place error)) :
    place = path.toText ∧ ∃ location bytes, disk.read path = .ok (location, bytes) := by
  rcases Task.fails_bind.1 ⟨failed, rfl⟩ with unparsed | ⟨script, middle, parsed, rejected⟩
  · rcases Task.fails_bind.1 unparsed with unread | ⟨_, _, _, unparsed⟩
    · obtain ⟨⟨_, _, other⟩ | ⟨_, _, _, _, _, other⟩, -⟩ := Task.fails_read.1 unread
      · cases other
      · cases other
    · exact absurd unparsed not_fails_parse
  · obtain ⟨_, _, read, -⟩ := Task.finishes_bind.1 parsed
    obtain ⟨⟨location, bytes, there, -⟩, -⟩ := Task.finishes_read.1 read
    refine ⟨?_, location, bytes, there⟩
    split at rejected
    · simp [Task.fails_bind, Task.not_fails_note, Task.not_fails_pure] at rejected
    · cases (Task.fails_fail.1 rejected).1
      rfl
    · cases (Task.fails_fail.1 rejected).1
      rfl

theorem scalar_message_of_structural [Parser] {path : Path} {disk : Disk} {failure : Failure}
    (extracted : (extractFile path disk).result = .error failure)
    (structural : Structural failure) : failure.message.Scalar := by
  obtain ⟨place, rfl | rfl⟩ := structural
  all_goals
    obtain ⟨rfl, location, bytes, there⟩ := exists_read_of_extraction extracted
    simp [Failure.message, Route.ExtractionError.message, Route.ExtractionError.message.suffix,
      Disk.scalar_of_read there]

section Onwards

variable {disk : Disk} {failure : Failure} {routes : List Route}

theorem seen_routes?_of_ok [Parser] {path : Path}
    (extracted : (extractFile path disk).result = .ok routes) :
    (routes? reporter path disk).seen = [] := by
  simp only [routes?, extracted]
  exact silent_extractFile path disk

theorem seen_routes?_of_structural [Parser] {path : Path}
    (extracted : (extractFile path disk).result = .error failure)
    (structural : Structural failure) :
    (routes? reporter path disk).seen =
      (reporter.report .error failure.message disk).seen := by
  simp only [routes?, extracted, structuralMessage?_of_structural structural, disk_extractFile,
    Outcome.seen, List.filter_append]
  rw [← Outcome.seen, silent_extractFile, List.nil_append]

theorem fails_routes?_of_other [Parser] {path : Path}
    (extracted : (extractFile path disk).result = .error failure) (other : ¬ Structural failure) :
    (routes? reporter path).Fails disk failure disk := by
  simp [Task.Fails, routes?, extracted, structuralMessage?_of_not other, disk_extractFile]

theorem seen_routes?_of_other [Parser] {path : Path}
    (extracted : (extractFile path disk).result = .error failure) (other : ¬ Structural failure) :
    (routes? reporter path disk).seen = [] := by
  simp only [routes?, extracted, structuralMessage?_of_not other]
  exact silent_extractFile path disk

theorem nameViews_of_structural [Parser]
    (extracted : (extractFile settings.routeFile disk).result = .error failure)
    (structural : Structural failure)
    (accepted : reporter.refusal? ⟨.error, failure.message⟩ = none) :
    (nameViews settings reporter disk).SameButLog
      (reporter.report .error failure.message disk) := by
  have missing : (routes? reporter settings.routeFile).Finishes disk none disk :=
    (finishes_routes?_of_error extracted).2
      ⟨⟨_, structuralMessage?_of_structural structural, accepted⟩, rfl, rfl⟩
  obtain ⟨reported, kept⟩ : (reporter.report .error failure.message).Finishes disk () disk :=
    Reporter.finishes_report.2 ⟨accepted, rfl⟩
  refine (Task.sameButLog_note _ _ disk).trans ?_
  -- The report is part of looking for routes, and nothing is left to do behind it.
  refine ⟨?_, ?_, ?_⟩
  · rw [Task.bind_apply_ok missing.1, reported]
    rfl
  · rw [Task.bind_apply_ok missing.1, missing.2, kept]
    rfl
  · rw [Task.seen_bind_of_finishes missing, seen_routes?_of_structural extracted structural]
    exact List.append_nil _

theorem nameViews_of_other [Parser]
    (extracted : (extractFile settings.routeFile disk).result = .error failure)
    (other : ¬ Structural failure) :
    (nameViews settings reporter disk).SameButLog (Task.fail failure disk) := by
  have failed : (routes? reporter settings.routeFile).Fails disk failure disk :=
    fails_routes?_of_other extracted other
  refine (Task.sameButLog_note _ _ disk).trans ?_
  refine ⟨?_, ?_, ?_⟩
  · rw [Task.bind_apply_error failed.1]
    rfl
  · rw [Task.bind_apply_error failed.1, failed.2]
    rfl
  · rw [Task.seen_bind_of_fails failed, seen_routes?_of_other extracted other, Task.silent_fail]

theorem nameViews_of_nil [Parser]
    (extracted : (extractFile settings.routeFile disk).result = .ok []) :
    (nameViews settings reporter disk).SameButLog (reporter.report .warn noRoutes disk) := by
  refine (Task.sameButLog_note _ _ disk).trans ?_
  exact Task.sameButLog_bind (seen_routes?_of_ok extracted)
    ((finishes_routes?_of_ok extracted).2 ⟨rfl, rfl⟩)

theorem nameViews_of_routes [Parser]
    (extracted : (extractFile settings.routeFile disk).result = .ok routes)
    (nonempty : routes ≠ []) :
    (nameViews settings reporter disk).SameButLog
      (patchComponents reporter settings.views settings.excluded routes disk) := by
  refine (Task.sameButLog_note _ _ disk).trans ?_
  refine (Task.sameButLog_bind (seen_routes?_of_ok extracted)
    ((finishes_routes?_of_ok extracted).2 ⟨rfl, rfl⟩)).trans ?_
  cases routes with
  | nil => exact absurd rfl nonempty
  | cons route routes =>
      exact Task.sameButLog_note _ _ disk

end Onwards

theorem count_endings (endings : List Ending) :
    endings.count .patched + endings.count .created + endings.count .excluded +
      endings.count .missing = endings.length := by
  induction endings with
  | nil => rfl
  | cons ending endings ih =>
      rw [List.length_cons, ← ih]
      cases ending <;> simp <;> omega

section Batch

variable {views : Path} {excluded : List Text} {disk last : Disk}

def Lacking (views : Path) (excluded : List Text) (disk : Disk) (route : Route) : Prop :=
  isExcluded route.relativePath excluded = false ∧
    disk.isFile (views.component route.relativePath) = .ok false

instance (views : Path) (excluded : List Text) (disk : Disk) (route : Route) :
    Decidable (Lacking views excluded disk route) := inferInstanceAs (Decidable (_ ∧ _))

theorem lacking_of_sameShape {other : Disk} (shape : Disk.SameShape disk other) (route : Route) :
    Lacking views excluded other route ↔ Lacking views excluded disk route := by
  rw [Lacking, shape.isFile, Lacking]

theorem Step.missing_iff [Parser] {route : Route} {ending : Ending}
    (step : Step reporter views excluded disk route ending last) :
    ending = .missing ↔ Lacking views excluded disk route := by
  cases step with
  | skipped outside => simp [Lacking, outside]
  | absent inside missing => simp [Lacking, inside, missing]
  | @named _ _ _ text _ there =>
      have present : ¬ Lacking views excluded disk route := by
        rintro ⟨-, missing⟩
        rw [isFile_of_read there] at missing
        cases missing
      refine iff_of_false ?_ present
      cases (Component.patch text route.name).createdScript <;> simp [namedEnding]

variable {routes : List Route} {endings : List Ending}

theorem Steps.length_eq [Parser] (steps : Steps reporter views excluded disk routes endings last) :
    endings.length = routes.length := by
  induction steps with
  | nil => rfl
  | cons _ _ ih => rw [List.length_cons, ih, List.length_cons]

theorem Steps.levels [Parser] (steps : Steps reporter views excluded disk routes endings last) :
    (List.zipWith (endingMessage views) routes endings).map Message.level =
      routes.map fun route => if Lacking views excluded disk route then .warn else .info := by
  -- No step makes or removes a file, so what is lacking later was lacking at the start.
  induction steps with
  | nil => rfl
  | cons step _ ih =>
      simp only [List.zipWith_cons_cons, List.map_cons, level_endingMessage, step.missing_iff, ih,
        lacking_of_sameShape step.sameShape]

theorem Steps.countP_warn [Parser]
    (steps : Steps reporter views excluded disk routes endings last) :
    (List.zipWith (endingMessage views) routes endings).countP (·.level = .warn) =
      endings.count .missing := by
  induction steps with
  | nil => rfl
  | @cons _ _ _ _ _ ending _ _ _ ih =>
      rw [List.zipWith_cons_cons, List.countP_cons, List.count_cons, ih, level_endingMessage]
      cases ending <;> rfl

theorem Steps.seen_patchComponents [Parser]
    (steps : Steps reporter views excluded disk routes endings last)
    (accepted : reporter.refusal? ⟨.info, summary endings⟩ = none) :
    (patchComponents reporter views excluded routes disk).seen =
      (patchEach reporter views excluded routes disk).seen ++
        [.shown ⟨.info, summary endings⟩] := by
  rw [patchComponents, Task.seen_bind_of_finishes (finishes_patchEach.2 steps),
    Reporter.seen_report, if_pos accepted]

theorem Steps.messages_patchComponents [Parser]
    (steps : Steps reporter views excluded disk routes endings last)
    (accepted : reporter.refusal? ⟨.info, summary endings⟩ = none) :
    (patchComponents reporter views excluded routes disk).messages =
      List.zipWith (endingMessage views) routes endings ++ [⟨.info, summary endings⟩] := by
  rw [Outcome.messages_eq, steps.seen_patchComponents accepted, List.filterMap_append,
    ← Outcome.messages_eq, ← steps.messages, steps.patchEach_eq, Outcome.messages,
    List.filterMap_flatMap]
  rfl

theorem Steps.opened_patchComponents [Parser]
    (steps : Steps reporter views excluded disk routes endings last)
    (accepted : reporter.refusal? ⟨.info, summary endings⟩ = none) :
    (patchComponents reporter views excluded routes disk).opened =
      routes.filterMap (target? views excluded disk) := by
  rw [Outcome.opened_eq, steps.seen_patchComponents accepted, List.filterMap_append,
    ← Outcome.opened_eq, ← steps.opened, steps.patchEach_eq, Outcome.opened,
    List.filterMap_flatMap]
  exact List.append_nil _

end Batch

/-- The ways a run can go. The first two are for extraction that fails, and the last two
for a batch of routes. -/
inductive Course
  | unusable
  | unread
  | empty
  | complete
  | stopped
deriving DecidableEq

structure Untouched (disk : Disk) (outcome : Outcome Unit) : Prop where
  disk : outcome.disk = disk
  opened : outcome.opened = []

/-- Every route went through: each has its message, and the summary stands at the end. -/
structure Completed [Parser] (settings : Settings) (reporter : Reporter) (disk : Disk)
    (routes : List Route) (endings : List Ending) (outcome : Outcome Unit) : Prop where
  results : (calls reporter settings.views settings.excluded disk routes).map Outcome.result =
    endings.map .ok
  result : outcome.result = .ok ()
  messages : outcome.messages = List.zipWith (endingMessage settings.views) routes endings ++
    [⟨.info, summaryText (endings.count .patched) (endings.count .created)
      (endings.count .excluded) (endings.count .missing)⟩]
  number : outcome.messages.length = routes.length + 1
  levels : outcome.messages.map Message.level =
    (routes.map fun route =>
      if Lacking settings.views settings.excluded disk route then .warn else .info) ++ [.info]
  total : endings.count .patched + endings.count .created + endings.count .excluded +
    endings.count .missing = routes.length
  warnings : endings.count .missing = outcome.messages.countP (·.level = .warn)
  opened : outcome.opened = routes.filterMap (target? settings.views settings.excluded disk)

/-- A route failed: its failure ends the run, and there is no summary. -/
structure Interrupted [Parser] (settings : Settings) (reporter : Reporter) (disk : Disk)
    (front : List Route) (route : Route) (failure : Failure) (outcome : Outcome Unit) : Prop where
  stops : StopsAt reporter settings.views settings.excluded disk front route failure
  result : outcome.result = .error failure
  messages : outcome.messages =
    (calls reporter settings.views settings.excluded disk front).flatMap Outcome.messages
  unsummarized : ∀ patched created skipped missing,
    ⟨.info, summaryText patched created skipped missing⟩ ∉ outcome.messages

/-- What the outcome of a run is on each course. -/
inductive Account [Parser] (settings : Settings) (reporter : Reporter) (disk : Disk)
    (outcome : Outcome Unit) : Course → Prop
  | unusable {failure : Failure} :
      (extractFile settings.routeFile disk).result = .error failure → Structural failure →
      outcome.result = .ok () → outcome.messages = [⟨.error, failure.message⟩] →
      Untouched disk outcome → Account settings reporter disk outcome .unusable
  | unread {failure : Failure} :
      (extractFile settings.routeFile disk).result = .error failure → ¬ Structural failure →
      outcome.result = .error failure → outcome.messages = [] →
      Untouched disk outcome → Account settings reporter disk outcome .unread
  | empty : (extractFile settings.routeFile disk).result = .ok [] →
      outcome.result = .ok () → outcome.messages = [⟨.warn, noRoutes⟩] →
      Untouched disk outcome → Account settings reporter disk outcome .empty
  | complete {routes : List Route} {endings : List Ending} :
      (extractFile settings.routeFile disk).result = .ok routes → routes ≠ [] →
      Completed settings reporter disk routes endings outcome →
      Account settings reporter disk outcome .complete
  | stopped {front back : List Route} {route : Route} {failure : Failure} :
      (extractFile settings.routeFile disk).result = .ok (front ++ route :: back) →
      Interrupted settings reporter disk front route failure outcome →
      Account settings reporter disk outcome .stopped

def courseOf : Except Failure (List Route) → Except Failure Unit → Course
  | .error failure, _ => if (structuralMessage? failure).isSome then .unusable else .unread
  | .ok [], _ => .empty
  | .ok (_ :: _), .ok _ => .complete
  | .ok (_ :: _), .error _ => .stopped

theorem Account.course_eq [Parser] {disk : Disk} {outcome : Outcome Unit} {course : Course}
    (account : Account settings reporter disk outcome course) :
    course = courseOf (extractFile settings.routeFile disk).result outcome.result := by
  cases account with
  | unusable extracted structural =>
      rw [extracted, courseOf, structuralMessage?_of_structural structural]
      rfl
  | unread extracted other =>
      rw [extracted, courseOf, structuralMessage?_of_not other]
      rfl
  | empty extracted => rw [extracted, courseOf]
  | @complete routes _ extracted nonempty completed =>
      obtain ⟨route, routes, rfl⟩ := List.exists_cons_of_ne_nil nonempty
      rw [extracted, completed.result, courseOf]
  | @stopped front back route _ extracted interrupted =>
      obtain ⟨first, rest, cut⟩ := List.exists_cons_of_ne_nil
        (List.append_ne_nil_of_right_ne_nil front (List.cons_ne_nil route back))
      rw [extracted, cut, interrupted.result, courseOf]

theorem reported_of_sameButLog {disk : Disk} {outcome : Outcome Unit} {level : Level} {text : Text}
    (same : outcome.SameButLog (reporter.report level text disk))
    (accepted : reporter.refusal? ⟨level, text⟩ = none) :
    outcome.result = .ok () ∧ outcome.messages = [⟨level, text⟩] ∧ Untouched disk outcome := by
  obtain ⟨ended, kept⟩ : (reporter.report level text).Finishes disk () disk :=
    Reporter.finishes_report.2 ⟨accepted, rfl⟩
  have seen : outcome.seen = [.shown ⟨level, text⟩] := by
    rw [same.seen, Reporter.seen_report, if_pos accepted]
  refine ⟨same.result.trans ended, ?_, same.disk.trans kept, ?_⟩
  · rw [Outcome.messages_eq, seen]
    rfl
  · rw [Outcome.opened_eq, seen]
    rfl

theorem completed_of_steps [Parser] {disk last : Disk} {routes : List Route} {endings : List Ending}
    {outcome : Outcome Unit}
    (same : outcome.SameButLog
      (patchComponents reporter settings.views settings.excluded routes disk))
    (steps : Steps reporter settings.views settings.excluded disk routes endings last)
    (accepted : reporter.refusal? ⟨.info, summary endings⟩ = none) :
    Completed settings reporter disk routes endings outcome := by
  have messages := same.messages.trans (steps.messages_patchComponents accepted)
  have ended : (patchComponents reporter settings.views settings.excluded routes).Finishes disk
      () last := finishes_patchComponents.2 ⟨endings, steps, accepted⟩
  constructor
  case results => exact steps.results
  case result => exact same.result.trans ended.1
  case messages => rw [messages, summary_eq]
  case number =>
    rw [messages, List.length_append, List.length_zipWith, steps.length_eq, Nat.min_self]
    rfl
  case levels => rw [messages, List.map_append, steps.levels, List.map_singleton]
  case total => rw [count_endings, steps.length_eq]
  case warnings =>
    rw [messages, List.countP_append, steps.countP_warn]
    rfl
  case opened => exact same.opened.trans (steps.opened_patchComponents accepted)

theorem interrupted_of_stopsAt [Parser] {disk : Disk} {front back : List Route} {route : Route}
    {failure : Failure} {outcome : Outcome Unit}
    (same : outcome.SameButLog
      (patchComponents reporter settings.views settings.excluded (front ++ route :: back) disk))
    (stops : StopsAt reporter settings.views settings.excluded disk front route failure) :
    Interrupted settings reporter disk front route failure outcome := by
  obtain ⟨endings, middle, last, steps, broken⟩ := stopsAt_iff.1 stops
  have messages := same.messages.trans (messages_of_breakdown steps broken back)
  constructor
  case stops => exact stops
  case result => rw [same.result, patchComponents_of_breakdown steps broken]
  case messages => exact messages
  case unsummarized =>
    intro patched created skipped missing
    rw [messages]
    exact summaryText_not_mem_messages steps patched created skipped missing

section Exists

variable {disk : Disk}

theorem exists_account_of_error [Parser] (takes : reporter.TakesScalar) {failure : Failure}
    (extracted : (extractFile settings.routeFile disk).result = .error failure) :
    ∃ course, Account settings reporter disk (nameViews settings reporter disk) course := by
  by_cases structural : Structural failure
  · have accepted : reporter.refusal? ⟨.error, failure.message⟩ = none :=
      takes _ (scalar_message_of_structural extracted structural)
    obtain ⟨ended, messages, untouched⟩ :=
      reported_of_sameButLog (nameViews_of_structural extracted structural accepted) accepted
    exact ⟨.unusable, Account.unusable extracted structural ended messages untouched⟩
  · have same : (nameViews settings reporter disk).SameButLog (Task.fail failure disk) :=
      nameViews_of_other extracted structural
    exact ⟨.unread, Account.unread extracted structural same.result same.messages
      ⟨same.disk, same.opened⟩⟩

theorem exists_account_of_nil [Parser] (takes : reporter.TakesScalar)
    (extracted : (extractFile settings.routeFile disk).result = .ok []) :
    ∃ course, Account settings reporter disk (nameViews settings reporter disk) course := by
  have accepted : reporter.refusal? ⟨.warn, noRoutes⟩ = none := takes _ (Text.scalar_ofString _)
  obtain ⟨ended, messages, untouched⟩ :=
    reported_of_sameButLog (nameViews_of_nil extracted) accepted
  exact ⟨.empty, Account.empty extracted ended messages untouched⟩

theorem exists_account_of_routes [Parser] (takes : reporter.TakesScalar) {routes : List Route}
    (extracted : (extractFile settings.routeFile disk).result = .ok routes)
    (nonempty : routes ≠ []) :
    ∃ course, Account settings reporter disk (nameViews settings reporter disk) course := by
  have same : (nameViews settings reporter disk).SameButLog
      (patchComponents reporter settings.views settings.excluded routes disk) :=
    nameViews_of_routes extracted nonempty
  cases ended : (patchEach reporter settings.views settings.excluded routes disk).result with
  | ok endings =>
      have steps := finishes_patchEach.1 ⟨ended, rfl⟩
      have accepted : reporter.refusal? ⟨.info, summary endings⟩ = none :=
        takes _ (scalar_summary endings)
      exact ⟨.complete, Account.complete extracted nonempty
        (completed_of_steps same steps accepted)⟩
  | error failure =>
      obtain ⟨front, route, back, rfl, stops⟩ := exists_stopsAt ⟨ended, rfl⟩
      exact ⟨.stopped, Account.stopped extracted (interrupted_of_stopsAt same stops)⟩

theorem exists_account [Parser] (settings : Settings) (disk : Disk) (takes : reporter.TakesScalar) :
    ∃ course, Account settings reporter disk (nameViews settings reporter disk) course := by
  cases extracted : (extractFile settings.routeFile disk).result with
  | error failure => exact exists_account_of_error takes extracted
  | ok routes =>
      cases routes with
      | nil => exact exists_account_of_nil takes extracted
      | cons route routes =>
          exact exists_account_of_routes takes extracted (List.cons_ne_nil route routes)

end Exists

/-- Every run takes exactly one course, as long as the reporter refuses no message that has
an encoded form. -/
theorem nameViews_takes_one_course [Parser] (settings : Settings) (reporter : Reporter)
    (disk : Disk) (takes : reporter.TakesScalar) :
    ∃! course, Account settings reporter disk (nameViews settings reporter disk) course := by
  obtain ⟨course, account⟩ := exists_account settings disk takes
  refine ⟨course, account, ?_⟩
  intro other described
  rw [account.course_eq, described.course_eq]

theorem nameViews_takes_one_course_oneDisk :
    Reporter.console.TakesScalar ∧
    Account oneSettings .console (oneDisk "Home")
      (nameViews oneSettings .console (oneDisk "Home")) .complete ∧
    ∀ course, Account oneSettings .console (oneDisk "Home")
      (nameViews oneSettings .console (oneDisk "Home")) course → course = .complete := by
  have expected : courseOf (extractFile oneSettings.routeFile (oneDisk "Home")).result
      (nameViews oneSettings .console (oneDisk "Home")).result = .complete := by
    decide +kernel
  obtain ⟨course, account, only⟩ := nameViews_takes_one_course oneSettings .console
    (oneDisk "Home") Reporter.takesScalar_console
  obtain rfl := account.course_eq.trans expected
  exact ⟨Reporter.takesScalar_console, account, only⟩

end ViewNaming.Run
