import ViewNaming.Proofs.Run.Breakdown

/-! What naming components is seen to do. A route that goes through opens the file that it
leads to, if it leads to one, and shows a single message about its ending. A route that
fails shows none. So the messages of a batch are those of its routes, one each and in
order. -/
namespace ViewNaming.Run

open TypeScript (Parser)

variable {reporter : Reporter} {views : Path} {excluded : List Text}

def endingMessage (views : Path) (route : Route) : Ending → Message
  | .patched =>
      ⟨.info, Text.ofString "Patched: " ++ (views.component route.relativePath).toText⟩
  | .created =>
      ⟨.info, Text.ofString "Added <script setup> to: " ++
        (views.component route.relativePath).toText⟩
  | .excluded =>
      ⟨.info, Text.ofString "Skipping component in excluded directory: " ++ route.relativePath⟩
  | .missing =>
      ⟨.warn, Text.ofString "File not found: " ++ (views.component route.relativePath).toText⟩

theorem endingMessage_named (views : Path) (route : Route) (created : Bool) :
    endingMessage views route (namedEnding created) =
      namedMessage created (views.component route.relativePath) := by
  cases created <;> rfl

@[simp] theorem level_endingMessage (views : Path) (route : Route) (ending : Ending) :
    (endingMessage views route ending).level = if ending = .missing then .warn else .info := by
  cases ending <;> rfl

theorem silent_parse [Parser] (text : Text) : (parse text).Silent := by
  rw [parse]
  split
  · exact Task.silent_bind (Task.silent_note _) fun _ => Task.silent_pure _
  · exact Task.silent_pure _

theorem silent_noteMalformed [Parser] (text : Text) : (noteMalformed text).Silent := by
  rw [noteMalformed]
  split
  · exact Task.silent_pure _
  · exact Task.silent_bind (silent_parse _) fun _ => Task.silent_pure _

theorem seen_announcement (created : Bool) (path : Path) (disk : Disk) :
    Outcome.seen ((if created then do
        reporter.report .info (Text.ofString "Added <script setup> to: " ++ path.toText)
        return Ending.created
      else do
        reporter.report .info (Text.ofString "Patched: " ++ path.toText)
        return Ending.patched : Task Ending) disk) =
      if reporter.refusal? (namedMessage created path) = none then
        [.shown (namedMessage created path)] else [] := by
  cases created
  all_goals
    simp only [Bool.false_eq_true, if_false, if_true, namedMessage]
    rw [Task.seen_bind_of_silent fun _ => Task.silent_pure _, Reporter.seen_report]

section File

variable {name text : Text} {path : Path} {disk : Disk} {location : Location} {old : Bytes}

theorem seen_patchFile_undecodable [Parser] {e : Utf8.DecodeError}
    (there : disk.read path = .ok (location, old)) (undecoded : Utf8.decode old = .error e) :
    (patchFile reporter name path disk).seen = [] := by
  have failed : (Task.read path).Fails disk (.decode e) disk :=
    Task.fails_read.2 ⟨Or.inr ⟨location, old, e, there, undecoded, rfl⟩, rfl⟩
  rw [patchFile, Task.seen_bind_of_fails failed, Task.silent_read]

theorem seen_patchFile [Parser] (there : disk.read path = .ok (location, old))
    (decoded : Utf8.decode old = .ok text) :
    (patchFile reporter name path disk).seen = .opened location ::
      if (Utf8.encode (Component.patch text name).text).isOk = true ∧
          reporter.refusal? (namedMessage (Component.patch text name).createdScript path) = none
        then [.shown (namedMessage (Component.patch text name).createdScript path)] else [] := by
  have read : (Task.read path).Finishes disk text disk :=
    Task.finishes_read.2 ⟨⟨location, old, there, decoded⟩, rfl⟩
  have noted : (noteMalformed text).Finishes disk () disk := finishes_noteMalformed.2 rfl
  rw [patchFile, Task.seen_bind_of_finishes read, Task.silent_read,
    Task.seen_bind_of_finishes noted, silent_noteMalformed]
  cases encoded : Utf8.encode (Component.patch text name).text with
  | error e =>
      have failed : (Task.write path (Component.patch text name).text).Fails disk (.encode e)
          (disk.put location (.file [])) :=
        Task.fails_write.2 (Or.inr ⟨location, old, e, there, encoded, rfl, rfl⟩)
      rw [Task.seen_bind_of_fails failed, Task.seen_write there]
      rfl
  | ok new =>
      have written : (Task.write path (Component.patch text name).text).Finishes disk ()
          (disk.put location (.file new)) :=
        Task.finishes_write.2 ⟨location, old, new, there, encoded, rfl⟩
      have logged : ∀ record, (Task.note record).Finishes (disk.put location (.file new)) ()
          (disk.put location (.file new)) := fun _ => Task.finishes_note.2 rfl
      rw [Task.seen_bind_of_finishes written, Task.seen_write there,
        Task.seen_bind_of_finishes (logged _), Task.silent_note, seen_announcement]
      simp [Except.isOk, Except.toBool]

end File

section Component

variable {disk last : Disk} {route : Route} {ending : Ending} {failure : Failure}

theorem seen_patchComponent_skipped [Parser]
    (outside : isExcluded route.relativePath excluded = true) :
    (patchComponent reporter views excluded route disk).seen =
      if reporter.refusal? (endingMessage views route .excluded) = none then
        [.shown (endingMessage views route .excluded)] else [] := by
  rw [patchComponent, if_pos outside, Task.seen_bind_of_silent fun _ => Task.silent_pure _,
    Reporter.seen_report, endingMessage]

theorem seen_patchComponent_absent [Parser]
    (inside : isExcluded route.relativePath excluded = false)
    (answer : disk.isFile (views.component route.relativePath) = .ok false) :
    (patchComponent reporter views excluded route disk).seen =
      if reporter.refusal? (endingMessage views route .missing) = none then
        [.shown (endingMessage views route .missing)] else [] := by
  have answered : (Task.isFile (views.component route.relativePath)).Finishes disk false disk :=
    Task.finishes_isFile.2 ⟨answer, rfl⟩
  rw [patchComponent, if_neg (Bool.eq_false_iff.1 inside), Task.seen_bind_of_finishes answered,
    Task.silent_isFile, if_neg Bool.false_ne_true,
    Task.seen_bind_of_silent fun _ => Task.silent_pure _, Reporter.seen_report, endingMessage,
    List.nil_append]

theorem seen_patchComponent_present [Parser] {location : Location} {old : Bytes}
    (inside : isExcluded route.relativePath excluded = false)
    (there : disk.read (views.component route.relativePath) = .ok (location, old)) :
    (patchComponent reporter views excluded route disk).seen =
      (patchFile reporter route.name (views.component route.relativePath) disk).seen := by
  have answered : (Task.isFile (views.component route.relativePath)).Finishes disk true disk :=
    Task.finishes_isFile.2 ⟨isFile_of_read there, rfl⟩
  rw [patchComponent, if_neg (Bool.eq_false_iff.1 inside), Task.seen_bind_of_finishes answered,
    Task.silent_isFile, if_pos rfl, List.nil_append]

theorem Step.seen [Parser] (step : Step reporter views excluded disk route ending last) :
    (patchComponent reporter views excluded route disk).seen =
      (target? views excluded disk route).toList.map Event.opened ++
        [.shown (endingMessage views route ending)] := by
  cases step with
  | skipped outside accepted =>
      rw [seen_patchComponent_skipped outside, endingMessage, if_pos accepted, target?,
        if_pos outside]
      rfl
  | absent inside missing accepted =>
      have nowhere : target? views excluded disk route = none := by
        rw [Option.eq_none_iff_forall_ne_some]
        intro location aimed
        obtain ⟨-, bytes, there⟩ := target?_eq_some_iff.1 aimed
        rw [isFile_of_read there] at missing
        cases missing
      rw [seen_patchComponent_absent inside missing, endingMessage, if_pos accepted, nowhere]
      rfl
  | @named location old new text inside there decoded encoded accepted =>
      rw [seen_patchComponent_present inside there, seen_patchFile there decoded,
        if_pos ⟨by rw [encoded]; rfl, accepted⟩, target?_eq_some_iff.2 ⟨inside, old, there⟩,
        endingMessage_named]
      rfl

theorem Step.messages [Parser] (step : Step reporter views excluded disk route ending last) :
    (patchComponent reporter views excluded route disk).messages =
      [endingMessage views route ending] := by
  rw [Outcome.messages_eq, step.seen]
  cases target? views excluded disk route <;> rfl

theorem Step.opened [Parser] (step : Step reporter views excluded disk route ending last) :
    (patchComponent reporter views excluded route disk).opened =
      (target? views excluded disk route).toList := by
  rw [Outcome.opened_eq, step.seen]
  cases target? views excluded disk route <;> rfl

theorem Breakdown.messages [Parser]
    (broken : Breakdown reporter views excluded disk route failure last) :
    (patchComponent reporter views excluded route disk).messages = [] := by
  rw [Outcome.messages_eq]
  cases broken with
  | skipped outside refused =>
      rw [seen_patchComponent_skipped outside, endingMessage, refused]
      rfl
  | unanswered inside unanswered =>
      have failed := Task.fails_isFile.2 ⟨_, unanswered, rfl, rfl⟩
      rw [patchComponent, if_neg (Bool.eq_false_iff.1 inside), Task.seen_bind_of_fails failed,
        Task.silent_isFile]
      rfl
  | absent inside missing refused =>
      rw [seen_patchComponent_absent inside missing, endingMessage, refused]
      rfl
  | undecodable inside there undecoded =>
      rw [seen_patchComponent_present inside there, seen_patchFile_undecodable there undecoded]
      rfl
  | unencodable inside there decoded unencoded =>
      rw [seen_patchComponent_present inside there, seen_patchFile there decoded, unencoded]
      rfl
  | unannounced inside there decoded encoded refused =>
      rw [seen_patchComponent_present inside there, seen_patchFile there decoded, refused]
      simp [Event.message?]

end Component

def calls [Parser] (reporter : Reporter) (views : Path) (excluded : List Text) :
    Disk → List Route → List (Outcome Ending)
  | _, [] => []
  | disk, route :: routes =>
      patchComponent reporter views excluded route disk ::
        calls reporter views excluded (patchComponent reporter views excluded route disk).disk
          routes

theorem patchEach_cons_of_finishes [Parser] {disk middle : Disk} {route : Route} {ending : Ending}
    (finished : (patchComponent reporter views excluded route).Finishes disk ending middle)
    (routes : List Route) :
    patchEach reporter views excluded (route :: routes) disk =
      ⟨(patchEach reporter views excluded routes middle).result.map (ending :: ·),
        (patchEach reporter views excluded routes middle).disk,
        (patchComponent reporter views excluded route disk).events ++
          (patchEach reporter views excluded routes middle).events⟩ := by
  rw [patchEach, Task.bind_apply_ok finished.1, Task.bind_pure_apply, finished.2]

theorem patchEach_cons_of_fails [Parser] {disk last : Disk} {route : Route} {failure : Failure}
    (failed : (patchComponent reporter views excluded route).Fails disk failure last)
    (routes : List Route) :
    patchEach reporter views excluded (route :: routes) disk =
      ⟨.error failure, last, (patchComponent reporter views excluded route disk).events⟩ := by
  rw [patchEach, Task.bind_apply_error failed.1, failed.2]

namespace Steps

variable {disk last : Disk} {routes : List Route} {endings : List Ending}

theorem results [Parser] (steps : Steps reporter views excluded disk routes endings last) :
    (calls reporter views excluded disk routes).map Outcome.result = endings.map .ok := by
  induction steps with
  | nil => rfl
  | cons step _ ih =>
      obtain ⟨ended, left⟩ := finishes_patchComponent.2 step
      rw [calls, List.map_cons, List.map_cons, left, ended, ih]

theorem messages [Parser] (steps : Steps reporter views excluded disk routes endings last) :
    (calls reporter views excluded disk routes).flatMap Outcome.messages =
      List.zipWith (endingMessage views) routes endings := by
  induction steps with
  | nil => rfl
  | cons step _ ih =>
      rw [calls, List.flatMap_cons, (finishes_patchComponent.2 step).2, ih, step.messages,
        List.zipWith_cons_cons, List.singleton_append]

theorem opened [Parser] (steps : Steps reporter views excluded disk routes endings last) :
    (calls reporter views excluded disk routes).flatMap Outcome.opened =
      routes.filterMap (target? views excluded disk) := by
  induction steps with
  | nil => rfl
  | @cons disk middle last route routes ending endings step _ ih =>
      have same : target? views excluded middle = target? views excluded disk := by
        funext route
        exact target?_of_sameShape step.sameShape route
      rw [calls, List.flatMap_cons, (finishes_patchComponent.2 step).2, ih, step.opened, same]
      cases aimed : target? views excluded disk route with
      | none => rw [List.filterMap_cons_none aimed, Option.toList_none, List.nil_append]
      | some location =>
          rw [List.filterMap_cons_some aimed, Option.toList_some, List.singleton_append]

theorem patchEach_append [Parser] (steps : Steps reporter views excluded disk routes endings last)
    (more : List Route) :
    patchEach reporter views excluded (routes ++ more) disk =
      ⟨(patchEach reporter views excluded more last).result.map (endings ++ ·),
        (patchEach reporter views excluded more last).disk,
        (calls reporter views excluded disk routes).flatMap Outcome.events ++
          (patchEach reporter views excluded more last).events⟩ := by
  induction steps with
  | @nil disk =>
      rw [List.nil_append, calls, List.flatMap_nil, List.nil_append]
      obtain ⟨result, reached, events⟩ := patchEach reporter views excluded more disk
      cases result <;> rfl
  | @cons disk middle last route routes ending endings step _ ih =>
      have finished := finishes_patchComponent.2 step
      rw [List.cons_append, patchEach_cons_of_finishes finished, ih, calls, finished.2,
        List.flatMap_cons, List.append_assoc]
      cases (patchEach reporter views excluded more last).result <;> rfl

theorem patchEach_eq [Parser] (steps : Steps reporter views excluded disk routes endings last) :
    patchEach reporter views excluded routes disk =
      ⟨.ok endings, last, (calls reporter views excluded disk routes).flatMap Outcome.events⟩ := by
  have whole := steps.patchEach_append []
  simpa [patchEach, Task.pure_apply, Except.map] using whole

end Steps

end ViewNaming.Run
