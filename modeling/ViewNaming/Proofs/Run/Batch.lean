import ViewNaming.Proofs.Run.Step

/-! The effect of naming many components, file by file. No step changes which files
there are, so a route leads to the same file throughout a run. Each file therefore
sees exactly the names of its own routes, in their order, and how the routes of
different files are interleaved does not matter. -/
namespace ViewNaming.Run

open TypeScript (Parser)

variable {reporter : Reporter} {views : Path} {excluded : List Text}

/-- One step for each route, in order. -/
inductive Steps [Parser] (reporter : Reporter) (views : Path) (excluded : List Text) :
    Disk → List Route → List Ending → Disk → Prop
  | nil {disk : Disk} : Steps reporter views excluded disk [] [] disk
  | cons {disk middle last : Disk} {route : Route} {routes : List Route} {ending : Ending}
      {endings : List Ending} :
      Step reporter views excluded disk route ending middle →
      Steps reporter views excluded middle routes endings last →
      Steps reporter views excluded disk (route :: routes) (ending :: endings) last

theorem finishes_patchEach [Parser] {routes : List Route} {disk last : Disk}
    {endings : List Ending} :
    (patchEach reporter views excluded routes).Finishes disk endings last ↔
      Steps reporter views excluded disk routes endings last := by
  induction routes generalizing disk last endings with
  | nil =>
      rw [patchEach, Task.finishes_pure]
      constructor
      · rintro ⟨rfl, rfl⟩
        exact Steps.nil
      · intro steps
        cases steps
        exact ⟨rfl, rfl⟩
  | cons route routes ih =>
      simp only [patchEach, Task.finishes_bind, finishes_patchComponent, ih, Task.finishes_pure]
      constructor
      · rintro ⟨ending, middle, step, rest, _, steps, rfl, rfl⟩
        exact Steps.cons step steps
      · intro steps
        cases steps with
        | cons step steps => exact ⟨_, _, step, _, _, steps, rfl, rfl⟩

theorem finishes_patchComponents [Parser] {routes : List Route} {disk last : Disk} {value : Unit} :
    (patchComponents reporter views excluded routes).Finishes disk value last ↔
      ∃ endings, Steps reporter views excluded disk routes endings last ∧
        reporter.refusal? ⟨.info, summary endings⟩ = none := by
  simp only [patchComponents, Task.finishes_bind, finishes_patchEach, Reporter.finishes_report]
  constructor
  · rintro ⟨endings, _, steps, accepted, rfl⟩
    exact ⟨endings, steps, accepted⟩
  · rintro ⟨endings, steps, accepted⟩
    exact ⟨endings, last, steps, accepted, rfl⟩

def routesFor (views : Path) (excluded : List Text) (disk : Disk) (location : Location)
    (routes : List Route) : List Route :=
  routes.filter fun route => target? views excluded disk route = some location

theorem routesFor_of_sameShape {disk other : Disk} (shape : Disk.SameShape disk other)
    (location : Location) (routes : List Route) :
    routesFor views excluded other location routes =
      routesFor views excluded disk location routes := by
  simp only [routesFor, target?_of_sameShape shape]

theorem routesFor_cons_of_ne {disk : Disk} {location : Location} {route : Route}
    (elsewhere : target? views excluded disk route ≠ some location) (routes : List Route) :
    routesFor views excluded disk location (route :: routes) =
      routesFor views excluded disk location routes := by
  rw [routesFor, List.filter_cons, if_neg (by simp [elsewhere]), routesFor]

theorem routesFor_cons_of_eq {disk : Disk} {location : Location} {route : Route}
    (aimed : target? views excluded disk route = some location) (routes : List Route) :
    routesFor views excluded disk location (route :: routes) =
      route :: routesFor views excluded disk location routes := by
  rw [routesFor, List.filter_cons, if_pos (decide_eq_true aimed), routesFor]

theorem routesFor_swap {disk : Disk} {first second : Route}
    (apart : target? views excluded disk first ≠ target? views excluded disk second)
    (location : Location) (routes : List Route) :
    routesFor views excluded disk location (second :: first :: routes) =
      routesFor views excluded disk location (first :: second :: routes) := by
  by_cases aimed : target? views excluded disk first = some location
  · have other : target? views excluded disk second ≠ some location := by
      rw [← aimed]
      exact apart.symm
    rw [routesFor_cons_of_ne other, routesFor_cons_of_eq aimed, routesFor_cons_of_eq aimed,
      routesFor_cons_of_ne other]
  · rw [routesFor_cons_of_ne aimed, routesFor, List.filter_cons, ← routesFor,
      routesFor_cons_of_ne aimed, routesFor, routesFor, List.filter_cons]

/-- The names that the file at a location is given, in order. -/
def namesFor (views : Path) (excluded : List Text) (disk : Disk) (location : Location)
    (routes : List Route) : List Text :=
  (routesFor views excluded disk location routes).map Route.name

theorem namesFor_of_sameShape {disk other : Disk} (shape : Disk.SameShape disk other)
    (location : Location) (routes : List Route) :
    namesFor views excluded other location routes =
      namesFor views excluded disk location routes := by
  rw [namesFor, routesFor_of_sameShape shape, namesFor]

theorem namesFor_cons_of_ne {disk : Disk} {location : Location} {route : Route}
    (elsewhere : target? views excluded disk route ≠ some location) (routes : List Route) :
    namesFor views excluded disk location (route :: routes) =
      namesFor views excluded disk location routes := by
  rw [namesFor, routesFor_cons_of_ne elsewhere, namesFor]

theorem namesFor_cons_of_eq {disk : Disk} {location : Location} {route : Route}
    (aimed : target? views excluded disk route = some location) (routes : List Route) :
    namesFor views excluded disk location (route :: routes) =
      route.name :: namesFor views excluded disk location routes := by
  rw [namesFor, routesFor_cons_of_eq aimed, List.map_cons, namesFor]

/-- The content of a file that is given one name after another. -/
inductive Renamed [Parser] : Bytes → List Text → Bytes → Prop
  | nil {bytes : Bytes} : Renamed bytes [] bytes
  | cons {old middle new : Bytes} {text name : Text} {names : List Text} :
      Utf8.decode old = .ok text → Utf8.encode (Component.patch text name).text = .ok middle →
      Renamed middle names new → Renamed old (name :: names) new

def patchAll [Parser] (text : Text) (names : List Text) : Text :=
  names.foldl (fun text name => (Component.patch text name).text) text

theorem Renamed.encode_patchAll [Parser] {old new : Bytes} {names : List Text}
    (renamed : Renamed old names new) (named : names ≠ []) :
    ∃ text, Utf8.decode old = .ok text ∧ Utf8.encode (patchAll text names) = .ok new := by
  induction renamed with
  | nil => exact absurd rfl named
  | @cons old middle new text name names decoded encoded rest ih =>
      refine ⟨text, decoded, ?_⟩
      cases names with
      | nil =>
          cases rest
          exact encoded
      | cons next names =>
          obtain ⟨text', decoded', whole⟩ := ih (List.cons_ne_nil next names)
          rw [Utf8.decode_of_encode encoded] at decoded'
          cases decoded'
          exact whole

namespace Steps

variable {disk last : Disk} {routes : List Route} {endings : List Ending}

theorem sameShape [Parser] (steps : Steps reporter views excluded disk routes endings last) :
    Disk.SameShape disk last := by
  induction steps with
  | nil => exact Disk.SameShape.refl _
  | cons step _ ih => exact step.sameShape.trans ih

theorem renamed [Parser] (steps : Steps reporter views excluded disk routes endings last)
    {location : Location} {old : Bytes} (holds : disk.content? location = some old) :
    ∃ new, last.content? location = some new ∧
      Renamed old (namesFor views excluded disk location routes) new := by
  induction steps generalizing old with
  | nil => exact ⟨old, holds, Renamed.nil⟩
  | @cons disk middle last route routes ending endings step steps ih =>
      rw [namesFor_of_sameShape step.sameShape] at ih
      by_cases aimed : target? views excluded disk route = some location
      · obtain ⟨_, text, between, holds', decoded, encoded, rfl, -⟩ := step.of_target aimed
        rw [holds] at holds'
        cases holds'
        have written : (disk.put location (.file between)).content? location = some between := by
          rw [Disk.content?_put holds, if_pos rfl]
        obtain ⟨new, holdsNew, later⟩ := ih written
        refine ⟨new, holdsNew, ?_⟩
        rw [namesFor_cons_of_eq aimed]
        exact Renamed.cons decoded encoded later
      · rw [namesFor_cons_of_ne aimed]
        exact ih ((step.content?_of_other_target aimed).trans holds)

theorem insert [Parser] {middle : Disk} {front back : List Route} {route : Route} {ending : Ending}
    (step : Step reporter views excluded disk route ending middle)
    (steps : Steps reporter views excluded middle (front ++ back) endings last)
    (apart : ∀ other ∈ front, ∀ location, target? views excluded disk route = some location →
      target? views excluded disk other ≠ some location) :
    ∃ endings', endings'.Perm (ending :: endings) ∧
      Steps reporter views excluded disk (front ++ route :: back) endings' last := by
  induction front generalizing disk middle endings with
  | nil => exact ⟨ending :: endings, List.Perm.refl _, Steps.cons step steps⟩
  | cons other front ih =>
      cases steps with
      | @cons _ _ _ _ _ otherEnding _ next steps =>
          -- The step changes places with the next one, and is put off further from there.
          obtain ⟨between, first, second⟩ := step.comm next (apart other List.mem_cons_self)
          have apart' : ∀ later ∈ front, ∀ location,
              target? views excluded between route = some location →
                target? views excluded between later ≠ some location := by
            intro later member
            rw [target?_of_sameShape first.sameShape, target?_of_sameShape first.sameShape]
            exact apart later (List.mem_cons_of_mem other member)
          obtain ⟨endings', perm, steps'⟩ := ih second steps apart'
          exact ⟨otherEnding :: endings', (perm.cons otherEnding).trans (List.Perm.swap ..),
            Steps.cons first steps'⟩

end Steps

theorem exists_front {disk : Disk} {route : Route} {routes other : List Route}
    (perm : other.Perm (route :: routes))
    (same : ∀ location, routesFor views excluded disk location other =
      routesFor views excluded disk location (route :: routes)) :
    ∃ front back, other = front ++ route :: back ∧
      ∀ earlier ∈ front, ∀ location, target? views excluded disk route = some location →
        target? views excluded disk earlier ≠ some location := by
  cases aimed : target? views excluded disk route with
  | none =>
      obtain ⟨front, back, split⟩ := List.append_of_mem (perm.mem_iff.2 List.mem_cons_self)
      exact ⟨front, back, split, by simp⟩
  | some place =>
      have own := same place
      rw [routesFor_cons_of_eq aimed, routesFor] at own
      obtain ⟨front, back, split, passed, -, -⟩ := List.filter_eq_cons_iff.1 own
      refine ⟨front, back, split, ?_⟩
      rintro earlier member location ⟨⟩
      simpa using passed earlier member

theorem routesFor_without {disk : Disk} {route : Route} {routes front back : List Route}
    {location : Location}
    (same : routesFor views excluded disk location (front ++ route :: back) =
      routesFor views excluded disk location (route :: routes))
    (apart : ∀ earlier ∈ front, ∀ location, target? views excluded disk route = some location →
      target? views excluded disk earlier ≠ some location) :
    routesFor views excluded disk location (front ++ back) =
      routesFor views excluded disk location routes := by
  by_cases aimed : target? views excluded disk route = some location
  · have passed : routesFor views excluded disk location front = [] := by
      rw [routesFor, List.filter_eq_nil_iff]
      intro earlier member
      simpa using apart earlier member location aimed
    have split : ∀ tail, routesFor views excluded disk location (front ++ tail) =
        routesFor views excluded disk location tail := by
      intro tail
      rw [routesFor, List.filter_append, ← routesFor, passed, List.nil_append, routesFor]
    rw [split, routesFor_cons_of_eq aimed, routesFor_cons_of_eq aimed] at same
    rw [split]
    exact (List.cons.inj same).2
  · rw [routesFor_cons_of_ne aimed] at same
    rw [← same]
    simp only [routesFor, List.filter_append, List.filter_cons]
    simp [aimed]

theorem Steps.reorder [Parser] {disk last : Disk} {routes other : List Route}
    {endings : List Ending} (steps : Steps reporter views excluded disk routes endings last)
    (perm : other.Perm routes)
    (same : ∀ location, routesFor views excluded disk location other =
      routesFor views excluded disk location routes) :
    ∃ endings', endings'.Perm endings ∧
      Steps reporter views excluded disk other endings' last := by
  induction steps generalizing other with
  | nil =>
      rw [perm.eq_nil]
      exact ⟨[], List.Perm.refl _, Steps.nil⟩
  | @cons disk middle last route routes ending endings step steps ih =>
      -- The first route of the run is put off to its place in `other`, the rest is reordered
      -- without it.
      obtain ⟨front, back, rfl, apart⟩ := exists_front perm same
      have perm' : (front ++ back).Perm routes := (List.perm_middle.symm.trans perm).cons_inv
      obtain ⟨endings', endingsPerm, steps'⟩ := ih perm' (by
        intro location
        rw [routesFor_of_sameShape step.sameShape, routesFor_of_sameShape step.sameShape]
        exact routesFor_without (same location) apart)
      obtain ⟨endings'', wholePerm, whole⟩ := steps'.insert step apart
      exact ⟨endings'', wholePerm.trans (endingsPerm.cons ending), whole⟩

theorem summary_of_perm {endings other : List Ending} (perm : other.Perm endings) :
    summary other = summary endings := by
  simp only [summary, perm.count_eq]

/-- The effect of a batch. The files that exist stay the same. A file that no route
leads to keeps its content, and any other ends up with the names of its routes, one
after another. Only the order among the routes of one file matters. -/
theorem patchComponents_file_by_file [Parser] (reporter : Reporter) (views : Path)
    (excluded : List Text) (routes : List Route) (disk : Disk)
    (finished : (patchComponents reporter views excluded routes disk).result = .ok ()) :
    (∀ location, ((patchComponents reporter views excluded routes disk).disk.content?
      location).isSome = (disk.content? location).isSome) ∧
    (∀ location, routesFor views excluded disk location routes = [] →
      (patchComponents reporter views excluded routes disk).disk.content? location =
        disk.content? location) ∧
    (∀ location old, disk.content? location = some old →
      routesFor views excluded disk location routes ≠ [] →
      ∃ text new, Utf8.decode old = .ok text ∧
        Utf8.encode (patchAll text (namesFor views excluded disk location routes)) = .ok new ∧
        (patchComponents reporter views excluded routes disk).disk.content? location =
          some new) ∧
    (∀ other : List Route, other.Perm routes →
      (∀ location, routesFor views excluded disk location other =
        routesFor views excluded disk location routes) →
      (patchComponents reporter views excluded other disk).result = .ok () ∧
      (patchComponents reporter views excluded other disk).disk =
        (patchComponents reporter views excluded routes disk).disk) := by
  obtain ⟨endings, steps, accepted⟩ := finishes_patchComponents.1 ⟨finished, rfl⟩
  have kept := steps.sameShape.isSome_content?
  refine ⟨kept, ?_, ?_, ?_⟩
  · intro location untouched
    cases holds : disk.content? location with
    | none =>
        have absent := kept location
        rwa [holds, Option.isSome_none, Option.isSome_eq_false_iff, Option.isNone_iff_eq_none]
          at absent
    | some old =>
        obtain ⟨new, holdsNew, renamed⟩ := steps.renamed holds
        rw [namesFor, untouched, List.map_nil] at renamed
        cases renamed
        exact holdsNew
  · intro location old holds touched
    obtain ⟨new, holdsNew, renamed⟩ := steps.renamed holds
    obtain ⟨text, decoded, encoded⟩ := renamed.encode_patchAll (by simpa [namesFor] using touched)
    exact ⟨text, new, decoded, encoded, holdsNew⟩
  · intro other perm same
    obtain ⟨endings', endingsPerm, steps'⟩ := steps.reorder perm same
    rw [← summary_of_perm endingsPerm] at accepted
    exact finishes_patchComponents.2 ⟨endings', steps', accepted⟩

def sampleViews : Path := ⟨.root, [Text.ofString "views"]⟩

def listFile : Location := [Text.ofString "views", Text.ofString "List.vue"]

def homeFile : Location := [Text.ofString "views", Text.ofString "Home.vue"]

def sampleDisk : Disk :=
  ⟨[], [([Text.ofString "views"], .directory), (listFile, .file []), (homeFile, .file [])]⟩

def listRoute : Route :=
  ⟨Text.ofString "List", Text.ofString "List.vue", by decide, by decide, by decide⟩

def allRoute : Route :=
  ⟨Text.ofString "All", Text.ofString "../views/List", by decide, by decide, by decide⟩

def homeRoute : Route :=
  ⟨Text.ofString "Home", Text.ofString "Home", by decide, by decide, by decide⟩

theorem patchComponents_sampleDisk :
    (patchComponents .recorder sampleViews [] [listRoute, homeRoute, allRoute]
      sampleDisk).result = .ok () ∧
    (∃ text new, Utf8.decode [] = .ok text ∧
      Utf8.encode (patchAll text [Text.ofString "List", Text.ofString "All"]) = .ok new ∧
      (patchComponents .recorder sampleViews [] [listRoute, homeRoute, allRoute]
        sampleDisk).disk.content? listFile = some new) ∧
    (patchComponents .recorder sampleViews [] [homeRoute, listRoute, allRoute] sampleDisk).disk =
      (patchComponents .recorder sampleViews [] [listRoute, homeRoute, allRoute]
        sampleDisk).disk := by
  have finished : (patchComponents .recorder sampleViews [] [listRoute, homeRoute, allRoute]
      sampleDisk).result = .ok () := Task.eq_ok_iff_isOk.2 (by decide +kernel)
  have own : routesFor sampleViews [] sampleDisk listFile [listRoute, homeRoute, allRoute] =
      [listRoute, allRoute] := by
    decide +kernel
  have apart : target? sampleViews [] sampleDisk listRoute ≠
      target? sampleViews [] sampleDisk homeRoute := by
    decide +kernel
  obtain ⟨-, -, folded, reordered⟩ := patchComponents_file_by_file .recorder sampleViews []
    [listRoute, homeRoute, allRoute] sampleDisk finished
  refine ⟨finished, ?_, ?_⟩
  · have result := folded listFile [] (by decide) (by simp [own])
    rwa [namesFor, own] at result
  · exact (reordered _ (List.Perm.swap ..) fun location => routesFor_swap apart location _).2

end ViewNaming.Run
