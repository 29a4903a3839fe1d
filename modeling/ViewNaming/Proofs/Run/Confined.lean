import ViewNaming.Proofs.Path
import ViewNaming.Proofs.Run.Stopped

/-! Which files a batch can reach. However a route ends, it touches no file but the one its
path leads to, and that one lies below the views directory if no segment goes up and the
path does not start anew at the root. -/
namespace ViewNaming

open TypeScript (Parser)

namespace Disk

variable {disk : Disk}

theorem enter_of_isName {here next : Location} {name : Text} (named : Path.IsName name)
    (entered : disk.enter here name = .ok next) : next = here ++ [name] := by
  obtain ⟨segment, notUp⟩ := named
  rw [Path.isSegment, Bool.and_eq_true, decide_eq_true_eq, decide_eq_true_eq] at segment
  rw [enter] at entered
  split at entered
  · cases entered
  · cases entered
  · rw [if_neg (by simp [segment.1, segment.2]), if_neg notUp] at entered
    split at entered
    · cases entered
    · split at entered
      · exact (Except.ok.inj entered).symm
      · cases entered

theorem walk_of_isName {here last : Location} {names : List Text}
    (named : ∀ name ∈ names, Path.IsName name) (walked : disk.walk here names = .ok last) :
    last = here ++ names := by
  induction names generalizing here with
  | nil =>
      rw [walk, Except.ok.injEq] at walked
      simp [walked]
  | cons name names ih =>
      obtain ⟨first, later⟩ := List.forall_mem_cons.1 named
      rw [walk] at walked
      cases entered : disk.enter here name with
      | error fault => simp [entered] at walked
      | ok next =>
          simp only [entered] at walked
          rw [ih later walked, enter_of_isName first entered, List.append_assoc,
            List.singleton_append]

theorem exists_walk_of_append {here last : Location} {front back : List Text}
    (walked : disk.walk here (front ++ back) = .ok last) :
    ∃ place, disk.walk here front = .ok place ∧ disk.walk place back = .ok last := by
  induction front generalizing here with
  | nil => exact ⟨here, rfl, walked⟩
  | cons name front ih =>
      rw [List.cons_append, walk] at walked
      rw [walk]
      cases entered : disk.enter here name with
      | error fault => simp [entered] at walked
      | ok next =>
          simp only [entered] at walked
          exact ih walked

/-- The location is in the directory that the path leads to, or further down. -/
def Inside (disk : Disk) (directory : Path) (location : Location) : Prop :=
  ∃ place names, disk.walk (disk.origin directory) directory.segments = .ok place ∧
    names ≠ [] ∧ location = place ++ names

theorem inside_of_below {directory : Path} {relativePath : Text} {location : Location}
    (direct : Path.doubleDot ∉ relativePath.pieces Path.isSlash)
    (below : Path.Below directory (directory.component relativePath))
    (located : disk.locate (directory.component relativePath) = .ok location) :
    disk.Inside directory location := by
  obtain ⟨names, filled, whole, named⟩ := below.exists_names direct
  have origin : disk.origin (directory.component relativePath) = disk.origin directory := by
    rw [origin, origin, below.anchor]
  rw [locate] at located
  split at located
  · cases located
  · rw [origin, whole] at located
    obtain ⟨place, reached, onwards⟩ := exists_walk_of_append located
    exact ⟨place, names, reached, filled, walk_of_isName named onwards⟩

theorem eq_segments_of_absolute {directory : Path} {relativePath : Text} {location : Location}
    (filled : relativePath ≠ []) (direct : Path.doubleDot ∉ relativePath.pieces Path.isSlash)
    (absolute : Text.beginsWith Path.slash relativePath = true)
    (located : disk.locate (directory.component relativePath) = .ok location) :
    location = (Path.ofText (Path.withEnding relativePath)).segments := by
  have anchored : (Path.ofText (Path.withEnding relativePath)).anchor ≠ .relative := by
    simp [Path.anchor_component_eq_relative_iff filled, absolute]
  have origin : disk.origin (Path.ofText (Path.withEnding relativePath)) = [] := by
    rw [origin]
    split
    · contradiction
    · rfl
  rw [Path.component, Path.join_of_anchor anchored, locate] at located
  split at located
  · cases located
  · rw [origin] at located
    exact walk_of_isName (fun name => Path.isName_of_mem_segments direct) located

end Disk

namespace Outcome

variable {α : Type}

/-- Only files at these locations were opened, and no other file changed. -/
structure Stays (outcome : Outcome α) (disk : Disk) (allowed : Location → Prop) : Prop where
  opened : ∀ location ∈ outcome.opened, allowed location
  kept : ∀ location, ¬ allowed location →
    outcome.disk.content? location = disk.content? location

theorem Stays.mono {outcome : Outcome α} {disk : Disk} {allowed wider : Location → Prop}
    (stays : outcome.Stays disk allowed) (widens : ∀ location, allowed location → wider location) :
    outcome.Stays disk wider :=
  ⟨fun location member => widens location (stays.opened location member),
    fun location outside => stays.kept location fun inside => outside (widens location inside)⟩

end Outcome

theorem Reporter.opened_report (reporter : Reporter) (level : Level) (text : Text) (disk : Disk) :
    (reporter.report level text disk).opened = [] := by
  rw [Outcome.opened_eq, Reporter.seen_report]
  split <;> rfl

namespace Run

variable {reporter : Reporter} {views : Path} {excluded : List Text}

theorem Breakdown.opened [Parser] {disk last : Disk} {route : Route} {failure : Failure}
    (broken : Breakdown reporter views excluded disk route failure last) :
    ∀ location ∈ (patchComponent reporter views excluded route disk).opened,
      target? views excluded disk route = some location := by
  rw [Outcome.opened_eq]
  cases broken with
  | skipped outside refused => simp [seen_patchComponent_skipped outside, endingMessage, refused]
  | unanswered inside unanswered =>
      have failed := Task.fails_isFile.2 ⟨_, unanswered, rfl, rfl⟩
      rw [patchComponent, if_neg (Bool.eq_false_iff.1 inside), Task.seen_bind_of_fails failed,
        Task.silent_isFile]
      simp
  | absent inside missing refused =>
      simp [seen_patchComponent_absent inside missing, endingMessage, refused]
  | undecodable inside there undecoded =>
      simp [seen_patchComponent_present inside there, seen_patchFile_undecodable there undecoded]
  | unencodable inside there decoded unencoded =>
      simp [seen_patchComponent_present inside there, seen_patchFile there decoded, unencoded,
        Except.isOk, Except.toBool, Event.opened?, target?_eq_some_iff, inside, there]
  | unannounced inside there decoded encoded refused =>
      simp [seen_patchComponent_present inside there, seen_patchFile there decoded, refused,
        Event.opened?, target?_eq_some_iff, inside, there]

theorem patchComponent_stays [Parser] (reporter : Reporter) (views : Path) (excluded : List Text)
    (route : Route) (disk : Disk) :
    (patchComponent reporter views excluded route disk).Stays disk
        (fun location => target? views excluded disk route = some location) ∧
      Disk.SameShape disk (patchComponent reporter views excluded route disk).disk := by
  cases ended : (patchComponent reporter views excluded route disk).result with
  | ok ending =>
      have step := finishes_patchComponent.1 ⟨ended, rfl⟩
      refine ⟨⟨?_, fun location => step.content?_of_other_target⟩, step.sameShape⟩
      simp [step.opened]
  | error failure =>
      have broken := fails_patchComponent.1 ⟨ended, rfl⟩
      exact ⟨⟨broken.opened, fun location => broken.content?_of_other_target⟩, broken.sameShape⟩

def Reached (views : Path) (excluded : List Text) (disk : Disk) (routes : List Route)
    (location : Location) : Prop :=
  ∃ route ∈ routes, target? views excluded disk route = some location

theorem Reached.cons {disk : Disk} {routes : List Route} {location : Location} (route : Route)
    (reached : Reached views excluded disk routes location) :
    Reached views excluded disk (route :: routes) location :=
  reached.imp fun _ own => ⟨List.mem_cons_of_mem route own.1, own.2⟩

theorem reached_of_sameShape {disk other : Disk} (shape : Disk.SameShape disk other)
    (routes : List Route) :
    Reached views excluded other routes = Reached views excluded disk routes := by
  funext location
  simp only [Reached, target?_of_sameShape shape]

theorem patchEach_stays [Parser] (reporter : Reporter) (views : Path) (excluded : List Text)
    (routes : List Route) (disk : Disk) :
    (patchEach reporter views excluded routes disk).Stays disk
      (Reached views excluded disk routes) := by
  induction routes generalizing disk with
  | nil => exact ⟨by simp [patchEach, Task.pure_apply, Outcome.opened], fun _ _ => rfl⟩
  | cons route routes ih =>
      obtain ⟨own, shape⟩ := patchComponent_stays reporter views excluded route disk
      have others := ih (patchComponent reporter views excluded route disk).disk
      rw [reached_of_sameShape shape] at others
      have first : (patchComponent reporter views excluded route disk).Stays disk
          (Reached views excluded disk (route :: routes)) :=
        own.mono fun location aimed => ⟨route, List.mem_cons_self, aimed⟩
      have later := others.mono fun location => Reached.cons route
      cases ended : (patchComponent reporter views excluded route disk).result with
      | error failure =>
          rw [patchEach_cons_of_fails ⟨ended, rfl⟩]
          exact ⟨first.opened, first.kept⟩
      | ok ending =>
          rw [patchEach_cons_of_finishes ⟨ended, rfl⟩]
          constructor
          · intro location member
            rw [Outcome.opened, List.filterMap_append, List.mem_append] at member
            exact member.elim (first.opened location) (later.opened location)
          · intro location outside
            exact (later.kept location outside).trans (first.kept location outside)

theorem opened_patchComponents [Parser] (reporter : Reporter) (views : Path) (excluded : List Text)
    (routes : List Route) (disk : Disk) :
    (patchComponents reporter views excluded routes disk).opened =
      (patchEach reporter views excluded routes disk).opened := by
  rw [patchComponents]
  cases ended : (patchEach reporter views excluded routes disk).result with
  | error failure => rw [Task.bind_apply_error ended, Outcome.opened, Outcome.opened]
  | ok endings =>
      have silent := reporter.opened_report .info (summary endings)
        (patchEach reporter views excluded routes disk).disk
      rw [Outcome.opened] at silent
      rw [Task.bind_apply_ok ended, Outcome.opened, List.filterMap_append, silent, List.append_nil,
        Outcome.opened]

theorem patchComponents_stays [Parser] (reporter : Reporter) (views : Path) (excluded : List Text)
    (routes : List Route) (disk : Disk) :
    (patchComponents reporter views excluded routes disk).Stays disk
      (Reached views excluded disk routes) := by
  obtain ⟨opened, kept⟩ := patchEach_stays reporter views excluded routes disk
  constructor
  · rwa [opened_patchComponents]
  · rwa [disk_patchComponents]

/-- The path of a component is below the views directory unless it starts anew at the root
and not to come back. Without double dots, a batch of routes that do not escape touches
files inside the views directory only. Those that escape reach the very files they spell. -/
theorem patchComponents_stays_inside [Parser] (reporter : Reporter) (views : Path)
    (excluded : List Text) (routes : List Route) (disk : Disk)
    (direct : ∀ route ∈ routes, Path.doubleDot ∉ route.relativePath.pieces Path.isSlash) :
    (∀ route ∈ routes, Path.Below views (views.component route.relativePath) ↔
      ¬ Path.Escapes views route.relativePath) ∧
    ((∀ route ∈ routes, ¬ Path.Escapes views route.relativePath) →
      (patchComponents reporter views excluded routes disk).Stays disk (disk.Inside views)) ∧
    (patchComponents reporter views excluded routes disk).Stays disk fun location =>
      disk.Inside views location ∨ ∃ route ∈ routes, Path.Escapes views route.relativePath ∧
        location = (Path.ofText (Path.withEnding route.relativePath)).segments := by
  have below : ∀ route ∈ routes, Path.Below views (views.component route.relativePath) ↔
      ¬ Path.Escapes views route.relativePath :=
    fun route _ => Path.below_component_iff views route.relativePath_ne
  have touched : (patchComponents reporter views excluded routes disk).Stays disk fun location =>
      disk.Inside views location ∨ ∃ route ∈ routes, Path.Escapes views route.relativePath ∧
        location = (Path.ofText (Path.withEnding route.relativePath)).segments := by
    apply (patchComponents_stays reporter views excluded routes disk).mono
    rintro location ⟨route, member, aimed⟩
    obtain ⟨-, bytes, there⟩ := target?_eq_some_iff.1 aimed
    have located := (Disk.read_eq_ok_iff.1 there).1
    by_cases escapes : Path.Escapes views route.relativePath
    · exact Or.inr ⟨route, member, escapes, Disk.eq_segments_of_absolute route.relativePath_ne
        (direct route member) escapes.1 located⟩
    · exact Or.inl (Disk.inside_of_below (direct route member) ((below route member).2 escapes)
        located)
  refine ⟨below, ?_, touched⟩
  intro stay
  apply touched.mono
  rintro location (inside | ⟨route, member, escapes, -⟩)
  · exact inside
  · exact absurd escapes (stay route member)

def dottedRoute : Route :=
  ⟨plainRoute.name, Text.ofString ".//a", plainRoute.name_ne, by decide, by decide⟩

theorem patchComponents_stays_inside_dottedRoute :
    Path.doubleDot ∉ dottedRoute.relativePath.pieces Path.isSlash ∧
    ¬ Path.Escapes sharedViews dottedRoute.relativePath ∧
    (patchComponents .recorder sharedViews [] [dottedRoute] (sharedDisk [])).opened =
      [sharedView] ∧
    (patchComponents .recorder sharedViews [] [dottedRoute] (sharedDisk [])).Stays (sharedDisk [])
      ((sharedDisk []).Inside sharedViews) := by
  have evaluated : Path.doubleDot ∉ dottedRoute.relativePath.pieces Path.isSlash ∧
      Text.beginsWith Path.slash dottedRoute.relativePath = false ∧
      (patchComponents .recorder sharedViews [] [dottedRoute] (sharedDisk [])).opened =
        [sharedView] := by
    decide +kernel
  obtain ⟨direct, relative, opened⟩ := evaluated
  have stays : ¬ Path.Escapes sharedViews dottedRoute.relativePath := by
    simp [Path.Escapes, relative]
  obtain ⟨-, confined, -⟩ := patchComponents_stays_inside .recorder sharedViews [] [dottedRoute]
    (sharedDisk []) (by simpa using direct)
  exact ⟨direct, stays, opened, confined (by simpa using stays)⟩

def slashedScript : TypeScript.Script :=
  TypeScript.parse (Text.ofString
    "export default [\x7bname:'A',component:()=>import('@/views//x')\x7d]")

def slashedRoute : Route :=
  ⟨plainRoute.name, Text.ofString "/x", plainRoute.name_ne, by decide, by decide⟩

def rootFile : Location := [Text.ofString "x.vue"]

def rootDisk : Disk := ⟨[], [([Text.ofString "v"], .directory), (rootFile, .file [])]⟩

theorem patchComponents_leaves_views :
    (Route.extract slashedScript.root).toOption = some [slashedRoute] ∧
    Path.doubleDot ∉ slashedRoute.relativePath.pieces Path.isSlash ∧
    sharedViews.component slashedRoute.relativePath = ⟨.root, rootFile⟩ ∧
    ¬ Path.Below sharedViews (sharedViews.component slashedRoute.relativePath) ∧
    (patchComponents .recorder sharedViews [] [slashedRoute] rootDisk).opened = [rootFile] ∧
    (patchComponents .recorder sharedViews [] [slashedRoute] rootDisk).disk.content? rootFile ≠
      rootDisk.content? rootFile ∧
    ¬ rootDisk.Inside sharedViews rootFile := by
  have evaluated : (Route.extract slashedScript.root).toOption = some [slashedRoute] ∧
      Path.doubleDot ∉ slashedRoute.relativePath.pieces Path.isSlash ∧
      sharedViews.component slashedRoute.relativePath = ⟨.root, rootFile⟩ ∧
      (patchComponents .recorder sharedViews [] [slashedRoute] rootDisk).opened = [rootFile] ∧
      (patchComponents .recorder sharedViews [] [slashedRoute] rootDisk).disk.content? rootFile ≠
        rootDisk.content? rootFile := by
    decide +kernel
  obtain ⟨extracted, direct, component, opened, changed⟩ := evaluated
  refine ⟨extracted, direct, component, ?_, opened, changed, ?_⟩
  · rintro ⟨-, names, filled, whole⟩
    rw [component] at whole
    exact absurd (List.cons.inj whole).1 (by decide)
  · rintro ⟨place, names, reached, -, whole⟩
    cases (reached : Except.ok [Text.ofString "v"] = Except.ok place)
    exact absurd (List.cons.inj whole).1 (by decide)

end Run

end ViewNaming
