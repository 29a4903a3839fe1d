import ViewNaming.Proofs.Component.Fixed
import ViewNaming.Proofs.Component.Scalar
import ViewNaming.Proofs.Report
import ViewNaming.Proofs.Run.Batch

/-! Naming the same components a second time. The second batch never fails where the
first one went through. It finds each file as the first one left it, and gives it
the same names once more. -/
namespace ViewNaming.Run

open TypeScript (Parser)

variable {reporter : Reporter} {views : Path} {excluded : List Text}

theorem unnameable_patchAll [Parser] {text : Text} (unnameable : Component.Unnameable text)
    (names : List Text) : Component.Unnameable (patchAll text names) := by
  induction names generalizing text with
  | nil => exact unnameable
  | cons name names ih => exact ih (unnameable.patchWith Component.insertOffset name)

theorem exists_renamed [Parser] {old : Bytes} {text : Text} {names : List Text}
    (decoded : Utf8.decode old = .ok text) (scalar : text.Scalar)
    (takes : Component.Unnameable text ∨ ∀ name ∈ names, name.Scalar) :
    ∃ new, Renamed old names new := by
  induction names generalizing old text with
  | nil => exact ⟨old, Renamed.nil⟩
  | cons name names ih =>
      have next : (Component.patch text name).text.Scalar ∧
          (Component.Unnameable (Component.patch text name).text ∨
            ∀ later ∈ names, later.Scalar) := by
        rcases takes with unnameable | each
        · exact ⟨unnameable.scalar_patchWith Component.insertOffset name scalar,
            Or.inl (unnameable.patchWith Component.insertOffset name)⟩
        · obtain ⟨first, later⟩ := List.forall_mem_cons.1 each
          exact ⟨Component.scalar_patchWith Component.insertOffset scalar first, Or.inr later⟩
      obtain ⟨middle, encoded⟩ := Utf8.exists_encode_iff.2 next.1
      obtain ⟨new, later⟩ := ih (Utf8.decode_of_encode encoded) next.1 next.2
      exact ⟨new, Renamed.cons decoded encoded later⟩

theorem Renamed.unnameable_or_scalar [Parser] {old new : Bytes} {names : List Text}
    (renamed : Renamed old names new) {text : Text} (decoded : Utf8.decode old = .ok text) :
    Component.Unnameable (patchAll text names) ∨ ∀ name ∈ names, name.Scalar := by
  induction renamed generalizing text with
  | nil => exact Or.inr (by simp)
  | @cons old middle new text' name names decoded' encoded _ ih =>
      obtain rfl : text = text' := Except.ok.inj (decoded.symm.trans decoded')
      -- A name with a surrogate got through here only if the script takes no names.
      by_cases unnameable : Component.Unnameable text
      · exact Or.inl (unnameable_patchAll unnameable (name :: names))
      · have taken : name.Scalar :=
          Component.scalar_of_scalar_patchWith unnameable (Utf8.scalar_of_encode encoded)
        rcases ih (Utf8.decode_of_encode encoded) with stuck | later
        · exact Or.inl stuck
        · exact Or.inr (List.forall_mem_cons.2 ⟨taken, later⟩)

theorem Renamed.again [Parser] {old new : Bytes} {names : List Text}
    (renamed : Renamed old names new) :
    ∃ newer, Renamed new names newer := by
  by_cases named : names = []
  · subst named
    exact ⟨new, Renamed.nil⟩
  · obtain ⟨text, decoded, encoded⟩ := renamed.encode_patchAll named
    exact exists_renamed (Utf8.decode_of_encode encoded) (Utf8.scalar_of_encode encoded)
      (renamed.unnameable_or_scalar decoded)

/-- Giving the names once more leads back to the same text. -/
def Stable [Parser] (text : Text) (names : List Text) : Prop :=
  patchAll (patchAll text names) names = patchAll text names

theorem Renamed.eq_iff [Parser] {old new newer : Bytes} {names : List Text}
    (first : Renamed old names new) (second : Renamed new names newer) :
    newer = new ↔ ∀ text, Utf8.decode old = .ok text → Stable text names := by
  by_cases named : names = []
  · subst named
    cases first
    cases second
    exact iff_of_true rfl fun _ _ => rfl
  · obtain ⟨text, decoded, encoded⟩ := first.encode_patchAll named
    obtain ⟨text', decoded', encoded'⟩ := second.encode_patchAll named
    rw [Utf8.decode_of_encode encoded] at decoded'
    cases decoded'
    constructor
    · rintro rfl whole wholeDecoded
      rw [decoded] at wholeDecoded
      cases wholeDecoded
      exact Except.ok.inj
        ((Utf8.decode_of_encode encoded').symm.trans (Utf8.decode_of_encode encoded))
    · intro same
      rw [same text decoded, encoded] at encoded'
      exact (Except.ok.inj encoded').symm

theorem stable_singleton_iff [Parser] {text name : Text} :
    Stable text [name] ↔ Component.ReadsBack (Component.patch text name).text name :=
  Component.text_patch_eq_self_iff

theorem patchAll_patch [Parser] {text first : Text} {names : List Text}
    (unprefixed : Component.UnprefixedScript text)
    (erasable : ∀ name ∈ first :: names, Component.Erasable name) :
    patchAll (Component.patch text first).text names =
      (Component.patch text ((first :: names).getLast (List.cons_ne_nil first names))).text := by
  induction names generalizing first with
  | nil => rfl
  | cons next names ih =>
      obtain ⟨firstErasable, later⟩ := List.forall_mem_cons.1 erasable
      have step :=
        Component.patchWith_patchWith Component.insertOffset firstErasable unprefixed next
      have again : patchAll (Component.patch text first).text (next :: names) =
          patchAll (Component.patch text next).text names := by
        rw [patchAll, List.foldl_cons, Component.patch, Component.patch, step, patchAll,
          Component.patch]
      rw [again, ih later, List.getLast_cons_cons]

theorem stable_of_erasable [Parser] {text : Text} {names : List Text}
    (unprefixed : Component.UnprefixedScript text)
    (erasable : ∀ name ∈ names, Component.Erasable name) : Stable text names := by
  cases names with
  | nil => rfl
  | cons first names =>
      let last := (first :: names).getLast (List.cons_ne_nil first names)
      have once : patchAll text (first :: names) = (Component.patch text last).text :=
        patchAll_patch unprefixed erasable
      have lastErasable : Component.Erasable last := erasable last (List.getLast_mem _)
      have twice := patchAll_patch unprefixed (List.forall_mem_cons.2 ⟨lastErasable, erasable⟩)
      rw [Stable, once, twice, List.getLast_cons_cons]

/-- The route finishes on every disk of this shape on which its file can be named. -/
inductive Ready [Parser] (reporter : Reporter) (views : Path) (excluded : List Text) (disk : Disk)
    (route : Route) : Prop
  | idle {ending : Ending} : target? views excluded disk route = none →
      Step reporter views excluded disk route ending disk →
      Ready reporter views excluded disk route
  | aimed {location : Location} : target? views excluded disk route = some location →
      (∀ created, reporter.refusal?
        (namedMessage created (views.component route.relativePath)) = none) →
      Ready reporter views excluded disk route

theorem scalar_namedMessage {path : Path} (scalar : path.toText.Scalar) (created : Bool) :
    (namedMessage created path).text.Scalar := by
  cases created <;> simp [namedMessage, scalar]

theorem Step.ready [Parser] (takes : reporter.TakesScalar) {disk last : Disk} {route : Route}
    {ending : Ending} (step : Step reporter views excluded disk route ending last) :
    Ready reporter views excluded disk route := by
  cases aimed : target? views excluded disk route with
  | none =>
      obtain ⟨rfl, -⟩ := step.of_no_target aimed
      exact Ready.idle aimed step
  | some location =>
      obtain ⟨-, bytes, there⟩ := target?_eq_some_iff.1 aimed
      have scalar := Disk.scalar_of_read there
      exact Ready.aimed aimed fun created => takes _ (scalar_namedMessage scalar created)

theorem Ready.of_sameShape [Parser] {disk other : Disk} {route : Route}
    (ready : Ready reporter views excluded disk route) (shape : Disk.SameShape disk other) :
    Ready reporter views excluded other route := by
  cases ready with
  | idle nowhere step =>
      exact Ready.idle ((target?_of_sameShape shape route).trans nowhere)
        ((step.of_no_target nowhere).2 other shape)
  | aimed target accepted =>
      exact Ready.aimed ((target?_of_sameShape shape route).trans target) accepted

theorem Steps.ready [Parser] (takes : reporter.TakesScalar) {disk last : Disk} {routes : List Route}
    {endings : List Ending} (steps : Steps reporter views excluded disk routes endings last) :
    ∀ route ∈ routes, Ready reporter views excluded disk route := by
  induction steps with
  | nil => simp
  | cons step _ ih =>
      refine List.forall_mem_cons.2 ⟨step.ready takes, ?_⟩
      intro route member
      exact (ih route member).of_sameShape step.sameShape.symm

theorem Ready.exists_step [Parser] {disk : Disk} {route : Route}
    (ready : Ready reporter views excluded disk route)
    (writable : ∀ location old, target? views excluded disk route = some location →
      disk.content? location = some old →
      ∃ text new, Utf8.decode old = .ok text ∧
        Utf8.encode (Component.patch text route.name).text = .ok new) :
    ∃ ending last, Step reporter views excluded disk route ending last := by
  cases ready with
  | idle nowhere step => exact ⟨_, _, step⟩
  | aimed target accepted =>
      obtain ⟨inside, old, there⟩ := target?_eq_some_iff.1 target
      obtain ⟨-, holds⟩ := Disk.read_eq_ok_iff.1 there
      obtain ⟨text, new, decoded, encoded⟩ := writable _ old target holds
      exact ⟨_, _, Step.named inside there decoded encoded (accepted _)⟩

theorem exists_steps [Parser] {disk : Disk} {routes : List Route}
    (ready : ∀ route ∈ routes, Ready reporter views excluded disk route)
    (writable : ∀ location old, disk.content? location = some old →
      ∃ new, Renamed old (namesFor views excluded disk location routes) new) :
    ∃ endings last, Steps reporter views excluded disk routes endings last := by
  induction routes generalizing disk with
  | nil => exact ⟨[], disk, Steps.nil⟩
  | cons route routes ih =>
      obtain ⟨readyNow, readyLater⟩ := List.forall_mem_cons.1 ready
      obtain ⟨ending, middle, step⟩ := readyNow.exists_step (by
        intro location old target holds
        obtain ⟨new, renamed⟩ := writable location old holds
        rw [namesFor_cons_of_eq target] at renamed
        cases renamed with
        | cons decoded encoded _ => exact ⟨_, _, decoded, encoded⟩)
      have shape := step.sameShape
      have writableLater : ∀ location old, middle.content? location = some old → ∃ new,
          Renamed old (namesFor views excluded middle location routes) new := by
        intro location old holds
        rw [namesFor_of_sameShape shape]
        -- Only the file of this route has changed, by the first of the names that it was given.
        by_cases target : target? views excluded disk route = some location
        · obtain ⟨before, text, after, there, decoded, encoded, rfl, -⟩ := step.of_target target
          obtain ⟨new, renamed⟩ := writable location before there
          rw [Disk.content?_put there, if_pos rfl] at holds
          rw [namesFor_cons_of_eq target] at renamed
          cases renamed with
          | cons decoded' encoded' later =>
              rw [decoded] at decoded'
              cases decoded'
              rw [encoded] at encoded'
              cases encoded'
              cases holds
              exact ⟨new, later⟩
        · rw [step.content?_of_other_target target] at holds
          rw [← namesFor_cons_of_ne target]
          exact writable location old holds
      obtain ⟨endings, last, steps⟩ :=
        ih (fun later member => (readyLater later member).of_sameShape shape) writableLater
      exact ⟨ending :: endings, last, Steps.cons step steps⟩

namespace Steps

variable {disk last latest : Disk} {routes : List Route} {endings endings' : List Ending}

theorem exists_again [Parser] (takes : reporter.TakesScalar)
    (steps : Steps reporter views excluded disk routes endings last) :
    ∃ endings' latest, Steps reporter views excluded last routes endings' latest := by
  have shape := steps.sameShape
  apply exists_steps
  · intro route member
    exact (steps.ready takes route member).of_sameShape shape
  · intro location new holds
    have there := shape.isSome_content? location
    rw [holds, Option.isSome_some, eq_comm, Option.isSome_iff_exists] at there
    obtain ⟨old, holdsOld⟩ := there
    obtain ⟨new', holdsNew, renamed⟩ := steps.renamed holdsOld
    rw [holds] at holdsNew
    cases holdsNew
    rw [namesFor_of_sameShape shape]
    exact renamed.again

theorem content?_again [Parser] (first : Steps reporter views excluded disk routes endings last)
    (second : Steps reporter views excluded last routes endings' latest) (location : Location) :
    latest.content? location = last.content? location ↔
      ∀ old text, disk.content? location = some old → Utf8.decode old = .ok text →
        Stable text (namesFor views excluded disk location routes) := by
  cases holds : disk.content? location with
  | none =>
      have absent := first.sameShape.isSome_content? location
      have absent' := (first.sameShape.trans second.sameShape).isSome_content? location
      rw [holds, Option.isSome_none, Option.isSome_eq_false_iff, Option.isNone_iff_eq_none]
        at absent absent'
      simp [absent, absent']
  | some old =>
      obtain ⟨new, holdsNew, renamed⟩ := first.renamed holds
      obtain ⟨newer, holdsNewer, renamedAgain⟩ := second.renamed holdsNew
      rw [namesFor_of_sameShape first.sameShape] at renamedAgain
      rw [holdsNew, holdsNewer, Option.some.injEq, renamed.eq_iff renamedAgain]
      constructor
      · rintro same _ text ⟨⟩ decoded
        exact same text decoded
      · intro same text decoded
        exact same old text rfl decoded

end Steps

theorem scalar_summary (endings : List Ending) : (summary endings).Scalar := by
  simp [summary, Text.ofNat]

end ViewNaming.Run
