import ViewNaming.Run.Components

/-! A whole run: the routes of a file name the components of the views. Nothing
is written before all routes are known. -/
namespace ViewNaming.Run

open TypeScript (Parser)

structure Settings where
  routeFile : Path
  views : Path
  excluded : List Text
deriving DecidableEq

namespace Settings

def defaultViews : Text := Text.ofString "./src/views"

def ofPaths (base routeFile views : Path) (excluded : List Text) : Settings :=
  ⟨(base.join routeFile).resolve [], (base.join views).resolve [], excluded⟩

structure Frozen where
  field : Text
deriving DecidableEq

def Frozen.message (frozen : Frozen) : Text :=
  Text.ofString "cannot assign to field " ++ frozen.field.quoted

def assign (_ : Settings) (field : Text) : Except Frozen Settings := .error ⟨field⟩

end Settings

def runChannel : Text := Text.ofString "inject_define_options.injector"

def readingRecord (path : Path) : Record :=
  ⟨runChannel, Severity.info, Text.ofString "Reading routes from " ++ path.toText⟩

def matchedRecord (routes : Nat) (views : Path) : Record :=
  ⟨runChannel, Severity.info,
    Text.ofString "Matched " ++ Text.ofNat routes ++ Text.ofString " route(s); views dir "
      ++ views.toText⟩

def noRoutes : Text :=
  Text.ofString "No route with a lazily imported @/views/ component was found"

/-- The message for a failure that concerns the route file as a whole. Such a
failure is reported and ends the run in good order. -/
def structuralMessage? : Failure → Option Text
  | .extraction place .noDefaultExport =>
      some (Route.ExtractionError.noDefaultExport.message (some place))
  | .extraction place .noRouteArray =>
      some (Route.ExtractionError.noRouteArray.message (some place))
  | _ => none

/-- The routes of the file, or nothing where a structural failure was
reported. -/
def routes? [Parser] (reporter : Reporter) (path : Path) : Task (Option (List Route)) :=
    fun disk =>
  let outcome := extractFile path disk
  match outcome.result with
  | .ok routes => ⟨.ok (some routes), outcome.disk, outcome.events⟩
  | .error failure =>
      match structuralMessage? failure with
      | none => ⟨.error failure, outcome.disk, outcome.events⟩
      | some text =>
          let reported := reporter.report .error text outcome.disk
          ⟨reported.result.map fun _ => none, reported.disk, outcome.events ++ reported.events⟩

def nameViews [Parser] (settings : Settings) (reporter : Reporter) : Task Unit := do
  Task.note (readingRecord settings.routeFile)
  match ← routes? reporter settings.routeFile with
  | none => return ()
  | some [] => reporter.report .warn noRoutes
  | some routes =>
      Task.note (matchedRecord routes.length settings.views)
      patchComponents reporter settings.views settings.excluded routes

end ViewNaming.Run
