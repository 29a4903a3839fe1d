import ViewNaming.Component.Patch
import ViewNaming.Path
import ViewNaming.Run.Routes

/-! Naming the components of routes, one file after the other. Files that are
missing are never made. -/
namespace ViewNaming.Run

open TypeScript (Parser)

inductive Ending
  | patched
  | created
  | excluded
  | missing
deriving DecidableEq

def Ending.name : Ending → String
  | patched => "patched"
  | created => "created"
  | excluded => "excluded"
  | missing => "missing"

def componentsChannel : Text := Text.ofString "inject_define_options.vue.patcher"

def wroteRecord (path : Path) (old new : Nat) : Record :=
  ⟨componentsChannel, Severity.debug,
    Text.ofString "Wrote " ++ path.toText ++ Text.ofString " (" ++ Text.ofNat old
      ++ Text.ofString " -> " ++ Text.ofNat new ++ Text.ofString " chars)"⟩

/-- Logs whether the script of a component is malformed, if naming has to parse
it. -/
def noteMalformed [Parser] (text : Text) : Task Unit :=
  match Component.parsedScript? text with
  | none => return ()
  | some content => do
      let _ ← parse content
      return ()

def patchFile [Parser] (reporter : Reporter) (name : Text) (path : Path) : Task Ending := do
  let text ← Task.read path
  noteMalformed text
  let patched := Component.patch text name
  Task.write path patched.text
  Task.note (wroteRecord path text.length patched.text.length)
  if patched.createdScript then
    reporter.report .info (Text.ofString "Added <script setup> to: " ++ path.toText)
    return .created
  else
    reporter.report .info (Text.ofString "Patched: " ++ path.toText)
    return .patched

def patchComponent [Parser] (reporter : Reporter) (views : Path) (excluded : List Text)
    (route : Route) : Task Ending := do
  if isExcluded route.relativePath excluded then
    reporter.report .info
      (Text.ofString "Skipping component in excluded directory: " ++ route.relativePath)
    return .excluded
  else
    let path := views.component route.relativePath
    if ← Task.isFile path then
      patchFile reporter route.name path
    else
      reporter.report .warn (Text.ofString "File not found: " ++ path.toText)
      return .missing

def patchEach [Parser] (reporter : Reporter) (views : Path) (excluded : List Text) :
    List Route → Task (List Ending)
  | [] => return []
  | route :: routes => do
      let ending ← patchComponent reporter views excluded route
      let endings ← patchEach reporter views excluded routes
      return ending :: endings

def summary (endings : List Ending) : Text :=
  let counted := fun ending => Text.ofNat (endings.count ending)
  Text.ofString "Done: " ++ counted .patched ++ Text.ofString " patched, "
    ++ counted .created ++ Text.ofString " created, "
    ++ counted .excluded ++ Text.ofString " excluded, "
    ++ counted .missing ++ Text.ofString " missing"

def patchComponents [Parser] (reporter : Reporter) (views : Path) (excluded : List Text)
    (routes : List Route) : Task Unit := do
  let endings ← patchEach reporter views excluded routes
  reporter.report .info (summary endings)

end ViewNaming.Run
