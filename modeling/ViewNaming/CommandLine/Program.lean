import ViewNaming.CommandLine.Arguments
import ViewNaming.Run.Views

/-! The whole program: arguments and environment in, console, exit code and disk
out. The environment decides on the log, and on the views directory where no option
does. Which paths the program looks at depends on the disk: the components become
known only where the route file is there. -/
namespace ViewNaming.CommandLine

structure Environment where
  views? : Option Text
  logLevel? : Option Text
  logDirectory? : Option Text
  home : Path

namespace Environment

def ofVariables (value? : String → Option Text) (home : Path) : Environment where
  views? := value? "INJECT_DEFINE_OPTIONS_VIEWS"
  logLevel? := value? "INJECT_DEFINE_OPTIONS_LOG_LEVEL"
  logDirectory? := value? "INJECT_DEFINE_OPTIONS_LOG_DIR"
  home := home

/-- The views directory: an option that is not empty, the variable, or the
default. -/
def views (environment : Environment) (option? : Option Text) : Text :=
  match option?.filter fun text => !text.isEmpty with
  | some views => views
  | none => environment.views?.getD Run.Settings.defaultViews

def logLevel (environment : Environment) : Text :=
  environment.logLevel?.getD (Text.ofString "warning")

/-- The directory of the log file. An empty variable asks for none. -/
def logDirectory (environment : Environment) : Option Path :=
  (environment.logDirectory?.filter fun text => !text.isEmpty).map Path.ofText

end Environment

def versionLine : Text := Text.ofString "inject-define-options 0.1.0\n"

def helpText : Text :=
  Text.joinWith (Text.ofString "\n") ([
    "Usage: inject-define-options [OPTIONS]",
    "",
    "  Inject defineOptions(\x7b name \x7d) into the Vue components of a route file.",
    "",
    "Options:",
    "  -r, --route FILE    Path to route file (e.g. localAuthRoute.ts)  [required]",
    "  -v, --views TEXT    Views base directory (default: ./src/views, or",
    "                      INJECT_DEFINE_OPTIONS_VIEWS)",
    "  -e, --exclude TEXT  Directory name to exclude (relative to views); repeat or",
    "                      comma separate",
    "  --version           Print version and exit",
    "  --help              Show this message and exit",
    ""].map Text.ofString)

structure Session where
  exitCode : Nat
  console : Console
  failure? : Option Failure
  disk : Disk

def usage (error : UsageError) (disk : Disk) : Session :=
  ⟨2, ⟨[], Text.ofString "Error: " ++ error.message ++ Text.ofString "\n"⟩, none, disk⟩

def settings (environment : Environment) (disk : Disk) (route : Text) (views? : Option Text)
    (excluded : List Text) : Run.Settings :=
  Run.Settings.ofPaths ⟨.root, disk.workingDirectory⟩ (Path.ofText route)
    (Path.ofText (environment.views views?)) excluded

def perform (setup : Log.Setup) (stamp : Text) (settings : Run.Settings) (disk : Disk) : Session :=
  let outcome := Run.nameViews settings .console disk
  let console := Console.ofMessages outcome.messages
  let logged := setup.write stamp outcome.records outcome.disk
  match outcome.result with
  | .ok _ => ⟨0, console, none, logged⟩
  | .error failure => ⟨1, console, some failure, logged⟩

def run (environment : Environment) (stamp : Text) (arguments : List Text) (disk : Disk) :
    Session :=
  match request disk arguments with
  | .error e => usage e disk
  | .ok .version => ⟨0, ⟨versionLine, []⟩, none, disk⟩
  | .ok .help => ⟨0, ⟨helpText, []⟩, none, disk⟩
  | .ok (.run route views? values) =>
      match Log.setUp environment.home disk environment.logLevel environment.logDirectory with
      | (disk, .error e) => ⟨1, ⟨[], []⟩, some (.log e), disk⟩
      | (disk, .ok setup) =>
          perform setup stamp (settings environment disk route views? (excludedNames values)) disk

def logPath? (environment : Environment) : Option Path :=
  environment.logDirectory.bind fun directory =>
    match Log.expandHome environment.home directory with
    | .error _ => none
    | .ok expanded => some (expanded.join ⟨.relative, [Log.fileName]⟩)

def componentPaths (settings : Run.Settings) (disk : Disk) : List Path :=
  match (Run.extractFile settings.routeFile disk).result with
  | .error _ => []
  | .ok routes => routes.map fun route => settings.views.component route.relativePath

/-- The paths that the program looks at, as far as the disk tells. -/
def footprint (environment : Environment) (arguments : List Text) (disk : Disk) : List Path :=
  match readArguments arguments with
  | .error _ => []
  | .ok given =>
      match (valuesOf .route given).getLast? with
      | none => []
      | some route =>
          let chosen := settings environment disk route (valuesOf .views given).getLast? []
          [Path.ofText route, chosen.routeFile] ++ (logPath? environment).toList
            ++ componentPaths chosen disk

end ViewNaming.CommandLine
