import ViewNaming.CommandLine.Program
import ViewNaming.Log.Stamp

/-! The command. It copies what the program looks at from the real disk, runs
the program on the copy, and carries out what the copy then shows. The log file
is written twice: the first time tells the moment for its time stamps. -/
namespace ViewNaming.Main

/-- The string of a text. Surrogates have no place in one. -/
def string? (text : Text) : Option String := (text.mapM CodePoint.toChar?).map String.ofList

/-- The string of a text for a stream, where each surrogate is spelled out. -/
def printable (text : Text) : String := (string? (text.flatMap Console.spelled)).getD ""

def pathString? (location : Location) : Option String :=
  string? (Path.slash ++ Text.joinWith Path.slash location)

def entryOnDisk? (location : Location) : IO (Option Entry) := do
  match pathString? location with
  | none => return none
  | some name =>
      let place := (← IO.currentDir) / name
      if ← place.isDir then return some .directory
      else if ← place.pathExists then
        return some (.file (← IO.FS.readBinFile place).toList)
      else return none

def load (disk : Disk) (path : Path) : IO Disk := do
  let mut copy := disk
  for count in List.range (path.segments.length + 1) do
    let reached : Path := { path with segments := path.segments.take count }
    let location := (reached.absolute disk.workingDirectory).segments
    if (copy.entryAt? location).isNone then
      if let some entry ← entryOnDisk? location then
        copy := copy.put location entry
  return copy

def loadAll (disk : Disk) (paths : List Path) : IO Disk := paths.foldlM load disk

def store (old new : Disk) : IO Unit := do
  for (location, entry) in new.entries do
    if old.entryAt? location ≠ some entry then
      if let some name := pathString? location then
        match entry with
        | .directory => IO.FS.createDirAll name
        | .file content => IO.FS.writeBinFile name ⟨content.toArray⟩

def logStamp (environment : CommandLine.Environment) (disk : Disk) : IO Text := do
  let path? := (CommandLine.logPath? environment).map fun path =>
    path.absolute disk.workingDirectory
  match path?.filter fun path => (disk.content? path.segments).isSome with
  | none => return Log.stamp 0 0
  | some path =>
      match pathString? path.segments with
      | none => return Log.stamp 0 0
      | some name =>
          let moment := (← ((← IO.currentDir) / name).metadata).modified
          return Log.stamp moment.sec.toNat (moment.nsec.toNat / 1000000)

end ViewNaming.Main

open ViewNaming in
def main (arguments : List String) : IO UInt32 := do
  let texts := arguments.map Text.ofString
  let here := Path.ofText (Text.ofString (← IO.currentDir).toString)
  let home := Path.ofText (Text.ofString ((← IO.getEnv "HOME").getD "/"))
  let names := ["INJECT_DEFINE_OPTIONS_VIEWS", "INJECT_DEFINE_OPTIONS_LOG_LEVEL",
    "INJECT_DEFINE_OPTIONS_LOG_DIR"]
  let values ← names.mapM fun name => return (name, (← IO.getEnv name).map Text.ofString)
  let environment := CommandLine.Environment.ofVariables
    (fun name => (values.lookup name).getD none) home
  let bare ← Main.load ⟨here.segments, []⟩ here
  let routed ← Main.loadAll bare (CommandLine.footprint environment texts bare)
  let disk ← Main.loadAll routed (CommandLine.footprint environment texts routed)
  let unstamped := CommandLine.run environment (Log.stamp 0 0) texts disk
  Main.store disk unstamped.disk
  let stamp ← Main.logStamp environment unstamped.disk
  let session := CommandLine.run environment stamp texts disk
  Main.store unstamped.disk session.disk
  (← IO.getStdout).putStr (Main.printable session.console.out)
  (← IO.getStderr).putStr (Main.printable session.console.err)
  if let some failure := session.failure? then
    (← IO.getStderr).putStrLn (Main.printable (Text.ofString "Error: " ++ failure.message))
  return UInt32.ofNat session.exitCode
