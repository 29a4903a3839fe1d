import ViewNaming.Disk
import ViewNaming.Text.UpperCase

/-! The log. Records carry a channel and a severity; a file keeps those that are
severe enough, one line each. -/
namespace ViewNaming

structure Record where
  channel : Text
  severity : Nat
  text : Text
deriving DecidableEq

namespace Severity

def debug : Nat := 10

def info : Nat := 20

def warning : Nat := 30

def error : Nat := 40

def critical : Nat := 50

/-- The words for a threshold. Two severities have a second word. -/
def words : List (String × Nat) :=
  [("CRITICAL", critical), ("FATAL", critical), ("ERROR", error), ("WARN", warning),
    ("WARNING", warning), ("INFO", info), ("DEBUG", debug), ("NOTSET", 0)]

def ofWord? (word : Text) : Option Nat :=
  (words.find? fun entry => Text.ofString entry.1 = word).map Prod.snd

def name (severity : Nat) : Text :=
  if severity = critical then Text.ofString "CRITICAL"
  else if severity = error then Text.ofString "ERROR"
  else if severity = warning then Text.ofString "WARNING"
  else if severity = info then Text.ofString "INFO"
  else if severity = debug then Text.ofString "DEBUG"
  else if severity = 0 then Text.ofString "NOTSET"
  else Text.ofString "Level " ++ Text.ofNat severity

end Severity

namespace Log

inductive Error
  | unknownLevel (word : Text)
  | noHome
  | disk (fault : Disk.Fault) (path : Text)
deriving DecidableEq

def Error.message : Error → Text
  | unknownLevel word => Text.ofString "Unknown level: " ++ word.quoted
  | noHome => Text.ofString "Could not determine home directory."
  | disk fault path => fault.message path

inductive Sink
  | stream
  | file
deriving DecidableEq

structure Handler where
  sink : Sink
  severity : Nat
  format : Text
deriving DecidableEq

def streamHandler : Handler :=
  ⟨.stream, Severity.critical, Text.ofString "%(levelname)s: %(message)s"⟩

def fileHandler : Handler :=
  ⟨.file, 0, Text.ofString "%(asctime)s - %(name)s - %(levelname)s - %(message)s"⟩

structure Setup where
  threshold : Nat
  file? : Option Location
deriving DecidableEq

def Setup.handlers (setup : Setup) : List Handler :=
  streamHandler :: setup.file?.toList.map fun _ => fileHandler

def fileName : Text := Text.ofString "inject-define-options.log"

/-- Puts the home directory in the place of a leading tilde. Homes of other
users are not known. -/
def expandHome (home : Path) (path : Path) : Except Error Path :=
  match path.anchor, path.segments with
  | .relative, first :: others =>
      if first = Text.ofString "~" then .ok (home.join ⟨.relative, others⟩)
      else if Text.beginsWith (Text.ofString "~") first then .error .noHome
      else .ok path
  | _, _ => .ok path

def openFile (disk : Disk) (path : Path) : Except Error (Disk × Location) :=
  match disk.locate path with
  | .error fault => .error (.disk fault path.toText)
  | .ok location =>
      match disk.entryAt? location, disk.entryAt? location.dropLast with
      | some .directory, _ => .error (.disk .isDirectory path.toText)
      | some (.file _), _ => .ok (disk, location)
      | none, some .directory => .ok (disk.put location (.file []), location)
      | none, some (.file _) => .error (.disk .notDirectory path.toText)
      | none, none => .error (.disk .notFound path.toText)

/-- Prepares the log directory and its file. The disk keeps what was made before
something failed. -/
def openIn (home : Path) (disk : Disk) (directory : Path) : Disk × Except Error Location :=
  match expandHome home directory with
  | .error e => (disk, .error e)
  | .ok directory =>
      match disk.makeAll directory.anchor directory.segments.reverse with
      | (disk, some (fault, path)) => (disk, .error (.disk fault path.toText))
      | (disk, none) =>
          let path := (directory.join ⟨.relative, [fileName]⟩).absolute disk.workingDirectory
          match openFile disk path with
          | .error e => (disk, .error e)
          | .ok (disk, location) => (disk, .ok location)

/-- Sets up the log. The threshold is checked before anything is made. -/
def setUp (home : Path) (disk : Disk) (level : Text) (directory? : Option Path) :
    Disk × Except Error Setup :=
  let word := level.toUpper
  match Severity.ofWord? word with
  | none => (disk, .error (.unknownLevel word))
  | some threshold =>
      match directory? with
      | none => (disk, .ok ⟨threshold, none⟩)
      | some directory =>
          match openIn home disk directory with
          | (disk, .error e) => (disk, .error e)
          | (disk, .ok location) => (disk, .ok ⟨threshold, some location⟩)

def Setup.keeps (setup : Setup) (record : Record) : Bool :=
  0 < record.severity && setup.threshold ≤ record.severity

def line (stamp : Text) (record : Record) : Text :=
  stamp ++ Text.ofString " - " ++ record.channel ++ Text.ofString " - "
    ++ Severity.name record.severity ++ Text.ofString " - " ++ record.text ++ Text.ofString "\n"

/-- The bytes that a record adds to the log file. A record that has no encoded
form adds none. -/
def Setup.bytesOf (setup : Setup) (stamp : Text) (record : Record) : Bytes :=
  if setup.keeps record then
    match Utf8.encode (line stamp record) with
    | .ok bytes => bytes
    | .error _ => []
  else []

def Setup.write (setup : Setup) (stamp : Text) (records : List Record) (disk : Disk) : Disk :=
  match setup.file? with
  | none => disk
  | some location =>
      match disk.content? location with
      | none => disk
      | some content =>
          disk.put location (.file (content ++ records.flatMap (setup.bytesOf stamp)))

end Log

end ViewNaming
