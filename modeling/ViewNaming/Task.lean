import ViewNaming.Log
import ViewNaming.Report
import ViewNaming.Route.Extraction

/-! Tasks on a disk. A task ends with a result or a failure, and either way
leaves a disk and the events that happened on the way. What a task did before it
failed is not undone. -/
namespace ViewNaming

inductive Failure
  | extraction (place : Text) (error : Route.ExtractionError)
  | disk (fault : Disk.Fault) (path : Text)
  | decode (error : Utf8.DecodeError)
  | encode (error : Utf8.EncodeError)
  | log (error : Log.Error)

def Failure.message : Failure → Text
  | extraction place e => e.message (some place)
  | disk fault path => fault.message path
  | decode e => e.message
  | encode e => e.message
  | log e => e.message

inductive Event
  | shown (message : Message)
  | noted (record : Record)
  | opened (location : Location)
deriving DecidableEq

namespace Event

def message? : Event → Option Message
  | shown message => some message
  | _ => none

def record? : Event → Option Record
  | noted record => some record
  | _ => none

def opened? : Event → Option Location
  | opened location => some location
  | _ => none

end Event

structure Outcome (α : Type) where
  result : Except Failure α
  disk : Disk
  events : List Event

namespace Outcome

variable {α : Type}

def messages (outcome : Outcome α) : List Message := outcome.events.filterMap Event.message?

def records (outcome : Outcome α) : List Record := outcome.events.filterMap Event.record?

def opened (outcome : Outcome α) : List Location := outcome.events.filterMap Event.opened?

end Outcome

def Task (α : Type) := Disk → Outcome α

namespace Task

variable {α β : Type}

def pure (value : α) : Task α := fun disk => ⟨.ok value, disk, []⟩

def bind (task : Task α) (next : α → Task β) : Task β := fun disk =>
  let first := task disk
  match first.result with
  | .error failure => ⟨.error failure, first.disk, first.events⟩
  | .ok value =>
      let second := next value first.disk
      ⟨second.result, second.disk, first.events ++ second.events⟩

instance : Monad Task where
  pure := pure
  bind := bind

theorem pure_apply (value : α) (disk : Disk) :
    (Pure.pure value : Task α) disk = ⟨.ok value, disk, []⟩ := rfl

theorem bind_apply_ok {task : Task α} {next : α → Task β} {disk : Disk} {value : α}
    (finished : (task disk).result = .ok value) :
    (task >>= next) disk =
      ⟨(next value (task disk).disk).result, (next value (task disk).disk).disk,
        (task disk).events ++ (next value (task disk).disk).events⟩ := by
  change bind task next disk = _
  simp [bind, finished]

theorem bind_apply_error {task : Task α} {next : α → Task β} {disk : Disk} {failure : Failure}
    (failed : (task disk).result = .error failure) :
    (task >>= next) disk = ⟨.error failure, (task disk).disk, (task disk).events⟩ := by
  change bind task next disk = _
  simp [bind, failed]

def fail (failure : Failure) : Task α := fun disk => ⟨.error failure, disk, []⟩

def note (record : Record) : Task Unit := fun disk => ⟨.ok (), disk, [.noted record]⟩

def onDisk (path : Path) (result : Except Disk.Fault α) : Except Failure α :=
  match result with
  | .ok value => .ok value
  | .error fault => .error (.disk fault path.toText)

def isFile (path : Path) : Task Bool := fun disk => ⟨onDisk path (disk.isFile path), disk, []⟩

def read (path : Path) : Task Text := fun disk =>
  match onDisk path (disk.read path) with
  | .error failure => ⟨.error failure, disk, []⟩
  | .ok (_, bytes) =>
      match Utf8.decode bytes with
      | .error e => ⟨.error (.decode e), disk, []⟩
      | .ok text => ⟨.ok text, disk, []⟩

/-- Writes a text to the file at a path. Opening the file empties it, so it stays
empty when the text has no encoded form. -/
def write (path : Path) (text : Text) : Task Unit := fun disk =>
  match onDisk path (disk.read path) with
  | .error failure => ⟨.error failure, disk, []⟩
  | .ok (location, _) =>
      let emptied := disk.put location (.file [])
      match Utf8.encode text with
      | .error e => ⟨.error (.encode e), emptied, [.opened location]⟩
      | .ok bytes => ⟨.ok (), emptied.put location (.file bytes), [.opened location]⟩

end Task

/-- A way to show messages: it may keep the log informed of each, and it may
refuse one. -/
structure Reporter where
  logs : Bool
  refusal? : Message → Option Utf8.EncodeError

namespace Reporter

def recorder : Reporter := ⟨false, fun _ => none⟩

def console : Reporter := ⟨true, Console.refusal?⟩

def channel : Text := Text.ofString "inject_define_options.reporting"

def severity : Level → Nat
  | .info => Severity.info
  | .warn => Severity.warning
  | .error => Severity.error

def recordOf (message : Message) : Record := ⟨channel, severity message.level, message.text⟩

/-- Reports a message. The log comes first. -/
def report (reporter : Reporter) (level : Level) (text : Text) : Task Unit := fun disk =>
  let message : Message := ⟨level, text⟩
  let noted := if reporter.logs then [Event.noted (recordOf message)] else []
  match reporter.refusal? message with
  | some e => ⟨.error (.encode e), disk, noted⟩
  | none => ⟨.ok (), disk, noted ++ [.shown message]⟩

end Reporter

end ViewNaming
