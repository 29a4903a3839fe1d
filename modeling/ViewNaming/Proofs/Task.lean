import ViewNaming.Proofs.Disk
import ViewNaming.Task

/-! Tasks that finish and tasks that fail. A task finishes on a disk with a value and a
last disk, or fails on it with a failure and a last disk; how it does so is read off
its parts, one equivalence for each way to make a task. What it is seen to do on the way
is put together from its parts as well. -/
namespace ViewNaming

namespace Task

variable {α β : Type}

/-- The task ends with this value and leaves this disk. -/
def Finishes (task : Task α) (disk : Disk) (value : α) (last : Disk) : Prop :=
  (task disk).result = .ok value ∧ (task disk).disk = last

theorem eq_ok_iff_isOk {result : Except Failure Unit} : result = .ok () ↔ result.isOk = true := by
  cases result with
  | error failure => simp [Except.isOk, Except.toBool]
  | ok value => simp [Except.isOk, Except.toBool]

theorem eq_ok_of_toOption {result : Except Failure α} {value : α}
    (found : result.toOption = some value) : result = .ok value := by
  cases result with
  | error failure => cases found
  | ok other => exact congrArg Except.ok (Option.some.inj found)

theorem exists_ok_of_isOk {result : Except Failure α} (finished : result.isOk = true) :
    ∃ value, result = .ok value := by
  cases result with
  | error failure => cases finished
  | ok value => exact ⟨value, rfl⟩

theorem finishes_pure {disk last : Disk} {value result : α} :
    (Pure.pure value : Task α).Finishes disk result last ↔ result = value ∧ last = disk := by
  simp only [Finishes, pure_apply, Except.ok.injEq]
  exact and_congr eq_comm eq_comm

theorem finishes_bind {task : Task α} {next : α → Task β} {disk last : Disk} {value : β} :
    (task >>= next).Finishes disk value last ↔
      ∃ between middle, task.Finishes disk between middle ∧
        (next between).Finishes middle value last := by
  cases ended : (task disk).result with
  | error failure =>
      simp [Finishes, bind_apply_error ended, ended]
  | ok between =>
      simp only [Finishes, bind_apply_ok ended, ended, Except.ok.injEq]
      constructor
      · intro finished
        exact ⟨between, _, ⟨rfl, rfl⟩, finished⟩
      · rintro ⟨_, _, ⟨rfl, rfl⟩, finished⟩
        exact finished

theorem bind_pure_apply (task : Task α) (f : α → β) (disk : Disk) :
    (task >>= fun value => Pure.pure (f value)) disk =
      ⟨(task disk).result.map f, (task disk).disk, (task disk).events⟩ := by
  cases ended : (task disk).result with
  | error failure =>
      rw [bind_apply_error ended]
      rfl
  | ok value =>
      rw [bind_apply_ok ended, pure_apply, List.append_nil]
      rfl

theorem finishes_note {record : Record} {disk last : Disk} {value : Unit} :
    (note record).Finishes disk value last ↔ last = disk := by
  simp only [Finishes, note, true_and]
  exact eq_comm

theorem finishes_isFile {path : Path} {disk last : Disk} {value : Bool} :
    (isFile path).Finishes disk value last ↔ disk.isFile path = .ok value ∧ last = disk := by
  simp only [Finishes, isFile]
  cases disk.isFile path with
  | error fault => simp [onDisk]
  | ok found => simp [onDisk, eq_comm]

theorem finishes_read {path : Path} {disk last : Disk} {text : Text} :
    (read path).Finishes disk text last ↔
      (∃ location bytes, disk.read path = .ok (location, bytes) ∧ Utf8.decode bytes = .ok text) ∧
        last = disk := by
  simp only [Finishes, read]
  cases disk.read path with
  | error fault => simp [onDisk]
  | ok found =>
      obtain ⟨location, bytes⟩ := found
      cases decoded : Utf8.decode bytes with
      | error e => simp [onDisk, decoded]
      | ok whole =>
          simp only [onDisk, decoded, Except.ok.injEq]
          constructor
          · rintro ⟨rfl, rfl⟩
            exact ⟨⟨location, bytes, rfl, decoded⟩, rfl⟩
          · rintro ⟨⟨_, _, same, reads⟩, rfl⟩
            cases same
            rw [decoded] at reads
            exact ⟨Except.ok.inj reads, rfl⟩

theorem finishes_write {path : Path} {text : Text} {disk last : Disk} {value : Unit} :
    (write path text).Finishes disk value last ↔
      ∃ location old new, disk.read path = .ok (location, old) ∧ Utf8.encode text = .ok new ∧
        last = disk.put location (.file new) := by
  simp only [Finishes, write]
  cases disk.read path with
  | error fault => simp [onDisk]
  | ok found =>
      obtain ⟨location, old⟩ := found
      cases Utf8.encode text with
      | error e => simp [onDisk]
      | ok new => simp [onDisk, Disk.put_put, eq_comm]

def Fails (task : Task α) (disk : Disk) (failure : Failure) (last : Disk) : Prop :=
  (task disk).result = .error failure ∧ (task disk).disk = last

theorem not_fails_pure {value : α} {disk last : Disk} {failure : Failure} :
    ¬ (Pure.pure value : Task α).Fails disk failure last := by
  simp [Fails, pure_apply]

theorem fails_fail {failure other : Failure} {disk last : Disk} :
    (fail other : Task α).Fails disk failure last ↔ failure = other ∧ last = disk := by
  simp only [Fails, fail, Except.error.injEq]
  exact and_congr eq_comm eq_comm

theorem fails_bind {task : Task α} {next : α → Task β} {disk last : Disk} {failure : Failure} :
    (task >>= next).Fails disk failure last ↔ task.Fails disk failure last ∨
      ∃ between middle, task.Finishes disk between middle ∧
        (next between).Fails middle failure last := by
  cases ended : (task disk).result with
  | error other => simp [Fails, Finishes, bind_apply_error ended, ended]
  | ok between =>
      simp only [Fails, Finishes, bind_apply_ok ended, ended, reduceCtorEq, false_and, false_or,
        Except.ok.injEq]
      constructor
      · intro failed
        exact ⟨between, _, ⟨rfl, rfl⟩, failed⟩
      · rintro ⟨_, _, ⟨rfl, rfl⟩, failed⟩
        exact failed

theorem not_fails_note {record : Record} {disk last : Disk} {failure : Failure} :
    ¬ (note record).Fails disk failure last := by
  simp [Fails, note]

theorem fails_isFile {path : Path} {disk last : Disk} {failure : Failure} :
    (isFile path).Fails disk failure last ↔
      ∃ fault, disk.isFile path = .error fault ∧ failure = .disk fault path.toText ∧
        last = disk := by
  simp only [Fails, isFile]
  cases disk.isFile path with
  | error fault => simp [onDisk, eq_comm]
  | ok found => simp [onDisk]

theorem fails_read {path : Path} {disk last : Disk} {failure : Failure} :
    (read path).Fails disk failure last ↔
      ((∃ fault, disk.read path = .error fault ∧ failure = .disk fault path.toText) ∨
        ∃ location bytes e, disk.read path = .ok (location, bytes) ∧
          Utf8.decode bytes = .error e ∧ failure = .decode e) ∧ last = disk := by
  simp only [Fails, read]
  cases disk.read path with
  | error fault => simp [onDisk, eq_comm]
  | ok found =>
      obtain ⟨location, bytes⟩ := found
      cases decoded : Utf8.decode bytes with
      | error e => simp [onDisk, decoded, eq_comm]
      | ok text => simp [onDisk, decoded]

theorem fails_write {path : Path} {text : Text} {disk last : Disk} {failure : Failure} :
    (write path text).Fails disk failure last ↔
      (∃ fault, disk.read path = .error fault ∧ failure = .disk fault path.toText ∧
        last = disk) ∨
      ∃ location old e, disk.read path = .ok (location, old) ∧ Utf8.encode text = .error e ∧
        failure = .encode e ∧ last = disk.put location (.file []) := by
  simp only [Fails, write]
  cases disk.read path with
  | error fault => simp [onDisk, eq_comm]
  | ok found =>
      obtain ⟨location, old⟩ := found
      cases Utf8.encode text with
      | error e => simp [onDisk, eq_comm]
      | ok new => simp [onDisk]

/-- The task leaves both disks alone and ends the same way on either. -/
structure Agrees (task : Task α) (disk other : Disk) : Prop where
  left : (task disk).disk = disk
  right : (task other).disk = other
  result : (task other).result = (task disk).result

theorem agrees_pure (value : α) (disk other : Disk) :
    (Pure.pure value : Task α).Agrees disk other := ⟨rfl, rfl, rfl⟩

theorem agrees_fail (failure : Failure) (disk other : Disk) :
    (fail failure : Task α).Agrees disk other := ⟨rfl, rfl, rfl⟩

theorem agrees_note (record : Record) (disk other : Disk) :
    (note record).Agrees disk other := ⟨rfl, rfl, rfl⟩

theorem agrees_bind {task : Task α} {next : α → Task β} {disk other : Disk}
    (first : task.Agrees disk other) (second : ∀ value, (next value).Agrees disk other) :
    (task >>= next).Agrees disk other := by
  have result := first.result
  cases ended : (task disk).result with
  | error failure =>
      rw [ended] at result
      constructor
      · rw [bind_apply_error ended, first.left]
      · rw [bind_apply_error result, first.right]
      · rw [bind_apply_error ended, bind_apply_error result]
  | ok value =>
      rw [ended] at result
      have later := second value
      constructor
      · rw [bind_apply_ok ended, first.left, later.left]
      · rw [bind_apply_ok result, first.right, later.right]
      · rw [bind_apply_ok ended, bind_apply_ok result, first.left, first.right, later.result]

theorem agrees_read {path : Path} {disk other : Disk}
    (same : other.read path = disk.read path) : (read path).Agrees disk other := by
  have shown : ∀ disk : Disk, (read path disk).disk = disk := by
    intro disk
    rw [read]
    split
    · rfl
    · split <;> rfl
  refine ⟨shown disk, shown other, ?_⟩
  rw [read, read, same]
  split
  · rfl
  · split <;> rfl

end Task

namespace Outcome

variable {α : Type}

def seen (outcome : Outcome α) : List Event :=
  outcome.events.filter fun event => event.record?.isNone

theorem messages_eq (outcome : Outcome α) :
    outcome.messages = outcome.seen.filterMap Event.message? := by
  rw [messages, seen, List.filterMap_filter]
  congr 1
  funext event
  cases event <;> rfl

theorem opened_eq (outcome : Outcome α) :
    outcome.opened = outcome.seen.filterMap Event.opened? := by
  rw [opened, seen, List.filterMap_filter]
  congr 1
  funext event
  cases event <;> rfl

/-- Two outcomes that differ in their log records at most. -/
structure SameButLog (outcome other : Outcome α) : Prop where
  result : outcome.result = other.result
  disk : outcome.disk = other.disk
  seen : outcome.seen = other.seen

namespace SameButLog

variable {outcome other another : Outcome α}

theorem trans (first : outcome.SameButLog other) (second : other.SameButLog another) :
    outcome.SameButLog another :=
  ⟨first.result.trans second.result, first.disk.trans second.disk, first.seen.trans second.seen⟩

theorem messages (same : outcome.SameButLog other) : outcome.messages = other.messages := by
  rw [messages_eq, same.seen, messages_eq]

theorem opened (same : outcome.SameButLog other) : outcome.opened = other.opened := by
  rw [opened_eq, same.seen, opened_eq]

end SameButLog

end Outcome

namespace Task

variable {α β : Type}

/-- Nothing is seen of the task but what it returns. -/
def Silent (task : Task α) : Prop := ∀ disk, (task disk).seen = []

theorem silent_pure (value : α) : Silent (Pure.pure value : Task α) := fun _ => rfl

theorem silent_fail (failure : Failure) : Silent (fail failure : Task α) := fun _ => rfl

theorem silent_note (record : Record) : Silent (note record) := fun _ => rfl

theorem silent_isFile (path : Path) : Silent (isFile path) := fun _ => rfl

theorem silent_read (path : Path) : Silent (read path) := by
  intro disk
  rw [read]
  split
  · rfl
  · split <;> rfl

theorem seen_bind_of_finishes {task : Task α} {next : α → Task β} {disk middle : Disk} {value : α}
    (finished : task.Finishes disk value middle) :
    ((task >>= next) disk).seen = (task disk).seen ++ (next value middle).seen := by
  obtain ⟨ended, rfl⟩ := finished
  rw [bind_apply_ok ended, Outcome.seen, List.filter_append, Outcome.seen, Outcome.seen]

theorem seen_bind_of_fails {task : Task α} {next : α → Task β} {disk last : Disk}
    {failure : Failure} (failed : task.Fails disk failure last) :
    ((task >>= next) disk).seen = (task disk).seen := by
  rw [bind_apply_error failed.1, Outcome.seen, Outcome.seen]

theorem seen_bind_of_silent {task : Task α} {next : α → Task β}
    (silent : ∀ value, (next value).Silent) (disk : Disk) :
    ((task >>= next) disk).seen = (task disk).seen := by
  cases ended : (task disk).result with
  | error failure => exact seen_bind_of_fails ⟨ended, rfl⟩
  | ok value => rw [seen_bind_of_finishes ⟨ended, rfl⟩, silent value, List.append_nil]

theorem sameButLog_bind {task : Task α} {next : α → Task β} {disk middle : Disk} {value : α}
    (unseen : (task disk).seen = []) (finished : task.Finishes disk value middle) :
    ((task >>= next) disk).SameButLog (next value middle) := by
  have seen : ((task >>= next) disk).seen = (next value middle).seen := by
    rw [seen_bind_of_finishes finished, unseen, List.nil_append]
  obtain ⟨ended, rfl⟩ := finished
  exact ⟨by rw [bind_apply_ok ended], by rw [bind_apply_ok ended], seen⟩

theorem sameButLog_note (record : Record) (next : Unit → Task α) (disk : Disk) :
    ((note record >>= next) disk).SameButLog (next () disk) :=
  sameButLog_bind (silent_note record disk) (finishes_note.2 rfl)

theorem silent_bind {task : Task α} {next : α → Task β} (first : task.Silent)
    (silent : ∀ value, (next value).Silent) : (task >>= next).Silent := by
  intro disk
  rw [seen_bind_of_silent silent, first]

theorem seen_write {path : Path} {text : Text} {disk : Disk} {location : Location} {old : Bytes}
    (there : disk.read path = .ok (location, old)) :
    (write path text disk).seen = [.opened location] := by
  simp only [write, there, onDisk]
  cases Utf8.encode text with
  | error e => rfl
  | ok new => rfl

end Task

theorem Reporter.finishes_report {reporter : Reporter} {level : Level} {text : Text}
    {disk last : Disk} {value : Unit} :
    (reporter.report level text).Finishes disk value last ↔
      reporter.refusal? ⟨level, text⟩ = none ∧ last = disk := by
  simp only [Task.Finishes, report]
  cases reporter.refusal? ⟨level, text⟩ with
  | none => simp [eq_comm]
  | some e => simp

theorem Reporter.fails_report {reporter : Reporter} {level : Level} {text : Text}
    {disk last : Disk} {failure : Failure} :
    (reporter.report level text).Fails disk failure last ↔
      ∃ e, reporter.refusal? ⟨level, text⟩ = some e ∧ failure = .encode e ∧ last = disk := by
  simp only [Task.Fails, report]
  cases reporter.refusal? ⟨level, text⟩ with
  | none => simp
  | some e => simp [eq_comm]

theorem Reporter.seen_report (reporter : Reporter) (level : Level) (text : Text) (disk : Disk) :
    (reporter.report level text disk).seen =
      if reporter.refusal? ⟨level, text⟩ = none then [.shown ⟨level, text⟩] else [] := by
  simp only [report]
  cases reporter.refusal? ⟨level, text⟩ with
  | none => cases reporter.logs <;> rfl
  | some e => cases reporter.logs <;> rfl

end ViewNaming
