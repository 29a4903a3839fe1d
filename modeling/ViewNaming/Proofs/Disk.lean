import ViewNaming.Disk
import ViewNaming.Proofs.Text.Scalar

/-! What writing a file changes on a disk. Finding a path looks at which entries
are files and which are directories, and never into a file. So a disk on which
only contents changed has the same shape, and every path leads to the same place
on it. -/
namespace ViewNaming

def Entry.isFile : Entry → Bool
  | .directory => false
  | .file _ => true

namespace Disk

theorem content?_eq_some_iff {disk : Disk} {location : Location} {bytes : Bytes} :
    disk.content? location = some bytes ↔ disk.entryAt? location = some (.file bytes) := by
  rw [content?]
  split
  · rename_i content found
    simp [found]
  · rename_i other
    constructor
    · simp
    · intro found
      exact absurd found (other bytes)

theorem ne_nil_of_content? {disk : Disk} {location : Location} {bytes : Bytes}
    (holds : disk.content? location = some bytes) : location ≠ [] := by
  rintro rfl
  simp [content?_eq_some_iff, entryAt?] at holds

theorem content?_put {disk : Disk} {location : Location} {old : Bytes}
    (holds : disk.content? location = some old) (new : Bytes) (place : Location) :
    (disk.put location (.file new)).content? place =
      if location = place then some new else disk.content? place := by
  rw [content?, entryAt?_put disk place _ (ne_nil_of_content? holds)]
  by_cases same : location = place
  · simp [same]
  · simp [same, content?]

theorem putAmong_putAmong (location : Location) (first second : Entry)
    (entries : List (Location × Entry)) :
    putAmong location second (putAmong location first entries) =
      putAmong location second entries := by
  induction entries with
  | nil => simp [putAmong]
  | cons head entries ih =>
      obtain ⟨place, old⟩ := head
      by_cases same : place = location
      · simp [putAmong, same]
      · simp [putAmong, same, ih]

theorem put_put (disk : Disk) (location : Location) (first second : Entry) :
    (disk.put location first).put location second = disk.put location second := by
  simp only [put, putAmong_putAmong]

theorem putAmong_comm {left right : Location} (apart : left ≠ right) (first second : Entry)
    {entries : List (Location × Entry)} (leftThere : (lookUp left entries).isSome)
    (rightThere : (lookUp right entries).isSome) :
    putAmong right second (putAmong left first entries) =
      putAmong left first (putAmong right second entries) := by
  -- Entries that are there already keep their place in the list, so no new one is ever added.
  induction entries with
  | nil => simp [lookUp] at leftThere
  | cons head entries ih =>
      obtain ⟨place, old⟩ := head
      by_cases atLeft : place = left
      · subst atLeft
        simp [putAmong, apart]
      · by_cases atRight : place = right
        · subst atRight
          simp [putAmong, atLeft]
        · simp only [lookUp, atLeft, atRight, if_false] at leftThere rightThere
          simp [putAmong, atLeft, atRight, ih leftThere rightThere]

theorem lookUp_of_content? {disk : Disk} {location : Location} {bytes : Bytes}
    (holds : disk.content? location = some bytes) :
    (lookUp location disk.entries).isSome := by
  have below := ne_nil_of_content? holds
  rw [content?_eq_some_iff, entryAt?, if_neg below] at holds
  simp [holds]

theorem put_comm {disk : Disk} {left right : Location} {leftOld rightOld : Bytes}
    (apart : left ≠ right) (leftThere : disk.content? left = some leftOld)
    (rightThere : disk.content? right = some rightOld) (first second : Entry) :
    (disk.put left first).put right second = (disk.put right second).put left first := by
  simp only [put]
  rw [putAmong_comm apart first second (lookUp_of_content? leftThere)
    (lookUp_of_content? rightThere)]

/-- The same files and directories, whatever the files hold. -/
structure SameShape (disk other : Disk) : Prop where
  workingDirectory : other.workingDirectory = disk.workingDirectory
  kind : ∀ location, (other.entryAt? location).map Entry.isFile =
    (disk.entryAt? location).map Entry.isFile

namespace SameShape

variable {disk middle other : Disk}

theorem refl (disk : Disk) : SameShape disk disk := ⟨rfl, fun _ => rfl⟩

theorem symm (shape : SameShape disk other) : SameShape other disk :=
  ⟨shape.workingDirectory.symm, fun location => (shape.kind location).symm⟩

theorem trans (first : SameShape disk middle) (second : SameShape middle other) :
    SameShape disk other :=
  ⟨second.workingDirectory.trans first.workingDirectory,
    fun location => (second.kind location).trans (first.kind location)⟩

theorem put {location : Location} {old : Bytes} (holds : disk.content? location = some old)
    (new : Bytes) : SameShape disk (disk.put location (.file new)) := by
  refine ⟨rfl, ?_⟩
  intro place
  rw [entryAt?_put disk place _ (ne_nil_of_content? holds)]
  split
  · rename_i same
    subst same
    rw [content?_eq_some_iff.1 holds]
    rfl
  · rfl

theorem entry_cases (shape : SameShape disk other) (location : Location) :
    (disk.entryAt? location = none ∧ other.entryAt? location = none) ∨
    (disk.entryAt? location = some .directory ∧ other.entryAt? location = some .directory) ∨
    ∃ old new, disk.entryAt? location = some (.file old) ∧
      other.entryAt? location = some (.file new) := by
  have kind := shape.kind location
  cases before : disk.entryAt? location with
  | none =>
      rw [before, Option.map_none, Option.map_eq_none_iff] at kind
      exact Or.inl ⟨rfl, kind⟩
  | some entry =>
      rw [before, Option.map_some, Option.map_eq_some_iff] at kind
      obtain ⟨entry', after, same⟩ := kind
      rw [after]
      cases entry <;> cases entry' <;> simp_all [Entry.isFile]

theorem isSome_content? (shape : SameShape disk other) (location : Location) :
    (other.content? location).isSome = (disk.content? location).isSome := by
  rw [content?, content?]
  rcases shape.entry_cases location with ⟨before, after⟩ | ⟨before, after⟩ | ⟨_, _, before, after⟩
  all_goals rw [before, after]
  rfl

theorem enter (shape : SameShape disk other) (here : Location) (name : Text) :
    other.enter here name = disk.enter here name := by
  rw [Disk.enter, Disk.enter]
  rcases shape.entry_cases here with ⟨before, after⟩ | ⟨before, after⟩ | ⟨_, _, before, after⟩
  all_goals rw [before, after]

theorem walk (shape : SameShape disk other) (here : Location) (names : List Text) :
    other.walk here names = disk.walk here names := by
  induction names generalizing here with
  | nil => rfl
  | cons name names ih =>
      simp only [Disk.walk, shape.enter here name]
      cases disk.enter here name with
      | error fault => rfl
      | ok next => exact ih next

theorem locate (shape : SameShape disk other) (path : Path) :
    other.locate path = disk.locate path := by
  have origin : other.origin path = disk.origin path := by
    rw [Disk.origin, Disk.origin, shape.workingDirectory]
  rw [Disk.locate, Disk.locate, origin, shape.walk]

theorem read_cases (shape : SameShape disk other) (path : Path) :
    (∃ fault, disk.read path = .error fault ∧ other.read path = .error fault) ∨
    ∃ location old new, disk.read path = .ok (location, old) ∧
      other.read path = .ok (location, new) := by
  simp only [Disk.read, Disk.find, shape.locate path]
  cases disk.locate path with
  | error fault => exact Or.inl ⟨fault, rfl, rfl⟩
  | ok location =>
      rcases shape.entry_cases location with
        ⟨before, after⟩ | ⟨before, after⟩ | ⟨old, new, before, after⟩
      · exact Or.inl ⟨.notFound, by simp only [before], by simp only [after]⟩
      · exact Or.inl ⟨.isDirectory, by simp only [before], by simp only [after]⟩
      · exact Or.inr ⟨location, old, new, by simp only [before], by simp only [after]⟩

theorem isFile (shape : SameShape disk other) (path : Path) :
    other.isFile path = disk.isFile path := by
  rw [Disk.isFile, Disk.isFile]
  rcases shape.read_cases path with ⟨fault, before, after⟩ | ⟨location, old, new, before, after⟩
  all_goals rw [before, after]

end SameShape

theorem read_eq_ok_iff {disk : Disk} {path : Path} {location : Location} {bytes : Bytes} :
    disk.read path = .ok (location, bytes) ↔
      disk.locate path = .ok location ∧ disk.content? location = some bytes := by
  rw [content?_eq_some_iff, read, find]
  cases disk.locate path with
  | error fault => simp
  | ok place =>
      cases entry : disk.entryAt? place with
      | none => grind
      | some found => cases found <;> grind

theorem scalar_of_nameBytes? {name : Text} {bytes : Bytes} (named : nameBytes? name = some bytes) :
    name.Scalar := by
  rw [nameBytes?] at named
  cases encoded : Utf8.encode name with
  | error e => simp [encoded] at named
  | ok bytes => exact Utf8.scalar_of_encode encoded

theorem scalar_of_enter {disk : Disk} {here next : Location} {name : Text}
    (entered : disk.enter here name = .ok next) : name.Scalar := by
  rw [enter] at entered
  split at entered
  · cases entered
  · cases entered
  · split at entered
    · rename_i still
      rw [Bool.or_eq_true, decide_eq_true_eq, decide_eq_true_eq] at still
      rcases still with rfl | rfl
      · exact Text.scalar_nil
      · exact Text.scalar_ofString "."
    · split at entered
      · rename_i up
        rw [up]
        exact Text.scalar_ofString ".."
      · split at entered
        · cases entered
        · rename_i bytes named
          exact scalar_of_nameBytes? named

theorem scalar_of_walk {disk : Disk} {here last : Location} {names : List Text}
    (walked : disk.walk here names = .ok last) : ∀ name ∈ names, name.Scalar := by
  induction names generalizing here with
  | nil => simp
  | cons name names ih =>
      rw [walk] at walked
      cases entered : disk.enter here name with
      | error fault => simp [entered] at walked
      | ok next =>
          simp only [entered] at walked
          exact List.forall_mem_cons.2 ⟨scalar_of_enter entered, ih walked⟩

theorem scalar_toText_of_segments {path : Path}
    (segments : ∀ segment ∈ path.segments, segment.Scalar) :
    path.toText.Scalar := by
  rw [Path.toText]
  split
  · exact Text.scalar_ofString "."
  · have anchored : (Path.Anchor.toText path.anchor).Scalar := by
      cases path.anchor <;> simp [Path.Anchor.toText, Path.slash]
    rw [Text.scalar_append]
    exact ⟨anchored, Text.scalar_joinWith (Text.scalar_ofString "/") segments⟩

theorem scalar_of_read {disk : Disk} {path : Path} {location : Location} {bytes : Bytes}
    (there : disk.read path = .ok (location, bytes)) : path.toText.Scalar := by
  obtain ⟨located, -⟩ := read_eq_ok_iff.1 there
  rw [locate] at located
  split at located
  · cases located
  · exact scalar_toText_of_segments (scalar_of_walk located)

end Disk

end ViewNaming
