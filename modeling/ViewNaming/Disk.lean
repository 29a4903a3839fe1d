import ViewNaming.Path
import ViewNaming.Text.Utf8

/-! Files and directories. A disk holds what is known of them, and finding a
path on it means walking from directory to directory. -/
namespace ViewNaming

abbrev Location := List Text

inductive Entry
  | directory
  | file (content : Bytes)
deriving DecidableEq

/-- The entries below the root directory, and the directory where relative
paths start. -/
structure Disk where
  workingDirectory : Location
  entries : List (Location × Entry)

namespace Disk

inductive Fault
  | notFound
  | occupied
  | notDirectory
  | isDirectory
  | nameTooLong
deriving DecidableEq

def Fault.number : Fault → Nat
  | notFound => 2
  | occupied => 17
  | notDirectory => 20
  | isDirectory => 21
  | nameTooLong => 36

def Fault.reason : Fault → String
  | notFound => "No such file or directory"
  | occupied => "File exists"
  | notDirectory => "Not a directory"
  | isDirectory => "Is a directory"
  | nameTooLong => "File name too long"

def Fault.message (fault : Fault) (path : Text) : Text :=
  Text.ofString "[Errno " ++ Text.ofNat fault.number ++ Text.ofString "] "
    ++ Text.ofString fault.reason ++ Text.ofString ": " ++ path.quoted

def lookUp (location : Location) : List (Location × Entry) → Option Entry
  | [] => none
  | (place, entry) :: entries => if place = location then some entry else lookUp location entries

def entryAt? (disk : Disk) (location : Location) : Option Entry :=
  if location = [] then some .directory else lookUp location disk.entries

def content? (disk : Disk) (location : Location) : Option Bytes :=
  match disk.entryAt? location with
  | some (.file content) => some content
  | _ => none

def putAmong (location : Location) (entry : Entry) :
    List (Location × Entry) → List (Location × Entry)
  | [] => [(location, entry)]
  | (place, old) :: entries =>
      if place = location then (place, entry) :: entries
      else (place, old) :: putAmong location entry entries

def put (disk : Disk) (location : Location) (entry : Entry) : Disk :=
  { disk with entries := putAmong location entry disk.entries }

theorem lookUp_putAmong (location place : Location) (entry : Entry)
    (entries : List (Location × Entry)) :
    lookUp place (putAmong location entry entries) =
      if location = place then some entry else lookUp place entries := by
  induction entries with
  | nil => simp [putAmong, lookUp]
  | cons head entries ih =>
      obtain ⟨first, old⟩ := head
      by_cases same : first = location
      · subst same
        by_cases here : first = place <;> simp [putAmong, lookUp, here]
      · by_cases here : first = place
        · subst here
          simp [putAmong, lookUp, same, Ne.symm same]
        · simp [putAmong, lookUp, same, here, ih]

theorem entryAt?_put (disk : Disk) {location : Location} (place : Location) (entry : Entry)
    (below : location ≠ []) :
    (disk.put location entry).entryAt? place =
      if location = place then some entry else disk.entryAt? place := by
  by_cases root : place = []
  · subst root
    simp [entryAt?, below]
  · simp [entryAt?, put, root, lookUp_putAmong]

def nameLimit : Nat := 255

def pathLimit : Nat := 4095

/-- The bytes of a name. A name with a surrogate or a zero in it has none and
belongs to no entry. -/
def nameBytes? (name : Text) : Option Bytes :=
  match Utf8.encode name with
  | .ok bytes => if bytes.contains 0 then none else some bytes
  | .error _ => none

def enter (disk : Disk) (here : Location) (name : Text) : Except Fault Location :=
  match disk.entryAt? here with
  | none => .error .notFound
  | some (.file _) => .error .notDirectory
  | some .directory =>
      if name = [] || name = Path.dot then .ok here
      else if name = Path.doubleDot then .ok here.dropLast
      else
        match nameBytes? name with
        | none => .error .notFound
        | some bytes =>
            if bytes.length ≤ nameLimit then .ok (here ++ [name]) else .error .nameTooLong

def walk (disk : Disk) : Location → List Text → Except Fault Location
  | here, [] => .ok here
  | here, name :: names =>
      match disk.enter here name with
      | .error fault => .error fault
      | .ok next => disk.walk next names

def origin (disk : Disk) (path : Path) : Location :=
  match path.anchor with
  | .relative => disk.workingDirectory
  | _ => []

def isTooLong (path : Text) : Bool :=
  (nameBytes? path).any fun bytes => pathLimit < bytes.length

def locate (disk : Disk) (path : Path) : Except Fault Location :=
  if isTooLong path.toText then .error .nameTooLong
  else disk.walk (disk.origin path) path.segments

def find (disk : Disk) (path : Path) : Except Fault (Location × Entry) :=
  match disk.locate path with
  | .error fault => .error fault
  | .ok location =>
      match disk.entryAt? location with
      | none => .error .notFound
      | some entry => .ok (location, entry)

/-- The entry of a path that is written by hand. An empty one leads nowhere, and
a slash at the end demands a directory. -/
def findWritten (disk : Disk) (text : Text) : Except Fault Entry :=
  if text = [] then .error .notFound
  else if isTooLong text then .error .nameTooLong
  else
    match disk.walk (disk.origin (Path.ofText text)) (text.pieces Path.isSlash) with
    | .error fault => .error fault
    | .ok location =>
        match disk.entryAt? location with
        | none => .error .notFound
        | some entry => .ok entry

def read (disk : Disk) (path : Path) : Except Fault (Location × Bytes) :=
  match disk.find path with
  | .error fault => .error fault
  | .ok (_, .directory) => .error .isDirectory
  | .ok (location, .file content) => .ok (location, content)

/-- Whether there is a file at a path. Only a name that is too long keeps the
question from being answered. -/
def isFile (disk : Disk) (path : Path) : Except Fault Bool :=
  match disk.read path with
  | .ok _ => .ok true
  | .error .nameTooLong => .error .nameTooLong
  | .error _ => .ok false

def makeOne (disk : Disk) (path : Path) : Except Fault Disk :=
  match disk.locate path with
  | .error fault => .error fault
  | .ok location =>
      match disk.entryAt? location, disk.entryAt? location.dropLast with
      | some .directory, _ => .ok disk
      | some (.file _), _ => .error .occupied
      | none, some .directory => .ok (disk.put location .directory)
      | none, some (.file _) => .error .notDirectory
      | none, none => .error .notFound

/-- Makes a directory and those above it that are missing. Paths are given by
their segments, the last one first. Directories that were made stay when one
further down fails, and the fault names the path that failed. -/
def makeAll (disk : Disk) (anchor : Anchor) : List Text → Disk × Option (Fault × Path)
  | [] => (disk, none)
  | last :: above =>
      let path : Path := ⟨anchor, (last :: above).reverse⟩
      match disk.makeOne path with
      | .ok next => (next, none)
      | .error .notFound =>
          match disk.makeAll anchor above with
          | (next, some fault) => (next, some fault)
          | (next, none) =>
              match next.makeOne path with
              | .ok last => (last, none)
              | .error fault => (next, some (fault, path))
      | .error fault => (disk, some (fault, path))

end Disk

end ViewNaming
