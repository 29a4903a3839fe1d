import ViewNaming.Disk

/-! The arguments of the command line. Options may come in any order, the last
of a repeated one counts, and the words behind a double dash are no options. -/
namespace ViewNaming.CommandLine

inductive Switch
  | route
  | views
  | exclude
  | version
  | help
deriving DecidableEq

namespace Switch

def all : List Switch := [route, views, exclude, version, help]

def longName : Switch → Text
  | route => Text.ofString "--route"
  | views => Text.ofString "--views"
  | exclude => Text.ofString "--exclude"
  | version => Text.ofString "--version"
  | help => Text.ofString "--help"

def letter? : Switch → Option CodePoint
  | route => some (CodePoint.ofChar 'r')
  | views => some (CodePoint.ofChar 'v')
  | exclude => some (CodePoint.ofChar 'e')
  | _ => none

def takesValue (switch : Switch) : Bool := switch.letter?.isSome

def ofLongName? (name : Text) : Option Switch := all.find? fun switch => switch.longName = name

def ofLetter? (letter : CodePoint) : Option Switch :=
  all.find? fun switch => switch.letter? = some letter

end Switch

inductive UsageError
  | unknown (option : Text)
  | missingValue (option : Text)
  | unexpectedValue (option : Text)
  | routeMissing
  | routeNotFound (path : Text)
  | routeIsDirectory (path : Text)
  | unexpectedArgument (argument : Text)
deriving DecidableEq

def UsageError.message : UsageError → Text
  | unknown option => Text.ofString "No such option: " ++ option
  | missingValue option =>
      Text.ofString "Option " ++ option.quoted ++ Text.ofString " requires an argument."
  | unexpectedValue option =>
      Text.ofString "Option " ++ option.quoted ++ Text.ofString " does not take a value."
  | routeMissing => Text.ofString "Missing option '-r' / '--route'."
  | routeNotFound path =>
      Text.ofString "Invalid value for '-r' / '--route': File " ++ path.quoted
        ++ Text.ofString " does not exist."
  | routeIsDirectory path =>
      Text.ofString "Invalid value for '-r' / '--route': File " ++ path.quoted
        ++ Text.ofString " is a directory."
  | unexpectedArgument argument =>
      Text.ofString "Got unexpected extra argument (" ++ argument ++ Text.ofString ")"

inductive Given
  | flag (switch : Switch)
  | value (switch : Switch) (text : Text)
  | word (text : Text)
deriving DecidableEq

/-- What a single argument says. An option may leave its value to the next
argument. -/
inductive Argument
  | given (item : Given)
  | valueFollows (switch : Switch)
  | optionsEnd
deriving DecidableEq

def readLong (argument : Text) : Except UsageError Argument :=
  let cut := Text.breakOn? (Text.ofString "=") argument
  let name := (cut.map Prod.fst).getD argument
  match Switch.ofLongName? name, cut.map Prod.snd with
  | none, _ => .error (.unknown name)
  | some switch, none =>
      .ok (if switch.takesValue then .valueFollows switch else .given (.flag switch))
  | some switch, some value =>
      if switch.takesValue then .ok (.given (.value switch value))
      else .error (.unexpectedValue name)

def readShort (letter : CodePoint) (value : Text) : Except UsageError Argument :=
  match Switch.ofLetter? letter with
  | none => .error (.unknown (Text.ofString "-" ++ [letter]))
  | some switch => .ok (if value = [] then .valueFollows switch else .given (.value switch value))

def readArgument (argument : Text) : Except UsageError Argument :=
  if argument = Text.ofString "--" then .ok .optionsEnd
  else if Text.beginsWith (Text.ofString "--") argument then readLong argument
  else
    match Text.after? (Text.ofString "-") argument with
    | some (letter :: value) => readShort letter value
    | _ => .ok (.given (.word argument))

def readArguments : List Text → Except UsageError (List Given)
  | [] => .ok []
  | argument :: arguments =>
      match readArgument argument with
      | .error e => .error e
      | .ok .optionsEnd => .ok (arguments.map .word)
      | .ok (.given item) => (readArguments arguments).map (item :: ·)
      | .ok (.valueFollows switch) =>
          match arguments with
          | [] => .error (.missingValue argument)
          | value :: arguments => (readArguments arguments).map (.value switch value :: ·)

def Given.valueOf? (switch : Switch) : Given → Option Text
  | .value other text => if other = switch then some text else none
  | _ => none

def Given.flag? : Given → Option Switch
  | .flag switch => some switch
  | _ => none

def Given.word? : Given → Option Text
  | .word text => some text
  | _ => none

def valuesOf (switch : Switch) (given : List Given) : List Text :=
  given.filterMap (Given.valueOf? switch)

inductive Request
  | version
  | help
  | run (route : Text) (views? : Option Text) (excluded : List Text)
deriving DecidableEq

def checkRoute (disk : Disk) (route : Text) : Except UsageError Unit :=
  match disk.findWritten route with
  | .error _ => .error (.routeNotFound route)
  | .ok .directory => .error (.routeIsDirectory route)
  | .ok (.file _) => .ok ()

/-- The request that the arguments make. Asking for the version or for help goes
before everything but arguments that cannot be read. -/
def request (disk : Disk) (arguments : List Text) : Except UsageError Request := do
  let given ← readArguments arguments
  match given.findSome? Given.flag? with
  | some .version => return .version
  | some _ => return .help
  | none =>
      match (valuesOf .route given).getLast? with
      | none => throw .routeMissing
      | some route =>
          checkRoute disk route
          match given.findSome? Given.word? with
          | some word => throw (.unexpectedArgument word)
          | none => return .run route (valuesOf .views given).getLast? (valuesOf .exclude given)

end ViewNaming.CommandLine
