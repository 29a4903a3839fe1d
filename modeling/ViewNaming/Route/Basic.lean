import ViewNaming.Text.Quoted

/-! Routes: a name, and the place of a component below the views directory. -/
namespace ViewNaming

def viewsAlias : Text := Text.ofString "@/views/"

structure Route where
  name : Text
  relativePath : Text
  name_ne : name ≠ []
  relativePath_ne : relativePath ≠ []
  unaliased : Text.beginsWith viewsAlias relativePath = false
deriving DecidableEq

namespace Route

inductive Fault
  | missing
  | notText
  | emptyName
  | emptyPath
  | aliased
  | frozen
deriving DecidableEq

structure Issue where
  field : Text
  fault : Fault
deriving DecidableEq

def Fault.message : Fault → Text
  | missing => Text.ofString "Field required"
  | notText => Text.ofString "Input should be a valid string"
  | emptyName => Text.ofString "Value error, route name must not be empty"
  | emptyPath => Text.ofString "Value error, relative path must not be empty"
  | aliased =>
      Text.ofString "Value error, relative path still carries the " ++ viewsAlias.quoted
        ++ Text.ofString " prefix"
  | frozen => Text.ofString "Instance is frozen"

inductive Field
  | missing
  | notText
  | text (value : Text)

def nameFault? : Field → Option Fault
  | .missing => some .missing
  | .notText => some .notText
  | .text value => if value = [] then some .emptyName else none

def pathFault? : Field → Option Fault
  | .missing => some .missing
  | .notText => some .notText
  | .text value =>
      if value = [] then some .emptyPath
      else if Text.beginsWith viewsAlias value then some .aliased
      else none

def issues (name path : Field) : List Issue :=
  ((nameFault? name).map (Issue.mk (Text.ofString "name"))).toList
    ++ ((pathFault? path).map (Issue.mk (Text.ofString "relative_path"))).toList

/-- The route with the given fields, or all that is wrong with them, the name
first. -/
def check (name path : Field) : Except (List Issue) Route :=
  match name, path with
  | .text n, .text p =>
      if named : n ≠ [] then
        if placed : p ≠ [] then
          if unaliased : Text.beginsWith viewsAlias p = false then
            .ok ⟨n, p, named, placed, unaliased⟩
          else .error (issues name path)
        else .error (issues name path)
      else .error (issues name path)
  | _, _ => .error (issues name path)

def ofTexts (name relativePath : Text) : Except (List Issue) Route :=
  check (.text name) (.text relativePath)

/-- Routes never change: assigning to a field is always refused. -/
def assign (_ : Route) (field : Text) : Except (List Issue) Route :=
  .error [⟨field, .frozen⟩]

end Route

end ViewNaming
