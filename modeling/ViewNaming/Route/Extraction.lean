import ViewNaming.Literal
import ViewNaming.Route.Basic

/-! Routes of a route file. The file exports an array of route objects by
default: directly, with a type behind `as`, or through a variable of the
module. Each object with a name and a component that is imported lazily from
the views directory gives a route, and any other element gives none. -/
namespace ViewNaming.Route

/-- Why a tree gives no list of routes. The first two concern the whole file;
the others are left over from a single element. -/
inductive ExtractionError
  | noDefaultExport
  | noRouteArray
  | literal (error : Literal.Error)
  | invalid (issues : List Issue)

def hasToken (node : Node) (spelling : String) : Bool :=
  node.children.any fun child => child.kind = .token spelling

def exportedExpression? (node : Node) : Option Node :=
  if !node.is .exportStatement then none
  else if hasToken node "default" then node.child? .value
  else if hasToken node "=" then node.significantChildren.head?
  else none

def defaultExport? (root : Node) : Option Node :=
  root.descendants.findSome? exportedExpression?

/-- The array literal that an expression is, perhaps with a type behind `as`. -/
def asArray? (expression : Node) : Option Node :=
  if expression.is .array then some expression
  else if expression.is .asExpression then
    expression.significantChildren.head?.filter fun inner => inner.is .array
  else none

def moduleDeclaration? (statement : Node) : Option Node :=
  let declaration? :=
    if statement.is .exportStatement then statement.child? .declaration else some statement
  declaration?.filter fun declaration =>
    declaration.is .lexicalDeclaration || declaration.is .variableDeclaration

def moduleDeclarators (root : Node) : List Node :=
  (root.namedChildren.filterMap moduleDeclaration?).flatMap fun declaration =>
    declaration.namedChildren.filter fun child => child.is .variableDeclarator

def binds (identifier : Text) (declarator : Node) : Bool :=
  (declarator.child? .name).any fun name => name.is .identifier && name.text = identifier

def initialValue? (root : Node) (identifier : Text) : Option Node :=
  ((moduleDeclarators root).find? (binds identifier)).bind fun declarator =>
    declarator.child? .value

def arrayOf? (root expression : Node) : Option Node :=
  match asArray? expression with
  | some array => some array
  | none =>
      if expression.is .identifier then (initialValue? root expression.text).bind asArray?
      else none

def routeArray (root : Node) : Except ExtractionError Node :=
  match defaultExport? root with
  | none => .error .noDefaultExport
  | some expression =>
      match arrayOf? root expression with
      | none => .error .noRouteArray
      | some array => .ok array

def key? (pair : Node) : Except Literal.Error (Option Text) :=
  match pair.child? .key with
  | none => .ok none
  | some key =>
      if key.is .string then (Literal.value key).map some
      else if key.is .propertyIdentifier then .ok (some key.text)
      else .ok none

def propertyAmong? (key : Text) : List Node → Except Literal.Error (Option Node)
  | [] => .ok none
  | child :: children =>
      if !child.is .pair then propertyAmong? key children
      else
        match key? child with
        | .error e => .error e
        | .ok found =>
            if found = some key then .ok (child.child? .value) else propertyAmong? key children

def property? (object : Node) (key : Text) : Except Literal.Error (Option Node) :=
  propertyAmong? key object.namedChildren

/-- The node itself if it has this name, or else the first one below it that has. -/
def selfOrFirst? (node : Node) (phrase : Phrase) : Option Node :=
  if node.namedLike phrase then some node
  else node.firstDescendant? fun descendant => descendant.namedLike phrase

def takesNothing (arrow : Node) : Bool :=
  (arrow.child? .parameter).isNone &&
    (arrow.child? .parameters).all fun parameters => parameters.significantChildren.isEmpty

def isImport (node : Node) : Bool :=
  node.is .callExpression &&
    (node.child? .callee).any fun callee => callee.text = Text.ofString "import"

def firstArgument? (call : Node) : Option Node :=
  (call.child? .arguments).bind fun arguments => arguments.significantChildren.head?

def importedPath? (component : Node) : Except Literal.Error (Option Text) :=
  match selfOrFirst? component .arrowFunction with
  | none => .ok none
  | some arrow =>
      if !takesNothing arrow then .ok none
      else
        match arrow.firstDescendant? isImport with
        | none => .ok none
        | some call =>
            match firstArgument? call with
            | none => .ok none
            | some argument =>
                if argument.is .string then (Literal.value argument).map some else .ok none

def fields? (object : Node) : Except Literal.Error (Option (Text × Text)) := do
  let name? ← property? object (Text.ofString "name")
  let component? ← property? object (Text.ofString "component")
  match name?, component? with
  | some nameValue, some component =>
      match selfOrFirst? nameValue .string with
      | none => .ok none
      | some literal =>
          let name ← Literal.value literal
          let path? ← importedPath? component
          .ok (path?.map fun path => (name, path))
  | _, _ => .ok none

def ofObject? (object : Node) : Except ExtractionError (Option Route) :=
  match fields? object with
  | .error e => .error (.literal e)
  | .ok none => .ok none
  | .ok (some (name, path)) =>
      if name = [] then .ok none
      else
        match Text.after? viewsAlias path with
        | none => .ok none
        | some [] => .ok none
        | some relativePath =>
            match ofTexts name relativePath with
            | .error issues => .error (.invalid issues)
            | .ok route => .ok (some route)

def ofElements : List Node → Except ExtractionError (List Route)
  | [] => .ok []
  | element :: elements =>
      if !element.is .object then ofElements elements
      else
        match ofObject? element with
        | .error e => .error e
        | .ok route? => (ofElements elements).map (route?.toList ++ ·)

def extract (root : Node) : Except ExtractionError (List Route) :=
  match routeArray root with
  | .error e => .error e
  | .ok array => ofElements array.namedChildren

def ExtractionError.message (place : Option Text) : ExtractionError → Text
  | noDefaultExport => Text.ofString "No export default statement found" ++ suffix place
  | noRouteArray =>
      Text.ofString "export default is neither an array expression nor a variable pointing to one"
        ++ suffix place
  | literal e => e.message
  | invalid issues =>
      Text.joinWith (Text.ofString "\n") (issues.map fun issue => issue.fault.message)
where
  suffix : Option Text → Text
    | none => []
    | some path => Text.ofString " in " ++ path

end ViewNaming.Route
