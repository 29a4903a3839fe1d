import ViewNaming.Task
import ViewNaming.TypeScript.Parse

/-! Reading route files. -/
namespace ViewNaming.Run

open TypeScript (Parser)

def parserChannel : Text := Text.ofString "inject_define_options.ts.core"

def routesChannel : Text := Text.ofString "inject_define_options.ts.routes"

def malformedRecord : Record :=
  ⟨parserChannel, Severity.warning,
    Text.ofString "TypeScript source contains syntax errors; continuing with partial tree"⟩

def parse [Parser] (text : Text) : Task TypeScript.Script := do
  let script := Parser.parse text
  if script.malformed then
    Task.note malformedRecord
  return script

def unifyLines : Text → Text
  | [] => []
  | c :: text =>
      if c = '\r' then
        match text with
        | [] => [CodePoint.ofChar '\n']
        | d :: rest =>
            if d = '\n' then CodePoint.ofChar '\n' :: unifyLines rest
            else CodePoint.ofChar '\n' :: unifyLines (d :: rest)
      else c :: unifyLines text

def parseFile [Parser] (path : Path) : Task TypeScript.Script := do
  let text ← Task.read path
  parse (unifyLines text)

def extractedRecord (routes elements : Nat) : Record :=
  ⟨routesChannel, Severity.debug,
    Text.ofString "Extracted " ++ Text.ofNat routes ++ Text.ofString " route(s) from "
      ++ Text.ofNat elements ++ Text.ofString " array element(s)"⟩

def extractFile [Parser] (path : Path) : Task (List Route) := do
  let script ← parseFile path
  match Route.routeArray script.root, Route.extract script.root with
  | .ok array, .ok routes =>
      Task.note (extractedRecord routes.length array.namedChildren.length)
      return routes
  | .error e, _ => Task.fail (.extraction path.toText e)
  | _, .error e => Task.fail (.extraction path.toText e)

end ViewNaming.Run
