import ViewNaming.Grammar.LineEnd
import ViewNaming.Tree.Node

/-! Grammars as data, and the reader that follows them. A rule either reads a
stretch of source and adds nodes to the tree, or fails and leaves no trace.
Choices are ordered: the first alternative that reads something is kept.

A comment becomes a child of the smallest phrase around it, so a phrase starts
at its first lexeme and the comments in front of it stay outside. -/
namespace ViewNaming

inductive Rule (σ : Type)
  /-- Reads nothing. -/
  | nothing
  /-- A mark that must not be followed by any of `notBefore`. -/
  | mark (spelling notBefore : String)
  /-- The same, directly behind the lexeme before. -/
  | tightMark (spelling : String)
  /-- A word with this spelling. -/
  | word (spelling : String)
  /-- A lexeme that is a phrase of its own. -/
  | leaf (phrase : Phrase) (scan : Scan)
  /-- The same, directly behind the lexeme before. -/
  | tightLeaf (phrase : Phrase) (scan : Scan)
  | both (first second : Rule σ)
  | either (first second : Rule σ)
  | maybe (rule : Rule σ)
  | many (rule : Rule σ)
  /-- Reads the rule and gathers its nodes under a phrase. -/
  | phrase (phrase : Phrase) (rule : Rule σ)
  /-- Gives the last node a part in its parent. -/
  | role (role : Role) (rule : Rule σ)
  | symbol (symbol : σ)
  /-- Reads `seed`, then `growth` as often as it goes on with it. -/
  | grow (reading : Reading) (seed growth : Rule σ)
  /-- Inside `growth`: reads the rule and gathers everything since the seed under
  a phrase, the seed playing the given part. -/
  | wrap (phrase : Phrase) (seed : Option Role) (rule : Rule σ)
  /-- Succeeds where the rule would, without reading it. -/
  | peek (rule : Rule σ)
  /-- Succeeds where the rule would fail. -/
  | forbid (rule : Rule σ)
  /-- The end of a statement that has no semicolon. -/
  | lineEnd (reading : Reading)
  /-- Between brackets, where no statement can end. -/
  | enclosed (rule : Rule σ)
  /-- Among statements, which can end. -/
  | statements (rule : Rule σ)
  /-- Where a colon behind parameters starts no type. -/
  | untyped (rule : Rule σ)
  /-- Nothing, where a colon behind parameters may start a type. -/
  | typed

namespace Rule

variable {σ : Type}

def seq : List (Rule σ) → Rule σ
  | [] => nothing
  | [rule] => rule
  | rule :: rules => both rule (seq rules)

def oneOf : List (Rule σ) → Rule σ
  | [] => forbid nothing
  | [rule] => rule
  | rule :: rules => either rule (oneOf rules)

end Rule

structure Reader where
  /-- The text that is still to be read. -/
  rest : Text
  position : Nat
  /-- The nodes of the current phrase, the last one first. -/
  nodes : List Node
  /-- Where the current growing phrase began, and the text from there on. -/
  seedStart : Nat
  seedText : Text
  statementsEnd : Bool
  typedArrows : Bool

namespace Reader

def ofText (text : Text) : Reader := ⟨text, 0, [], 0, text, true, true⟩

def take (reader : Reader) (kind : Kind) (lexeme rest : Text) : Reader :=
  { reader with
    rest := rest
    position := reader.position + lexeme.length
    nodes := .mk kind none reader.position lexeme [] :: reader.nodes }

def skipLayout (reader : Reader) : Reader :=
  match Scan.run Scan.isLayout reader.rest with
  | none => reader
  | some (layout, rest) =>
      { reader with rest := rest, position := reader.position + layout.length }

def skipWithin : (bound : Text) → Reader → Reader
  | [], reader => reader
  | _ :: bound, reader =>
      let reader := reader.skipLayout
      match Scan.comment reader.rest with
      | none => reader
      | some (comment, rest) => skipWithin bound (reader.take (.phrase .comment) comment rest)

def skip (reader : Reader) : Reader := skipWithin reader.rest reader

def lexeme (kind : Kind) (scan : Scan) (reader : Reader) : Option Reader :=
  (scan reader.rest).map fun found => reader.take kind found.1 found.2

def endLineWithin (reading : Reading) : (bound : Text) → Reader → Option Reader
  | [], reader => if reader.rest.isEmpty then some reader else none
  | _ :: bound, reader =>
      match LineEnd.find reading reader.rest with
      | .ends => some reader
      | .goesOn => none
      | .comment =>
          let reader := reader.skipLayout
          match Scan.comment reader.rest with
          | none => none
          | some (comment, rest) =>
              endLineWithin reading bound (reader.take (.phrase .comment) comment rest)

def endLine (reading : Reading) (reader : Reader) : Option Reader :=
  endLineWithin reading reader.rest reader

def enter (reader : Reader) : Reader := { reader with nodes := [] }

def close (opened : Reader) (phrase : Phrase) (reader : Reader) : Reader :=
  let text := opened.rest.take (reader.position - opened.position)
  { reader with
    nodes := .mk (.phrase phrase) none opened.position text reader.nodes.reverse
      :: opened.nodes }

def assign (role : Role) (reader : Reader) : Reader :=
  match reader.nodes with
  | [] => reader
  | node :: nodes => { reader with nodes := node.withRole role :: nodes }

def gather (phrase : Phrase) (seed : Option Role) (reader : Reader) : Reader :=
  let text := reader.seedText.take (reader.position - reader.seedStart)
  let children :=
    match reader.nodes.reverse, seed with
    | first :: others, some role => first.withRole role :: others
    | children, _ => children
  { reader with nodes := [.mk (.phrase phrase) none reader.seedStart text children] }

def repeatWhile (step : Reader → Option Reader) : (fuel : Nat) → Reader → Reader
  | 0, reader => reader
  | fuel + 1, reader =>
      match step reader with
      | none => reader
      | some next =>
          if next.position = reader.position then reader else repeatWhile step fuel next

end Reader

namespace Rule

variable {σ : Type}

def readMark (spelling notBefore : String) (reader : Reader) : Option Reader :=
  match Text.after? spelling reader.rest with
  | none => none
  | some rest =>
      if rest.head?.any fun c => (Text.ofString notBefore).contains c then none
      else some (reader.take (.token spelling) (Text.ofString spelling) rest)

/-- Follows a rule. The fuel bounds how deep rules may nest. -/
def read (grammar : σ → Rule σ) : (fuel : Nat) → Rule σ → Reader → Option Reader
  | 0, _, _ => none
  | fuel + 1, rule, reader =>
      match rule with
      | nothing => some reader
      | mark spelling notBefore => readMark spelling notBefore reader.skip
      | tightMark spelling => readMark spelling "" reader
      | word spelling => reader.skip.lexeme (.token spelling) (Scan.word spelling)
      | leaf kind scan => reader.skip.lexeme (.phrase kind) scan
      | tightLeaf kind scan => reader.lexeme (.phrase kind) scan
      | both first second => (read grammar fuel first reader).bind (read grammar fuel second)
      | either first second =>
          match read grammar fuel first reader with
          | some next => some next
          | none => read grammar fuel second reader
      | maybe rule => some ((read grammar fuel rule reader).getD reader)
      | many rule => some (Reader.repeatWhile (read grammar fuel rule) fuel reader)
      | phrase kind rule =>
          let opened := reader.skip
          (read grammar fuel rule opened.enter).map (opened.close kind)
      | role part rule => (read grammar fuel rule reader).map (Reader.assign part)
      | symbol name => read grammar fuel (grammar name) reader
      | grow reading seed growth =>
          let opened := reader.skip
          let inner :=
            { opened.enter with seedStart := opened.position, seedText := opened.rest }
          (read grammar fuel seed inner).map fun seeded =>
            let step := fun (grown : Reader) =>
              if grown.statementsEnd && (grown.endLine reading).isSome then none
              else read grammar fuel growth grown
            let grown :=
              Reader.repeatWhile step fuel
                { seeded with seedStart := opened.position, seedText := opened.rest }
            { grown with
              nodes := grown.nodes ++ opened.nodes
              seedStart := reader.seedStart
              seedText := reader.seedText }
      | wrap kind seed rule => (read grammar fuel rule reader).map (Reader.gather kind seed)
      | peek rule => (read grammar fuel rule reader).map fun _ => reader
      | forbid rule =>
          match read grammar fuel rule reader with
          | some _ => none
          | none => some reader
      | lineEnd reading => reader.endLine reading
      | enclosed rule =>
          (read grammar fuel rule { reader with statementsEnd := false }).map fun next =>
            { next with statementsEnd := reader.statementsEnd }
      | statements rule =>
          (read grammar fuel rule { reader with statementsEnd := true, typedArrows := true }).map
            fun next =>
              { next with statementsEnd := reader.statementsEnd, typedArrows := reader.typedArrows }
      | untyped rule =>
          (read grammar fuel rule { reader with typedArrows := false }).map fun next =>
            { next with typedArrows := reader.typedArrows }
      | typed => if reader.typedArrows then some reader else none

end Rule

end ViewNaming
