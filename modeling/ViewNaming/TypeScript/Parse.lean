import ViewNaming.TypeScript.Statements

/-! Reading a whole script. What fits no statement is passed over one lexeme at
a time, so every text has a tree; the tree says whether that was needed. -/
namespace ViewNaming.TypeScript

structure Script where
  root : Node
  malformed : Bool

def depthBound (text : Text) : Nat := 200 * text.length + 1000

def follow (fuel : Nat) (rule : Grammar) : Reader → Option Reader := rule.read grammar fuel

def passOver (reader : Reader) : Option Reader :=
  reader.skip.lexeme (.phrase .error) Scan.any

/-- Reads one statement, or else passes over what fits none. The flag tells
whether anything was amiss. -/
def step (fuel : Nat) (reader : Reader) : Option (Reader × Bool) :=
  match follow fuel Symbol.statement reader with
  | some next => some (next, false)
  | none =>
      match follow fuel importUnended reader with
      | some next => some (next, true)
      | none => (passOver reader).map fun next => (next, true)

def readAll (fuel : Nat) : (bound : Text) → (malformed : Bool) → Reader → Reader × Bool
  | [], malformed, reader => (reader, malformed)
  | _ :: bound, malformed, reader =>
      match step fuel reader with
      | none => (reader, malformed)
      | some (next, amiss) => readAll fuel bound (malformed || amiss) next

def parse (text : Text) : Script :=
  let fuel := depthBound text
  let first := (Reader.ofText text).skipLayout
  let opened := ((first.lexeme (.phrase .hashBangLine) Scan.hashBang).getD first)
  let (last, malformed) := readAll fuel text false opened
  let children := last.skip.nodes.reverse
  ⟨.mk (.phrase .program) none first.position first.rest children, malformed⟩

/-- A way to parse scripts. What is done with the components rests on none in particular. -/
class Parser where
  parse : Text → Script

instance : Parser := ⟨parse⟩

end ViewNaming.TypeScript
