import ViewNaming.Text.Basic
import ViewNaming.Tree.Kind

/-! Trees of scripts. Every node keeps the stretch of source that it covers, so
a tree can be read without its source. -/
namespace ViewNaming

inductive Node where
  | mk (kind : Kind) (role : Option Role) (start : Nat) (text : Text) (children : List Node)

namespace Node

def kind : Node → Kind
  | mk kind _ _ _ _ => kind

def role : Node → Option Role
  | mk _ role _ _ _ => role

def start : Node → Nat
  | mk _ _ start _ _ => start

def text : Node → Text
  | mk _ _ _ text _ => text

def children : Node → List Node
  | mk _ _ _ _ children => children

def stop (node : Node) : Nat := node.start + node.text.length

def withRole (role : Role) : Node → Node
  | mk kind _ start text children => mk kind (some role) start text children

def is (node : Node) (phrase : Phrase) : Bool := node.kind = .phrase phrase

theorem is_iff {node : Node} {phrase : Phrase} :
    node.is phrase = true ↔ node.kind = .phrase phrase := by
  simp [is]

/-- Whether the kind of the node has the name of the phrase. A token can have it too: the type
`string` consists of a token of this name. -/
def namedLike (node : Node) (phrase : Phrase) : Bool := node.kind.name = phrase.name

theorem namedLike_iff {node : Node} {phrase : Phrase} :
    node.namedLike phrase = true ↔ node.kind.name = phrase.name := by
  simp [namedLike]

theorem namedLike_of_is {node : Node} {phrase : Phrase} (isPhrase : node.is phrase = true) :
    node.namedLike phrase = true := by
  rw [namedLike_iff, is_iff.1 isPhrase, Kind.name]

def isNamed (node : Node) : Bool := node.kind.isNamed

def namedChildren (node : Node) : List Node := node.children.filter isNamed

def significantChildren (node : Node) : List Node :=
  node.namedChildren.filter fun child => !child.is .comment

def child? (node : Node) (role : Role) : Option Node :=
  node.children.find? fun child => child.role = some role

mutual

def size : Node → Nat
  | mk _ _ _ _ children => 1 + sizeAll children

def sizeAll : List Node → Nat
  | [] => 0
  | node :: others => node.size + sizeAll others

end

/-- Takes nodes off a stack and puts the children of each in its place. -/
def walk : (fuel : Nat) → (stack : List Node) → List Node
  | 0, _ => []
  | _, [] => []
  | fuel + 1, node :: stack => node :: walk fuel (node.children ++ stack)

def descendants (node : Node) : List Node := walk (sizeAll node.children) node.children

def firstDescendant? (node : Node) (accepts : Node → Bool) : Option Node :=
  node.descendants.find? accepts

end Node

end ViewNaming
