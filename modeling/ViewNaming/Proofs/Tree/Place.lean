import ViewNaming.Proofs.Tree.Preorder

/-! Trees at other places of a source. A phrase that is moved keeps its kind, its part, its
text and its children; only offsets change. Whatever is found in a tree without a look at
offsets is found at the same spot of the moved tree. -/
namespace ViewNaming.Node

mutual

/-- The tree with every offset changed. -/
def moved (place : Nat → Nat) : Node → Node
  | mk kind role start text children => mk kind role (place start) text (movedAll place children)

def movedAll (place : Nat → Nat) : List Node → List Node
  | [] => []
  | node :: others => moved place node :: movedAll place others

end

variable {place : Nat → Nat} {node : Node}

theorem movedAll_eq_map (place : Nat → Nat) (nodes : List Node) :
    movedAll place nodes = nodes.map (moved place) := by
  induction nodes with
  | nil => rfl
  | cons node nodes ih => rw [movedAll, ih, List.map_cons]

@[simp] theorem kind_moved : (node.moved place).kind = node.kind := by
  cases node
  rw [moved, kind, kind]

@[simp] theorem role_moved : (node.moved place).role = node.role := by
  cases node
  rw [moved, role, role]

@[simp] theorem text_moved : (node.moved place).text = node.text := by
  cases node
  rw [moved, text, text]

@[simp] theorem children_moved : (node.moved place).children = node.children.map (moved place) := by
  cases node
  rw [moved, children, children, movedAll_eq_map]

@[simp] theorem is_moved (phrase : Phrase) : (node.moved place).is phrase = node.is phrase := by
  rw [is, is, kind_moved]

@[simp] theorem isNamed_moved : (node.moved place).isNamed = node.isNamed := by
  rw [isNamed, isNamed, kind_moved]

theorem child?_moved (role : Role) :
    (node.moved place).child? role = (node.child? role).map (moved place) := by
  rw [child?, children_moved, List.find?_map, child?]
  simp only [Function.comp_def, role_moved]

theorem significantChildren_moved :
    (node.moved place).significantChildren = node.significantChildren.map (moved place) := by
  simp only [significantChildren, namedChildren, children_moved, List.filter_map,
    Function.comp_def, isNamed_moved, is_moved]

mutual

theorem preorder_moved : (node : Node) →
    (node.moved place).preorder = node.preorder.map (moved place)
  | mk kind role start text children => by
      rw [moved, preorder, preorderAll_movedAll children, preorder, List.map_cons, moved]

theorem preorderAll_movedAll : (nodes : List Node) →
    preorderAll (movedAll place nodes) = (preorderAll nodes).map (moved place)
  | [] => rfl
  | node :: others => by
      rw [movedAll, preorderAll, preorder_moved node, preorderAll_movedAll others, preorderAll,
        List.map_append]

end

mutual

theorem moved_id : (node : Node) → node.moved id = node
  | mk kind role start text children => by rw [moved, movedAll_id children, id]

theorem movedAll_id : (nodes : List Node) → movedAll id nodes = nodes
  | [] => rfl
  | node :: others => by rw [movedAll, moved_id node, movedAll_id others]

end

theorem findSome?_preorderAll {α : Type} (pick : Node → Option α) (nodes : List Node) :
    (preorderAll nodes).findSome? pick =
      nodes.findSome? fun node => node.preorder.findSome? pick := by
  induction nodes with
  | nil => rfl
  | cons node nodes ih =>
      rw [preorderAll, List.findSome?_append, ih, List.findSome?_cons]
      cases node.preorder.findSome? pick <;> rfl

end ViewNaming.Node
