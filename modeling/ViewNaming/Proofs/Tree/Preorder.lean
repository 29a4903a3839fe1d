import ViewNaming.Tree.Node

/-! The order of the nodes below a node. The walk keeps a stack of trees, and what it
still has to list is the order of that whole stack. Each node taken off makes the
stack smaller by one node, so as many steps as there are nodes are enough. -/
namespace ViewNaming.Node

mutual

def preorder : Node → List Node
  | mk kind role start text children =>
      mk kind role start text children :: preorderAll children

def preorderAll : List Node → List Node
  | [] => []
  | node :: others => preorder node ++ preorderAll others

end

theorem preorder_eq (node : Node) : node.preorder = node :: preorderAll node.children := by
  cases node
  rw [preorder, children]

theorem preorderAll_eq_flatMap (nodes : List Node) :
    preorderAll nodes = nodes.flatMap preorder := by
  induction nodes with
  | nil => rfl
  | cons node nodes ih => rw [preorderAll, List.flatMap_cons, ih]

theorem preorderAll_append (front back : List Node) :
    preorderAll (front ++ back) = preorderAll front ++ preorderAll back := by
  simp only [preorderAll_eq_flatMap, List.flatMap_append]

theorem size_eq (node : Node) : node.size = 1 + sizeAll node.children := by
  cases node
  rw [size, children]

theorem sizeAll_append (front back : List Node) :
    sizeAll (front ++ back) = sizeAll front + sizeAll back := by
  induction front with
  | nil => simp [sizeAll]
  | cons node front ih => simp [sizeAll, ih, Nat.add_assoc]

theorem size_le_sizeAll {node : Node} {nodes : List Node} (member : node ∈ nodes) :
    node.size ≤ sizeAll nodes := by
  induction nodes with
  | nil => cases member
  | cons first nodes ih =>
      rw [sizeAll]
      rcases List.mem_cons.1 member with rfl | later
      · omega
      · have := ih later
        omega

theorem walk_eq_preorderAll {fuel : Nat} {stack : List Node} (enough : sizeAll stack ≤ fuel) :
    walk fuel stack = preorderAll stack := by
  induction fuel generalizing stack with
  | zero =>
      cases stack with
      | nil => rfl
      | cons node stack =>
          rw [sizeAll, size_eq] at enough
          omega
  | succ fuel ih =>
      cases stack with
      | nil => rfl
      | cons node stack =>
          have fewer : sizeAll (node.children ++ stack) ≤ fuel := by
            rw [sizeAll, size_eq] at enough
            rw [sizeAll_append]
            omega
          rw [walk, ih fewer, preorderAll_append, preorderAll, preorder_eq, List.cons_append]

def beneath (node : Node) : List Node := preorderAll node.children

theorem descendants_eq_beneath (node : Node) : node.descendants = node.beneath :=
  walk_eq_preorderAll (Nat.le_refl _)

end ViewNaming.Node
