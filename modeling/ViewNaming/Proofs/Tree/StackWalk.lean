import ViewNaming.Proofs.Tree.Address

/-! The walk as a loop over a stack. The stack grows and shrinks at its end, so the children of
a node are put on it in reverse. Turn by turn the loop does what the walk does: what is listed,
followed by the walk of what is on the stack, never changes. The number of nodes in the trees on
the stack drops by one with each turn, while the stack itself may become longer; so the loop ends
after as many turns as there are nodes. -/
namespace ViewNaming.Node

theorem eq_nil_of_sizeAll {nodes : List Node} (empty : sizeAll nodes = 0) : nodes = [] := by
  cases nodes with
  | nil => rfl
  | cons node nodes =>
      rw [sizeAll, size_eq] at empty
      omega

/-- The loop between two turns: the trees on the stack, the next one last, and the nodes that have
been listed. -/
structure StackWalk where
  stack : List Node
  listed : List Node

namespace StackWalk

def below (node : Node) : StackWalk := ⟨node.children.reverse, []⟩

/-- Takes the last tree off the stack, lists its node and puts its children on the stack, the
first one last. No turn follows an empty stack. -/
def turn? (walk : StackWalk) : Option StackWalk :=
  walk.stack.getLast?.map fun node =>
    ⟨walk.stack.dropLast ++ node.children.reverse, walk.listed ++ [node]⟩

def after? : (turns : Nat) → StackWalk → Option StackWalk
  | 0, walk => some walk
  | turns + 1, walk => walk.turn?.bind (after? turns)

/-- The loop ends, and then these nodes have been listed. -/
def EndsWith (walk : StackWalk) (nodes : List Node) : Prop :=
  ∃ turns last, after? turns walk = some last ∧ last.turn? = none ∧ last.listed = nodes

def pending (walk : StackWalk) : List Node := walk.stack.reverse

theorem pending_below (node : Node) : (below node).pending = node.children :=
  List.reverse_reverse node.children

variable {walk next last : StackWalk} {turns : Nat}

theorem turn?_eq_none_iff : walk.turn? = none ↔ walk.pending = [] := by
  rw [turn?, Option.map_eq_none_iff, List.getLast?_eq_none_iff, pending, List.reverse_eq_nil_iff]

theorem exists_of_turn? (turned : walk.turn? = some next) :
    ∃ node rest, walk.pending = node :: rest ∧ next.pending = node.children ++ rest ∧
      next.listed = walk.listed ++ [node] := by
  obtain ⟨node, top, rfl⟩ := Option.map_eq_some_iff.1 turned
  obtain ⟨stack, whole⟩ := List.getLast?_eq_some_iff.1 top
  refine ⟨node, stack.reverse, ?_, ?_, rfl⟩
  · rw [pending, whole, List.reverse_concat]
  · rw [pending, whole, List.dropLast_concat, List.reverse_append, List.reverse_reverse]

/-- What a number of turns does to the loop. What is listed, followed by the walk of what is on
the stack, stays the same; the trees on the stack lose a node with each turn, and the list gains
one. -/
structure Advances (turns : Nat) (walk last : StackWalk) : Prop where
  kept : ∀ fuel, last.listed ++ Node.walk fuel last.pending =
    walk.listed ++ Node.walk (fuel + turns) walk.pending
  lost : sizeAll last.pending + turns = sizeAll walk.pending
  gained : last.listed.length = walk.listed.length + turns

theorem advances_of_turn? (turned : walk.turn? = some next) : Advances 1 walk next := by
  obtain ⟨node, rest, here, there, listed⟩ := exists_of_turn? turned
  refine ⟨fun fuel => ?_, ?_, ?_⟩
  · rw [here, there, listed, Node.walk, List.append_assoc, List.singleton_append]
  · rw [here, there, sizeAll, size_eq, sizeAll_append]
    omega
  · rw [listed, List.length_append, List.length_singleton]

theorem Advances.after {more : Nat} (rest : Advances more next last)
    (first : Advances turns walk next) : Advances (more + turns) walk last where
  kept fuel := by rw [rest.kept, first.kept, Nat.add_assoc]
  lost := by rw [← first.lost, ← rest.lost, Nat.add_assoc]
  gained := by rw [rest.gained, first.gained, Nat.add_assoc, Nat.add_comm turns]

theorem advances_of_after? (reached : after? turns walk = some last) :
    Advances turns walk last := by
  induction turns generalizing walk with
  | zero =>
      obtain rfl : walk = last := Option.some.inj reached
      exact ⟨fun _ => rfl, rfl, rfl⟩
  | succ turns ih =>
      obtain ⟨next, turned, reached⟩ := Option.bind_eq_some_iff.1 reached
      exact (ih reached).after (advances_of_turn? turned)

theorem listed_of_after? {node : Node} (reached : after? turns (below node) = some last) :
    last.listed = node.descendants.take turns := by
  have advances := advances_of_after? reached
  have kept := advances.kept (sizeAll last.pending)
  rw [advances.lost, pending_below, ← descendants] at kept
  have count : last.listed.length = turns := by
    rw [advances.gained, below, List.length_nil, Nat.zero_add]
  calc last.listed
      = (last.listed ++ Node.walk (sizeAll last.pending) last.pending).take turns := by
        rw [← count, List.take_left]
    _ = node.descendants.take turns := by
        rw [kept, below, List.nil_append]

theorem exists_after? (enough : turns ≤ sizeAll walk.pending) :
    ∃ last, after? turns walk = some last := by
  induction turns generalizing walk with
  | zero => exact ⟨walk, rfl⟩
  | succ turns ih =>
      cases turned : walk.turn? with
      | none =>
          rw [turn?_eq_none_iff.1 turned, sizeAll] at enough
          omega
      | some next =>
          -- The turn uses up one node, so enough are left for the other turns.
          have lost := (advances_of_turn? turned).lost
          have left : turns ≤ sizeAll next.pending := by omega
          obtain ⟨last, reached⟩ := ih left
          exact ⟨last, by rw [after?, turned, Option.bind_some, reached]⟩

theorem endsWith_iff {nodes : List Node} :
    walk.EndsWith nodes ↔ nodes = walk.listed ++ Node.walk (sizeAll walk.pending) walk.pending := by
  constructor
  · rintro ⟨turns, last, reached, ended, rfl⟩
    have advances := advances_of_after? reached
    have lost := advances.lost
    rw [turn?_eq_none_iff.1 ended, sizeAll, Nat.zero_add] at lost
    have kept := advances.kept 0
    rwa [Node.walk, List.append_nil, Nat.zero_add, lost] at kept
  · rintro rfl
    -- As many turns as there are nodes leave none, and a stack without nodes is empty.
    obtain ⟨last, reached⟩ := exists_after? (Nat.le_refl (sizeAll walk.pending))
    have advances := advances_of_after? reached
    have lost := advances.lost
    have emptied : last.pending = [] := eq_nil_of_sizeAll (by omega)
    have kept := advances.kept 0
    rw [Node.walk, List.append_nil, Nat.zero_add] at kept
    exact ⟨_, last, reached, turn?_eq_none_iff.2 emptied, kept⟩

end StackWalk

/-- The loop over the nodes below a node ends, and it lists, one with each turn, the tree without
its root: each node before its own children, the children from left to right, every spot of the
tree once. A search gives the first node in this order that the test accepts, such as the first one
of a kind, and nothing only if the test refuses every node below. -/
theorem descendants_in_preorder (node : Node) :
    (∀ nodes, (StackWalk.below node).EndsWith nodes ↔ nodes = node.descendants) ∧
    (∀ turns last, StackWalk.after? turns (StackWalk.below node) = some last →
      last.listed = node.descendants.take turns) ∧
    node.preorder = node :: node.descendants ∧
    (∃ spots, node.ByAddress spots node.descendants) ∧
    ∀ accepts,
      (∀ found, node.firstDescendant? accepts = some found ↔ FirstBelow accepts node found) ∧
      (node.firstDescendant? accepts = none ↔
        ∀ address inner, node.Below address inner → accepts inner = false) := by
  have byAddress : node.ByAddress (spotsFrom 0 node.children) node.descendants := by
    rw [descendants_eq_beneath]
    exact byAddress_beneath node
  refine ⟨fun nodes => ?_, fun turns last => StackWalk.listed_of_after?, ?_, ⟨_, byAddress⟩,
    fun accepts => ⟨fun found => ?_, ?_⟩⟩
  · rw [StackWalk.endsWith_iff, StackWalk.pending_below, ← descendants, StackWalk.below,
      List.nil_append]
  · rw [descendants_eq_beneath, preorder_eq, beneath]
  · exact byAddress.find?_eq_some_iff
  · exact byAddress.find?_eq_none_iff

end ViewNaming.Node
