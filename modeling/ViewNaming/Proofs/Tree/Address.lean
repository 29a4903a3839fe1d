import ViewNaming.Proofs.Tree.Preorder

/-! Addresses in a tree. A tree may hold the same node several times, so a spot in it is
named by an address, the number of the child to take at each level. Addresses are compared
like words: a node comes before the nodes below it, and a child with all that is below it
before the next child. The order of a tree is the order of its addresses. -/
namespace ViewNaming.Node

/-- The node at an address, if there is one. -/
def at? : (node : Node) → (address : List Nat) → Option Node
  | node, [] => some node
  | node, index :: address => node.children[index]?.bind fun child => child.at? address

structure Below (node : Node) (address : List Nat) (inner : Node) : Prop where
  deeper : address ≠ []
  leads : node.at? address = some inner

/-- The given nodes are those at the spots below a node, each spot once, by address. -/
structure ByAddress (node : Node) (spots : List (List Nat × Node)) (nodes : List Node) : Prop where
  ascending : spots.Pairwise fun spot later => spot.1 < later.1
  complete : ∀ address inner, (address, inner) ∈ spots ↔ node.Below address inner
  listed : spots.map Prod.snd = nodes

/-- An accepted node at a spot below the given one, with no accepted node at an earlier spot. -/
def FirstBelow (accepts : Node → Bool) (node found : Node) : Prop :=
  ∃ address, node.Below address found ∧ accepts found = true ∧
    ∀ earlier inner, node.Below earlier inner → earlier < address → accepts inner = false

mutual

def spots : Node → List (List Nat × Node)
  | mk kind role start text children =>
      ([], mk kind role start text children) :: spotsFrom 0 children

def spotsFrom : (first : Nat) → List Node → List (List Nat × Node)
  | _, [] => []
  | first, node :: others =>
      node.spots.map (fun spot => (first :: spot.1, spot.2)) ++ spotsFrom (first + 1) others

end

theorem spots_eq (node : Node) : node.spots = ([], node) :: spotsFrom 0 node.children := by
  cases node
  rw [spots, children]

mutual

theorem map_snd_spots : (node : Node) → node.spots.map Prod.snd = node.preorder
  | mk kind role start text children => by
      rw [spots, List.map_cons, map_snd_spotsFrom 0 children, preorder]

theorem map_snd_spotsFrom (first : Nat) : (nodes : List Node) →
    (spotsFrom first nodes).map Prod.snd = preorderAll nodes
  | [] => rfl
  | node :: others => by
      rw [spotsFrom, List.map_append, List.map_map, map_snd_spotsFrom (first + 1) others,
        preorderAll, ← map_snd_spots node]
      rfl

end

theorem mem_spotsFrom {first : Nat} {nodes : List Node} {spot : List Nat × Node} :
    spot ∈ spotsFrom first nodes ↔ ∃ index node rest, nodes[index]? = some node ∧
      (rest, spot.2) ∈ node.spots ∧ spot.1 = (first + index) :: rest := by
  induction nodes generalizing first with
  | nil => simp [spotsFrom]
  | cons node nodes ih =>
      rw [spotsFrom, List.mem_append, List.mem_map, ih]
      constructor
      · rintro (⟨⟨rest, inner⟩, member, rfl⟩ | ⟨index, other, rest, found, member, same⟩)
        · exact ⟨0, node, rest, rfl, member, rfl⟩
        · exact ⟨index + 1, other, rest, found, member, by rw [same, Nat.add_assoc, Nat.add_comm 1]⟩
      · rintro ⟨_ | index, other, rest, found, member, same⟩
        · obtain rfl : node = other := Option.some.inj found
          exact .inl ⟨(rest, spot.2), member, Prod.ext same.symm rfl⟩
        · exact .inr ⟨index, other, rest, found, member,
            by rw [same, Nat.add_assoc, Nat.add_comm 1]⟩

theorem mem_spots {node inner : Node} {address : List Nat} :
    (address, inner) ∈ node.spots ↔ node.at? address = some inner := by
  induction address generalizing node with
  | nil =>
      rw [spots_eq, List.mem_cons, mem_spotsFrom, at?]
      constructor
      · rintro (same | ⟨_, _, _, _, _, empty⟩)
        · exact congrArg some (Prod.mk.inj same).2.symm
        · cases empty
      · rintro ⟨rfl⟩
        exact .inl rfl
  | cons index address ih =>
      rw [spots_eq, List.mem_cons, mem_spotsFrom, at?, Option.bind_eq_some_iff]
      constructor
      · rintro (same | ⟨number, child, rest, found, member, same⟩)
        · cases same
        · rw [Nat.zero_add] at same
          obtain ⟨rfl, rfl⟩ := List.cons.inj same
          exact ⟨child, found, ih.1 member⟩
      · rintro ⟨child, found, leads⟩
        exact .inr ⟨index, child, address, found, ih.2 leads, by rw [Nat.zero_add]⟩

theorem mem_spotsFrom_children {node inner : Node} {address : List Nat} :
    (address, inner) ∈ spotsFrom 0 node.children ↔ node.Below address inner := by
  constructor
  · intro member
    obtain ⟨_, _, _, _, _, rfl⟩ := mem_spotsFrom.1 member
    refine ⟨List.cons_ne_nil _ _, mem_spots.1 ?_⟩
    rw [spots_eq]
    exact List.mem_cons_of_mem _ member
  · rintro ⟨deeper, leads⟩
    have member := mem_spots.2 leads
    rw [spots_eq, List.mem_cons] at member
    exact member.resolve_left fun same => deeper (Prod.mk.inj same).1

mutual

theorem pairwise_spots : (node : Node) →
    node.spots.Pairwise fun spot later => spot.1 < later.1
  | mk kind role start text children => by
      rw [spots, List.pairwise_cons]
      refine ⟨fun spot member => ?_, pairwise_spotsFrom 0 children⟩
      obtain ⟨_, _, _, _, _, same⟩ := mem_spotsFrom.1 member
      rw [same]
      exact List.nil_lt_cons _ _

theorem pairwise_spotsFrom (first : Nat) : (nodes : List Node) →
    (spotsFrom first nodes).Pairwise fun spot later => spot.1 < later.1
  | [] => List.Pairwise.nil
  | node :: others => by
      rw [spotsFrom, List.pairwise_append, List.pairwise_map]
      refine ⟨(pairwise_spots node).imp fun less => ?_, pairwise_spotsFrom (first + 1) others, ?_⟩
      · exact List.cons_lt_cons_iff.2 (.inr ⟨rfl, less⟩)
      · intro spot member later laterMember
        obtain ⟨inner, -, rfl⟩ := List.mem_map.1 member
        obtain ⟨index, _, _, _, _, same⟩ := mem_spotsFrom.1 laterMember
        rw [same]
        exact List.cons_lt_cons_iff.2 (.inl (by omega))

end

theorem byAddress_beneath (node : Node) :
    node.ByAddress (spotsFrom 0 node.children) node.beneath where
  ascending := pairwise_spotsFrom 0 node.children
  complete _ _ := mem_spotsFrom_children
  listed := map_snd_spotsFrom 0 node.children

section

variable {node : Node} {spots : List (List Nat × Node)} {nodes : List Node}
  {accepts : Node → Bool}

theorem ByAddress.mem_iff (byAddress : node.ByAddress spots nodes) {inner : Node} :
    inner ∈ nodes ↔ ∃ address, node.Below address inner := by
  rw [← byAddress.listed, List.mem_map]
  constructor
  · rintro ⟨⟨address, inner⟩, member, rfl⟩
    exact ⟨address, (byAddress.complete address inner).1 member⟩
  · rintro ⟨address, below⟩
    exact ⟨(address, inner), (byAddress.complete address inner).2 below, rfl⟩

theorem ByAddress.find?_eq_none_iff (byAddress : node.ByAddress spots nodes) :
    nodes.find? accepts = none ↔
      ∀ address inner, node.Below address inner → accepts inner = false := by
  simp only [List.find?_eq_none, byAddress.mem_iff, Bool.not_eq_true]
  exact ⟨fun refused address inner below => refused inner ⟨address, below⟩,
    fun refused inner ⟨address, below⟩ => refused address inner below⟩

theorem find?_map_snd_eq_some_iff {found : Node}
    (ascending : spots.Pairwise fun spot later => spot.1 < later.1) :
    (spots.map Prod.snd).find? accepts = some found ↔
      ∃ address, (address, found) ∈ spots ∧ accepts found = true ∧
        ∀ earlier inner, (earlier, inner) ∈ spots → earlier < address → accepts inner = false := by
  rw [List.find?_map, Option.map_eq_some_iff]
  constructor
  · rintro ⟨⟨address, found⟩, first, rfl⟩
    obtain ⟨accepted, before, after, rfl, refused⟩ := List.find?_eq_some_iff_append.1 first
    obtain ⟨-, behind, -⟩ := List.pairwise_append.1 ascending
    refine ⟨address, List.mem_append_right _ List.mem_cons_self, accepted, ?_⟩
    intro earlier inner member less
    rcases List.mem_append.1 member with front | back
    · simpa using refused _ front
    rcases List.mem_cons.1 back with same | back
    · cases same
      exact absurd less (List.lt_irrefl address)
    · exact absurd less (List.lt_asymm ((List.pairwise_cons.1 behind).1 _ back))
  · rintro ⟨address, member, accepted, refused⟩
    obtain ⟨before, after, rfl⟩ := List.append_of_mem member
    obtain ⟨-, -, across⟩ := List.pairwise_append.1 ascending
    refine ⟨(address, found), List.find?_eq_some_iff_append.2
      ⟨accepted, before, after, rfl, fun spot front => ?_⟩, rfl⟩
    have refusal := refused spot.1 spot.2 (List.mem_append_left _ front)
      (across spot front _ List.mem_cons_self)
    rw [Function.comp_apply, refusal, Bool.not_false]

theorem ByAddress.find?_eq_some_iff (byAddress : node.ByAddress spots nodes) {found : Node} :
    nodes.find? accepts = some found ↔ FirstBelow accepts node found := by
  rw [← byAddress.listed, find?_map_snd_eq_some_iff byAddress.ascending, FirstBelow]
  simp only [byAddress.complete]

end

end ViewNaming.Node
