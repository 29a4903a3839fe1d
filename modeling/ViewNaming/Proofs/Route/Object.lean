import ViewNaming.Proofs.Tree.Preorder
import ViewNaming.Route.Extraction

/-! What an element of the route array says, apart from how it is read. A search is
stated as the first node of a list with a property, so that neither the order of
reading nor where it stops shows. `Describes` says which route an element stands for,
and `Faulty` what keeps it from being read. Nothing is decoded in more than one way, so
an element describes at most one route. -/
namespace ViewNaming.Route

/-- The first node of a list with a property. -/
def First (holds : Node → Prop) (nodes : List Node) (node : Node) : Prop :=
  ∃ before after, nodes = before ++ node :: after ∧ holds node ∧
    ∀ earlier ∈ before, ¬ holds earlier

theorem first_iff {accepts : Node → Bool} {holds : Node → Prop}
    (same : ∀ node, accepts node = true ↔ holds node) {nodes : List Node} {node : Node} :
    nodes.find? accepts = some node ↔ First holds nodes node := by
  rw [List.find?_eq_some_iff_append, First]
  constructor
  · rintro ⟨accepted, before, after, split, refused⟩
    refine ⟨before, after, split, (same node).1 accepted, ?_⟩
    intro earlier member held
    have refusal := refused earlier member
    rw [(same earlier).2 held] at refusal
    cases refusal
  · rintro ⟨before, after, split, held, refused⟩
    refine ⟨(same node).2 held, before, after, split, ?_⟩
    intro earlier member
    rw [Bool.not_eq_true', Bool.eq_false_iff]
    exact fun accepted => refused earlier member ((same earlier).1 accepted)

theorem first_cons_of_holds {holds : Node → Prop} {node found : Node} {nodes : List Node}
    (held : holds node) : First holds (node :: nodes) found ↔ found = node := by
  constructor
  · rintro ⟨before, after, split, -, refused⟩
    cases before with
    | nil => exact (List.cons.inj split).1.symm
    | cons head before =>
        obtain ⟨rfl, -⟩ := List.cons.inj split
        exact absurd held (refused node List.mem_cons_self)
  · rintro rfl
    exact ⟨[], nodes, rfl, held, by simp⟩

theorem first_cons_of_not {holds : Node → Prop} {node found : Node} {nodes : List Node}
    (lacks : ¬ holds node) : First holds (node :: nodes) found ↔ First holds nodes found := by
  constructor
  · rintro ⟨before, after, split, held, refused⟩
    cases before with
    | nil =>
        obtain ⟨rfl, -⟩ := List.cons.inj split
        exact absurd held lacks
    | cons head before =>
        obtain ⟨rfl, rest⟩ := List.cons.inj split
        exact ⟨before, after, rest, held, (List.forall_mem_cons.1 refused).2⟩
  · rintro ⟨before, after, rfl, held, refused⟩
    exact ⟨node :: before, after, rfl, held, List.forall_mem_cons.2 ⟨lacks, refused⟩⟩

theorem First.unique {holds : Node → Prop} {nodes : List Node} {node other : Node}
    (first : First holds nodes node) (second : First holds nodes other) : node = other := by
  induction nodes with
  | nil =>
      obtain ⟨before, after, split, -⟩ := first
      simp at split
  | cons head nodes ih =>
      by_cases held : holds head
      · rw [first_cons_of_holds held] at first second
        rw [first, second]
      · rw [first_cons_of_not held] at first second
        exact ih first second

/-- A pair with the given key, spelled as a name or as a quoted text. -/
inductive Keyed (key : Text) (pair : Node) : Prop
  | name {node : Node} : pair.is .pair = true → pair.child? .key = some node →
      node.is .propertyIdentifier = true → node.text = key → Keyed key pair
  | quoted {node : Node} : pair.is .pair = true → pair.child? .key = some node →
      node.is .string = true → Literal.value node = .ok key → Keyed key pair

def Property (key : Text) (children : List Node) (value : Node) : Prop :=
  ∃ pair, First (Keyed key) children pair ∧ pair.child? .value = some value

/-- A node of the given name: the node itself, or else the first one beneath it. A node is taken
by its name alone, so the keyword of the type `string` is taken where it comes before any quoted
text. -/
inductive Chosen (phrase : Phrase) (node : Node) : Node → Prop
  | self : node.namedLike phrase = true → Chosen phrase node node
  | beneath {found : Node} : node.namedLike phrase = false →
      First (fun inner => inner.namedLike phrase = true) node.beneath found →
      Chosen phrase node found

structure Parameterless (arrow : Node) : Prop where
  bare : arrow.child? .parameter = none
  listed : ∀ parameters, arrow.child? .parameters = some parameters →
    ∀ parameter ∈ parameters.children, parameter.isNamed = true → parameter.is .comment = true

structure ImportCall (call : Node) : Prop where
  isCall : call.is .callExpression = true
  callee : ∃ callee, call.child? .callee = some callee ∧ callee.text = Text.ofString "import"

def Significant (node : Node) : Prop := node.isNamed = true ∧ node.is .comment = false

/-- The quoted text that the arrow function of a component imports first. -/
def Imports (component argument : Node) : Prop :=
  ∃ arrow call arguments, Chosen .arrowFunction component arrow ∧ Parameterless arrow ∧
    First ImportCall arrow.beneath call ∧ call.child? .arguments = some arguments ∧
    First Significant arguments.children argument ∧ argument.is .string = true

def NameLiteral (object literal : Node) : Prop :=
  ∃ value, Property (Text.ofString "name") object.children value ∧ Chosen .string value literal

def PathLiteral (object argument : Node) : Prop :=
  ∃ component, Property (Text.ofString "component") object.children component ∧
    Imports component argument

structure Fields (object : Node) (name path : Text) : Prop where
  name : ∃ literal, NameLiteral object literal ∧ Literal.value literal = .ok name
  path : ∃ argument, PathLiteral object argument ∧ Literal.value argument = .ok path

/-- The element is an object with this name and a component at this place below the
views directory. -/
structure Describes (element : Node) (name path : Text) : Prop where
  isObject : element.is .object = true
  fields : Fields element name (viewsAlias ++ path)
  name_ne : name ≠ []
  path_ne : path ≠ []

def Unreadable (pair : Node) (error : Literal.Error) : Prop :=
  pair.is .pair = true ∧ ∃ node, pair.child? .key = some node ∧ node.is .string = true ∧
    Literal.value node = .error error

/-- A pair without a readable key stands where the given key is still looked for. -/
def Obstructed (key : Text) (children : List Node) (error : Literal.Error) : Prop :=
  ∃ before pair after, children = before ++ pair :: after ∧ Unreadable pair error ∧
    ∀ earlier ∈ before, ¬ Keyed key earlier

/-- A quoted text of an object that has to be read has no value: a key on the way to one
of the two pairs, the name, or what the component imports. -/
inductive Undecodable (object : Node) : Literal.Error → Prop
  | key {key : Text} {error : Literal.Error} :
      key = Text.ofString "name" ∨ key = Text.ofString "component" →
      Obstructed key object.children error → Undecodable object error
  | name {literal component : Node} {error : Literal.Error} : NameLiteral object literal →
      Property (Text.ofString "component") object.children component →
      Literal.value literal = .error error → Undecodable object error
  | path {literal argument : Node} {error : Literal.Error} : NameLiteral object literal →
      PathLiteral object argument → Literal.value argument = .error error →
      Undecodable object error

/-- What keeps an element from being read: an object cannot be decoded, or its place
still begins with the alias of the views directory once that is taken off. -/
inductive Faulty (element : Node) : ExtractionError → Prop
  | undecodable {error : Literal.Error} : element.is .object = true →
      Undecodable element error → Faulty element (.literal error)
  | aliased {name rest : Text} : Describes element name (viewsAlias ++ rest) →
      Faulty element (.invalid [⟨Text.ofString "relative_path", .aliased⟩])

theorem Property.unique {key : Text} {children : List Node} {value other : Node}
    (first : Property key children value) (second : Property key children other) :
    value = other := by
  obtain ⟨pair, found, there⟩ := first
  obtain ⟨pair', found', there'⟩ := second
  obtain rfl := found.unique found'
  exact Option.some.inj (there.symm.trans there')

theorem Chosen.unique {phrase : Phrase} {node found found' : Node}
    (first : Chosen phrase node found) (second : Chosen phrase node found') : found = found' := by
  cases first with
  | self named =>
      cases second with
      | self => rfl
      | beneath other => simp [named] at other
  | beneath other inner =>
      cases second with
      | self named => simp [named] at other
      | beneath _ inner' => exact inner.unique inner'

theorem Imports.unique {component argument other : Node} (first : Imports component argument)
    (second : Imports component other) : argument = other := by
  obtain ⟨arrow, call, arguments, chosen, -, called, there, head, -⟩ := first
  obtain ⟨arrow', call', arguments', chosen', -, called', there', head', -⟩ := second
  obtain rfl := chosen.unique chosen'
  obtain rfl := called.unique called'
  obtain rfl := Option.some.inj (there.symm.trans there')
  exact head.unique head'

theorem NameLiteral.unique {object literal other : Node} (first : NameLiteral object literal)
    (second : NameLiteral object other) : literal = other := by
  obtain ⟨value, found, chosen⟩ := first
  obtain ⟨value', found', chosen'⟩ := second
  obtain rfl := found.unique found'
  exact chosen.unique chosen'

theorem PathLiteral.unique {object argument other : Node} (first : PathLiteral object argument)
    (second : PathLiteral object other) : argument = other := by
  obtain ⟨component, found, imports⟩ := first
  obtain ⟨component', found', imports'⟩ := second
  obtain rfl := found.unique found'
  exact imports.unique imports'

theorem Fields.unique {object : Node} {name path name' path' : Text}
    (first : Fields object name path) (second : Fields object name' path') :
    name = name' ∧ path = path' := by
  obtain ⟨⟨literal, named, decoded⟩, argument, placed, reads⟩ := first
  obtain ⟨⟨literal', named', decoded'⟩, argument', placed', reads'⟩ := second
  obtain rfl := named.unique named'
  obtain rfl := placed.unique placed'
  exact ⟨Except.ok.inj (decoded.symm.trans decoded'), Except.ok.inj (reads.symm.trans reads')⟩

theorem Describes.unique {element : Node} {name path name' path' : Text}
    (first : Describes element name path) (second : Describes element name' path') :
    name = name' ∧ path = path' := by
  obtain ⟨same, samePath⟩ := first.fields.unique second.fields
  exact ⟨same, List.append_cancel_left samePath⟩

end ViewNaming.Route
