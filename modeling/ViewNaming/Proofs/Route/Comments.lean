import ViewNaming.Proofs.Route.Reading
import ViewNaming.Proofs.Text.Search
import ViewNaming.TypeScript.Parse

/-! Comments in a route file. A comment is a child like any other, so a tree with comments
in it has more children, and a node that covers a comment has another text. Neither is
seen by the extraction: it finds children by their part or by their kind, and reads the
text only of nodes that hold no comment. The two trees are followed side by side, from
lists of children up to the whole extraction. -/
namespace ViewNaming.Route

/-- A comment: a leaf that plays no part in its parent. -/
structure IsComment (node : Node) : Prop where
  isComment : node.is .comment = true
  role : node.role = none
  children : node.children = []

/-- The second list is the first one with comments put in, and with related nodes. -/
inductive Interspersed (related : Node → Node → Prop) : List Node → List Node → Prop
  | nil : Interspersed related [] []
  | keep {node node' : Node} {nodes nodes' : List Node} : related node node' →
      Interspersed related nodes nodes' → Interspersed related (node :: nodes) (node' :: nodes')
  | insert {comment : Node} {nodes nodes' : List Node} : IsComment comment →
      Interspersed related nodes nodes' → Interspersed related nodes (comment :: nodes')

/-- Names, parts of quoted texts and the `import` of a call. No comment fits into them. -/
def isSpelling (node : Node) : Bool :=
  node.is .identifier || node.is .propertyIdentifier || node.is .stringFragment ||
    node.is .escapeSequence || (node.role = some .callee && node.text = Text.ofString "import")

def HoldsComment (text : Text) : Prop :=
  Text.ofString "//" <:+: text ∨ Text.ofString "/*" <:+: text

/-- The second tree is the first one with comments put in anywhere. Offsets may move, and
a node that is no mere spelling may have come to cover a comment. -/
inductive Commented : Node → Node → Prop
  | intro {node node' : Node} : node'.kind = node.kind → node'.role = node.role →
      node'.text = node.text ∨ isSpelling node = false ∧ HoldsComment node'.text →
      Interspersed Commented node.children node'.children → Commented node node'

namespace Commented

variable {node node' : Node}

theorem kind (commented : Commented node node') : node'.kind = node.kind := by
  cases commented with
  | intro kind => exact kind

theorem role (commented : Commented node node') : node'.role = node.role := by
  cases commented with
  | intro _ role => exact role

theorem children (commented : Commented node node') :
    Interspersed Commented node.children node'.children := by
  cases commented with
  | intro _ _ _ children => exact children

theorem is (commented : Commented node node') (phrase : Phrase) :
    node'.is phrase = node.is phrase := by
  rw [Node.is, Node.is, commented.kind]

theorem namedLike (commented : Commented node node') (phrase : Phrase) :
    node'.namedLike phrase = node.namedLike phrase := by
  rw [Node.namedLike, Node.namedLike, commented.kind]

theorem isNamed (commented : Commented node node') : node'.isNamed = node.isNamed := by
  rw [Node.isNamed, Node.isNamed, commented.kind]

theorem text (commented : Commented node node') (spelling : isSpelling node = true) :
    node'.text = node.text := by
  cases commented with
  | intro _ _ text =>
      rcases text with same | ⟨other, -⟩
      · exact same
      · rw [spelling] at other
        cases other

end Commented

namespace IsComment

variable {comment : Node}

theorem is_other (isComment : IsComment comment) {phrase : Phrase} (apart : .comment ≠ phrase) :
    comment.is phrase = false := not_is_of_is isComment.isComment apart

theorem namedLike_other (isComment : IsComment comment) {phrase : Phrase}
    (apart : Phrase.comment.name ≠ phrase.name) : comment.namedLike phrase = false := by
  rw [Bool.eq_false_iff, Ne, Node.namedLike_iff, Node.is_iff.1 isComment.isComment, Kind.name]
  exact apart

end IsComment

section Rel

variable {related : Node → Node → Prop} {found found' : Option Node}

theorem rel_cases (same : Option.Rel related found found') :
    (found = none ∧ found' = none) ∨
      ∃ node node', found = some node ∧ found' = some node' ∧ related node node' := by
  cases same with
  | none => exact Or.inl ⟨rfl, rfl⟩
  | some here => exact Or.inr ⟨_, _, rfl, rfl, here⟩

theorem isSome_of_rel (same : Option.Rel related found found') :
    found'.isSome = found.isSome := by
  rcases rel_cases same with ⟨rfl, rfl⟩ | ⟨_, _, rfl, rfl, _⟩
  · rfl
  · rfl

theorem rel_bind {next : Node → Option Node} (same : Option.Rel related found found')
    (each : ∀ node node', related node node' → Option.Rel related (next node) (next node')) :
    Option.Rel related (found.bind next) (found'.bind next) := by
  cases same with
  | none => exact Option.Rel.none
  | some here => exact each _ _ here

theorem rel_filter {accepts : Node → Bool} (same : Option.Rel related found found')
    (each : ∀ node node', related node node' → accepts node' = accepts node) :
    Option.Rel related (found.filter accepts) (found'.filter accepts) := by
  cases same with
  | none => exact Option.Rel.none
  | some here =>
      rw [Option.filter_some, Option.filter_some, each _ _ here]
      split
      · exact Option.Rel.some here
      · exact Option.Rel.none

end Rel

namespace Interspersed

variable {related : Node → Node → Prop} {nodes nodes' : List Node}

theorem append {more more' : List Node} (front : Interspersed related nodes nodes')
    (back : Interspersed related more more') :
    Interspersed related (nodes ++ more) (nodes' ++ more') := by
  induction front with
  | nil => exact back
  | keep here _ ih => exact keep here ih
  | insert isComment _ ih => exact insert isComment ih

theorem flatMap {lists : Node → List Node} (spread : Interspersed related nodes nodes')
    (each : ∀ node ∈ nodes, ∀ node', related node node' →
      Interspersed related (lists node) (lists node'))
    (silent : ∀ comment, IsComment comment → Interspersed related [] (lists comment)) :
    Interspersed related (nodes.flatMap lists) (nodes'.flatMap lists) := by
  induction spread with
  | nil => exact nil
  | keep here _ ih =>
      obtain ⟨first, later⟩ := List.forall_mem_cons.1 each
      rw [List.flatMap_cons, List.flatMap_cons]
      exact (first _ here).append (ih later)
  | insert isComment _ ih =>
      rw [List.flatMap_cons]
      exact (silent _ isComment).append (ih each)

theorem findSome? {picks : Node → Option Node} (spread : Interspersed related nodes nodes')
    (each : ∀ node node', related node node' →
      Option.Rel related (picks node) (picks node'))
    (silent : ∀ comment, IsComment comment → picks comment = none) :
    Option.Rel related (nodes.findSome? picks) (nodes'.findSome? picks) := by
  induction spread with
  | nil => exact Option.Rel.none
  | @keep node node' _ _ here _ ih =>
      rw [List.findSome?_cons, List.findSome?_cons]
      rcases rel_cases (each _ _ here) with ⟨none, none'⟩ | ⟨_, _, some, some', same⟩
      · rw [none, none']
        exact ih
      · rw [some, some']
        exact Option.Rel.some same
  | insert isComment _ ih =>
      rw [List.findSome?_cons, silent _ isComment]
      exact ih

theorem filterMap {picks : Node → Option Node} (spread : Interspersed related nodes nodes')
    (each : ∀ node node', related node node' →
      Option.Rel related (picks node) (picks node'))
    (silent : ∀ comment, IsComment comment → picks comment = none) :
    Interspersed related (nodes.filterMap picks) (nodes'.filterMap picks) := by
  induction spread with
  | nil => exact nil
  | keep here _ ih =>
      rw [List.filterMap_cons, List.filterMap_cons]
      rcases rel_cases (each _ _ here) with ⟨none, none'⟩ | ⟨_, _, some, some', same⟩
      · rw [none, none']
        exact ih
      · rw [some, some']
        exact keep same ih
  | insert isComment _ ih =>
      rw [List.filterMap_cons, silent _ isComment]
      exact ih

theorem find? {accepts : Node → Bool} (spread : Interspersed related nodes nodes')
    (each : ∀ node node', related node node' → accepts node' = accepts node)
    (silent : ∀ comment, IsComment comment → accepts comment = false) :
    Option.Rel related (nodes.find? accepts) (nodes'.find? accepts) := by
  rw [List.find?_eq_findSome?_guard, List.find?_eq_findSome?_guard]
  apply spread.findSome?
  · intro node node' here
    rw [Option.guard, Option.guard, each node node' here]
    split
    · exact Option.Rel.some here
    · exact Option.Rel.none
  · intro comment isComment
    rw [Option.guard, silent comment isComment]
    rfl

theorem filter {accepts : Node → Bool} (spread : Interspersed related nodes nodes')
    (each : ∀ node node', related node node' → accepts node' = accepts node) :
    Interspersed related (nodes.filter accepts) (nodes'.filter accepts) := by
  induction spread with
  | nil => exact nil
  | keep here _ ih =>
      rw [List.filter_cons, List.filter_cons, each _ _ here]
      split
      · exact keep here ih
      · exact ih
  | insert isComment _ ih =>
      rw [List.filter_cons]
      split
      · exact insert isComment ih
      · exact ih

theorem any {accepts : Node → Bool} (spread : Interspersed related nodes nodes')
    (each : ∀ node node', related node node' → accepts node' = accepts node)
    (silent : ∀ comment, IsComment comment → accepts comment = false) :
    nodes'.any accepts = nodes.any accepts := by
  rw [← List.isSome_find?, ← List.isSome_find?]
  exact isSome_of_rel (spread.find? each silent)

end Interspersed

theorem interspersed_preorderAll {nodes nodes' : List Node}
    (spread : Interspersed Commented nodes nodes')
    (each : ∀ node ∈ nodes, ∀ node', Commented node node' →
      Interspersed Commented node.preorder node'.preorder) :
    Interspersed Commented (Node.preorderAll nodes) (Node.preorderAll nodes') := by
  rw [Node.preorderAll_eq_flatMap, Node.preorderAll_eq_flatMap]
  refine spread.flatMap each fun comment isComment => ?_
  rw [Node.preorder_eq, isComment.children]
  exact Interspersed.insert isComment Interspersed.nil

theorem Commented.preorder {node node' : Node} (commented : Commented node node') :
    Interspersed Commented node.preorder node'.preorder := by
  rw [Node.preorder_eq, Node.preorder_eq]
  refine Interspersed.keep commented (interspersed_preorderAll commented.children ?_)
  intro child member child' here
  exact here.preorder
termination_by node.size
decreasing_by
  have smaller := Node.size_le_sizeAll member
  rw [Node.size_eq node]
  omega

namespace Commented

variable {node node' : Node}

theorem descendants (commented : Commented node node') :
    Interspersed Commented node.descendants node'.descendants := by
  rw [Node.descendants_eq_beneath, Node.descendants_eq_beneath]
  exact interspersed_preorderAll commented.children fun _ _ _ here => here.preorder

theorem namedChildren (commented : Commented node node') :
    Interspersed Commented node.namedChildren node'.namedChildren :=
  commented.children.filter fun _ _ here => here.isNamed

theorem child? (commented : Commented node node') (role : Role) :
    Option.Rel Commented (node.child? role) (node'.child? role) := by
  apply commented.children.find?
  · intro child child' here
    rw [here.role]
  · intro comment isComment
    rw [isComment.role]
    rfl

theorem hasToken (commented : Commented node node') (spelling : String) :
    hasToken node' spelling = hasToken node spelling := by
  apply commented.children.any
  · intro child child' here
    rw [here.kind]
  · intro comment isComment
    rw [Node.is_iff.1 isComment.isComment]
    rfl

theorem head?_significantChildren (commented : Commented node node') :
    Option.Rel Commented node.significantChildren.head? node'.significantChildren.head? := by
  rw [Node.significantChildren, Node.significantChildren, List.head?_filter, List.head?_filter]
  apply commented.namedChildren.find?
  · intro child child' here
    rw [here.is]
  · intro comment isComment
    rw [isComment.isComment]
    rfl

theorem selfOrFirst? (commented : Commented node node') (phrase : Phrase)
    (apart : Phrase.comment.name ≠ phrase.name) :
    Option.Rel Commented (selfOrFirst? node phrase) (selfOrFirst? node' phrase) := by
  rw [Route.selfOrFirst?, Route.selfOrFirst?, commented.namedLike]
  split
  · exact Option.Rel.some commented
  · exact commented.descendants.find? (fun _ _ here => here.namedLike phrase)
      fun _ isComment => isComment.namedLike_other apart

end Commented

theorem decodePart_of_commented {part part' : Node} (commented : Commented part part') :
    Literal.decodePart part' = Literal.decodePart part := by
  rw [Literal.decodePart, Literal.decodePart, commented.is, commented.is]
  split
  · rename_i isFragment
    rw [commented.text (by simp [isSpelling, isFragment])]
  · split
    · rename_i isEscape
      rw [commented.text (by simp [isSpelling, isEscape])]
    · rfl

theorem decodeParts_of_interspersed {parts parts' : List Node}
    (spread : Interspersed Commented parts parts') :
    Literal.decodeParts parts' = Literal.decodeParts parts := by
  induction spread with
  | nil => rfl
  | keep here _ ih =>
      rw [Literal.decodeParts, Literal.decodeParts, decodePart_of_commented here, ih]
  | @insert comment nodes nodes' isComment _ ih =>
      have nothing : Literal.decodePart comment = .ok [] := by
        rw [Literal.decodePart, isComment.is_other (by decide), isComment.is_other (by decide)]
        rfl
      rw [Literal.decodeParts, nothing, ih]
      cases Literal.decodeParts nodes <;> rfl

theorem value_of_commented {node node' : Node} (commented : Commented node node') :
    Literal.value node' = Literal.value node := by
  rw [Literal.value, Literal.value, commented.namedLike, commented.kind,
    decodeParts_of_interspersed commented.namedChildren]

theorem exportedExpression?_of_commented {node node' : Node} (commented : Commented node node') :
    Option.Rel Commented (exportedExpression? node) (exportedExpression? node') := by
  rw [exportedExpression?, exportedExpression?, commented.is, commented.hasToken,
    commented.hasToken]
  split
  · exact Option.Rel.none
  · split
    · exact commented.child? .value
    · split
      · exact commented.head?_significantChildren
      · exact Option.Rel.none

theorem defaultExport?_of_commented {root root' : Node} (commented : Commented root root') :
    Option.Rel Commented (defaultExport? root) (defaultExport? root') := by
  apply commented.descendants.findSome?
  · intro node node' here
    exact exportedExpression?_of_commented here
  · intro comment isComment
    rw [exportedExpression?, isComment.is_other (by decide)]
    rfl

theorem asArray?_of_commented {expression expression' : Node}
    (commented : Commented expression expression') :
    Option.Rel Commented (asArray? expression) (asArray? expression') := by
  rw [asArray?, asArray?, commented.is, commented.is]
  split
  · exact Option.Rel.some commented
  · split
    · exact rel_filter commented.head?_significantChildren fun _ _ here => here.is .array
    · exact Option.Rel.none

theorem moduleDeclaration?_of_commented {statement statement' : Node}
    (commented : Commented statement statement') :
    Option.Rel Commented (moduleDeclaration? statement) (moduleDeclaration? statement') := by
  have declared : Option.Rel Commented
      (if statement.is .exportStatement then statement.child? .declaration else some statement)
      (if statement'.is .exportStatement then statement'.child? .declaration
        else some statement') := by
    rw [commented.is]
    split
    · exact commented.child? .declaration
    · exact Option.Rel.some commented
  apply rel_filter declared
  intro declaration declaration' here
  rw [here.is, here.is]

theorem moduleDeclaration?_comment {comment : Node} (isComment : IsComment comment) :
    moduleDeclaration? comment = none := by
  simp [moduleDeclaration?, isComment.is_other]

theorem moduleDeclarators_of_commented {root root' : Node} (commented : Commented root root') :
    Interspersed Commented (moduleDeclarators root) (moduleDeclarators root') := by
  have declarations := commented.namedChildren.filterMap
    (fun _ _ here => moduleDeclaration?_of_commented here)
    fun _ isComment => moduleDeclaration?_comment isComment
  apply declarations.flatMap
  · intro declaration _ declaration' here
    exact here.namedChildren.filter fun _ _ inner => inner.is .variableDeclarator
  · intro comment isComment
    rw [Node.namedChildren, isComment.children]
    exact Interspersed.nil

theorem binds_of_commented {declarator declarator' : Node}
    (commented : Commented declarator declarator') (identifier : Text) :
    binds identifier declarator' = binds identifier declarator := by
  rw [binds, binds]
  rcases rel_cases (commented.child? .name) with ⟨none, none'⟩ | ⟨name, name', some, some', here⟩
  · rw [none, none']
  · rw [some, some', Option.any_some, Option.any_some, here.is]
    by_cases isName : name.is .identifier = true
    · rw [here.text (by simp [isSpelling, isName])]
    · simp [isName]

theorem binds_comment {comment : Node} (isComment : IsComment comment) (identifier : Text) :
    binds identifier comment = false := by
  rw [binds, Node.child?, isComment.children]
  rfl

theorem initialValue?_of_commented {root root' : Node} (commented : Commented root root')
    (identifier : Text) :
    Option.Rel Commented (initialValue? root identifier) (initialValue? root' identifier) := by
  have declarator := (moduleDeclarators_of_commented commented).find?
    (fun _ _ here => binds_of_commented here identifier)
    fun _ isComment => binds_comment isComment identifier
  exact rel_bind declarator fun _ _ here => here.child? .value

theorem arrayOf?_of_commented {root root' expression expression' : Node}
    (whole : Commented root root') (commented : Commented expression expression') :
    Option.Rel Commented (arrayOf? root expression) (arrayOf? root' expression') := by
  rw [arrayOf?, arrayOf?]
  rcases rel_cases (asArray?_of_commented commented) with
    ⟨none, none'⟩ | ⟨array, array', some, some', here⟩
  · rw [none, none', commented.is]
    by_cases isName : expression.is .identifier = true
    · simp only [isName, if_true, commented.text (by simp [isSpelling, isName])]
      exact rel_bind (initialValue?_of_commented whole expression.text)
        fun _ _ here => asArray?_of_commented here
    · simp only [isName, Bool.false_eq_true, if_false]
      exact Option.Rel.none
  · rw [some, some']
    exact Option.Rel.some here

theorem routeArray_of_commented {root root' : Node} (commented : Commented root root') :
    (∃ error, routeArray root = .error error ∧ routeArray root' = .error error) ∨
      ∃ array array', routeArray root = .ok array ∧ routeArray root' = .ok array' ∧
        Commented array array' := by
  rw [routeArray, routeArray]
  rcases rel_cases (defaultExport?_of_commented commented) with
    ⟨none, none'⟩ | ⟨expression, expression', some, some', here⟩
  · exact Or.inl ⟨.noDefaultExport, by rw [none], by rw [none']⟩
  · rw [some, some']
    rcases rel_cases (arrayOf?_of_commented commented here) with
      ⟨none, none'⟩ | ⟨array, array', found, found', inner⟩
    · exact Or.inl ⟨.noRouteArray, by simp only [none], by simp only [none']⟩
    · exact Or.inr ⟨array, array', by simp only [found], by simp only [found'], inner⟩

theorem key?_of_commented {pair pair' : Node} (commented : Commented pair pair') :
    key? pair' = key? pair := by
  rw [key?, key?]
  rcases rel_cases (commented.child? .key) with ⟨none, none'⟩ | ⟨key, key', some, some', here⟩
  · rw [none, none']
  · rw [some, some']
    simp only [here.is, value_of_commented here]
    by_cases isName : key.is .propertyIdentifier = true
    · rw [here.text (by simp [isSpelling, isName])]
    · simp [isName]

inductive Alike : Except Literal.Error (Option Node) → Except Literal.Error (Option Node) → Prop
  | error (error : Literal.Error) : Alike (.error error) (.error error)
  | ok {found found' : Option Node} : Option.Rel Commented found found' →
      Alike (.ok found) (.ok found')

theorem Alike.cases {result result' : Except Literal.Error (Option Node)}
    (alike : Alike result result') :
    (∃ error, result = .error error ∧ result' = .error error) ∨
      ∃ found found', result = .ok found ∧ result' = .ok found' ∧
        Option.Rel Commented found found' := by
  cases alike with
  | error error => exact Or.inl ⟨error, rfl, rfl⟩
  | ok same => exact Or.inr ⟨_, _, rfl, rfl, same⟩

theorem propertyAmong?_of_interspersed {children children' : List Node} (key : Text)
    (spread : Interspersed Commented children children') :
    Alike (propertyAmong? key children) (propertyAmong? key children') := by
  induction spread with
  | nil => exact Alike.ok Option.Rel.none
  | @keep child child' _ _ here _ ih =>
      rw [propertyAmong?, propertyAmong?, here.is, key?_of_commented here]
      split
      · exact ih
      · cases key? child with
        | error error => exact Alike.error error
        | ok found =>
            by_cases same : found = some key
            · simp only [same, if_true]
              exact Alike.ok (here.child? .value)
            · simp only [same, if_false]
              exact ih
  | insert isComment _ ih =>
      rw [propertyAmong?, isComment.is_other (by decide)]
      exact ih

theorem property?_of_commented {object object' : Node} (commented : Commented object object')
    (key : Text) : Alike (property? object key) (property? object' key) :=
  propertyAmong?_of_interspersed key commented.namedChildren

theorem takesNothing_of_commented {arrow arrow' : Node} (commented : Commented arrow arrow') :
    takesNothing arrow' = takesNothing arrow := by
  have bare : (arrow'.child? .parameter).isNone = (arrow.child? .parameter).isNone := by
    rw [← Option.not_isSome, ← Option.not_isSome, isSome_of_rel (commented.child? .parameter)]
  rw [takesNothing, takesNothing, bare]
  rcases rel_cases (commented.child? .parameters) with
    ⟨none, none'⟩ | ⟨parameters, parameters', some, some', here⟩
  · rw [none, none']
  · have empty : ∀ nodes : List Node, nodes.isEmpty = !nodes.head?.isSome := by
      intro nodes
      cases nodes <;> rfl
    rw [some, some', Option.all_some, Option.all_some, empty, empty,
      isSome_of_rel here.head?_significantChildren]

theorem ne_import_of_holdsComment {text : Text} (holds : HoldsComment text) :
    text ≠ Text.ofString "import" := by
  rintro rfl
  have noSlash : CodePoint.ofChar '/' ∉ Text.ofString "import" := by decide
  rcases holds with line | block
  · exact Text.not_infix_of_not_mem (by decide) noSlash line
  · exact Text.not_infix_of_not_mem (by decide) noSlash block

theorem isImport_of_commented {node node' : Node} (commented : Commented node node') :
    isImport node' = isImport node := by
  rw [isImport, isImport, commented.is]
  rcases rel_cases (commented.child? .callee) with
    ⟨none, none'⟩ | ⟨callee, callee', some, some', here⟩
  · rw [none, none']
  · have isCallee : callee.role = .some .callee := by
      have plays := List.find?_some some
      exact of_decide_eq_true plays
    rw [some, some', Option.any_some, Option.any_some]
    cases here with
    | intro _ _ text =>
        rcases text with same | ⟨noSpelling, holds⟩
        · rw [same]
        · -- Neither text is `import`: the old one would be a spelling, the new one holds a comment.
          have other : callee.text ≠ Text.ofString "import" := by
            intro spelled
            simp [isSpelling, isCallee, spelled] at noSpelling
          simp [other, ne_import_of_holdsComment holds]

theorem isImport_comment {comment : Node} (isComment : IsComment comment) :
    isImport comment = false := by
  rw [isImport, isComment.is_other (by decide), Bool.false_and]

theorem firstArgument?_of_commented {call call' : Node} (commented : Commented call call') :
    Option.Rel Commented (firstArgument? call) (firstArgument? call') :=
  rel_bind (commented.child? .arguments) fun _ _ here => here.head?_significantChildren

theorem importedPath?_of_commented {component component' : Node}
    (commented : Commented component component') :
    importedPath? component' = importedPath? component := by
  rw [importedPath?, importedPath?]
  rcases rel_cases (commented.selfOrFirst? .arrowFunction (by decide)) with
    ⟨none, none'⟩ | ⟨arrow, arrow', some, some', here⟩
  · rw [none, none']
  · simp only [some, some', takesNothing_of_commented here]
    rcases rel_cases (here.descendants.find? (fun _ _ inner => isImport_of_commented inner)
        fun _ isComment => isImport_comment isComment) with
      ⟨none, none'⟩ | ⟨call, call', called, called', inner⟩
    · simp only [Node.firstDescendant?, none, none']
    · simp only [Node.firstDescendant?, called, called']
      rcases rel_cases (firstArgument?_of_commented inner) with
        ⟨none, none'⟩ | ⟨argument, argument', given, given', last⟩
      · simp only [none, none']
      · simp only [given, given', last.is, value_of_commented last]

theorem fields?_of_commented {object object' : Node} (commented : Commented object object') :
    fields? object' = fields? object := by
  rw [fields?, fields?]
  rcases (property?_of_commented commented (Text.ofString "name")).cases with
    ⟨error, failed, failed'⟩ | ⟨name?, name?', named, named', sameName⟩
  · rw [failed, failed']
    rfl
  · rw [named, named']
    rcases (property?_of_commented commented (Text.ofString "component")).cases with
      ⟨error, failed, failed'⟩ | ⟨component?, component?', placed, placed', sameComponent⟩
    · rw [failed, failed']
      rfl
    · rw [placed, placed']
      cases sameName with
      | none => rfl
      | some name =>
          cases sameComponent with
          | none => rfl
          | some component =>
              simp only [bind, Except.bind]
              rcases rel_cases (name.selfOrFirst? .string (by decide)) with
                ⟨none, none'⟩ | ⟨literal, literal', some, some', here⟩
              · simp only [none, none']
              · simp only [some, some', value_of_commented here,
                  importedPath?_of_commented component]

theorem ofObject?_of_commented {object object' : Node} (commented : Commented object object') :
    ofObject? object' = ofObject? object := by
  rw [ofObject?, ofObject?, fields?_of_commented commented]

theorem ofElements_of_interspersed {elements elements' : List Node}
    (spread : Interspersed Commented elements elements') :
    ofElements elements' = ofElements elements := by
  induction spread with
  | nil => rfl
  | keep here _ ih => rw [ofElements, ofElements, here.is, ofObject?_of_commented here, ih]
  | insert isComment _ ih =>
      rw [ofElements, isComment.is_other (by decide), ih]
      rfl

/-- Comments make no difference to the routes, nor to what is wrong with the file. -/
theorem extract_ignores_comments {root root' : Node} (commented : Commented root root') :
    extract root' = extract root := by
  rw [extract, extract]
  rcases routeArray_of_commented commented with
    ⟨error, failed, failed'⟩ | ⟨array, array', resolved, resolved', here⟩
  · rw [failed, failed']
  · rw [resolved, resolved']
    exact ofElements_of_interspersed here.namedChildren

def isComment? (node : Node) : Bool :=
  node.is .comment && node.role = none && node.children.isEmpty

def holdsComment? (text : Text) : Bool :=
  (Text.breakOn? (Text.ofString "//") text).isSome ||
    (Text.breakOn? (Text.ofString "/*") text).isSome

mutual

def commented? (node : Node) : Node → Bool
  | .mk kind role _ text children =>
      kind = node.kind && role = node.role &&
        (text = node.text || !isSpelling node && holdsComment? text) &&
        interspersed? node.children children

def interspersed? (nodes : List Node) : List Node → Bool
  | [] => nodes.isEmpty
  | other :: others =>
      (match nodes with
        | [] => false
        | node :: nodes => commented? node other && interspersed? nodes others) ||
        isComment? other && interspersed? nodes others

end

theorem isComment_of_isComment? {node : Node} (checked : isComment? node = true) :
    IsComment node := by
  simp only [isComment?, Bool.and_eq_true, decide_eq_true_eq, List.isEmpty_iff] at checked
  exact ⟨checked.1.1, checked.1.2, checked.2⟩

theorem infix_of_breakOn? {needle text : Text}
    (found : (Text.breakOn? needle text).isSome = true) : needle <:+: text := by
  obtain ⟨⟨front, rest⟩, broken⟩ := Option.isSome_iff_exists.1 found
  exact ⟨front, rest, (Text.breakOn?_append broken).symm⟩

theorem holdsComment_of_holdsComment? {text : Text} (checked : holdsComment? text = true) :
    HoldsComment text := by
  rw [holdsComment?, Bool.or_eq_true] at checked
  exact checked.imp infix_of_breakOn? infix_of_breakOn?

mutual

theorem commented_of_commented? {node : Node} : {node' : Node} → commented? node node' = true →
    Commented node node'
  | .mk kind role start text children, checked => by
      simp only [commented?, Bool.and_eq_true, Bool.or_eq_true, decide_eq_true_eq,
        Bool.not_eq_true'] at checked
      obtain ⟨⟨⟨sameKind, sameRole⟩, texts⟩, inside⟩ := checked
      exact Commented.intro sameKind sameRole
        (texts.imp_right fun covers => ⟨covers.1, holdsComment_of_holdsComment? covers.2⟩)
        (interspersed_of_interspersed? inside)

theorem interspersed_of_interspersed? {nodes : List Node} : {nodes' : List Node} →
    interspersed? nodes nodes' = true → Interspersed Commented nodes nodes'
  | [], checked => by
      rw [interspersed?, List.isEmpty_iff] at checked
      rw [checked]
      exact Interspersed.nil
  | other :: others, checked => by
      cases nodes with
      | nil =>
          simp only [interspersed?, Bool.false_or, Bool.and_eq_true] at checked
          exact Interspersed.insert (isComment_of_isComment? checked.1)
            (interspersed_of_interspersed? checked.2)
      | cons node nodes =>
          simp only [interspersed?, Bool.or_eq_true, Bool.and_eq_true] at checked
          rcases checked with ⟨here, later⟩ | ⟨isComment, later⟩
          · exact Interspersed.keep (commented_of_commented? here)
              (interspersed_of_interspersed? later)
          · exact Interspersed.insert (isComment_of_isComment? isComment)
              (interspersed_of_interspersed? later)

end

def plainScript : TypeScript.Script :=
  TypeScript.parse
    (Text.ofString "export default [\x7bname:'A',component:()=>import('@/views/a')\x7d]")

def commentedScript : TypeScript.Script :=
  TypeScript.parse (Text.ofString
    ("/**/export default [/**/\x7bname:/**/'A',component:(/**/)=>" ++
      "import(/**/'@/views/a')/**/\x7d]//"))

theorem extract_commentedScript :
    Commented plainScript.root commentedScript.root ∧
      extract commentedScript.root = extract plainScript.root ∧
      (extract plainScript.root).toOption.map List.length = some 1 := by
  have checked : commented? plainScript.root commentedScript.root = true ∧
      (extract plainScript.root).toOption.map List.length = some 1 := by
    decide +kernel
  have commented := commented_of_commented? checked.1
  exact ⟨commented, extract_ignores_comments commented, checked.2⟩

end ViewNaming.Route
