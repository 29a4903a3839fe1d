import ViewNaming.Proofs.Route.Reading
import ViewNaming.Proofs.Tree.Place
import ViewNaming.TypeScript.Parse

/-! What decides the route array. The exported expression is looked for in the whole tree, a
variable only among the statements of the module itself. So a statement that is no export,
declares no variables and holds no export inside has no say, whatever variables it declares
within, and the statements that do have a say may stand anywhere in the source. -/
namespace ViewNaming.Route

def HasToken (node : Node) (spelling : String) : Prop :=
  ∃ child ∈ node.children, child.kind = .token spelling

/-- A statement that exports an expression by default: the value behind `default`, or else
what stands behind an equals sign. -/
inductive ExportsByDefault (statement : Node) : Node → Prop
  | value {expression : Node} : statement.is .exportStatement = true →
      HasToken statement "default" → statement.child? .value = some expression →
      ExportsByDefault statement expression
  | assigned {expression : Node} : statement.is .exportStatement = true →
      ¬ HasToken statement "default" → HasToken statement "=" →
      First Significant statement.children expression → ExportsByDefault statement expression

def DefaultExport (root expression : Node) : Prop :=
  ∃ statement, First (fun node => ∃ exported, ExportsByDefault node exported) root.beneath
    statement ∧ ExportsByDefault statement expression

theorem hasToken_iff {node : Node} {spelling : String} :
    hasToken node spelling = true ↔ HasToken node spelling := by
  simp [hasToken, HasToken]

theorem exportedExpression?_eq_some_iff {statement expression : Node} :
    exportedExpression? statement = some expression ↔ ExportsByDefault statement expression := by
  constructor
  · intro exported
    rw [exportedExpression?] at exported
    split at exported
    · cases exported
    · rename_i isExport
      rw [Bool.not_eq_true', Bool.not_eq_false] at isExport
      split at exported
      · rename_i isDefault
        exact .value isExport (hasToken_iff.1 isDefault) exported
      · rename_i notDefault
        rw [hasToken_iff] at notDefault
        split at exported
        · rename_i isAssigned
          exact .assigned isExport notDefault (hasToken_iff.1 isAssigned)
            (head?_significantChildren_eq_some_iff.1 exported)
        · cases exported
  · intro exports
    cases exports with
    | value isExport isDefault there =>
        simp [exportedExpression?, isExport, hasToken_iff.2 isDefault, there]
    | assigned isExport notDefault isAssigned head =>
        rw [← hasToken_iff, Bool.not_eq_true] at notDefault
        simp [exportedExpression?, isExport, notDefault, hasToken_iff.2 isAssigned,
          head?_significantChildren_eq_some_iff.2 head]

theorem exportedExpression?_eq_none_iff {statement : Node} :
    exportedExpression? statement = none ↔
      ¬ ∃ expression, ExportsByDefault statement expression := by
  simp only [Option.eq_none_iff_forall_ne_some, ne_eq, exportedExpression?_eq_some_iff, not_exists]

theorem defaultExport?_eq_none_iff {root : Node} :
    defaultExport? root = none ↔
      ∀ statement ∈ root.beneath, ¬ ∃ expression, ExportsByDefault statement expression := by
  simp only [defaultExport?, Node.descendants_eq_beneath, List.findSome?_eq_none_iff,
    exportedExpression?_eq_none_iff]

theorem defaultExport?_eq_some_iff {root expression : Node} :
    defaultExport? root = some expression ↔ DefaultExport root expression := by
  rw [defaultExport?, Node.descendants_eq_beneath, List.findSome?_eq_some_iff]
  simp only [exportedExpression?_eq_none_iff, exportedExpression?_eq_some_iff]
  constructor
  · rintro ⟨before, statement, after, split, exports, passed⟩
    exact ⟨statement, ⟨before, after, split, ⟨expression, exports⟩, passed⟩, exports⟩
  · rintro ⟨statement, ⟨before, after, split, -, passed⟩, exports⟩
    exact ⟨before, statement, after, split, exports, passed⟩

inductive ArrayLiteral (expression : Node) : Node → Prop
  | itself : expression.is .array = true → ArrayLiteral expression expression
  | typed {array : Node} : expression.is .asExpression = true →
      First Significant expression.children array → array.is .array = true →
      ArrayLiteral expression array

def DeclaresVariables (node : Node) : Prop :=
  node.is .lexicalDeclaration = true ∨ node.is .variableDeclaration = true

/-- The declaration of variables that a statement is, or that it exports. -/
inductive Declares (statement : Node) : Node → Prop
  | plain : DeclaresVariables statement → Declares statement statement
  | exported {declaration : Node} : statement.is .exportStatement = true →
      statement.child? .declaration = some declaration → DeclaresVariables declaration →
      Declares statement declaration

structure Binds (identifier : Text) (declarator : Node) : Prop where
  isDeclarator : declarator.is .variableDeclarator = true
  name : ∃ name, declarator.child? .name = some name ∧ name.is .identifier = true ∧
    name.text = identifier

/-- The first declarator of a variable among the statements of the module. -/
def ModuleVariable (root : Node) (identifier : Text) (declarator : Node) : Prop :=
  ∃ statement declaration,
    First (fun node => ∃ inner, Declares node inner ∧ ∃ child ∈ inner.children,
      Binds identifier child) root.children statement ∧
    Declares statement declaration ∧ First (Binds identifier) declaration.children declarator

/-- The array literal that an exported expression is or refers to. -/
inductive LeadsTo (root expression : Node) : Node → Prop
  | literal {array : Node} : ArrayLiteral expression array → LeadsTo root expression array
  | referred {declarator initial array : Node} : expression.is .identifier = true →
      ModuleVariable root expression.text declarator → declarator.child? .value = some initial →
      ArrayLiteral initial array → LeadsTo root expression array

theorem asArray?_eq_some_iff {expression array : Node} :
    asArray? expression = some array ↔ ArrayLiteral expression array := by
  constructor
  · intro found
    rw [asArray?] at found
    split at found
    · rename_i isArray
      cases found
      exact .itself isArray
    · split at found
      · rename_i isTyped
        obtain ⟨head, isArray⟩ := Option.filter_eq_some_iff.1 found
        exact .typed isTyped (head?_significantChildren_eq_some_iff.1 head) isArray
      · cases found
  · intro literal
    cases literal with
    | itself isArray => rw [asArray?, if_pos isArray]
    | typed isTyped head isArray =>
        rw [asArray?, not_is_of_is isTyped (by decide), if_neg Bool.false_ne_true, if_pos isTyped,
          head?_significantChildren_eq_some_iff.2 head, Option.filter_some, if_pos isArray]

theorem declaresVariables_iff {node : Node} :
    (node.is .lexicalDeclaration || node.is .variableDeclaration) = true ↔
      DeclaresVariables node := Bool.or_eq_true_iff ..

theorem moduleDeclaration?_eq_some_iff {statement declaration : Node} :
    moduleDeclaration? statement = some declaration ↔ Declares statement declaration := by
  rw [moduleDeclaration?, Option.filter_eq_some_iff, declaresVariables_iff]
  constructor
  · rintro ⟨there, declares⟩
    split at there
    · rename_i isExport
      exact .exported isExport there declares
    · cases there
      exact .plain declares
  · intro declares
    cases declares with
    | plain declares =>
        have other : statement.is .exportStatement = false := by
          rcases declares with isLexical | isVariable
          · exact not_is_of_is isLexical (by decide)
          · exact not_is_of_is isVariable (by decide)
        exact ⟨by rw [other, if_neg Bool.false_ne_true], declares⟩
    | exported isExport there declares => exact ⟨by rw [if_pos isExport, there], declares⟩

def binding? (identifier : Text) (statement : Node) : Option Node :=
  (moduleDeclaration? statement).bind fun declaration =>
    declaration.children.find? fun child => child.is .variableDeclarator && binds identifier child

theorem binds_iff {identifier : Text} {declarator : Node} :
    (declarator.is .variableDeclarator && binds identifier declarator) = true ↔
      Binds identifier declarator := by
  simp only [binds, Bool.and_eq_true, Option.any_eq_true, decide_eq_true_eq]
  constructor
  · rintro ⟨isDeclarator, name⟩
    exact ⟨isDeclarator, name⟩
  · rintro ⟨isDeclarator, name⟩
    exact ⟨isDeclarator, name⟩

theorem moduleDeclaration?_of_not_isNamed {statement : Node} (token : ¬ statement.isNamed = true) :
    moduleDeclaration? statement = none := by
  simp [moduleDeclaration?, not_is_of_not_isNamed token]

theorem find?_moduleDeclarators (root : Node) (identifier : Text) :
    (moduleDeclarators root).find? (binds identifier) =
      root.children.findSome? (binding? identifier) := by
  have declarations : root.namedChildren.filterMap moduleDeclaration? =
      root.children.filterMap moduleDeclaration? := by
    rw [Node.namedChildren, List.filterMap_filter]
    congr 1
    funext statement
    split
    · rfl
    · rename_i token
      exact (moduleDeclaration?_of_not_isNamed token).symm
  have declarators : ∀ declaration : Node,
      (declaration.namedChildren.filter fun child => child.is .variableDeclarator).find?
        (binds identifier) =
      declaration.children.find? fun child =>
        child.is .variableDeclarator && binds identifier child := by
    intro declaration
    rw [Node.namedChildren, List.filter_filter, List.find?_filter]
    congr 1
    funext child
    by_cases named : child.isNamed = true
    · simp [named]
    · simp [not_is_of_not_isNamed named]
  rw [moduleDeclarators, List.find?_flatMap, declarations, ← List.head?_filterMap,
    List.filterMap_filterMap, List.head?_filterMap]
  simp only [declarators]
  rfl

theorem binding?_eq_some_iff {identifier : Text} {statement declarator : Node} :
    binding? identifier statement = some declarator ↔
      ∃ declaration, Declares statement declaration ∧
        First (Binds identifier) declaration.children declarator := by
  simp only [binding?, Option.bind_eq_some_iff, moduleDeclaration?_eq_some_iff,
    first_iff fun _ => binds_iff]

theorem binding?_eq_none_iff {identifier : Text} {statement : Node} :
    binding? identifier statement = none ↔
      ¬ ∃ declaration, Declares statement declaration ∧ ∃ child ∈ declaration.children,
        Binds identifier child := by
  simp only [binding?, Option.bind_eq_none_iff, moduleDeclaration?_eq_some_iff,
    List.find?_eq_none, binds_iff, not_exists, not_and]

theorem findSome?_binding?_eq_some_iff {root declarator : Node} {identifier : Text} :
    root.children.findSome? (binding? identifier) = some declarator ↔
      ModuleVariable root identifier declarator := by
  rw [List.findSome?_eq_some_iff]
  simp only [binding?_eq_none_iff]
  constructor
  · rintro ⟨before, statement, after, split, bound, passed⟩
    obtain ⟨declaration, declares, first⟩ := binding?_eq_some_iff.1 bound
    have holds : ∃ child ∈ declaration.children, Binds identifier child := by
      obtain ⟨front, back, children, binds, -⟩ := first
      exact ⟨declarator, by simp [children], binds⟩
    exact ⟨statement, declaration,
      ⟨before, after, split, ⟨declaration, declares, holds⟩, passed⟩, declares, first⟩
  · rintro ⟨statement, declaration, ⟨before, after, split, -, passed⟩, declares, first⟩
    exact ⟨before, statement, after, split,
      binding?_eq_some_iff.2 ⟨declaration, declares, first⟩, passed⟩

theorem initialValue?_eq_some_iff {root initial : Node} {identifier : Text} :
    initialValue? root identifier = some initial ↔
      ∃ declarator, ModuleVariable root identifier declarator ∧
        declarator.child? .value = some initial := by
  simp only [initialValue?, find?_moduleDeclarators, Option.bind_eq_some_iff,
    findSome?_binding?_eq_some_iff]

theorem arrayOf?_eq (root expression : Node) :
    arrayOf? root expression = (asArray? expression).or
      (if expression.is .identifier then (initialValue? root expression.text).bind asArray?
        else none) := by
  rw [arrayOf?]
  cases asArray? expression <;> rfl

theorem asArray?_of_identifier {expression : Node} (isName : expression.is .identifier = true) :
    asArray? expression = none := by
  simp [asArray?, not_is_of_is isName]

theorem arrayOf?_eq_some_iff {root expression array : Node} :
    arrayOf? root expression = some array ↔ LeadsTo root expression array := by
  rw [arrayOf?_eq]
  constructor
  · intro found
    rcases Option.or_eq_some_iff.1 found with literal | ⟨-, behind⟩
    · exact .literal (asArray?_eq_some_iff.1 literal)
    · split at behind
      · rename_i isName
        obtain ⟨initial, there, literal⟩ := Option.bind_eq_some_iff.1 behind
        obtain ⟨declarator, bound, value⟩ := initialValue?_eq_some_iff.1 there
        exact .referred isName bound value (asArray?_eq_some_iff.1 literal)
      · cases behind
  · intro leads
    cases leads with
    | literal literal => rw [asArray?_eq_some_iff.2 literal, Option.some_or]
    | referred isName bound value literal =>
        rw [asArray?_of_identifier isName, Option.none_or, if_pos isName,
          initialValue?_eq_some_iff.2 ⟨_, bound, value⟩, Option.bind_some,
          asArray?_eq_some_iff.2 literal]

/-- A statement that decides nothing: no export, no declaration of variables, and no export
anywhere inside. -/
def Inert (statement : Node) : Prop :=
  statement.is .exportStatement = false ∧ statement.is .lexicalDeclaration = false ∧
    statement.is .variableDeclaration = false ∧
    ∀ node ∈ statement.beneath, node.is .exportStatement = false

instance : DecidablePred Inert := fun _ => inferInstanceAs (Decidable (_ ∧ _ ∧ _ ∧ _))

/-- The statements of the second list are those of the first one, or related to them, but for
statements that decide nothing: these may have been taken out and put in anywhere. -/
inductive Reworked (related : Node → Node → Prop) : List Node → List Node → Prop
  | nil : Reworked related [] []
  | keep {statement statement' : Node} {nodes nodes' : List Node} :
      related statement statement' → Reworked related nodes nodes' →
      Reworked related (statement :: nodes) (statement' :: nodes')
  | remove {statement : Node} {nodes nodes' : List Node} : Inert statement →
      Reworked related nodes nodes' → Reworked related (statement :: nodes) nodes'
  | add {statement : Node} {nodes nodes' : List Node} : Inert statement →
      Reworked related nodes nodes' → Reworked related nodes (statement :: nodes')

/-- The same tree, perhaps at another place of the source. -/
def Displaced (node node' : Node) : Prop :=
  node'.moved (fun _ => 0) = node.moved fun _ => 0

def exportWithin? (statement : Node) : Option Node :=
  statement.preorder.findSome? exportedExpression?

theorem defaultExport?_eq (root : Node) :
    defaultExport? root = root.children.findSome? exportWithin? := by
  rw [defaultExport?, Node.descendants_eq_beneath, Node.beneath, Node.findSome?_preorderAll]
  rfl

theorem exportedExpression?_of_not_export {node : Node} (other : node.is .exportStatement = false) :
    exportedExpression? node = none := by
  rw [exportedExpression?, other]
  rfl

namespace Inert

variable {statement : Node}

theorem exportWithin? (inert : Inert statement) : exportWithin? statement = none := by
  rw [Route.exportWithin?, Node.preorder_eq, List.findSome?_eq_none_iff]
  intro node member
  rcases List.mem_cons.1 member with rfl | inside
  · exact exportedExpression?_of_not_export inert.1
  · exact exportedExpression?_of_not_export (inert.2.2.2 node inside)

theorem binding? (inert : Inert statement) (identifier : Text) :
    binding? identifier statement = none := by
  obtain ⟨notExport, notLexical, notVariable, -⟩ := inert
  simp [Route.binding?, moduleDeclaration?, notExport, notLexical, notVariable]

end Inert

theorem Reworked.findSome? {related : Node → Node → Prop} {nodes nodes' : List Node}
    {pick : Node → Option Node} {place : Nat → Nat} (reworked : Reworked related nodes nodes')
    (silent : ∀ statement, Inert statement → pick statement = none)
    (each : ∀ statement statement', related statement statement' →
      (pick statement').map (Node.moved place) = (pick statement).map (Node.moved place)) :
    (nodes'.findSome? pick).map (Node.moved place) =
      (nodes.findSome? pick).map (Node.moved place) := by
  induction reworked with
  | nil => rfl
  | @keep statement statement' _ _ here _ ih =>
      have same := each statement statement' here
      rw [List.findSome?_cons, List.findSome?_cons]
      cases found : pick statement with
      | none =>
          rw [found, Option.map_none, Option.map_eq_none_iff] at same
          rw [same]
          exact ih
      | some node =>
          rw [found, Option.map_some, Option.map_eq_some_iff] at same
          obtain ⟨node', found', moved⟩ := same
          rw [found', Option.map_some, Option.map_some, moved]
  | remove inert _ ih => rw [List.findSome?_cons, silent _ inert, ih]
  | add inert _ ih => rw [List.findSome?_cons, silent _ inert, ih]

section Moved

variable {place : Nat → Nat} {node : Node}

theorem hasToken_moved (spelling : String) :
    hasToken (node.moved place) spelling = hasToken node spelling := by
  rw [hasToken, Node.children_moved, List.any_map, hasToken]
  simp only [Function.comp_def, Node.kind_moved]

theorem exportedExpression?_moved :
    exportedExpression? (node.moved place) = (exportedExpression? node).map (Node.moved place) := by
  simp only [exportedExpression?, Node.is_moved, hasToken_moved, Node.child?_moved,
    Node.significantChildren_moved, List.head?_map]
  split
  · rfl
  · split
    · rfl
    · split <;> rfl

theorem exportWithin?_moved :
    exportWithin? (node.moved place) = (exportWithin? node).map (Node.moved place) := by
  rw [exportWithin?, Node.preorder_moved, List.findSome?_map, exportWithin?, List.map_findSome?]
  congr 1
  funext inner
  exact exportedExpression?_moved

theorem asArray?_moved :
    asArray? (node.moved place) = (asArray? node).map (Node.moved place) := by
  simp only [asArray?, Node.is_moved, Node.significantChildren_moved, List.head?_map,
    Option.filter_map, Function.comp_def]
  split
  · rfl
  · split <;> rfl

theorem binds_moved (identifier : Text) :
    binds identifier (node.moved place) = binds identifier node := by
  simp [binds, Node.child?_moved, Option.any_map]

theorem moduleDeclaration?_moved :
    moduleDeclaration? (node.moved place) =
      (moduleDeclaration? node).map (Node.moved place) := by
  simp only [moduleDeclaration?, Node.is_moved, Node.child?_moved]
  split
  · simp only [Option.filter_map, Function.comp_def, Node.is_moved]
  · simp only [← Option.map_some, Option.filter_map, Function.comp_def, Node.is_moved]

theorem binding?_moved (identifier : Text) :
    binding? identifier (node.moved place) =
      (binding? identifier node).map (Node.moved place) := by
  simp only [binding?, moduleDeclaration?_moved, Option.bind_map, Option.map_bind,
    Function.comp_def, Node.children_moved, List.find?_map, Node.is_moved, binds_moved]

end Moved

section Reworked

variable {related : Node → Node → Prop} {place : Nat → Nat} {root root' : Node}

theorem map_eq_of_moved {pick : Node → Option Node}
    (commutes : ∀ node, pick (node.moved place) = (pick node).map (Node.moved place))
    {node node' : Node} (same : node'.moved place = node.moved place) :
    (pick node').map (Node.moved place) = (pick node).map (Node.moved place) := by
  rw [← commutes, ← commutes, same]

theorem Reworked.defaultExport? (reworked : Reworked related root.children root'.children)
    (same : ∀ node node', related node node' → node'.moved place = node.moved place) :
    (defaultExport? root').map (Node.moved place) =
      (defaultExport? root).map (Node.moved place) := by
  rw [defaultExport?_eq, defaultExport?_eq]
  exact reworked.findSome? (fun _ inert => inert.exportWithin?) fun _ _ here =>
    map_eq_of_moved (fun _ => exportWithin?_moved) (same _ _ here)

theorem Reworked.initialValue? (reworked : Reworked related root.children root'.children)
    (same : ∀ node node', related node node' → node'.moved place = node.moved place)
    (identifier : Text) :
    (initialValue? root' identifier).map (Node.moved place) =
      (initialValue? root identifier).map (Node.moved place) := by
  have bound := reworked.findSome? (fun _ inert => inert.binding? identifier) fun _ _ here =>
    map_eq_of_moved (fun _ => binding?_moved identifier) (same _ _ here)
  have value : ∀ found : Option Node,
      (found.bind fun declarator => declarator.child? .value).map (Node.moved place) =
        (found.map (Node.moved place)).bind fun declarator => declarator.child? .value := by
    intro found
    cases found with
    | none => rfl
    | some declarator => exact (Node.child?_moved .value).symm
  simp only [Route.initialValue?, find?_moduleDeclarators, value, bound]

theorem Reworked.arrayOf? (reworked : Reworked related root.children root'.children)
    (same : ∀ node node', related node node' → node'.moved place = node.moved place)
    {expression expression' : Node}
    (moved : expression'.moved place = expression.moved place) :
    (arrayOf? root' expression').map (Node.moved place) =
      (arrayOf? root expression).map (Node.moved place) := by
  have isSame : expression'.is .identifier = expression.is .identifier := by
    rw [← Node.is_moved, moved, Node.is_moved]
  have textSame : expression'.text = expression.text := by
    rw [← Node.text_moved, moved, Node.text_moved]
  have initial := reworked.initialValue? same expression.text
  have literal : ∀ found : Option Node, (found.bind asArray?).map (Node.moved place) =
      (found.map (Node.moved place)).bind asArray? := by
    intro found
    cases found with
    | none => rfl
    | some node => exact asArray?_moved.symm
  rw [arrayOf?_eq, arrayOf?_eq, Option.map_or, Option.map_or,
    map_eq_of_moved (fun _ => asArray?_moved) moved, isSame, textSame]
  split
  · rw [literal, initial, literal]
  · rfl

theorem Reworked.routeArray (reworked : Reworked related root.children root'.children)
    (same : ∀ node node', related node node' → node'.moved place = node.moved place) :
    (routeArray root').map (Node.moved place) = (routeArray root).map (Node.moved place) := by
  have exported := reworked.defaultExport? same
  rw [Route.routeArray, Route.routeArray]
  cases found : Route.defaultExport? root with
  | none =>
      rw [found, Option.map_none, Option.map_eq_none_iff] at exported
      rw [exported]
  | some expression =>
      rw [found, Option.map_some, Option.map_eq_some_iff] at exported
      obtain ⟨expression', found', moved⟩ := exported
      have array := reworked.arrayOf? same moved
      rw [found']
      simp only
      cases resolved : Route.arrayOf? root expression with
      | none =>
          rw [resolved, Option.map_none, Option.map_eq_none_iff] at array
          rw [array]
      | some node =>
          rw [resolved, Option.map_some, Option.map_eq_some_iff] at array
          obtain ⟨node', resolved', movedArray⟩ := array
          rw [resolved']
          exact congrArg Except.ok movedArray

end Reworked

/-- What decides the route array. Statements that decide nothing may come and go, and the
others may move: the array is the same one, or the same error is raised. There is no default
export exactly if no statement of the tree has one; otherwise the first one leads to the array,
by itself or through the first variable of the module with its name, or there is no array. -/
theorem routeArray_by_module_scope (root : Node) :
    (∀ root' : Node, Reworked Eq root.children root'.children →
      routeArray root' = routeArray root) ∧
    (∀ root' : Node, Reworked Displaced root.children root'.children →
      (routeArray root').map (Node.moved fun _ => 0) =
        (routeArray root).map (Node.moved fun _ => 0)) ∧
    (routeArray root = .error .noDefaultExport ↔
      ∀ statement ∈ root.beneath, ¬ ∃ expression, ExportsByDefault statement expression) ∧
    ∀ expression, DefaultExport root expression →
      (∀ array, routeArray root = .ok array ↔ LeadsTo root expression array) ∧
      (routeArray root = .error .noRouteArray ↔ ∀ array, ¬ LeadsTo root expression array) := by
  refine ⟨?_, ?_, ?_, ?_⟩
  · intro root' reworked
    have unmoved : Node.moved id = id := funext Node.moved_id
    have same : ∀ node node' : Node, node = node' → node'.moved id = node.moved id := by
      rintro node _ rfl
      rfl
    have result := reworked.routeArray same
    rwa [unmoved, Except.map_id, id, id] at result
  · intro root' reworked
    exact reworked.routeArray fun _ _ displaced => displaced
  · rw [← defaultExport?_eq_none_iff, routeArray]
    cases defaultExport? root with
    | none => simp
    | some expression =>
        simp only [reduceCtorEq, iff_false]
        cases arrayOf? root expression <;> simp
  · intro expression exported
    rw [routeArray, defaultExport?_eq_some_iff.2 exported]
    simp only [← arrayOf?_eq_some_iff]
    cases arrayOf? root expression with
    | none => simp
    | some array => simp

mutual

def displaced? : Node → Node → Bool
  | .mk kind role _ text children, .mk kind' role' _ text' children' =>
      kind' = kind && role' = role && text' = text && displacedAll? children children'

def displacedAll? : List Node → List Node → Bool
  | [], [] => true
  | node :: nodes, node' :: nodes' => displaced? node node' && displacedAll? nodes nodes'
  | _, _ => false

end

mutual

theorem displaced_of_displaced? : {node node' : Node} → displaced? node node' = true →
    Displaced node node'
  | .mk kind role start text children, .mk kind' role' start' text' children', checked => by
      simp only [displaced?, Bool.and_eq_true, decide_eq_true_eq] at checked
      obtain ⟨⟨⟨rfl, rfl⟩, rfl⟩, inside⟩ := checked
      rw [Displaced, Node.moved, Node.moved, movedAll_of_displacedAll? inside]

theorem movedAll_of_displacedAll? : {nodes nodes' : List Node} →
    displacedAll? nodes nodes' = true →
    Node.movedAll (fun _ => 0) nodes' = Node.movedAll (fun _ => 0) nodes
  | [], [], _ => rfl
  | node :: nodes, node' :: nodes', checked => by
      simp only [displacedAll?, Bool.and_eq_true] at checked
      rw [Node.movedAll, Node.movedAll, displaced_of_displaced? checked.1,
        movedAll_of_displacedAll? checked.2]

end

theorem reworked_of_displacedAll? : {nodes nodes' : List Node} →
    displacedAll? nodes nodes' = true → Reworked Displaced nodes nodes'
  | [], [], _ => .nil
  | node :: nodes, node' :: nodes', checked => by
      simp only [displacedAll?, Bool.and_eq_true] at checked
      exact .keep (displaced_of_displaced? checked.1) (reworked_of_displacedAll? checked.2)

theorem reworked_self (nodes : List Node) : Reworked Eq nodes nodes := by
  induction nodes with
  | nil => exact .nil
  | cons node nodes ih => exact .keep rfl ih

def quietScript : TypeScript.Script :=
  TypeScript.parse (Text.ofString "const r=[];export default r")

def shadowedScript : TypeScript.Script :=
  TypeScript.parse
    (Text.ofString "function f()\x7bconst r=0\x7d\nconst r=[];export default r")

theorem routeArray_by_module_scope_shadowedScript :
    Reworked Displaced quietScript.root.children shadowedScript.root.children ∧
    (routeArray shadowedScript.root).map (Node.moved fun _ => 0) =
      (routeArray quietScript.root).map (Node.moved fun _ => 0) ∧
    (∃ root', Reworked Eq shadowedScript.root.children root'.children ∧
      routeArray root' = routeArray shadowedScript.root) ∧
    ∃ expression array, DefaultExport shadowedScript.root expression ∧
      LeadsTo shadowedScript.root expression array ∧ array.text = Text.ofString "[]" := by
  have evaluated : shadowedScript.root.children.head?.any (fun added => decide (Inert added)) ∧
      displacedAll? quietScript.root.children shadowedScript.root.children.tail = true ∧
      (defaultExport? shadowedScript.root).isSome = true ∧
      (routeArray shadowedScript.root).toOption.map Node.text = some (Text.ofString "[]") := by
    decide +kernel
  obtain ⟨first, displaced, exported, text⟩ := evaluated
  have statements : ∃ added rest, shadowedScript.root.children = added :: rest ∧ Inert added ∧
      displacedAll? quietScript.root.children rest = true := by
    cases listed : shadowedScript.root.children with
    | nil => simp [listed] at first
    | cons added rest =>
        rw [listed] at first displaced
        exact ⟨added, rest, rfl, by simpa using first, displaced⟩
  obtain ⟨added, rest, listed, inert, same⟩ := statements
  have reworked : Reworked Displaced quietScript.root.children shadowedScript.root.children := by
    rw [listed]
    exact .add inert (reworked_of_displacedAll? same)
  have cleared : Reworked Eq shadowedScript.root.children
      (Node.mk (.phrase .program) none 0 [] rest).children := by
    rw [listed]
    exact .remove inert (reworked_self rest)
  obtain ⟨expression, there⟩ := Option.isSome_iff_exists.1 exported
  have default := defaultExport?_eq_some_iff.1 there
  have leads := ((routeArray_by_module_scope shadowedScript.root).2.2.2 expression default).1
  refine ⟨reworked, (routeArray_by_module_scope quietScript.root).2.1 _ reworked,
    ⟨_, cleared, (routeArray_by_module_scope shadowedScript.root).1 _ cleared⟩, ?_⟩
  cases resolved : routeArray shadowedScript.root with
  | error error => simp [resolved, Except.toOption] at text
  | ok array =>
      rw [resolved] at text
      exact ⟨expression, array, default, (leads array).1 resolved, Option.some.inj text⟩

end ViewNaming.Route
