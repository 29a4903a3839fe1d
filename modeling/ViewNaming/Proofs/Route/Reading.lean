import ViewNaming.Proofs.Route.Object

/-! Reading an element of the route array. Each function that reads a part of an object
is accounted for as a whole: when it fails something needed has no value, and otherwise
nothing needed lacks one and what was found is what the object says. Reading pairs in
order and stopping at the first fault therefore loses nothing. -/
namespace ViewNaming.Route

theorem not_is_of_not_isNamed {node : Node} (token : ¬ node.isNamed = true) (phrase : Phrase) :
    node.is phrase = false := by
  rw [Bool.eq_false_iff]
  intro isPhrase
  rw [Node.isNamed, Node.is_iff.1 isPhrase, Kind.isNamed] at token
  exact token rfl

theorem not_is_of_is {node : Node} {phrase other : Phrase} (isPhrase : node.is phrase = true)
    (apart : phrase ≠ other) : node.is other = false := by
  rw [Node.is, Node.is_iff.1 isPhrase]
  simpa using apart

theorem is_pair_of_keyed {key : Text} {child : Node} (keyed : Keyed key child) :
    child.is .pair = true := by
  cases keyed with
  | name isPair => exact isPair
  | quoted isPair => exact isPair

theorem keyed_name_iff {pair node : Node} {key : Text} (isPair : pair.is .pair = true)
    (there : pair.child? .key = some node) (isName : node.is .propertyIdentifier = true) :
    Keyed key pair ↔ node.text = key := by
  constructor
  · intro keyed
    cases keyed with
    | name _ there' _ spelled =>
        obtain rfl := Option.some.inj (there.symm.trans there')
        exact spelled
    | quoted _ there' isString =>
        obtain rfl := Option.some.inj (there.symm.trans there')
        rw [not_is_of_is isName (by decide)] at isString
        cases isString
  · intro spelled
    exact Keyed.name isPair there isName spelled

theorem keyed_quoted_iff {pair node : Node} {key : Text} (isPair : pair.is .pair = true)
    (there : pair.child? .key = some node) (isString : node.is .string = true) :
    Keyed key pair ↔ Literal.value node = .ok key := by
  constructor
  · intro keyed
    cases keyed with
    | name _ there' isName =>
        obtain rfl := Option.some.inj (there.symm.trans there')
        rw [not_is_of_is isString (by decide)] at isName
        cases isName
    | quoted _ there' _ spelled =>
        obtain rfl := Option.some.inj (there.symm.trans there')
        exact spelled
  · intro spelled
    exact Keyed.quoted isPair there isString spelled

theorem exists_key_of_keyed {key : Text} {pair : Node} (keyed : Keyed key pair) :
    ∃ node, pair.child? .key = some node ∧
      (node.is .propertyIdentifier = true ∨ node.is .string = true) := by
  cases keyed with
  | name _ there isName => exact ⟨_, there, Or.inl isName⟩
  | quoted _ there isString => exact ⟨_, there, Or.inr isString⟩

def KeyAccount (pair : Node) : Except Literal.Error (Option Text) → Prop
  | .error error => Unreadable pair error ∧ ∀ key, ¬ Keyed key pair
  | .ok found => (∀ error, ¬ Unreadable pair error) ∧ ∀ key, found = some key ↔ Keyed key pair

theorem keyAccount {pair : Node} (isPair : pair.is .pair = true) : KeyAccount pair (key? pair) := by
  rw [key?]
  cases there : pair.child? .key with
  | none =>
      constructor
      · rintro error ⟨-, node, there', -⟩
        rw [there] at there'
        cases there'
      · intro key
        refine iff_of_false (by simp) fun keyed => ?_
        obtain ⟨node, there', -⟩ := exists_key_of_keyed keyed
        rw [there] at there'
        cases there'
  | some node =>
      have unreadable_iff : ∀ error, Unreadable pair error ↔
          node.is .string = true ∧ Literal.value node = .error error := by
        intro error
        simp [Unreadable, isPair, there]
      by_cases isString : node.is .string = true
      · simp only [isString, if_true]
        cases decoded : Literal.value node with
        | error error =>
            refine ⟨(unreadable_iff error).2 ⟨isString, decoded⟩, fun key keyed => ?_⟩
            rw [keyed_quoted_iff isPair there isString, decoded] at keyed
            cases keyed
        | ok value =>
            refine ⟨fun error bad => ?_, fun key => ?_⟩
            · rw [unreadable_iff, decoded] at bad
              cases bad.2
            · rw [keyed_quoted_iff isPair there isString, decoded, Option.some.injEq,
                Except.ok.injEq]
      · simp only [isString, Bool.false_eq_true, if_false]
        have readable : ∀ error, ¬ Unreadable pair error := by
          intro error bad
          exact isString ((unreadable_iff error).1 bad).1
        split
        · rename_i isName
          refine ⟨readable, fun key => ?_⟩
          rw [keyed_name_iff isPair there isName, Option.some.injEq]
        · rename_i isOther
          refine ⟨readable, fun key => iff_of_false (by simp) fun keyed => ?_⟩
          obtain ⟨_, there', isKey⟩ := exists_key_of_keyed keyed
          obtain rfl := Option.some.inj (there.symm.trans there')
          exact isKey.elim isOther isString

theorem property_cons_of_keyed {key : Text} {child value : Node} {children : List Node}
    (keyed : Keyed key child) :
    Property key (child :: children) value ↔ child.child? .value = some value := by
  simp only [Property, first_cons_of_holds keyed, exists_eq_left]

theorem property_cons_of_not {key : Text} {child value : Node} {children : List Node}
    (other : ¬ Keyed key child) :
    Property key (child :: children) value ↔ Property key children value := by
  simp only [Property, first_cons_of_not other]

theorem obstructed_cons {key : Text} {child : Node} {children : List Node}
    {error : Literal.Error} :
    Obstructed key (child :: children) error ↔
      Unreadable child error ∨ ¬ Keyed key child ∧ Obstructed key children error := by
  constructor
  · rintro ⟨before, pair, after, split, bad, passed⟩
    cases before with
    | nil =>
        obtain ⟨rfl, -⟩ := List.cons.inj split
        exact Or.inl bad
    | cons head before =>
        obtain ⟨rfl, rest⟩ := List.cons.inj split
        obtain ⟨other, passed⟩ := List.forall_mem_cons.1 passed
        exact Or.inr ⟨other, before, pair, after, rest, bad, passed⟩
  · rintro (bad | ⟨other, before, pair, after, rfl, bad, passed⟩)
    · exact ⟨[], child, children, rfl, bad, by simp⟩
    · exact ⟨child :: before, pair, after, rfl, bad, List.forall_mem_cons.2 ⟨other, passed⟩⟩

def PropertyAccount (key : Text) (children : List Node) :
    Except Literal.Error (Option Node) → Prop
  | .error error => Obstructed key children error
  | .ok found => (∀ error, ¬ Obstructed key children error) ∧
      ∀ value, found = some value ↔ Property key children value

theorem propertyAccount_cons {key : Text} {child : Node} {children : List Node}
    {result : Except Literal.Error (Option Node)} (readable : ∀ error, ¬ Unreadable child error)
    (other : ¬ Keyed key child) (later : PropertyAccount key children result) :
    PropertyAccount key (child :: children) result := by
  cases result with
  | error error => exact obstructed_cons.2 (Or.inr ⟨other, later⟩)
  | ok found =>
      refine ⟨fun error bad => ?_, fun value => ?_⟩
      · rcases obstructed_cons.1 bad with here | ⟨-, behind⟩
        · exact readable error here
        · exact later.1 error behind
      · rw [property_cons_of_not other]
        exact later.2 value

theorem propertyAccount (key : Text) (children : List Node) :
    PropertyAccount key children (propertyAmong? key children) := by
  induction children with
  | nil =>
      refine ⟨fun error bad => ?_, fun value => iff_of_false (by simp) fun found => ?_⟩
      · obtain ⟨before, pair, after, split, -⟩ := bad
        simp at split
      · obtain ⟨pair, ⟨before, after, split, -⟩, -⟩ := found
        simp at split
  | cons child children ih =>
      rw [propertyAmong?]
      by_cases isPair : child.is .pair = true
      · simp only [isPair, Bool.not_true, Bool.false_eq_true, if_false]
        have account := keyAccount isPair
        cases read : key? child with
        | error error =>
            rw [read] at account
            exact obstructed_cons.2 (Or.inl account.1)
        | ok found =>
            rw [read] at account
            obtain ⟨readable, keyed_iff⟩ := account
            by_cases here : found = some key
            · have keyed := (keyed_iff key).1 here
              simp only [here, if_true]
              refine ⟨fun error bad => ?_, fun value => (property_cons_of_keyed keyed).symm⟩
              rcases obstructed_cons.1 bad with atFront | ⟨other, -⟩
              · exact readable error atFront
              · exact other keyed
            · simp only [here, if_false]
              exact propertyAccount_cons readable (fun keyed => here ((keyed_iff key).2 keyed)) ih
      · simp only [isPair, Bool.not_false, if_true]
        exact propertyAccount_cons (fun error bad => isPair bad.1)
          (fun keyed => isPair (is_pair_of_keyed keyed)) ih

theorem propertyAmong?_filter (key : Text) (children : List Node) :
    propertyAmong? key (children.filter Node.isNamed) = propertyAmong? key children := by
  induction children with
  | nil => rfl
  | cons child children ih =>
      by_cases named : child.isNamed = true
      · rw [List.filter_cons, if_pos named, propertyAmong?, propertyAmong?, ih]
      · rw [List.filter_cons, if_neg named, ih, propertyAmong?, not_is_of_not_isNamed named .pair]
        rfl

theorem property?_accounts (object : Node) (key : Text) :
    PropertyAccount key object.children (property? object key) := by
  rw [property?, Node.namedChildren, propertyAmong?_filter]
  exact propertyAccount key object.children

theorem selfOrFirst?_eq_some_iff {node found : Node} {phrase : Phrase} :
    selfOrFirst? node phrase = some found ↔ Chosen phrase node found := by
  have search : node.firstDescendant? (fun inner => inner.namedLike phrase) = some found ↔
      First (fun inner => inner.namedLike phrase = true) node.beneath found := by
    rw [Node.firstDescendant?, Node.descendants_eq_beneath]
    exact first_iff fun _ => Iff.rfl
  rw [selfOrFirst?]
  constructor
  · intro picked
    split at picked
    · rename_i named
      obtain rfl := Option.some.inj picked
      exact Chosen.self named
    · rename_i other
      exact Chosen.beneath (Bool.eq_false_iff.2 other) (search.1 picked)
  · intro chosen
    cases chosen with
    | self named => rw [if_pos named]
    | beneath other first =>
        rw [if_neg (by simp [other])]
        exact search.2 first

theorem takesNothing_iff {arrow : Node} : takesNothing arrow = true ↔ Parameterless arrow := by
  have empty_iff : ∀ parameters : Node, parameters.significantChildren.isEmpty = true ↔
      ∀ parameter ∈ parameters.children, parameter.isNamed = true →
        parameter.is .comment = true := by
    intro parameters
    simp only [Node.significantChildren, Node.namedChildren, List.filter_filter, List.isEmpty_iff,
      List.filter_eq_nil_iff, Bool.and_eq_true, Bool.not_eq_true', not_and]
    exact forall₂_congr fun parameter _ => by cases parameter.is .comment <;> simp
  rw [takesNothing, Bool.and_eq_true, Option.isNone_iff_eq_none]
  constructor
  · rintro ⟨bare, listed⟩
    refine ⟨bare, fun parameters there => ?_⟩
    rw [there, Option.all_some] at listed
    exact (empty_iff parameters).1 listed
  · rintro ⟨bare, listed⟩
    refine ⟨bare, ?_⟩
    cases there : arrow.child? .parameters with
    | none => rfl
    | some parameters =>
        rw [Option.all_some]
        exact (empty_iff parameters).2 (listed parameters there)

theorem isImport_iff {node : Node} : isImport node = true ↔ ImportCall node := by
  rw [isImport, Bool.and_eq_true, Option.any_eq_true]
  constructor
  · rintro ⟨isCall, callee, there, spelled⟩
    exact ⟨isCall, callee, there, of_decide_eq_true spelled⟩
  · rintro ⟨isCall, callee, there, spelled⟩
    exact ⟨isCall, callee, there, decide_eq_true spelled⟩

theorem head?_significantChildren_eq_some_iff {node child : Node} :
    node.significantChildren.head? = some child ↔ First Significant node.children child := by
  rw [Node.significantChildren, Node.namedChildren, List.filter_filter, List.head?_filter]
  exact first_iff fun node => by simp [Significant, and_comm]

theorem firstArgument?_eq_some_iff {call argument : Node} :
    firstArgument? call = some argument ↔ ∃ arguments, call.child? .arguments = some arguments ∧
      First Significant arguments.children argument := by
  rw [firstArgument?, Option.bind_eq_some_iff]
  simp only [head?_significantChildren_eq_some_iff]

theorem imports_iff {component argument : Node} :
    Imports component argument ↔ ∃ arrow call, selfOrFirst? component .arrowFunction = some arrow ∧
      takesNothing arrow = true ∧ arrow.firstDescendant? isImport = some call ∧
      firstArgument? call = some argument ∧ argument.is .string = true := by
  have search : ∀ arrow call : Node, arrow.firstDescendant? isImport = some call ↔
      First ImportCall arrow.beneath call := by
    intro arrow call
    rw [Node.firstDescendant?, Node.descendants_eq_beneath]
    exact first_iff fun _ => isImport_iff
  simp only [Imports, selfOrFirst?_eq_some_iff, takesNothing_iff, search,
    firstArgument?_eq_some_iff]
  constructor
  · rintro ⟨arrow, call, arguments, chosen, free, first, there, head, isString⟩
    exact ⟨arrow, call, chosen, free, first, ⟨arguments, there, head⟩, isString⟩
  · rintro ⟨arrow, call, chosen, free, first, ⟨arguments, there, head⟩, isString⟩
    exact ⟨arrow, call, arguments, chosen, free, first, there, head, isString⟩

theorem importedPath?_of_imports {component argument : Node}
    (imports : Imports component argument) :
    importedPath? component = (Literal.value argument).map some := by
  obtain ⟨arrow, call, chosen, free, first, head, isString⟩ := imports_iff.1 imports
  simp [importedPath?, chosen, free, first, head, isString]

theorem importedPath?_of_not {component : Node}
    (nothing : ∀ argument, ¬ Imports component argument) : importedPath? component = .ok none := by
  rw [importedPath?]
  cases chosen : selfOrFirst? component .arrowFunction with
  | none => rfl
  | some arrow =>
      by_cases free : takesNothing arrow = true
      · simp only [free, Bool.not_true, Bool.false_eq_true, if_false]
        cases first : arrow.firstDescendant? isImport with
        | none => rfl
        | some call =>
            cases head : firstArgument? call with
            | none => simp only [head]
            | some argument =>
                have other : ¬ argument.is .string = true := by
                  intro isString
                  exact nothing argument
                    (imports_iff.2 ⟨arrow, call, chosen, free, first, head, isString⟩)
                simp only [head, other, Bool.false_eq_true, if_false]
      · simp [free]

def FieldsAccount (object : Node) : Except Literal.Error (Option (Text × Text)) → Prop
  | .error error => Undecodable object error
  | .ok found => (∀ error, ¬ Undecodable object error) ∧
      ∀ name path, found = some (name, path) ↔ Fields object name path

theorem not_undecodable {object : Node}
    (keys : ∀ key, key = Text.ofString "name" ∨ key = Text.ofString "component" →
      ∀ error, ¬ Obstructed key object.children error)
    (names : ∀ literal error, NameLiteral object literal → Literal.value literal ≠ .error error)
    (paths : ∀ argument error, PathLiteral object argument →
      Literal.value argument ≠ .error error) :
    ∀ error, ¬ Undecodable object error := by
  intro error bad
  cases bad with
  | key sought obstructed => exact keys _ sought error obstructed
  | name named _ failed => exact names _ error named failed
  | path _ placed failed => exact paths _ error placed failed

theorem fieldsAccount_none {object : Node}
    (keys : ∀ key, key = Text.ofString "name" ∨ key = Text.ofString "component" →
      ∀ error, ¬ Obstructed key object.children error)
    (lacks : ∀ literal component, NameLiteral object literal →
      ¬ Property (Text.ofString "component") object.children component) :
    FieldsAccount object (.ok none) := by
  constructor
  · intro error bad
    cases bad with
    | key sought obstructed => exact keys _ sought error obstructed
    | name named found => exact lacks _ _ named found
    | path named placed =>
        obtain ⟨component, found, -⟩ := placed
        exact lacks _ _ named found
  · intro name path
    refine iff_of_false (by simp) fun fields => ?_
    obtain ⟨literal, named, -⟩ := fields.name
    obtain ⟨argument, ⟨component, found, -⟩, -⟩ := fields.path
    exact lacks _ _ named found

theorem fieldsAccount_of_name {object literal component : Node} {name : Text}
    (keys : ∀ key, key = Text.ofString "name" ∨ key = Text.ofString "component" →
      ∀ error, ¬ Obstructed key object.children error)
    (named : NameLiteral object literal)
    (found : Property (Text.ofString "component") object.children component)
    (decoded : Literal.value literal = .ok name) :
    FieldsAccount object ((importedPath? component).map fun path? =>
      path?.map fun path => (name, path)) := by
  have names : ∀ literal' error, NameLiteral object literal' →
      Literal.value literal' ≠ .error error := by
    intro literal' error named' failed
    obtain rfl := named.unique named'
    rw [decoded] at failed
    cases failed
  have placed_iff : ∀ argument, PathLiteral object argument ↔ Imports component argument := by
    intro argument
    constructor
    · rintro ⟨component', found', imports⟩
      obtain rfl := found.unique found'
      exact imports
    · intro imports
      exact ⟨component, found, imports⟩
  by_cases some_import : ∃ argument, Imports component argument
  · obtain ⟨argument, imports⟩ := some_import
    have placed := (placed_iff argument).2 imports
    rw [importedPath?_of_imports imports]
    cases reads : Literal.value argument with
    | error error => exact Undecodable.path named placed reads
    | ok path =>
        have whole : Fields object name path :=
          ⟨⟨literal, named, decoded⟩, argument, placed, reads⟩
        refine ⟨not_undecodable keys names fun argument' error placed' failed => ?_,
          fun name' path' => ?_⟩
        · obtain rfl := placed.unique placed'
          rw [reads] at failed
          cases failed
        · constructor
          · intro same
            cases same
            exact whole
          · intro fields
            obtain ⟨rfl, rfl⟩ := whole.unique fields
            rfl
  · have nothing : ∀ argument, ¬ Imports component argument := by
      intro argument imports
      exact some_import ⟨argument, imports⟩
    rw [importedPath?_of_not nothing]
    have nowhere : ∀ argument, ¬ PathLiteral object argument := by
      intro argument placed
      exact nothing argument ((placed_iff argument).1 placed)
    refine ⟨not_undecodable keys names fun argument _ placed _ => nowhere argument placed,
      fun name' path' => iff_of_false (by simp) fun fields => ?_⟩
    obtain ⟨argument, placed, -⟩ := fields.path
    exact nowhere argument placed

theorem fields?_of_literal {object value component literal : Node}
    (readName : property? object (Text.ofString "name") = .ok (some value))
    (readComponent : property? object (Text.ofString "component") = .ok (some component))
    (chosen : selfOrFirst? value .string = some literal) :
    fields? object = (Literal.value literal).bind fun name =>
      (importedPath? component).map fun path? => path?.map fun path => (name, path) := by
  simp only [fields?, readName, readComponent, chosen, bind, Except.bind]
  cases Literal.value literal with
  | error error => rfl
  | ok name => cases importedPath? component <;> rfl

theorem fields?_of_lacking {object : Node} {name? component? : Option Node}
    (readName : property? object (Text.ofString "name") = .ok name?)
    (readComponent : property? object (Text.ofString "component") = .ok component?)
    (lacks : ∀ value component literal, name? = some value → component? = some component →
      selfOrFirst? value .string ≠ some literal) :
    fields? object = .ok none := by
  simp only [fields?, readName, readComponent, bind, Except.bind]
  cases name? with
  | none => rfl
  | some value =>
      cases component? with
      | none => rfl
      | some component =>
          cases chosen : selfOrFirst? value .string with
          | none => simp only [chosen]
          | some literal => exact absurd chosen (lacks value component literal rfl rfl)

theorem fields?_accounts (object : Node) : FieldsAccount object (fields? object) := by
  have nameAccount := property?_accounts object (Text.ofString "name")
  have componentAccount := property?_accounts object (Text.ofString "component")
  cases readName : property? object (Text.ofString "name") with
  | error error =>
      rw [readName] at nameAccount
      rw [fields?, readName]
      exact Undecodable.key (Or.inl rfl) nameAccount
  | ok name? =>
      rw [readName] at nameAccount
      cases readComponent : property? object (Text.ofString "component") with
      | error error =>
          rw [readComponent] at componentAccount
          rw [fields?, readName, readComponent]
          exact Undecodable.key (Or.inr rfl) componentAccount
      | ok component? =>
          rw [readComponent] at componentAccount
          have keys : ∀ key, key = Text.ofString "name" ∨ key = Text.ofString "component" →
              ∀ error, ¬ Obstructed key object.children error := by
            rintro key (rfl | rfl)
            · exact nameAccount.1
            · exact componentAccount.1
          -- Without a name literal or without a component nothing further is decoded.
          by_cases both : ∃ literal component, NameLiteral object literal ∧
              Property (Text.ofString "component") object.children component
          · obtain ⟨literal, component, named, found⟩ := both
            obtain ⟨value, foundName, picked⟩ := named
            rw [(nameAccount.2 value).2 foundName] at readName
            rw [(componentAccount.2 component).2 found] at readComponent
            rw [fields?_of_literal readName readComponent (selfOrFirst?_eq_some_iff.2 picked)]
            cases decoded : Literal.value literal with
            | error error => exact Undecodable.name ⟨value, foundName, picked⟩ found decoded
            | ok name => exact fieldsAccount_of_name keys ⟨value, foundName, picked⟩ found decoded
          · rw [fields?_of_lacking readName readComponent]
            · exact fieldsAccount_none keys fun literal component named found =>
                both ⟨literal, component, named, found⟩
            · intro value component literal name component' chosen
              exact both ⟨literal, component,
                ⟨value, (nameAccount.2 value).1 name, selfOrFirst?_eq_some_iff.1 chosen⟩,
                (componentAccount.2 component).1 component'⟩

theorem ofTexts_of_aliased {name rest : Text} (named : name ≠ []) :
    ofTexts name (viewsAlias ++ rest) =
      .error [⟨Text.ofString "relative_path", .aliased⟩] := by
  have aliased : Text.beginsWith viewsAlias (viewsAlias ++ rest) = true :=
    Text.beginsWith_iff.2 ⟨rest, rfl⟩
  have placed : viewsAlias ++ rest ≠ [] := by
    intro empty
    exact absurd (List.append_eq_nil_iff.1 empty).1 (by decide)
  simp [ofTexts, check, issues, nameFault?, pathFault?, named, placed, aliased]

theorem ofTexts_of_unaliased {name path : Text} (named : name ≠ []) (placed : path ≠ [])
    (unaliased : Text.beginsWith viewsAlias path = false) :
    ofTexts name path = .ok ⟨name, path, named, placed, unaliased⟩ := by
  simp [ofTexts, check, named, placed, unaliased]

theorem ofObject?_of_describes {element : Node} {name path : Text}
    (described : Describes element name path)
    (read : fields? element = .ok (some (name, viewsAlias ++ path))) :
    ofObject? element = ((ofTexts name path).map some).mapError .invalid := by
  have stripped : Text.after? viewsAlias (viewsAlias ++ path) = some path :=
    Text.after?_eq_some_iff.2 rfl
  cases path with
  | nil => exact absurd rfl described.path_ne
  | cons c path =>
      simp only [ofObject?, read, if_neg described.name_ne, stripped]
      cases ofTexts name (c :: path) <;> rfl

theorem ofObject?_of_not {element : Node} (isObject : element.is .object = true)
    {found : Option (Text × Text)} (read : fields? element = .ok found)
    (fields : ∀ name path, found = some (name, path) → Fields element name path)
    (nothing : ∀ name path, ¬ Describes element name path) : ofObject? element = .ok none := by
  cases found with
  | none => simp only [ofObject?, read]
  | some parts =>
      obtain ⟨name, path⟩ := parts
      by_cases named : name = []
      · simp only [ofObject?, read, if_pos named]
      · simp only [ofObject?, read, if_neg named]
        cases stripped : Text.after? viewsAlias path with
        | none => rfl
        | some rest =>
            cases rest with
            | nil => rfl
            | cons c rest =>
                obtain rfl := Text.after?_eq_some_iff.1 stripped
                exact absurd ⟨isObject, fields _ _ rfl, named, List.cons_ne_nil c rest⟩
                  (nothing name (c :: rest))

def ElementAccount (element : Node) : Except ExtractionError (Option Route) → Prop
  | .error error => Faulty element error
  | .ok none => (∀ error, ¬ Faulty element error) ∧ ∀ name path, ¬ Describes element name path
  | .ok (some route) => (∀ error, ¬ Faulty element error) ∧
      Describes element route.name route.relativePath

theorem not_faulty_of_unaliased {element : Node}
    (decodable : ∀ error, ¬ Undecodable element error)
    (unaliased : ∀ name rest, ¬ Describes element name (viewsAlias ++ rest)) :
    ∀ error, ¬ Faulty element error := by
  intro error faulty
  cases faulty with
  | undecodable _ bad => exact decodable _ bad
  | aliased described => exact unaliased _ _ described

theorem ofObject?_accounts {element : Node} (isObject : element.is .object = true) :
    ElementAccount element (ofObject? element) := by
  have account := fields?_accounts element
  cases read : fields? element with
  | error error =>
      rw [read] at account
      rw [ofObject?, read]
      exact Faulty.undecodable isObject account
  | ok found =>
      rw [read] at account
      obtain ⟨decodable, fields_iff⟩ := account
      by_cases some_route : ∃ name path, Describes element name path
      · obtain ⟨name, path, described⟩ := some_route
        rw [(fields_iff _ _).2 described.fields] at read
        rw [ofObject?_of_describes described read]
        by_cases aliased : ∃ rest, path = viewsAlias ++ rest
        · obtain ⟨rest, rfl⟩ := aliased
          rw [ofTexts_of_aliased described.name_ne]
          exact Faulty.aliased described
        · have unaliased : Text.beginsWith viewsAlias path = false := by
            rw [Bool.eq_false_iff]
            exact fun begins => aliased (Text.beginsWith_iff.1 begins)
          rw [ofTexts_of_unaliased described.name_ne described.path_ne unaliased]
          refine ⟨not_faulty_of_unaliased decodable fun name' rest described' => ?_, described⟩
          exact aliased ⟨rest, (described.unique described').2⟩
      · have nothing : ∀ name path, ¬ Describes element name path := by
          intro name path described
          exact some_route ⟨name, path, described⟩
        rw [ofObject?_of_not isObject read (fun name path => (fields_iff name path).1) nothing]
        exact ⟨not_faulty_of_unaliased decodable fun name rest => nothing name _, nothing⟩

end ViewNaming.Route
