import ViewNaming.Proofs.Route.Reading
import ViewNaming.TypeScript.Parse

/-! The routes of a tree. They are the routes that the elements of its array describe, in
order and without exception. Extraction stops at an element only if that element is
faulty, so what is wrong with a single element can end the whole extraction. -/
namespace ViewNaming.Route

theorem eq_of_texts {route other : Route} (sameName : route.name = other.name)
    (samePath : route.relativePath = other.relativePath) : route = other := by
  cases route
  cases other
  cases sameName
  cases samePath
  rfl

/-- One route for each element that describes one, in order, and none for any other
element. -/
inductive Listed : List Node → List Route → Prop
  | nil : Listed [] []
  | taken {element : Node} {elements : List Node} {route : Route} {routes : List Route} :
      Describes element route.name route.relativePath → Listed elements routes →
      Listed (element :: elements) (route :: routes)
  | passed {element : Node} {elements : List Node} {routes : List Route} :
      (∀ name path, ¬ Describes element name path) → Listed elements routes →
      Listed (element :: elements) routes

theorem Listed.unique {elements : List Node} {routes other : List Route}
    (first : Listed elements routes) (second : Listed elements other) : routes = other := by
  induction first generalizing other with
  | nil =>
      cases second
      rfl
  | taken described _ ih =>
      cases second with
      | taken described' rest =>
          obtain ⟨sameName, samePath⟩ := described.unique described'
          rw [ih rest, eq_of_texts sameName samePath]
      | passed nothing => exact absurd described (nothing _ _)
  | passed nothing _ ih =>
      cases second with
      | taken described => exact absurd described (nothing _ _)
      | passed _ rest => exact ih rest

def ArrayAccount (elements : List Node) : Except ExtractionError (List Route) → Prop
  | .error error => ∃ element ∈ elements, Faulty element error
  | .ok routes => (∀ element ∈ elements, ∀ error, ¬ Faulty element error) ∧
      Listed elements routes

theorem arrayAccount_cons_other {element : Node} {elements : List Node}
    {result : Except ExtractionError (List Route)} (other : ¬ element.is .object = true)
    (later : ArrayAccount elements result) : ArrayAccount (element :: elements) result := by
  have undescribed : ∀ name path, ¬ Describes element name path := by
    intro name path described
    exact other described.isObject
  cases result with
  | error error =>
      obtain ⟨bad, member, faulty⟩ := later
      exact ⟨bad, List.mem_cons_of_mem element member, faulty⟩
  | ok routes =>
      refine ⟨List.forall_mem_cons.2 ⟨fun error faulty => ?_, later.1⟩,
        Listed.passed undescribed later.2⟩
      cases faulty with
      | undecodable isObject => exact other isObject
      | aliased described => exact undescribed _ _ described

theorem ofElements_accounts (elements : List Node) :
    ArrayAccount elements (ofElements elements) := by
  induction elements with
  | nil => exact ⟨by simp, Listed.nil⟩
  | cons element elements ih =>
      rw [ofElements]
      by_cases isObject : element.is .object = true
      · simp only [isObject, Bool.not_true, Bool.false_eq_true, if_false]
        have account := ofObject?_accounts isObject
        cases read : ofObject? element with
        | error error =>
            rw [read] at account
            exact ⟨element, List.mem_cons_self, account⟩
        | ok route? =>
            rw [read] at account
            cases rest : ofElements elements with
            | error error =>
                rw [rest] at ih
                obtain ⟨bad, member, faulty⟩ := ih
                exact ⟨bad, List.mem_cons_of_mem element member, faulty⟩
            | ok routes =>
                rw [rest] at ih
                cases route? with
                | none =>
                    exact ⟨List.forall_mem_cons.2 ⟨account.1, ih.1⟩,
                      Listed.passed account.2 ih.2⟩
                | some route =>
                    exact ⟨List.forall_mem_cons.2 ⟨account.1, ih.1⟩,
                      Listed.taken account.2 ih.2⟩
      · simp only [isObject, Bool.not_false, if_true]
        exact arrayAccount_cons_other isObject ih

theorem ofElements_filter (elements : List Node) :
    ofElements (elements.filter Node.isNamed) = ofElements elements := by
  induction elements with
  | nil => rfl
  | cons element elements ih =>
      by_cases named : element.isNamed = true
      · rw [List.filter_cons, if_pos named, ofElements, ofElements, ih]
      · rw [List.filter_cons, if_neg named, ih, ofElements, not_is_of_not_isNamed named .object]
        rfl

theorem extract_accounts {root array : Node} (resolved : routeArray root = .ok array) :
    ArrayAccount array.children (extract root) := by
  rw [extract, resolved]
  simp only [Node.namedChildren, ofElements_filter]
  exact ofElements_accounts array.children

theorem routeArray_error {root : Node} {error : ExtractionError}
    (failed : routeArray root = .error error) :
    error = .noDefaultExport ∨ error = .noRouteArray := by
  rw [routeArray] at failed
  split at failed
  · cases failed
    exact Or.inl rfl
  · split at failed
    · cases failed
      exact Or.inr rfl
    · cases failed

/-- The routes that are returned are exactly those that the elements of the array
describe, and no other list of routes is. -/
theorem extract_lists_described {root array : Node} {routes : List Route}
    (resolved : routeArray root = .ok array) (returned : extract root = .ok routes) :
    Listed array.children routes ∧ (∀ other, Listed array.children other → other = routes) ∧
    ∀ route ∈ routes, route.name ≠ [] ∧ route.relativePath ≠ [] ∧
      ¬ viewsAlias <+: route.relativePath := by
  have account := extract_accounts resolved
  rw [returned] at account
  refine ⟨account.2, fun other listed => listed.unique account.2, fun route _ => ?_⟩
  refine ⟨route.name_ne, route.relativePath_ne, ?_⟩
  rintro ⟨rest, begins⟩
  have aliased := Text.beginsWith_iff.2 ⟨rest, begins.symm⟩
  rw [route.unaliased] at aliased
  cases aliased

theorem exists_array_of_extract {root : Node} {routes : List Route}
    (returned : extract root = .ok routes) : ∃ array, routeArray root = .ok array := by
  rw [extract] at returned
  cases resolved : routeArray root with
  | error error => simp [resolved] at returned
  | ok array => exact ⟨array, rfl⟩

/-- A variable, an object with an escape in a key, a wrapped name and a comment in front of what
it imports, and an object whose name is hidden by the keyword `string` in front of it. -/
def mixedScript : TypeScript.Script :=
  TypeScript.parse (
    Text.ofString "export default [x,\x7b'na\\x6de':w('C'),component:()=>" ++
    Text.ofString "import(/**/'@/views/c')\x7d," ++
    Text.ofString "\x7bname:<string>'B',component:()=>import('@/views/b')\x7d]")

theorem extract_lists_described_mixedScript :
    ∃ array routes, routeArray mixedScript.root = .ok array ∧
      extract mixedScript.root = .ok routes ∧ Listed array.children routes ∧
      routes.map Route.name = [Text.ofString "C"] := by
  have evaluated : (extract mixedScript.root).toOption.map (fun routes => routes.map Route.name) =
      some [Text.ofString "C"] := by
    decide +kernel
  cases returned : extract mixedScript.root with
  | error error => simp [returned, Except.toOption] at evaluated
  | ok routes =>
      obtain ⟨array, resolved⟩ := exists_array_of_extract returned
      rw [returned] at evaluated
      exact ⟨array, routes, resolved, rfl, (extract_lists_described resolved returned).1,
        Option.some.inj evaluated⟩

/-- Besides the two faults of the file as a whole, nothing but a faulty element ends the
extraction without a list, and every faulty element does. -/
theorem extract_fails_on_faulty_only (root : Node) :
    ((∃ routes, extract root = .ok routes) ∨ extract root = .error .noDefaultExport ∨
        extract root = .error .noRouteArray ↔
      ∀ array, routeArray root = .ok array →
        ∀ element ∈ array.children, ∀ error, ¬ Faulty element error) ∧
    ∀ error, extract root = .error error → error = .noDefaultExport ∨ error = .noRouteArray ∨
      ∃ array, routeArray root = .ok array ∧
        ∃ element ∈ array.children, Faulty element error := by
  cases resolved : routeArray root with
  | error fault =>
      have failed : extract root = .error fault := by rw [extract, resolved]
      rw [failed]
      rcases routeArray_error resolved with rfl | rfl
      · simp
      · simp
  | ok array =>
      have account := extract_accounts resolved
      cases ended : extract root with
      | ok routes =>
          rw [ended] at account
          simpa using account.1
      | error error =>
          rw [ended] at account
          have unstructural : error ≠ .noDefaultExport ∧ error ≠ .noRouteArray := by
            obtain ⟨element, -, faulty⟩ := account
            cases faulty <;> simp
          refine ⟨iff_of_false ?_ ?_, ?_⟩
          · simp [unstructural]
          · intro sound
            obtain ⟨element, member, faulty⟩ := account
            exact sound array rfl element member error faulty
          · rintro _ ⟨⟩
            exact Or.inr (Or.inr ⟨array, rfl, account⟩)

def aliasedScript : TypeScript.Script :=
  TypeScript.parse (Text.ofString
    "export default [\x7bname:'a',component:()=>import('@/views/@/views/a')\x7d]")

theorem extract_aliasedScript : aliasedScript.malformed = false ∧
    extract aliasedScript.root =
      .error (.invalid [⟨Text.ofString "relative_path", .aliased⟩]) := by
  have evaluated : aliasedScript.malformed = false ∧
      (match extract aliasedScript.root with
        | .error (.invalid issues) => decide (issues = [⟨Text.ofString "relative_path", .aliased⟩])
        | _ => false) = true := by
    decide +kernel
  refine ⟨evaluated.1, ?_⟩
  have ended := evaluated.2
  split at ended
  · rename_i issues failed
    rw [failed, of_decide_eq_true ended]
  · cases ended

end ViewNaming.Route
