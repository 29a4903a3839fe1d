import ViewNaming.Path
import ViewNaming.Proofs.Text.Pieces
import ViewNaming.Proofs.Text.Trim

/-! Excluded names. A name excludes the paths that have it as a whole segment, so only names
without separators ever exclude anything, and only which names there are counts. Names may
be given one by one or with commas between, which comes to the same, because a comma cuts
a value just where two values would meet. -/
namespace ViewNaming

theorem isSeparator_iff {c : CodePoint} : isSeparator c = true ↔ c = '/' ∨ c = '\\' := by
  simp [isSeparator]

theorem isExcluded_iff {relativePath : Text} {excluded : List Text} :
    isExcluded relativePath excluded = true ↔
      ∃ name ∈ excluded, name ∈ relativePath.pieces isSeparator := by
  simp [isExcluded]

theorem isExcluded_cons_of_separator {name : Text} {c : CodePoint} (member : c ∈ name)
    (apart : isSeparator c = true) (relativePath : Text) (excluded : List Text) :
    isExcluded relativePath (name :: excluded) = isExcluded relativePath excluded := by
  have outside : name ∉ relativePath.pieces isSeparator := by
    intro piece
    have free := (Text.mem_pieces_iff.1 piece).1 c member
    rw [apart] at free
    exact Bool.noConfusion free
  rw [Bool.eq_iff_iff, isExcluded_iff, isExcluded_iff]
  simp [outside]

theorem free_iff {name : Text} :
    (∀ c ∈ name, isSeparator c = false) ↔
      CodePoint.ofChar '/' ∉ name ∧ CodePoint.ofChar '\\' ∉ name := by
  simp only [← Bool.not_eq_true, isSeparator_iff, not_or]
  constructor
  · intro each
    exact ⟨fun slash => (each _ slash).1 rfl, fun backslash => (each _ backslash).2 rfl⟩
  · rintro ⟨slash, backslash⟩ c member
    exact ⟨fun same => slash (same ▸ member), fun same => backslash (same ▸ member)⟩

theorem apart_iff {front back : Text} :
    Text.Apart isSeparator front back ↔
      (∀ c ∈ front.getLast?, c = '/' ∨ c = '\\') ∧ ∀ c ∈ back.head?, c = '/' ∨ c = '\\' := by
  simp only [← isSeparator_iff]
  exact ⟨fun sides => ⟨sides.behind, sides.ahead⟩, fun sides => ⟨sides.1, sides.2⟩⟩

/-- A path is excluded exactly if one of the names stands in it between separators or the
ends of the path, and has none in it. Neither the order of the names nor their number
matters, and a name with a separator in it changes nothing. -/
theorem isExcluded_by_segment (relativePath : Text) (excluded : List Text) :
    (isExcluded relativePath excluded = true ↔
      ∃ name ∈ excluded, (CodePoint.ofChar '/' ∉ name ∧ CodePoint.ofChar '\\' ∉ name) ∧
        ∃ front back, relativePath = front ++ name ++ back ∧
          (∀ c ∈ front.getLast?, c = '/' ∨ c = '\\') ∧ ∀ c ∈ back.head?, c = '/' ∨ c = '\\') ∧
    (∀ others, (∀ name, name ∈ others ↔ name ∈ excluded) →
      isExcluded relativePath others = isExcluded relativePath excluded) ∧
    ∀ name, CodePoint.ofChar '/' ∈ name ∨ CodePoint.ofChar '\\' ∈ name →
      isExcluded relativePath (name :: excluded) = isExcluded relativePath excluded := by
  refine ⟨?_, ?_, ?_⟩
  · simp only [isExcluded_iff, Text.mem_pieces_iff, free_iff, apart_iff]
  · intro others same
    rw [Bool.eq_iff_iff, isExcluded_iff, isExcluded_iff]
    simp only [same]
  · rintro name (slash | backslash)
    · exact isExcluded_cons_of_separator slash (by decide) relativePath excluded
    · exact isExcluded_cons_of_separator backslash (by decide) relativePath excluded

def mixedPath : Text := Text.ofString "admin//error\\404"

theorem isExcluded_by_segment_mixedPath :
    isExcluded mixedPath [Text.ofString "error"] = true ∧
    isExcluded mixedPath [Text.ofString "error", Text.ofString "error"] =
      isExcluded mixedPath [Text.ofString "error"] ∧
    CodePoint.ofChar '\\' ∈ Text.ofString "error\\404" ∧
    isExcluded mixedPath [Text.ofString "error\\404", Text.ofString "error"] =
      isExcluded mixedPath [Text.ofString "error"] := by
  obtain ⟨cut, only, separated⟩ := isExcluded_by_segment mixedPath [Text.ofString "error"]
  have holds : CodePoint.ofChar '\\' ∈ Text.ofString "error\\404" := by decide
  refine ⟨cut.2 ⟨_, List.mem_singleton_self _, ⟨by decide, by decide⟩, Text.ofString "admin//",
    Text.ofString "\\404", rfl, by decide, by decide⟩, only _ (by simp), holds,
    separated _ (Or.inr holds)⟩

example : isExcluded mixedPath [[]] = true ∧
    isExcluded mixedPath [Text.ofString "err", Text.ofString "40"] = false := by decide

/-- A name as a list of names can have it: trimmed, and without a comma. -/
structure Listable (name : Text) : Prop where
  solid : name.Solid
  undivided : CodePoint.ofChar ',' ∉ name

theorem Listable.ne_nil {name : Text} (listable : Listable name) : name ≠ [] := by
  obtain ⟨c, rest, rfl, -⟩ := listable.solid.first
  exact List.cons_ne_nil c rest

theorem listable_of_mem_listedNames {value name : Text} (member : name ∈ listedNames value) :
    Listable name := by
  obtain ⟨stripped, filled⟩ := List.mem_filter.1 member
  obtain ⟨piece, inside, rfl⟩ := List.mem_map.1 stripped
  refine ⟨Text.solid_strip (by simpa using filled), ?_⟩
  intro comma
  obtain ⟨left, right, -, -, whole⟩ := Text.exists_blank_sides piece
  have within : CodePoint.ofChar ',' ∈ piece := by
    rw [whole]
    simp [comma]
  have free := (Text.mem_pieces_iff.1 inside).1 _ within
  exact absurd free (by decide)

theorem excludedNames_singleton (value : Text) : excludedNames [value] = listedNames value :=
  List.flatMap_singleton listedNames value

theorem listable_of_mem_excludedNames {values : List Text} {name : Text}
    (member : name ∈ excludedNames values) : Listable name := by
  obtain ⟨value, -, listed⟩ := List.mem_flatMap.1 member
  exact listable_of_mem_listedNames listed

theorem listedNames_of_undivided {value : Text} (undivided : CodePoint.ofChar ',' ∉ value) :
    listedNames value = if value.strip = [] then [] else [value.strip] := by
  have whole : value.pieces (fun c => c = ',') = [value] := by
    apply Text.pieces_of_free
    intro c member
    have other : c ≠ ',' := fun same => undivided (same ▸ member)
    simpa using other
  rw [listedNames, whole, List.map_singleton]
  split
  · rename_i gone
    rw [gone]
    rfl
  · rename_i filled
    simp [filled]

theorem Listable.listedNames_eq {name : Text} (listable : Listable name) :
    listedNames name = [name] := by
  rw [listedNames_of_undivided listable.undivided, Text.strip_of_solid listable.solid,
    if_neg listable.ne_nil]

theorem listedNames_joinWith (values : List Text) :
    listedNames (Text.joinWith (Text.ofString ",") values) = excludedNames values := by
  by_cases filled : values = []
  · subst filled
    rfl
  · have cut : (Text.joinWith (Text.ofString ",") values).pieces (fun c => c = ',') =
        values.flatMap (Text.pieces fun c => c = ',') :=
      Text.pieces_joinWith (by decide) filled
    rw [listedNames, cut, List.map_flatMap, List.filter_flatMap]
    rfl

/-- Values that are given one by one and values with commas between say the same, value by
value, and a value without a comma says what is left of it when it is trimmed. The names that
come out are fit to be given again, and say just themselves. -/
theorem excludedNames_by_commas (values others : List Text) :
    excludedNames values = excludedNames [Text.joinWith (Text.ofString ",") values] ∧
    excludedNames (values ++ others) = excludedNames values ++ excludedNames others ∧
    excludedNames (excludedNames values) = excludedNames values ∧
    (∀ name ∈ excludedNames values, name ≠ [] ∧ CodePoint.ofChar ',' ∉ name ∧
      (∀ c ∈ name.head?, c.isBlank = false) ∧ ∀ c ∈ name.getLast?, c.isBlank = false) ∧
    ∀ value, CodePoint.ofChar ',' ∉ value →
      excludedNames [value] = if value.strip = [] then [] else [value.strip] := by
  refine ⟨?_, excludedNames_append values others, ?_, ?_, ?_⟩
  · rw [excludedNames_singleton, listedNames_joinWith]
  · have each : ∀ name ∈ excludedNames values, listedNames name = [name] :=
      fun name member => (listable_of_mem_excludedNames member).listedNames_eq
    rw [excludedNames, List.flatMap_congr each, List.flatMap_singleton']
  · intro name member
    have listable := listable_of_mem_excludedNames member
    refine ⟨listable.ne_nil, listable.undivided, ?_, ?_⟩
    · obtain ⟨c, rest, rfl, dark⟩ := listable.solid.first
      simpa using dark
    · obtain ⟨front, c, rfl, dark⟩ := listable.solid.last
      simpa using dark
  · intro value undivided
    rw [excludedNames_singleton, listedNames_of_undivided undivided]

def looseValues : List Text :=
  [Text.ofString " error ,my demo", [], Text.ofString ", ,", Text.ofString "\tlogin"]

theorem excludedNames_by_commas_looseValues :
    excludedNames looseValues =
      [Text.ofString "error", Text.ofString "my demo", Text.ofString "login"] ∧
    excludedNames [Text.ofString " error ,my demo,,, ,,\tlogin"] = excludedNames looseValues ∧
    (Text.ofString "my demo").head? = some (CodePoint.ofChar 'm') ∧
    (CodePoint.ofChar 'm').isBlank = false ∧
    excludedNames [Text.ofString " a b\n"] = [Text.ofString "a b"] := by
  have listed : excludedNames looseValues =
      [Text.ofString "error", Text.ofString "my demo", Text.ofString "login"] := by decide
  obtain ⟨joined, -, -, names, single⟩ := excludedNames_by_commas looseValues []
  obtain ⟨-, -, first, -⟩ := names (Text.ofString "my demo") (by rw [listed]; decide)
  exact ⟨listed, joined.symm, rfl, first _ rfl, single (Text.ofString " a b\n") (by decide)⟩

end ViewNaming
