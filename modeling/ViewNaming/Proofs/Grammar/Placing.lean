import ViewNaming.Grammar.Rule
import ViewNaming.Proofs.Grammar.Scan

/-! Where nodes stand in the source. Whatever a rule reads, the reader only moves on, what is
still to be read is the source from its place on, and the nodes that were read stand in a row:
none is empty, and each begins behind the one in front of it.

A phrase is as long as what was read for it, so it takes a rule that always reads something. A
growing phrase also takes up its own seed, so it can only be closed where one was read. These two
conditions are checked on the rules of a grammar, not on their runs. -/
namespace ViewNaming

/-- Nodes between two places, the last one first. -/
def Row (low : Nat) : (high : Nat) → List Node → Prop
  | high, [] => low ≤ high
  | high, node :: earlier => node.start < node.stop ∧ node.stop ≤ high ∧ Row low node.start earlier

namespace Row

variable {low middle high higher : Nat} {nodes others : List Node}

theorem le (row : Row low high nodes) : low ≤ high := by
  induction nodes generalizing high with
  | nil => exact row
  | cons node nodes ih =>
      obtain ⟨nonempty, inside, earlier⟩ := row
      have := ih earlier
      omega

theorem mono (row : Row low high nodes) (further : high ≤ higher) : Row low higher nodes := by
  cases nodes with
  | nil => exact Nat.le_trans row further
  | cons node nodes => exact ⟨row.1, Nat.le_trans row.2.1 further, row.2.2⟩

theorem append (later : Row middle high nodes) (earlier : Row low middle others) :
    Row low high (nodes ++ others) := by
  induction nodes generalizing high with
  | nil => exact earlier.mono later
  | cons node nodes ih => exact ⟨later.1, later.2.1, ih later.2.2⟩

theorem mem (row : Row low high nodes) {node : Node} (member : node ∈ nodes) :
    node.start < node.stop ∧ node.stop ≤ high := by
  induction nodes generalizing high with
  | nil => simp at member
  | cons head nodes ih =>
      obtain ⟨nonempty, inside, earlier⟩ := row
      rcases List.mem_cons.1 member with rfl | later
      · exact ⟨nonempty, inside⟩
      · have := ih earlier later
        omega

theorem pairwise (row : Row low high nodes) :
    nodes.reverse.Pairwise fun earlier later => earlier.stop ≤ later.start := by
  rw [List.pairwise_reverse]
  induction nodes generalizing high with
  | nil => exact List.Pairwise.nil
  | cons node nodes ih =>
      exact List.Pairwise.cons (fun earlier member => (row.2.2.mem member).2) (ih row.2.2)

end Row

namespace Reader

variable {content : Text} {low : Nat} {growing advancing further : Bool} {reader next last : Reader}
  {read readNext : Reader → Option Reader}

/-- The reader has come this far in the source, and its nodes stand in a row from `low` on. -/
structure Placed (content : Text) (low : Nat) (reader : Reader) : Prop where
  rest : reader.rest = content.drop reader.position
  within : reader.position ≤ content.length
  row : Row low reader.position reader.nodes

structure Onward (content : Text) (low : Nat) (reader next : Reader) : Prop where
  placed : next.Placed content low
  le : reader.position ≤ next.position
  seedStart : next.seedStart = reader.seedStart
  seedText : next.seedText = reader.seedText

structure Seeded (content : Text) (low : Nat) (reader : Reader) : Prop where
  start : reader.seedStart = low
  text : reader.seedText = content.drop low
  lt : low < reader.position

theorem Placed.onward (placed : reader.Placed content low) : reader.Onward content low reader :=
  ⟨placed, Nat.le_refl _, rfl, rfl⟩

theorem Onward.trans (first : reader.Onward content low next)
    (second : next.Onward content low last) : reader.Onward content low last :=
  ⟨second.placed, Nat.le_trans first.le second.le, second.seedStart.trans first.seedStart,
    second.seedText.trans first.seedText⟩

theorem Seeded.onward (seeded : reader.Seeded content low)
    (onward : reader.Onward content low next) : next.Seeded content low :=
  ⟨onward.seedStart.trans seeded.start, onward.seedText.trans seeded.text,
    Nat.lt_of_lt_of_le seeded.lt onward.le⟩

theorem Placed.length_take (placed : reader.Placed content low) {start : Nat}
    (le : start ≤ reader.position) :
    ((content.drop start).take (reader.position - start)).length = reader.position - start := by
  have := placed.within
  rw [List.length_take, List.length_drop]
  omega

theorem Placed.take (placed : reader.Placed content low) {lexeme rest : Text}
    (whole : reader.rest = lexeme ++ rest) (nonempty : lexeme ≠ []) (kind : Kind) :
    reader.Onward content low (reader.take kind lexeme rest) ∧
      reader.position < (reader.take kind lexeme rest).position := by
  have longer : 0 < lexeme.length := List.length_pos_iff.2 nonempty
  have source : content.drop reader.position = lexeme ++ rest := placed.rest.symm.trans whole
  have length := congrArg List.length source
  rw [List.length_drop, List.length_append] at length
  have within := placed.within
  refine ⟨⟨⟨?_, ?_, ?_⟩, ?_, rfl, rfl⟩, ?_⟩
  · show rest = content.drop (reader.position + lexeme.length)
    rw [← List.drop_drop, source, List.drop_left]
  · show reader.position + lexeme.length ≤ content.length
    omega
  · exact ⟨Nat.lt_add_of_pos_right longer, Nat.le_refl _, placed.row⟩
  · exact Nat.le_add_right _ _
  · exact Nat.lt_add_of_pos_right longer

theorem Placed.scan (placed : reader.Placed content low) {scan : Scan} (proper : scan.Proper)
    {lexeme rest : Text} (found : scan reader.rest = some (lexeme, rest)) (kind : Kind) :
    reader.Onward content low (reader.take kind lexeme rest) ∧
      reader.position < (reader.take kind lexeme rest).position :=
  placed.take (proper _ _ _ found).1 (proper _ _ _ found).2 kind

theorem Placed.skipLayout (placed : reader.Placed content low) :
    reader.Onward content low reader.skipLayout := by
  rw [Reader.skipLayout]
  split
  · exact placed.onward
  · rename_i layout rest found
    -- Blank space is taken like a lexeme, but it leaves no node.
    have taken := (placed.scan (Scan.proper_run _) found (.phrase .comment)).1
    exact ⟨⟨taken.placed.rest, taken.placed.within, placed.row.mono taken.le⟩, taken.le, rfl, rfl⟩

theorem Placed.skipWithin (bound : Text) (placed : reader.Placed content low) :
    reader.Onward content low (skipWithin bound reader) := by
  induction bound generalizing reader with
  | nil => exact placed.onward
  | cons _ bound ih =>
      have blank := placed.skipLayout
      rw [Reader.skipWithin]
      split
      · exact blank
      · rename_i found
        have taken := (blank.placed.scan Scan.proper_comment found (.phrase .comment)).1
        exact blank.trans (taken.trans (ih taken.placed))

theorem Placed.skip (placed : reader.Placed content low) :
    reader.Onward content low reader.skip := placed.skipWithin _

theorem Placed.endLineWithin {reading : Reading} {bound : Text} (placed : reader.Placed content low)
    (found : endLineWithin reading bound reader = some next) : reader.Onward content low next := by
  induction bound generalizing reader with
  | nil =>
      rw [Reader.endLineWithin] at found
      split at found
      · cases found
        exact placed.onward
      · cases found
  | cons _ bound ih =>
      rw [Reader.endLineWithin] at found
      split at found
      · cases found
        exact placed.onward
      · cases found
      · dsimp only at found
        split at found
        · cases found
        · rename_i comment
          have blank := placed.skipLayout
          have taken := (blank.placed.scan Scan.proper_comment comment (.phrase .comment)).1
          exact blank.trans (taken.trans (ih taken.placed found))

/-- Ways of reading that go on along the source and keep the nodes in a row. Where a phrase is
growing, they start behind a seed, and the advancing ones take at least one code point. -/
def Proceeds (content : Text) (growing advancing : Bool) (read : Reader → Option Reader) : Prop :=
  ∀ low reader next, reader.Placed content low → (growing = true → reader.Seeded content low) →
    read reader = some next →
    reader.Onward content low next ∧ (advancing = true → reader.position < next.position)

namespace Proceeds

theorem anywhere (proceeds : Proceeds content false advancing read) :
    Proceeds content growing advancing read :=
  fun low reader next placed _ => proceeds low reader next placed (by simp)

theorem stay : Proceeds content growing false some := by
  intro low reader next placed _ found
  cases found
  exact ⟨placed.onward, by simp⟩

theorem lexeme {scan : Scan} (proper : scan.Proper) (kind : Kind) :
    Proceeds content growing true (lexeme kind scan) := by
  intro low reader next placed _ found
  obtain ⟨⟨lexeme, rest⟩, scanned, rfl⟩ := Option.map_eq_some_iff.1 found
  obtain ⟨onward, lt⟩ := placed.scan proper scanned kind
  exact ⟨onward, fun _ => lt⟩

theorem skip (proceeds : Proceeds content growing advancing read) :
    Proceeds content growing advancing fun reader => read reader.skip := by
  intro low reader next placed seeded found
  have skipped := placed.skip
  obtain ⟨onward, advances⟩ := proceeds low _ next skipped.placed
    (fun grown => (seeded grown).onward skipped) found
  exact ⟨skipped.trans onward, fun h => Nat.lt_of_le_of_lt skipped.le (advances h)⟩

theorem bind (first : Proceeds content growing advancing read)
    (second : Proceeds content growing further readNext) :
    Proceeds content growing (advancing || further) fun reader => (read reader).bind readNext := by
  intro low reader next placed seeded found
  obtain ⟨middle, here, there⟩ := Option.bind_eq_some_iff.1 found
  obtain ⟨onward, advances⟩ := first low reader middle placed seeded here
  obtain ⟨onward', advances'⟩ := second low middle next onward.placed
    (fun grown => (seeded grown).onward onward) there
  refine ⟨onward.trans onward', ?_⟩
  rintro moves
  rcases Bool.or_eq_true_iff.1 moves with moves | moves
  · exact Nat.lt_of_lt_of_le (advances moves) onward'.le
  · exact Nat.lt_of_le_of_lt onward.le (advances' moves)

theorem orElse (first : Proceeds content growing advancing read)
    (second : Proceeds content growing further readNext) :
    Proceeds content growing (advancing && further) fun reader =>
      match read reader with
      | some next => some next
      | none => readNext reader := by
  intro low reader next placed seeded found
  dsimp only at found
  split at found
  · rename_i here
    cases found
    obtain ⟨onward, advances⟩ := first low reader _ placed seeded here
    exact ⟨onward, fun both => advances (Bool.and_eq_true_iff.1 both).1⟩
  · obtain ⟨onward, advances⟩ := second low reader _ placed seeded found
    exact ⟨onward, fun both => advances (Bool.and_eq_true_iff.1 both).2⟩

theorem optional (proceeds : Proceeds content growing advancing read) :
    Proceeds content growing false fun reader => some ((read reader).getD reader) := by
  intro low reader next placed seeded found
  have ended := Option.some.inj found
  cases here : read reader with
  | none =>
      rw [here, Option.getD_none] at ended
      rw [← ended]
      exact ⟨placed.onward, by simp⟩
  | some middle =>
      rw [here, Option.getD_some] at ended
      rw [← ended]
      exact ⟨(proceeds low reader middle placed seeded here).1, by simp⟩

theorem whenever (proceeds : Proceeds content growing advancing read) (stops : Reader → Bool) :
    Proceeds content growing advancing fun reader =>
      if stops reader then none else read reader := by
  intro low reader next placed seeded found
  dsimp only at found
  split at found
  · cases found
  · exact proceeds low reader next placed seeded found

theorem repeatWhile (proceeds : Proceeds content growing advancing read) (fuel : Nat)
    (placed : reader.Placed content low) (seeded : growing = true → reader.Seeded content low) :
    reader.Onward content low (repeatWhile read fuel reader) := by
  induction fuel generalizing reader with
  | zero => exact placed.onward
  | succ fuel ih =>
      rw [Reader.repeatWhile]
      split
      · exact placed.onward
      · rename_i next found
        split
        · exact placed.onward
        · have onward := (proceeds low reader next placed seeded found).1
          exact onward.trans (ih onward.placed fun grown => (seeded grown).onward onward)

theorem close (proceeds : Proceeds content false true read) (phrase : Phrase) :
    Proceeds content growing true fun reader =>
      (read reader.skip.enter).map (reader.skip.close phrase) := by
  intro low reader next placed _ found
  obtain ⟨inner, here, rfl⟩ := Option.map_eq_some_iff.1 found
  have skipped := placed.skip
  have entered : reader.skip.enter.Placed content reader.skip.position :=
    ⟨skipped.placed.rest, skipped.placed.within, Nat.le_refl _⟩
  obtain ⟨onward, advances⟩ := proceeds _ _ inner entered (by simp) here
  have lt : reader.skip.position < inner.position := advances rfl
  have le := skipped.le
  have length := onward.placed.length_take (Nat.le_of_lt lt)
  refine ⟨⟨⟨onward.placed.rest, onward.placed.within, ?_, ?_, skipped.placed.row⟩, ?_,
    onward.seedStart.trans skipped.seedStart, onward.seedText.trans skipped.seedText⟩, fun _ => ?_⟩
  all_goals
    simp only [Reader.close, Node.stop, Node.start, Node.text, skipped.placed.rest, length]
    omega

theorem assign (proceeds : Proceeds content growing advancing read) (role : Role) :
    Proceeds content growing advancing fun reader => (read reader).map (assign role) := by
  intro low reader next placed seeded found
  obtain ⟨middle, here, rfl⟩ := Option.map_eq_some_iff.1 found
  obtain ⟨onward, advances⟩ := proceeds low reader middle placed seeded here
  rw [Reader.assign]
  split
  · exact ⟨onward, advances⟩
  · rename_i node nodes listed
    have row := onward.placed.row
    rw [listed] at row
    cases node
    exact ⟨⟨⟨onward.placed.rest, onward.placed.within, row⟩, onward.le, onward.seedStart,
      onward.seedText⟩, advances⟩

theorem gather (proceeds : Proceeds content true advancing read) (phrase : Phrase)
    (seed : Option Role) :
    Proceeds content true advancing fun reader => (read reader).map (gather phrase seed) := by
  intro low reader next placed seeded found
  obtain ⟨middle, here, rfl⟩ := Option.map_eq_some_iff.1 found
  obtain ⟨onward, advances⟩ := proceeds low reader middle placed seeded here
  obtain ⟨start, text, lt⟩ := (seeded rfl).onward onward
  have length := onward.placed.length_take (Nat.le_of_lt lt)
  refine ⟨⟨⟨onward.placed.rest, onward.placed.within, ?_, ?_, ?_⟩, onward.le, onward.seedStart,
    onward.seedText⟩, advances⟩
  · simp only [Node.stop, Node.start, Node.text, start, text, length]
    omega
  · simp only [Reader.gather, Node.stop, Node.start, Node.text, start, text, length]
    omega
  · exact Nat.le_of_eq start.symm

theorem endLine (reading : Reading) : Proceeds content growing false (endLine reading) :=
  fun _ _ _ placed _ found => ⟨placed.endLineWithin found, by simp⟩

theorem aside (proceeds : Proceeds content growing advancing read) (ends arrows : Reader → Bool)
    (endsAfter arrowsAfter : Reader → Reader → Bool) :
    Proceeds content growing advancing fun reader =>
      (read { reader with statementsEnd := ends reader, typedArrows := arrows reader }).map
        fun next => { next with
          statementsEnd := endsAfter reader next
          typedArrows := arrowsAfter reader next } := by
  intro low reader next placed seeded found
  obtain ⟨middle, here, rfl⟩ := Option.map_eq_some_iff.1 found
  have placed' : Placed content low
      { reader with statementsEnd := ends reader, typedArrows := arrows reader } :=
    ⟨placed.rest, placed.within, placed.row⟩
  obtain ⟨onward, advances⟩ := proceeds low _ middle placed'
    (fun grown => ⟨(seeded grown).start, (seeded grown).text, (seeded grown).lt⟩) here
  exact ⟨⟨⟨onward.placed.rest, onward.placed.within, onward.placed.row⟩, onward.le,
    onward.seedStart, onward.seedText⟩, advances⟩

theorem grow (seed : Proceeds content false true read)
    (growth : Proceeds content true advancing readNext) (reading : Reading) (fuel : Nat) :
    Proceeds content growing true fun reader =>
      (read { reader.skip.enter with
        seedStart := reader.skip.position, seedText := reader.skip.rest }).map fun seeded =>
          let grown := Reader.repeatWhile
            (fun grown =>
              if grown.statementsEnd && (grown.endLine reading).isSome then none
              else readNext grown)
            fuel { seeded with seedStart := reader.skip.position, seedText := reader.skip.rest }
          { grown with
            nodes := grown.nodes ++ reader.skip.nodes
            seedStart := reader.seedStart
            seedText := reader.seedText } := by
  intro low reader next placed _ found
  obtain ⟨seeded, here, rfl⟩ := Option.map_eq_some_iff.1 found
  have skipped := placed.skip
  have entered : Placed content reader.skip.position { reader.skip.enter with
      seedStart := reader.skip.position, seedText := reader.skip.rest } :=
    ⟨skipped.placed.rest, skipped.placed.within, Nat.le_refl _⟩
  obtain ⟨onward, advances⟩ := seed _ _ seeded entered (by simp) here
  have lt : reader.skip.position < seeded.position := advances rfl
  have planted : Placed content reader.skip.position
      { seeded with seedStart := reader.skip.position, seedText := reader.skip.rest } :=
    ⟨onward.placed.rest, onward.placed.within, onward.placed.row⟩
  have grown := (growth.whenever fun grown =>
      grown.statementsEnd && (grown.endLine reading).isSome).repeatWhile fuel planted
    (fun _ => ⟨rfl, skipped.placed.rest, lt⟩)
  have further : reader.position < _ :=
    Nat.lt_of_le_of_lt skipped.le (Nat.lt_of_lt_of_le lt grown.le)
  exact ⟨⟨⟨grown.placed.rest, grown.placed.within, grown.placed.row.append skipped.placed.row⟩,
    Nat.le_of_lt further, rfl, rfl⟩, fun _ => further⟩

end Proceeds

end Reader

namespace Rule

variable {σ : Type} {content : Text}

/-- Whether reading takes at least one code point, given that each symbol does. -/
def advances : Rule σ → Bool
  | mark _ _ | tightMark _ | word _ | leaf _ _ | tightLeaf _ _ | symbol _ => true
  | both first second => first.advances || second.advances
  | either first second => first.advances && second.advances
  | phrase _ rule | role _ rule | wrap _ _ rule | enclosed rule | statements rule | untyped rule =>
      rule.advances
  | grow _ seed _ => seed.advances
  | nothing | maybe _ | many _ | peek _ | forbid _ | lineEnd _ | typed => false

/-- Lexemes are not empty, phrases and seeds always advance, and only what is growing is
gathered. -/
def WellFormed (growing : Bool) : Rule σ → Prop
  | mark spelling _ | tightMark spelling | word spelling => Text.ofString spelling ≠ []
  | leaf _ scan | tightLeaf _ scan => scan.Proper
  | both first second | either first second =>
      first.WellFormed growing ∧ second.WellFormed growing
  | maybe rule | many rule | role _ rule | enclosed rule | statements rule | untyped rule =>
      rule.WellFormed growing
  | phrase _ rule => rule.advances = true ∧ rule.WellFormed false
  | grow _ seed growth =>
      seed.advances = true ∧ seed.WellFormed false ∧ growth.WellFormed true
  | wrap _ _ rule => growing = true ∧ rule.WellFormed growing
  | nothing | symbol _ | peek _ | forbid _ | lineEnd _ | typed => True

def Sound (grammar : σ → Rule σ) : Prop :=
  ∀ symbol, (grammar symbol).WellFormed false ∧ (grammar symbol).advances = true

theorem proceeds_readMark {spelling : String} (nonempty : Text.ofString spelling ≠ [])
    (notBefore : String) (growing : Bool) :
    Reader.Proceeds content growing true (readMark spelling notBefore) := by
  intro low reader next placed _ found
  rw [readMark] at found
  split at found
  · cases found
  · rename_i rest after
    split at found
    · cases found
    · cases found
      obtain ⟨onward, lt⟩ :=
        placed.take (Text.after?_eq_some_iff.1 after) nonempty (.token spelling)
      exact ⟨onward, fun _ => lt⟩

theorem proceeds_read {grammar : σ → Rule σ} (sound : Sound grammar) (fuel : Nat)
    (rule : Rule σ) {growing : Bool} (wellFormed : rule.WellFormed growing) :
    Reader.Proceeds content growing rule.advances (read grammar fuel rule) := by
  -- Symbols lead to other rules, so the induction is on the fuel and not on the rule.
  induction fuel generalizing rule growing with
  | zero =>
      intro low reader next placed seeded found
      cases found
  | succ fuel ih =>
      cases rule with
      | nothing => exact Reader.Proceeds.stay
      | mark spelling notBefore => exact (proceeds_readMark wellFormed notBefore growing).skip
      | tightMark spelling => exact proceeds_readMark wellFormed "" growing
      | word spelling =>
          exact (Reader.Proceeds.lexeme (Scan.proper_word wellFormed) (.token spelling)).skip
      | leaf kind scan => exact (Reader.Proceeds.lexeme wellFormed (.phrase kind)).skip
      | tightLeaf kind scan => exact Reader.Proceeds.lexeme wellFormed (.phrase kind)
      | both first second => exact (ih first wellFormed.1).bind (ih second wellFormed.2)
      | either first second => exact (ih first wellFormed.1).orElse (ih second wellFormed.2)
      | maybe rule => exact (ih rule wellFormed).optional
      | many rule =>
          intro low reader next placed seeded found
          cases found
          exact ⟨(ih rule wellFormed).repeatWhile fuel placed seeded, nofun⟩
      | phrase kind rule =>
          obtain ⟨advances, wellFormed⟩ := wellFormed
          have inner := ih rule wellFormed
          rw [advances] at inner
          rw [show (phrase kind rule).advances = true from advances]
          exact inner.close kind
      | role part rule => exact (ih rule wellFormed).assign part
      | symbol name =>
          obtain ⟨wellFormed, advances⟩ := sound name
          have inner := ih (grammar name) wellFormed
          rw [advances] at inner
          exact inner.anywhere
      | grow reading seed growth =>
          obtain ⟨advances, seedFormed, growthFormed⟩ := wellFormed
          have inner := ih seed seedFormed
          rw [advances] at inner
          rw [show (grow reading seed growth).advances = true from advances]
          exact inner.grow (ih growth growthFormed) reading fuel
      | wrap kind seed rule =>
          obtain ⟨rfl, wellFormed⟩ := wellFormed
          exact (ih rule wellFormed).gather kind seed
      | peek rule =>
          intro low reader next placed seeded found
          obtain ⟨_, -, rfl⟩ := Option.map_eq_some_iff.1 found
          exact ⟨placed.onward, nofun⟩
      | forbid rule =>
          intro low reader next placed seeded found
          rw [read] at found
          split at found
          · cases found
          · cases found
            exact ⟨placed.onward, nofun⟩
      | lineEnd reading => exact Reader.Proceeds.endLine reading
      | enclosed rule =>
          exact (ih rule wellFormed).aside (fun _ => false) Reader.typedArrows
            (fun reader _ => reader.statementsEnd) (fun _ next => next.typedArrows)
      | statements rule =>
          exact (ih rule wellFormed).aside (fun _ => true) (fun _ => true)
            (fun reader _ => reader.statementsEnd) (fun reader _ => reader.typedArrows)
      | untyped rule =>
          exact (ih rule wellFormed).aside Reader.statementsEnd (fun _ => false)
            (fun _ next => next.statementsEnd) (fun reader _ => reader.typedArrows)
      | typed =>
          intro low reader next placed seeded found
          rw [read] at found
          split at found
          · cases found
            exact ⟨placed.onward, nofun⟩
          · cases found

end Rule

end ViewNaming
