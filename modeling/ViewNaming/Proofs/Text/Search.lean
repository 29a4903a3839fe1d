import ViewNaming.Text.Basic

/-! Leftmost places. A search stops at the first occurrence of its needle, so
what stands in front of the place found holds no other one. The needles used
here begin with a code point that does not come again in them; for such a needle
the converse holds too, because no two of its occurrences overlap.

Texts are put together from parts, and an occurrence in the whole has to be
traced to one of the parts. This works at a seam: a code point that the needle
does not hold. -/
namespace ViewNaming.Text

@[simp] theorem after?_append (lead rest : Text) : after? lead (lead ++ rest) = some rest :=
  after?_eq_some_iff.2 rfl

theorem eq_append_of_seam {c : CodePoint} {front back lead rest : Text} (outside : c ∉ lead)
    (equal : front ++ c :: back = lead ++ rest) :
    ∃ middle, front = lead ++ middle ∧ middle ++ c :: back = rest := by
  rcases List.append_eq_append_iff.1 equal with ⟨extra, split, shared⟩ | ⟨middle, split, shared⟩
  · cases extra with
    | nil => exact ⟨[], by simpa using split.symm, shared⟩
    | cons d extra =>
        obtain ⟨rfl, -⟩ := List.cons.inj shared
        exact absurd (by simp [split]) outside
  · exact ⟨middle, split, shared.symm⟩

theorem eq_append_of_seam_cons {c d : CodePoint} {front back rest : Text} (other : c ≠ d)
    (equal : front ++ c :: back = d :: rest) :
    ∃ middle, front = d :: middle ∧ middle ++ c :: back = rest := by
  have outside : c ∉ [d] := by simpa using other
  exact eq_append_of_seam outside (show front ++ c :: back = [d] ++ rest from equal)

theorem eq_append_of_seam_end {c : CodePoint} {front back rest tail : Text} (outside : c ∉ tail)
    (equal : front ++ c :: back = rest ++ tail) :
    ∃ middle, back = middle ++ tail ∧ front ++ c :: middle = rest := by
  have reversed : back.reverse ++ c :: front.reverse = tail.reverse ++ rest.reverse := by
    simpa using congrArg List.reverse equal
  obtain ⟨middle, split, shared⟩ := eq_append_of_seam (by simpa using outside) reversed
  refine ⟨middle.reverse, ?_, ?_⟩
  · simpa using congrArg List.reverse split
  · simpa using congrArg List.reverse shared

theorem infix_of_seam {c : CodePoint} {front back needle : Text} (outside : c ∉ needle)
    (occurs : needle <:+: front ++ c :: back) : needle <:+: front ∨ needle <:+: back := by
  obtain ⟨left, right, equal⟩ := occurs
  rcases List.append_eq_append_iff.1 equal with ⟨extra, split, _⟩ | ⟨extra, split, shared⟩
  · exact Or.inl ⟨left, extra, split.symm⟩
  · cases extra with
    | nil => exact Or.inl ⟨left, [], by simpa using split⟩
    | cons d extra =>
        obtain ⟨rfl, rfl⟩ := List.cons.inj shared
        obtain ⟨middle, rfl, -⟩ := eq_append_of_seam_end outside split.symm
        exact Or.inr ⟨middle, right, rfl⟩

theorem infix_of_infix_cons {c : CodePoint} {text needle : Text} (outside : c ∉ needle)
    (occurs : needle <:+: c :: text) : needle <:+: text := by
  rcases infix_of_seam outside (show needle <:+: [] ++ c :: text from occurs) with gone | within
  · exact gone.trans List.nil_infix
  · exact within

theorem not_infix_of_not_mem {c : CodePoint} {needle text : Text} (holds : c ∈ needle)
    (lacks : c ∉ text) : ¬ needle <:+: text :=
  fun occurs => lacks (occurs.subset holds)

theorem not_infix_of_breakOn? {needle text front rest : Text} (nonempty : needle ≠ [])
    (found : breakOn? needle text = some (front, rest)) : ¬ needle <:+: front := by
  induction text generalizing front with
  | nil =>
      simp only [breakOn?, Option.map_eq_some_iff, Prod.mk.injEq] at found
      obtain ⟨_, _, rfl, _⟩ := found
      simpa using nonempty
  | cons c text ih =>
      simp only [breakOn?] at found
      split at found
      · simp only [Option.some.injEq, Prod.mk.injEq] at found
        obtain ⟨rfl, _⟩ := found
        simpa using nonempty
      · rename_i missing
        simp only [Option.map_eq_some_iff, Prod.mk.injEq, Prod.exists] at found
        obtain ⟨inner, behind, later, rfl, rfl⟩ := found
        rw [List.infix_cons_iff]
        rintro (⟨more, start⟩ | occurs)
        · -- The needle would start at `c`, where the search did not find it.
          have whole : c :: text = needle ++ (more ++ needle ++ behind) := by
            rw [breakOn?_append later, ← List.append_assoc, ← List.append_assoc, start]
            simp
          rw [whole, after?_append] at missing
          simp at missing
        · exact ih later occurs

theorem not_mem_of_breakOn? {c : CodePoint} {text front rest : Text}
    (found : breakOn? [c] text = some (front, rest)) : c ∉ front := by
  intro member
  obtain ⟨left, right, rfl⟩ := List.append_of_mem member
  exact not_infix_of_breakOn? (List.cons_ne_nil c []) found ⟨left, right, by simp⟩

theorem breakOn?_of_not_infix {c : CodePoint} {needle front rest : Text} (fresh : c ∉ needle)
    (absent : ¬ (c :: needle) <:+: front) :
    breakOn? (c :: needle) (front ++ c :: needle ++ rest) = some (front, rest) := by
  induction front with
  | nil =>
      have here : after? (c :: needle) (c :: (needle ++ rest)) = some rest :=
        after?_append (c :: needle) rest
      simp [breakOn?, here]
  | cons d front ih =>
      have missing : after? (c :: needle) (d :: (front ++ c :: needle ++ rest)) = none := by
        rw [Option.eq_none_iff_forall_ne_some]
        intro more start
        obtain ⟨rfl, tail⟩ := List.cons.inj (after?_eq_some_iff.1 start)
        rw [List.append_assoc] at tail
        obtain ⟨middle, split, _⟩ := eq_append_of_seam fresh tail
        exact absent ⟨[], middle, by simp [split]⟩
      have later := ih fun occurs => absent (List.infix_cons occurs)
      simp only [List.cons_append, breakOn?] at *
      rw [missing, later]
      rfl

theorem breakOn?_singleton {c : CodePoint} {front rest : Text} (absent : c ∉ front) :
    breakOn? [c] (front ++ c :: rest) = some (front, rest) := by
  have lone : ¬ [c] <:+: front := not_infix_of_not_mem List.mem_cons_self absent
  simpa using breakOn?_of_not_infix List.not_mem_nil lone

theorem eq_of_first {c : CodePoint} {front front' rest rest' : Text} (absent : c ∉ front)
    (absent' : c ∉ front') (same : front ++ c :: rest = front' ++ c :: rest') :
    front = front' ∧ rest = rest' := by
  have found : breakOn? [c] (front ++ c :: rest) = some (front, rest) := breakOn?_singleton absent
  rw [same, breakOn?_singleton absent', Option.some.injEq, Prod.mk.injEq] at found
  exact ⟨found.1.symm, found.2.symm⟩

/-- The needle stands at this place and at none before it. -/
def FirstAt (needle text : Text) (place : Nat) : Prop :=
  needle <+: text.drop place ∧ ∀ earlier < place, ¬ needle <+: text.drop earlier

theorem firstAt_zero {needle text : Text} : FirstAt needle text 0 ↔ needle <+: text := by
  simp [FirstAt]

theorem firstAt_succ {c : CodePoint} {needle text : Text} {place : Nat} :
    FirstAt needle (c :: text) (place + 1) ↔
      ¬ needle <+: c :: text ∧ FirstAt needle text place := by
  constructor
  · rintro ⟨here, none⟩
    refine ⟨none 0 (Nat.zero_lt_succ place), here, ?_⟩
    intro earlier before
    exact none (earlier + 1) (Nat.succ_lt_succ before)
  · rintro ⟨missing, here, none⟩
    refine ⟨here, ?_⟩
    intro earlier before
    cases earlier with
    | zero => exact missing
    | succ earlier => exact none earlier (Nat.lt_of_succ_lt_succ before)

theorem after?_eq_none_iff {lead text : Text} : after? lead text = none ↔ ¬ lead <+: text := by
  rw [Option.eq_none_iff_forall_ne_some]
  constructor
  · rintro missing ⟨rest, equal⟩
    exact missing rest (after?_eq_some_iff.2 equal.symm)
  · intro absent rest found
    exact absent ⟨rest, (after?_eq_some_iff.1 found).symm⟩

theorem firstAt_of_breakOn? {needle text front rest : Text}
    (found : breakOn? needle text = some (front, rest)) : FirstAt needle text front.length := by
  induction text generalizing front with
  | nil =>
      simp only [breakOn?, Option.map_eq_some_iff, Prod.mk.injEq] at found
      obtain ⟨_, start, rfl, rfl⟩ := found
      exact firstAt_zero.2 ⟨_, (after?_eq_some_iff.1 start).symm⟩
  | cons c text ih =>
      simp only [breakOn?] at found
      split at found
      · rename_i start
        simp only [Option.some.injEq, Prod.mk.injEq] at found
        obtain ⟨rfl, rfl⟩ := found
        exact firstAt_zero.2 ⟨_, (after?_eq_some_iff.1 start).symm⟩
      · rename_i missing
        simp only [Option.map_eq_some_iff, Prod.mk.injEq, Prod.exists] at found
        obtain ⟨inner, behind, later, rfl, rfl⟩ := found
        exact firstAt_succ.2 ⟨after?_eq_none_iff.1 missing, ih later⟩

theorem exists_breakOn? (needle front rest : Text) :
    ∃ before behind, breakOn? needle (front ++ needle ++ rest) = some (before, behind) ∧
      rest <:+ behind := by
  induction front with
  | nil =>
      have here : after? needle (needle ++ rest) = some rest := after?_append needle rest
      refine ⟨[], rest, ?_, List.suffix_refl rest⟩
      rw [List.nil_append]
      cases whole : needle ++ rest with
      | nil => rw [breakOn?, ← whole, here, Option.map_some]
      | cons c text => simp only [breakOn?, ← whole, here]
  | cons c front ih =>
      simp only [List.cons_append, breakOn?]
      split
      · rename_i behind start
        refine ⟨[], behind, rfl, ?_⟩
        -- Both are ends of one text, and the needle in front of `rest` starts no earlier.
        have split := after?_eq_some_iff.1 start
        have lengths := congrArg List.length split
        simp only [List.length_cons, List.length_append] at lengths
        have ends : rest <:+ needle ++ behind := by
          rw [← split]
          exact (List.suffix_append ..).trans (List.suffix_cons c _)
        exact List.suffix_of_suffix_length_le ends (List.suffix_append ..) (by omega)
      · obtain ⟨before, behind, found, ends⟩ := ih
        exact ⟨c :: before, behind, by rw [found, Option.map_some], ends⟩

end ViewNaming.Text
