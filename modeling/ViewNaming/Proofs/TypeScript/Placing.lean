import ViewNaming.Proofs.Component.Injection
import ViewNaming.Proofs.Grammar.Placing

/-! Where the statements of a script stand. The grammar is well formed, so the statements that
are read, the lexemes that are passed over and the comments between them stand in a row. Encoded,
they stand in a row as well, and this is all that the place of a new statement rests on. -/
namespace ViewNaming

namespace TypeScript

open Rule

theorem wellFormed_grammar (symbol : Symbol) : (grammar symbol).WellFormed false := by
  -- Every rule is taken apart down to its lexemes.
  cases symbol <;> simp [
    grammar, WellFormed, advances, seq, oneOf, sign, assign, words, signs, sparse, listed,
    listedOrNone, enclosedIn, ending, unfinished, variableName, anyName, typeName, wordPhrase,
    quotedWith, string, number, spread, initial, modifier, modifiersAmong, methodModifiers,
    fieldModifiers, parameterModifiers, typeClause, typePredicate, asserts, returnType,
    callSignature, functionType, constructorType, boundedInference, conditionalType, type,
    union, intersection, leadingType, typeQuery, trailingType, importCall, literalType,
    templateLiteralType, predefinedType, qualifier, namedType, primaryType, tupleMember,
    tupleType, typeArguments, typeParameter, typeParameters, indexSignature, typeMember,
    objectTypeAs, pattern, memberName, optionalChain, members, nonNull, target, patternEntry,
    restPattern, arrayPattern, objectPatternEntry, objectPattern, parameter, parameters, arrow,
    functionExpression, methodHead, fieldHead, method, propertyName, objectEntry, literal,
    object, element, array, arguments, template, regularExpression, parenthesized, strandedWord,
    newExpression, newTarget, primary, afterInstantiation, access, asserted, awaited, operand,
    operator, operators, conditional, augmented, yielded, expression, expressions, block,
    exportedName, importSpecifier, namedImports, namespaceImport, importClause, sourced,
    importAttribute, importRequire, importClauses, importStatement, moduleName, importAlias,
    exportSpecifier, exportClause, exportStatement, declarator, declarators, variableStatement,
    functionDeclaration, decorator, superclass, implemented, heritage, fieldDefinition,
    classMember, classBody, classTail, className, classExpression, classDeclaration,
    interfaceDeclaration, enumMember, enumDeclaration, typeAlias, internalModule,
    moduleDeclaration, ambientDeclaration, declaration, ifStatement, forInStatement,
    forStatement, switchStatement, tryStatement, jump, simpleStatement, statement,
    Text.ofString, Scan.proper_word, Scan.proper_name, Scan.proper_nameExcept,
    Scan.proper_privateName, Scan.proper_number, Scan.proper_fragment, Scan.proper_escape,
    Scan.proper_templateFragment, Scan.proper_pattern, Scan.proper_patternFlags,
    Scan.proper_htmlComment]

theorem sound_grammar : Sound grammar := by
  intro symbol
  refine ⟨wellFormed_grammar symbol, ?_⟩
  cases symbol <;> rfl

variable {content : Text} {reader next : Reader}

theorem placed_follow {rule : Grammar} {fuel : Nat} (placed : reader.Placed content 0)
    (found : follow fuel rule reader = some next) (wellFormed : rule.WellFormed false) :
    next.Placed content 0 :=
  (proceeds_read sound_grammar fuel rule wellFormed 0 reader next placed nofun found).1.placed

theorem placed_step {fuel : Nat} {amiss : Bool} (placed : reader.Placed content 0)
    (found : step fuel reader = some (next, amiss)) : next.Placed content 0 := by
  rw [step] at found
  split at found
  · rename_i read
    cases found
    exact placed_follow placed read trivial
  · split at found
    · rename_i read
      cases found
      exact placed_follow placed read ⟨rfl, trivial⟩
    · obtain ⟨passed, read, same⟩ := Option.map_eq_some_iff.1 found
      cases same
      have pass : Reader.Proceeds content false true passOver :=
        (Reader.Proceeds.lexeme Scan.proper_any (.phrase .error)).skip
      exact (pass 0 reader next placed nofun read).1.placed

theorem placed_readAll (fuel : Nat) (bound : Text) (malformed : Bool)
    (placed : reader.Placed content 0) :
    (readAll fuel bound malformed reader).1.Placed content 0 := by
  induction bound generalizing malformed reader with
  | nil => exact placed
  | cons _ bound ih =>
      rw [readAll]
      split
      · exact placed
      · rename_i found
        exact ih _ (placed_step placed found)

theorem placed_ofText (content : Text) : (Reader.ofText content).Placed content 0 :=
  ⟨rfl, Nat.zero_le _, Nat.le_refl 0⟩

theorem row_parse (content : Text) :
    Row 0 content.length (parse content).root.children.reverse := by
  have first := (placed_ofText content).skipLayout.placed
  have hashBang : Reader.Proceeds content false true
      (Reader.lexeme (.phrase .hashBangLine) Scan.hashBang) :=
    Reader.Proceeds.lexeme Scan.proper_hashBang _
  have opened := (hashBang.optional 0 _ _ first nofun rfl).1.placed
  have last := (placed_readAll (depthBound content) content false opened).skip.placed
  have row := last.row.mono last.within
  rw [parse]
  simpa [Node.children] using row

end TypeScript

namespace Component

theorem laid_statementsOf (content : Text) : Laid content (statementsOf content) := by
  have row := TypeScript.row_parse content
  have inside : ∀ node ∈ (TypeScript.parse content).root.children,
      node.start < node.stop ∧ node.stop ≤ content.length :=
    fun node member => row.mem (List.mem_reverse.2 member)
  refine ⟨?_, ?_, ?_⟩
  · simp only [statementsOf, List.forall_mem_map]
    intro node member
    exact Utf8.width_take_lt (inside node member).1 (inside node member).2
  · rw [statementsOf, List.pairwise_map]
    have ordered := row.pairwise
    rw [List.reverse_reverse] at ordered
    exact ordered.imp Utf8.width_take_le
  · simp only [statementsOf, List.forall_mem_map]
    exact fun node _ => ⟨content.take node.stop, List.take_prefix _ _, rfl⟩

/-- Where a new statement goes in any script. It comes behind the last import and the line break
that follows it, on a line of its own, or in front of everything if nothing is imported. -/
theorem insertAt_insertOffset {content : Text} (scalar : content.Scalar) (line : Text) :
    (∃ last head tail, IsLastImport (statementsOf content) last ∧
      CutBehind content last head tail ∧
      insertAt (insertOffset content) line content =
        head ++ separator head ++ line ++ newLineBreak head ++ tail) ∨
    (∀ statement ∈ statementsOf content, statement.isImport = false) ∧
      insertAt (insertOffset content) line content = line ++ lineFeed ++ content := by
  have laid := laid_statementsOf content
  cases found : lastImport? (statementsOf content) with
  | none => exact Or.inr ⟨lastImport?_eq_none_iff.1 found, insertAt_of_none found line content⟩
  | some last =>
      obtain ⟨head, tail, cut, -, inserted⟩ := exists_insertion scalar laid found line
      exact Or.inl ⟨last, head, tail, laid.isLastImport found, cut, inserted⟩

end Component

end ViewNaming
