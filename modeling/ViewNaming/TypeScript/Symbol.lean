import ViewNaming.Grammar.Rule

/-! The symbols of the TypeScript grammar, and the small rules that its parts
share. -/
namespace ViewNaming.TypeScript

inductive Symbol
  | expressions | expression | conditional | operators | operand | awaited | access | newTarget
  | primary | arrow | template | array | object | arguments | parenthesized | classExpression
  | functionExpression | propertyName | methodHead | fieldHead
  | pattern | arrayPattern | objectPattern | parameters | callSignature | returnType | decorator
  | type | union | intersection | leadingType | trailingType | primaryType | typeQuery
  | typeClause | typeArguments | typeParameters | typePredicate | objectType | tupleType
  | importCall
  | statement | block | declaration | importClauses | classTail | moduleName
deriving DecidableEq

abbrev Grammar := Rule Symbol

open Rule

instance : Coe Symbol Grammar := ⟨Rule.symbol⟩

def sign (spelling : String) : Grammar := mark spelling ""

/-- The sign of an assignment or initial value, which is no part of a longer one. -/
def assign : Grammar := mark "=" "=>"

def words (spellings : List String) : Grammar := oneOf (spellings.map word)

def signs (spellings : List String) : Grammar := oneOf (spellings.map sign)

/-- Entries between commas. An entry may be left out. -/
def sparse (entry : Grammar) : Grammar :=
  both (maybe entry) (many (both (sign ",") (maybe entry)))

def listed (entry : Grammar) : Grammar :=
  seq [entry, many (both (sign ",") entry), maybe (sign ",")]

def listedOrNone (entry : Grammar) : Grammar := either (listed entry) (maybe (sign ","))

def enclosedIn (opening : String) (rule : Grammar) (closing : String) : Grammar :=
  seq [sign opening, enclosed rule, sign closing]

def ending : Grammar := oneOf [sign ";", lineEnd .expression, lineEnd .type]

/-- Fails where the statement is already over. After a word that may also be a
name the next line is judged as after an expression, and otherwise as after a
type. -/
def unfinished (reading : Reading) : Grammar := forbid (lineEnd reading)

def reserved : List Text :=
  ["break", "case", "catch", "class", "const", "continue", "debugger", "default", "delete", "do",
    "else", "enum", "export", "extends", "false", "finally", "for", "function", "if", "import",
    "in", "instanceof", "new", "null", "return", "super", "switch", "this", "throw", "true",
    "try", "typeof", "undefined", "var", "void", "while", "with"].map Text.ofString

def variableName : Grammar := leaf .identifier (Scan.nameExcept reserved)

def anyName (phrase : Phrase) : Grammar := leaf phrase Scan.name

def typeName : Grammar := leaf .typeIdentifier (Scan.nameExcept reserved)

def wordPhrase (phrase : Phrase) (spelling : String) : Grammar :=
  leaf phrase (Scan.word spelling)

def quotedWith (quote : Char) : Grammar :=
  phrase .string (seq
    [sign quote.toString,
      many (either (tightLeaf .stringFragment (Scan.fragment quote))
        (tightLeaf .escapeSequence Scan.escape)),
      tightMark quote.toString])

def string : Grammar := either (quotedWith '\'') (quotedWith '"')

def number : Grammar := leaf .number Scan.number

def spread (rule : Grammar) : Grammar := phrase .spreadElement (both (sign "...") rule)

def initial : Grammar := both assign (role .value (Symbol.expression : Grammar))

end ViewNaming.TypeScript
