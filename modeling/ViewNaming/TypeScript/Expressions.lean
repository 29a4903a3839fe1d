import ViewNaming.TypeScript.Types

/-! Expressions and the patterns that bind names. The operators of one
expression are kept in a chain that leans to the left, because nothing here
asks which of two operators binds tighter. Only `as` and `satisfies` matter:
they take in the whole chain on their left. -/
namespace ViewNaming.TypeScript

open Rule

def pattern : Grammar := oneOf [Symbol.objectPattern, Symbol.arrayPattern, variableName]

def memberName : Grammar :=
  either (leaf .privatePropertyIdentifier Scan.privateName) (anyName .propertyIdentifier)

def optionalChain : Grammar := phrase .optionalChain (mark "?." "0123456789")

def members : Grammar :=
  oneOf
    [wrap .memberExpression none (both (either (mark "." ".") optionalChain) memberName),
      wrap .subscriptExpression none
        (both (maybe optionalChain) (enclosedIn "[" Symbol.expressions "]"))]

def nonNull : Grammar := wrap .nonNullExpression none (mark "!" "=")

def target : Grammar :=
  oneOf
    [Symbol.objectPattern, Symbol.arrayPattern,
      grow .expression
        (oneOf [wordPhrase .thisWord "this", wordPhrase .superWord "super", variableName])
        (either members nonNull)]

def patternEntry : Grammar :=
  grow .expression target (wrap .assignmentPattern none (both assign Symbol.expression))

def restPattern : Grammar := phrase .restPattern (both (sign "...") target)

def arrayPattern : Grammar :=
  phrase .arrayPattern (enclosedIn "[" (sparse (either restPattern patternEntry)) "]")

def objectPatternEntry : Grammar :=
  oneOf
    [restPattern,
      phrase .pairPattern (seq
        [role .key Symbol.propertyName, sign ":", role .value patternEntry]),
      grow .expression
        (leaf .shorthandPropertyIdentifierPattern (Scan.nameExcept reserved))
        (wrap .objectAssignmentPattern none (both assign Symbol.expression))]

def objectPattern : Grammar :=
  phrase .objectPattern (enclosedIn "\x7b" (sparse objectPatternEntry) "\x7d")

def parameter : Grammar :=
  phrase .requiredParameter (seq
    [many Symbol.decorator, parameterModifiers,
      oneOf [restPattern, wordPhrase .thisWord "this", Symbol.pattern],
      maybe (sign "?"), maybe Symbol.typeClause, maybe initial])

def parameters : Grammar :=
  phrase .formalParameters (enclosedIn "(" (maybe (listed parameter)) ")")

def arrow : Grammar :=
  let head := either (role .parameter variableName) Symbol.callSignature
  let body := both (sign "=>") (role .body (either Symbol.block Symbol.expression))
  phrase .arrowFunction (oneOf [seq [word "async", head, body], seq [head, body]])

def functionExpression : Grammar :=
  either
    (phrase .functionExpression (seq
      [maybe (word "async"), word "function", maybe (role .name variableName),
        Symbol.callSignature, role .body Symbol.block]))
    (phrase .generatorFunction (seq
      [maybe (word "async"), word "function", sign "*", maybe (role .name variableName),
        Symbol.callSignature, role .body Symbol.block]))

def methodHead : Grammar :=
  seq [methodModifiers, maybe (sign "*"), role .name Symbol.propertyName, maybe (sign "?")]

def fieldHead : Grammar :=
  seq [fieldModifiers, role .name Symbol.propertyName, maybe (sign "?")]

def method : Grammar :=
  phrase .methodDefinition (seq [Symbol.methodHead, Symbol.callSignature, role .body Symbol.block])

def propertyName : Grammar :=
  oneOf
    [anyName .propertyIdentifier, string, number,
      leaf .privatePropertyIdentifier Scan.privateName,
      phrase .computedPropertyName (enclosedIn "[" Symbol.expressions "]")]

def objectEntry : Grammar :=
  oneOf
    [phrase .pair (seq
      [role .key Symbol.propertyName, sign ":", role .value Symbol.expression]),
      spread Symbol.expression,
      method,
      both (leaf .shorthandPropertyIdentifier (Scan.nameExcept reserved)) (forbid (sign "("))]

/-- A literal in brackets. In front of an equals sign it is a pattern instead. -/
def literal (kind : Phrase) (rule : Grammar) : Grammar := both (phrase kind rule) (forbid assign)

def object : Grammar := literal .object (enclosedIn "\x7b" (sparse objectEntry) "\x7d")

def element : Grammar := either (spread Symbol.expression) Symbol.expression

def array : Grammar := literal .array (enclosedIn "[" (sparse element) "]")

def arguments : Grammar := phrase .arguments (enclosedIn "(" (sparse element) ")")

def template : Grammar :=
  phrase .templateString (seq
    [sign "`",
      many (oneOf
        [tightLeaf .stringFragment Scan.templateFragment,
          tightLeaf .escapeSequence Scan.escape,
          phrase .templateSubstitution (seq
            [tightMark "$\x7b", enclosed Symbol.expressions, sign "\x7d"])]),
      tightMark "`"])

def regularExpression : Grammar :=
  phrase .regex (seq
    [mark "/" "/*", tightLeaf .regexPattern Scan.pattern, tightMark "/",
      maybe (tightLeaf .regexFlags Scan.patternFlags)])

def parenthesized : Grammar :=
  phrase .parenthesizedExpression
    (enclosedIn "(" (both Symbol.expressions (maybe Symbol.typeClause)) ")")

/-- A word that starts a longer phrase, alone at the end of its statement. -/
def strandedWord (spelling : String) : Grammar :=
  both (wordPhrase .identifier spelling) (peek (lineEnd .expression))

def newExpression : Grammar :=
  oneOf
    [phrase .metaProperty (seq [word "new", sign ".", word "target"]),
      strandedWord "new",
      phrase .newExpression (seq
        [word "new", Symbol.newTarget, maybe Symbol.typeArguments,
          maybe (role .arguments Symbol.arguments)])]

def newTarget : Grammar :=
  grow .expression (either newExpression Symbol.primary) members

def primary : Grammar :=
  oneOf
    [string, Symbol.template, number, Symbol.array, Symbol.object, Symbol.parenthesized,
      Symbol.functionExpression, Symbol.classExpression,
      phrase .metaProperty (seq [word "import", sign ".", word "meta"]),
      both (wordPhrase .importWord "import") (peek (signs ["(", "<"])),
      wordPhrase .thisWord "this", wordPhrase .superWord "super", wordPhrase .trueWord "true",
      wordPhrase .falseWord "false", wordPhrase .nullWord "null",
      wordPhrase .undefined "undefined",
      newExpression, regularExpression,
      leaf .privatePropertyIdentifier Scan.privateName,
      both (forbid (words ["await", "yield"])) variableName]

def afterInstantiation : Grammar :=
  oneOf [signs [";", ",", ")", "]", "\x7d", ":"], lineEnd .type]

def access : Grammar :=
  grow .expression Symbol.primary
    (oneOf
      [wrap .callExpression (some .callee)
        (both (maybe Symbol.typeArguments) (role .arguments Symbol.arguments)),
        members,
        wrap .callExpression (some .callee) (seq
          [optionalChain, maybe Symbol.typeArguments, role .arguments Symbol.arguments]),
        wrap .callExpression (some .callee)
          (both (maybe Symbol.typeArguments) (role .arguments Symbol.template)),
        nonNull,
        wrap .instantiationExpression none
          (both Symbol.typeArguments (peek afterInstantiation))])

def asserted : Grammar :=
  oneOf
    [wrap .asExpression none (both (word "as")
      (either (both (word "const") (forbid (sign "."))) Symbol.type)),
      wrap .satisfiesExpression none (both (word "satisfies") Symbol.type)]

def awaited : Grammar := grow .expression Symbol.operand asserted

def operand : Grammar :=
  oneOf
    [phrase .updateExpression (both (signs ["++", "--"]) Symbol.operand),
      phrase .unaryExpression (both
        (oneOf [mark "!" "", sign "~", mark "-" "-=", mark "+" "+=",
          words ["typeof", "void", "delete"]])
        Symbol.operand),
      phrase .awaitExpression (both (word "await") Symbol.awaited),
      grow .expression Symbol.access (wrap .updateExpression none (signs ["++", "--"])),
      phrase .typeAssertion (both Symbol.typeArguments Symbol.operand)]

def operator : Grammar :=
  oneOf
    [mark "&&" "=", mark "||" "=", mark "??" "=", sign "===", sign "!==", mark "==" "=",
      mark "!=" "=", mark ">>>" "=", mark ">>" "=>", mark "<<" "=", sign "<=", sign ">=",
      mark "<" "<=", mark ">" ">=", mark "**" "=", mark "*" "=*", mark "+" "+=", mark "-" "-=",
      mark "/" "=", mark "%" "=", mark "&" "&=", mark "|" "|=", mark "^" "=",
      words ["instanceof", "in"]]

def operators : Grammar :=
  grow .expression Symbol.operand
    (either asserted (wrap .binaryExpression none (both operator Symbol.operand)))

def conditional : Grammar :=
  let question := both (forbid optionalChain) (mark "?" "?")
  let alternative := both (sign ":") (Symbol.expression : Grammar)
  grow .expression Symbol.operators
    (wrap .ternaryExpression none (either
      (seq [question, enclosed Symbol.expression, alternative])
      (seq [question, enclosed (untyped Symbol.expression), alternative])))

def augmented : Grammar :=
  signs ["+=", "-=", "*=", "/=", "%=", "**=", "&=", "|=", "^=", "<<=", ">>=", ">>>=", "&&=",
    "||=", "??="]

def yielded : Grammar :=
  phrase .yieldExpression (both (word "yield")
    (either (both (sign "*") Symbol.expression)
      (maybe (both (unfinished .expression) Symbol.expression))))

def expression : Grammar :=
  oneOf
    [Symbol.arrow,
      yielded,
      grow .expression Symbol.conditional
        (either (wrap .assignmentExpression none (both assign Symbol.expression))
          (wrap .augmentedAssignmentExpression none (both augmented Symbol.expression))),
      phrase .assignmentExpression (seq
        [either Symbol.arrayPattern Symbol.objectPattern, assign, Symbol.expression])]

def expressions : Grammar :=
  grow .expression Symbol.expression
    (wrap .sequenceExpression none (both (sign ",") Symbol.expression))

end ViewNaming.TypeScript
