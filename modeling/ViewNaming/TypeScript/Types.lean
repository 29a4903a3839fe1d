import ViewNaming.TypeScript.Symbol

/-! Types: what stands behind a colon, between angle brackets and behind `as`. -/
namespace ViewNaming.TypeScript

open Rule

/-- A word in front of a member, unless the member itself has that name. -/
def modifier (spelling : String) : Grammar :=
  both (word spelling) (forbid (signs ["(", ")", "=", ";", ":", "?", "!", "\x7d", "<", ","]))

def modifiersAmong (spellings : List String) : Grammar := many (oneOf (spellings.map modifier))

def methodModifiers : Grammar :=
  modifiersAmong ["public", "private", "protected", "static", "readonly", "abstract", "override",
    "declare", "async", "get", "set"]

def fieldModifiers : Grammar :=
  modifiersAmong ["public", "private", "protected", "static", "readonly", "abstract", "override",
    "declare", "accessor"]

def parameterModifiers : Grammar :=
  modifiersAmong ["public", "private", "protected", "override", "readonly"]

def typeClause : Grammar := phrase .typeClause (both (sign ":") Symbol.type)

def typePredicate : Grammar :=
  phrase .typePredicate (seq
    [either (wordPhrase .thisWord "this") variableName, word "is", Symbol.type])

def asserts : Grammar :=
  phrase .asserts (both (word "asserts")
    (oneOf [Symbol.typePredicate, wordPhrase .thisWord "this", variableName]))

def returnType : Grammar :=
  oneOf
    [phrase .assertsClause (both (sign ":") asserts),
      phrase .predicateClause (both (sign ":") Symbol.typePredicate),
      Symbol.typeClause]

def callSignature : Grammar :=
  seq [maybe Symbol.typeParameters, role .parameters Symbol.parameters,
    maybe (both typed Symbol.returnType)]

def functionType : Grammar :=
  phrase .functionType (seq
    [maybe Symbol.typeParameters, Symbol.parameters, sign "=>",
      oneOf [asserts, Symbol.typePredicate, Symbol.type]])

def constructorType : Grammar :=
  phrase .constructorType (seq
    [maybe (word "abstract"), word "new", maybe Symbol.typeParameters, Symbol.parameters,
      sign "=>", Symbol.type])

/-- A type variable with a bound, directly in front of the question mark. -/
def boundedInference : Grammar :=
  both (phrase .inferType (seq [word "infer", typeName, word "extends", Symbol.union]))
    (peek (sign "?"))

def conditionalType : Grammar :=
  grow .type Symbol.union
    (wrap .conditionalType none (seq
      [word "extends", either boundedInference Symbol.type, sign "?", Symbol.type, sign ":",
        Symbol.type]))

def type : Grammar := oneOf [functionType, constructorType, conditionalType]

def union : Grammar :=
  grow .type
    (either (phrase .unionType (both (mark "|" "|") Symbol.intersection)) Symbol.intersection)
    (wrap .unionType none (both (mark "|" "|=") Symbol.intersection))

def intersection : Grammar :=
  grow .type
    (either (phrase .intersectionType (both (mark "&" "&") Symbol.leadingType)) Symbol.leadingType)
    (wrap .intersectionType none (both (mark "&" "&=") Symbol.leadingType))

def leadingType : Grammar :=
  oneOf
    [phrase .indexTypeQuery (both (word "keyof") Symbol.leadingType),
      phrase .readonlyType (both (word "readonly") Symbol.leadingType),
      phrase .inferType (seq
        [word "infer", typeName,
          maybe (seq [word "extends", Symbol.leadingType, forbid (sign "?")])]),
      phrase .predefinedType (both (word "unique") (word "symbol")),
      Symbol.typeQuery,
      Symbol.trailingType]

def typeQuery : Grammar :=
  phrase .typeQuery (both (word "typeof")
    (grow .type
      (oneOf [Symbol.importCall, wordPhrase .thisWord "this", variableName])
      (oneOf
        [wrap .memberExpression none (both (signs [".", "?."])
          (either (leaf .privatePropertyIdentifier Scan.privateName)
            (anyName .propertyIdentifier))),
          wrap .subscriptExpression none (enclosedIn "[" Symbol.type "]"),
          wrap .instantiationExpression none Symbol.typeArguments])))

def trailingType : Grammar :=
  grow .type Symbol.primaryType
    (oneOf
      [wrap .arrayType none (both (sign "[") (sign "]")),
        wrap .lookupType none (enclosedIn "[" Symbol.type "]")])

def importCall : Grammar :=
  phrase .callExpression (seq
    [role .callee (wordPhrase .importWord "import"), role .arguments Symbol.arguments])

def literalType : Grammar :=
  phrase .literalType (oneOf
    [string, phrase .unaryExpression (both (signs ["-", "+"]) number), number,
      wordPhrase .trueWord "true", wordPhrase .falseWord "false", wordPhrase .nullWord "null",
      wordPhrase .undefined "undefined"])

def templateLiteralType : Grammar :=
  phrase .templateLiteralType (seq
    [sign "`",
      many (oneOf
        [tightLeaf .stringFragment Scan.templateFragment,
          tightLeaf .escapeSequence Scan.escape,
          phrase .templateType (seq [tightMark "$\x7b", enclosed Symbol.type, sign "\x7d"])]),
      tightMark "`"])

def predefinedType : Grammar :=
  oneOf (["any", "number", "boolean", "string", "symbol", "unknown", "never", "object", "void"].map
    fun spelling =>
      both (phrase .predefinedType (word spelling)) (forbid (sign ".")))

/-- The names of the modules around a type, each with a dot behind it. -/
def qualifier : Grammar :=
  grow .type (both (leaf .identifier (Scan.nameExcept reserved)) (peek (sign ".")))
    (wrap .nestedIdentifier none
      (seq [sign ".", anyName .propertyIdentifier, peek (sign ".")]))

def namedType : Grammar :=
  grow .type
    (oneOf
      [Symbol.importCall,
        phrase .nestedTypeIdentifier (seq [qualifier, sign ".", anyName .typeIdentifier]),
        typeName])
    (oneOf
      [wrap .nestedTypeIdentifier none (both (sign ".") (anyName .typeIdentifier)),
        wrap .genericType none Symbol.typeArguments])

def primaryType : Grammar :=
  oneOf
    [phrase .parenthesizedType (enclosedIn "(" Symbol.type ")"),
      Symbol.objectType, Symbol.tupleType, literalType, templateLiteralType,
      wordPhrase .thisType "this", predefinedType,
      both (word "const") (forbid (sign ".")), namedType]

def tupleMember : Grammar :=
  oneOf
    [phrase .restType (seq
      [sign "...", maybe (seq [anyName .identifier, maybe (sign "?"), sign ":"]), Symbol.type]),
      seq [anyName .identifier, maybe (sign "?"), Symbol.typeClause],
      both Symbol.type (maybe (sign "?"))]

def tupleType : Grammar :=
  phrase .tupleType (enclosedIn "[" (maybe (listed tupleMember)) "]")

def typeArguments : Grammar :=
  phrase .typeArguments (enclosedIn "<" (listed Symbol.type) ">")

def typeParameter : Grammar :=
  phrase .typeParameter (seq
    [many (both (words ["const", "in", "out"]) (forbid (signs [",", ">", "="]))), typeName,
      maybe (phrase .constraint (both (word "extends") Symbol.type)),
      maybe (phrase .defaultType (both (sign "=") Symbol.type))])

def typeParameters : Grammar :=
  phrase .typeParameters (enclosedIn "<" (listed typeParameter) ">")

def indexSignature : Grammar :=
  phrase .indexSignature (seq
    [maybe (both (maybe (signs ["+", "-"])) (modifier "readonly")),
      sign "[",
      enclosed (either
        (phrase .mappedTypeClause (seq
          [typeName, word "in", Symbol.type, maybe (both (word "as") Symbol.type)]))
        (seq [variableName, sign ":", Symbol.type])),
      sign "]",
      maybe (both (maybe (signs ["+", "-"])) (sign "?")),
      maybe Symbol.typeClause])

def typeMember : Grammar :=
  oneOf
    [phrase .constructSignature (seq
      [maybe (word "abstract"), word "new", maybe Symbol.typeParameters, Symbol.parameters,
        maybe Symbol.typeClause]),
      phrase .callSignature Symbol.callSignature,
      indexSignature,
      phrase .methodSignature (both Symbol.methodHead Symbol.callSignature),
      phrase .propertySignature (both Symbol.fieldHead (maybe Symbol.typeClause))]

def objectTypeAs (kind : Phrase) : Grammar :=
  phrase kind (seq
    [sign "\x7b",
      statements (many (both typeMember
        (oneOf [sign ",", ending, peek (sign "\x7d")]))),
      sign "\x7d"])

end ViewNaming.TypeScript
