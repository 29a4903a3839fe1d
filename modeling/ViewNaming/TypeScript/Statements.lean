import ViewNaming.TypeScript.Expressions

/-! Statements, declarations and what a module imports and exports. -/
namespace ViewNaming.TypeScript

open Rule

def block : Grammar :=
  phrase .statementBlock (seq
    [sign "\x7b", statements (many Symbol.statement), sign "\x7d",
      maybe (lineEnd .expression)])

def exportedName : Grammar := either (anyName .identifier) string

def importSpecifier : Grammar :=
  phrase .importSpecifier (oneOf
    [seq [words ["type", "typeof"], exportedName, word "as", anyName .identifier],
      seq [exportedName, word "as", anyName .identifier],
      seq [words ["type", "typeof"], anyName .identifier],
      anyName .identifier])

def namedImports : Grammar :=
  phrase .namedImports (enclosedIn "\x7b" (listedOrNone importSpecifier) "\x7d")

def namespaceImport : Grammar :=
  phrase .namespaceImport (seq [sign "*", word "as", anyName .identifier])

def importClause : Grammar :=
  phrase .importClause (oneOf
    [namespaceImport, namedImports,
      both (anyName .identifier) (maybe (both (sign ",") (either namespaceImport namedImports)))])

def sourced : Grammar := both (word "from") string

def importAttribute : Grammar :=
  phrase .importAttribute (both (words ["with", "assert"]) Symbol.object)

def importRequire : Grammar :=
  phrase .importRequireClause (seq
    [anyName .identifier, assign, word "require", sign "(", string, sign ")"])

def importClauses : Grammar :=
  seq
    [word "import",
      oneOf
        [seq [words ["type", "typeof"], importClause, sourced],
          both importClause sourced,
          both (words ["type", "typeof"]) importRequire,
          importRequire,
          string],
      maybe (both (unfinished .type) importAttribute)]

def importStatement : Grammar := phrase .importStatement (both Symbol.importClauses ending)

/-- An import whose end is missing. -/
def importUnended : Grammar := phrase .importStatement Symbol.importClauses

def moduleName : Grammar :=
  grow .expression (anyName .identifier)
    (wrap .nestedIdentifier none (both (sign ".") (anyName .propertyIdentifier)))

def importAlias : Grammar :=
  phrase .importAlias (seq [word "import", variableName, assign, Symbol.moduleName, ending])

def exportSpecifier : Grammar :=
  phrase .exportSpecifier (seq
    [maybe (both (words ["type", "typeof"])
      (forbid (oneOf [signs [",", "\x7d"], word "as"]))),
      exportedName, maybe (both (word "as") exportedName)])

def exportClause : Grammar :=
  phrase .exportClause (enclosedIn "\x7b" (listedOrNone exportSpecifier) "\x7d")

def exportStatement : Grammar :=
  let exported := seq [many Symbol.decorator, word "export", unfinished .expression]
  let source := both sourced (maybe (both (unfinished .type) importAttribute))
  let everything :=
    either (phrase .namespaceExport (seq [sign "*", word "as", exportedName])) (sign "*")
  phrase .exportStatement (both exported (oneOf
    [both (word "default") (either (role .declaration Symbol.declaration)
      (both (role .value Symbol.expression) ending)),
      seq [assign, Symbol.expression, ending],
      seq [everything, source, ending],
      seq [exportClause, maybe source, ending],
      seq [word "type", everything, source, ending],
      seq [word "type", exportClause, maybe source, ending],
      importAlias,
      seq [word "as", word "namespace", variableName, ending],
      role .declaration Symbol.declaration]))

def declarator : Grammar :=
  phrase .variableDeclarator (seq
    [role .name Symbol.pattern, maybe (mark "!" "="), maybe Symbol.typeClause, maybe initial])

def declarators : Grammar := both declarator (many (both (sign ",") declarator))

def variableStatement : Grammar :=
  either
    (phrase .lexicalDeclaration (seq
      [either (word "const") (both (word "let") (unfinished .expression)), declarators, ending]))
    (phrase .variableDeclaration (seq [word "var", declarators, ending]))

def functionDeclaration : Grammar :=
  oneOf
    [phrase .functionDeclaration (seq
      [maybe (word "async"), word "function", role .name variableName, Symbol.callSignature,
        role .body Symbol.block]),
      phrase .generatorFunctionDeclaration (seq
        [maybe (word "async"), word "function", sign "*", role .name variableName,
          Symbol.callSignature, role .body Symbol.block]),
      phrase .functionSignature (seq
        [maybe (word "async"), word "function", maybe (sign "*"), role .name variableName,
          Symbol.callSignature, ending])]

def decorator : Grammar := phrase .decorator (both (sign "@") Symbol.access)

def superclass : Grammar :=
  phrase .extendsClause (both (word "extends")
    (listed (both Symbol.access (maybe Symbol.typeArguments))))

def implemented : Grammar :=
  phrase .implementsClause (both (word "implements") (listed Symbol.type))

def heritage : Grammar :=
  phrase .classHeritage (either (both superclass (maybe implemented)) implemented)

def fieldDefinition : Grammar :=
  phrase .publicFieldDefinition (seq
    [Symbol.fieldHead, maybe (mark "!" "="), maybe Symbol.typeClause, maybe initial])

def classMember : Grammar :=
  oneOf
    [sign ";",
      phrase .classStaticBlock (both (word "static") Symbol.block),
      Symbol.decorator,
      both (both fieldModifiers indexSignature) (either (sign ",") ending),
      method,
      both (phrase .methodSignature (both Symbol.methodHead Symbol.callSignature))
        (either (sign ",") ending),
      both fieldDefinition (either (sign ",") ending)]

def classBody : Grammar :=
  phrase .classBody (seq [sign "\x7b", statements (many classMember), sign "\x7d"])

def classTail : Grammar :=
  seq [maybe Symbol.typeParameters, maybe heritage, role .body classBody]

def className : Grammar :=
  both (forbid (words ["extends", "implements"])) (role .name typeName)

def classExpression : Grammar :=
  phrase .classExpression (seq
    [many Symbol.decorator, word "class", maybe className, Symbol.classTail])

def classDeclaration : Grammar :=
  either
    (phrase .classDeclaration (seq
      [many Symbol.decorator, word "class", className, Symbol.classTail,
        maybe (lineEnd .expression)]))
    (phrase .abstractClassDeclaration (seq
      [many Symbol.decorator, word "abstract", word "class", className, Symbol.classTail]))

def interfaceDeclaration : Grammar :=
  phrase .interfaceDeclaration (seq
    [word "interface", role .name typeName, maybe Symbol.typeParameters,
      maybe (phrase .extendsTypeClause (both (word "extends") (listed Symbol.type))),
      role .body (objectTypeAs .interfaceBody)])

def enumMember : Grammar :=
  grow .expression (role .name Symbol.propertyName)
    (wrap .enumAssignment none (both assign Symbol.expression))

def enumDeclaration : Grammar :=
  phrase .enumDeclaration (seq
    [maybe (word "const"), word "enum", role .name variableName,
      role .body (phrase .enumBody (enclosedIn "\x7b" (maybe (listed enumMember)) "\x7d"))])

def typeAlias : Grammar :=
  phrase .typeAliasDeclaration (seq
    [word "type", unfinished .expression, role .name typeName, maybe Symbol.typeParameters, assign,
      Symbol.type, ending])

def internalModule : Grammar :=
  phrase .internalModule (seq
    [word "namespace", unfinished .expression, role .name (either string Symbol.moduleName),
      maybe (role .body Symbol.block)])

def moduleDeclaration : Grammar :=
  phrase .moduleDeclaration (seq
    [word "module", unfinished .expression, role .name (either string Symbol.moduleName),
      maybe (role .body Symbol.block)])

def ambientDeclaration : Grammar :=
  phrase .ambientDeclaration (seq
    [word "declare", unfinished .expression,
      either (both Symbol.declaration (maybe (sign ";"))) (both (word "global") Symbol.block)])

def declaration : Grammar :=
  oneOf
    [enumDeclaration, variableStatement, functionDeclaration, classDeclaration,
      interfaceDeclaration, typeAlias, internalModule, moduleDeclaration, importAlias,
      ambientDeclaration]

def ifStatement : Grammar :=
  phrase .ifStatement (seq
    [word "if", Symbol.parenthesized, Symbol.statement,
      maybe (phrase .elseClause (both (word "else") Symbol.statement))])

def forInStatement : Grammar :=
  phrase .forInStatement (seq
    [word "for", maybe (word "await"), sign "(",
      enclosed (seq
        [either (both (words ["var", "let", "const"]) Symbol.pattern)
          (oneOf [Symbol.arrayPattern, Symbol.objectPattern, Symbol.access]),
          words ["in", "of"], Symbol.expressions]),
      sign ")", Symbol.statement])

def forStatement : Grammar :=
  phrase .forStatement (seq
    [word "for", sign "(",
      enclosed (seq
        [oneOf [sign ";", variableStatement, both Symbol.expressions (sign ";")],
          maybe Symbol.expressions, sign ";", maybe Symbol.expressions]),
      sign ")", Symbol.statement])

def switchStatement : Grammar :=
  phrase .switchStatement (seq
    [word "switch", Symbol.parenthesized,
      phrase .switchBody (seq
        [sign "\x7b",
          statements (many (either
            (phrase .switchCase (seq
              [word "case", Symbol.expressions, sign ":", many Symbol.statement]))
            (phrase .switchDefault (seq [word "default", sign ":", many Symbol.statement])))),
          sign "\x7d"])])

def tryStatement : Grammar :=
  phrase .tryStatement (seq
    [word "try", Symbol.block,
      maybe (phrase .catchClause (seq
        [word "catch",
          maybe (enclosedIn "(" (both Symbol.pattern (maybe Symbol.typeClause)) ")"),
          Symbol.block])),
      maybe (phrase .finallyClause (both (word "finally") Symbol.block))])

def jump (kind : Phrase) (spelling : String) (operand : Grammar) : Grammar :=
  phrase kind (seq [word spelling, maybe (both (unfinished .type) operand), ending])

def simpleStatement : Grammar :=
  oneOf
    [phrase .whileStatement (seq [word "while", Symbol.parenthesized, Symbol.statement]),
      phrase .doStatement (seq
        [word "do", Symbol.statement, word "while", Symbol.parenthesized, maybe ending]),
      phrase .withStatement (seq [word "with", Symbol.parenthesized, Symbol.statement]),
      jump .breakStatement "break" variableName,
      jump .continueStatement "continue" variableName,
      jump .returnStatement "return" Symbol.expressions,
      phrase .throwStatement (seq [word "throw", Symbol.expressions, ending]),
      phrase .debuggerStatement (both (word "debugger") ending)]

def statement : Grammar :=
  oneOf
    [leaf .htmlComment Scan.htmlComment,
      Symbol.block,
      phrase .emptyStatement (sign ";"),
      importStatement,
      exportStatement,
      both (strandedWord "export") ending,
      Symbol.declaration,
      ifStatement, forInStatement, forStatement, switchStatement, tryStatement, simpleStatement,
      both (forbid (words ["abstract", "interface"])) (either
        (phrase .labeledStatement (seq
          [leaf .statementIdentifier (Scan.nameExcept reserved), sign ":", Symbol.statement]))
        (phrase .expressionStatement (both Symbol.expressions ending)))]

def grammar : Symbol → Grammar
  | .expressions => expressions
  | .expression => expression
  | .conditional => conditional
  | .operators => operators
  | .operand => operand
  | .awaited => awaited
  | .access => access
  | .newTarget => newTarget
  | .primary => primary
  | .arrow => arrow
  | .template => template
  | .array => array
  | .object => object
  | .arguments => arguments
  | .parenthesized => parenthesized
  | .classExpression => classExpression
  | .functionExpression => functionExpression
  | .propertyName => propertyName
  | .methodHead => methodHead
  | .fieldHead => fieldHead
  | .pattern => pattern
  | .arrayPattern => arrayPattern
  | .objectPattern => objectPattern
  | .parameters => parameters
  | .callSignature => callSignature
  | .returnType => returnType
  | .decorator => decorator
  | .type => type
  | .union => union
  | .intersection => intersection
  | .leadingType => leadingType
  | .trailingType => trailingType
  | .primaryType => primaryType
  | .typeQuery => typeQuery
  | .typeClause => typeClause
  | .typeArguments => typeArguments
  | .typeParameters => typeParameters
  | .typePredicate => typePredicate
  | .objectType => objectTypeAs .objectType
  | .tupleType => tupleType
  | .importCall => importCall
  | .statement => statement
  | .block => block
  | .declaration => declaration
  | .importClauses => importClauses
  | .classTail => classTail
  | .moduleName => moduleName

end ViewNaming.TypeScript
