/-! Kinds of the nodes of a script's tree. A phrase has a name of its own; every
other node is a token and is named by its spelling. -/
namespace ViewNaming

inductive Phrase
  | program | error | comment | htmlComment | hashBangLine
  | statementBlock | emptyStatement | expressionStatement | labeledStatement
  | statementIdentifier
  | ifStatement | elseClause | switchStatement | switchBody | switchCase | switchDefault
  | forStatement | forInStatement | whileStatement | doStatement | tryStatement | catchClause
  | finallyClause
  | withStatement | breakStatement | continueStatement | returnStatement | throwStatement
  | debuggerStatement
  | importStatement | importClause | namedImports | importSpecifier | namespaceImport
  | importRequireClause | importAttribute | importAlias
  | exportStatement | exportClause | exportSpecifier | namespaceExport
  | lexicalDeclaration | variableDeclaration | variableDeclarator
  | functionDeclaration | generatorFunctionDeclaration | functionSignature
  | classDeclaration | abstractClassDeclaration | classBody | classHeritage | extendsClause
  | implementsClause | classStaticBlock
  | methodDefinition | methodSignature | publicFieldDefinition | decorator
  | interfaceDeclaration | interfaceBody | extendsTypeClause | enumDeclaration | enumBody
  | enumAssignment
  | typeAliasDeclaration | ambientDeclaration | moduleDeclaration | internalModule
  | nestedIdentifier
  | identifier | propertyIdentifier | privatePropertyIdentifier | shorthandPropertyIdentifier
  | shorthandPropertyIdentifierPattern | typeIdentifier
  | thisWord | superWord | importWord | trueWord | falseWord | nullWord | undefined | number
  | string | stringFragment | escapeSequence
  | templateString | templateSubstitution | regex | regexPattern | regexFlags
  | array | object | pair | computedPropertyName | spreadElement
  | parenthesizedExpression | sequenceExpression | assignmentExpression
  | augmentedAssignmentExpression
  | ternaryExpression | binaryExpression | unaryExpression | updateExpression | awaitExpression
  | yieldExpression
  | asExpression | satisfiesExpression | typeAssertion | nonNullExpression
  | instantiationExpression
  | callExpression | newExpression | memberExpression | subscriptExpression | optionalChain
  | metaProperty | arguments
  | arrowFunction | functionExpression | generatorFunction | classExpression
  | formalParameters | requiredParameter
  | arrayPattern | objectPattern | pairPattern | assignmentPattern | objectAssignmentPattern
  | restPattern
  | typeClause | predicateClause | typePredicate | assertsClause | asserts
  | typeParameters | typeParameter | constraint | defaultType | typeArguments
  | predefinedType | literalType | templateLiteralType | templateType | thisType
  | genericType | nestedTypeIdentifier | typeQuery | indexTypeQuery | lookupType | arrayType
  | tupleType
  | restType | readonlyType | parenthesizedType | unionType | intersectionType | conditionalType
  | inferType
  | functionType | constructorType | objectType
  | propertySignature | callSignature | constructSignature | indexSignature | mappedTypeClause
deriving DecidableEq

def Phrase.name : Phrase → String
  | .program => "program"
  | .error => "ERROR"
  | .comment => "comment"
  | .htmlComment => "html_comment"
  | .hashBangLine => "hash_bang_line"
  | .statementBlock => "statement_block"
  | .emptyStatement => "empty_statement"
  | .expressionStatement => "expression_statement"
  | .labeledStatement => "labeled_statement"
  | .statementIdentifier => "statement_identifier"
  | .ifStatement => "if_statement"
  | .elseClause => "else_clause"
  | .switchStatement => "switch_statement"
  | .switchBody => "switch_body"
  | .switchCase => "switch_case"
  | .switchDefault => "switch_default"
  | .forStatement => "for_statement"
  | .forInStatement => "for_in_statement"
  | .whileStatement => "while_statement"
  | .doStatement => "do_statement"
  | .tryStatement => "try_statement"
  | .catchClause => "catch_clause"
  | .finallyClause => "finally_clause"
  | .withStatement => "with_statement"
  | .breakStatement => "break_statement"
  | .continueStatement => "continue_statement"
  | .returnStatement => "return_statement"
  | .throwStatement => "throw_statement"
  | .debuggerStatement => "debugger_statement"
  | .importStatement => "import_statement"
  | .importClause => "import_clause"
  | .namedImports => "named_imports"
  | .importSpecifier => "import_specifier"
  | .namespaceImport => "namespace_import"
  | .importRequireClause => "import_require_clause"
  | .importAttribute => "import_attribute"
  | .importAlias => "import_alias"
  | .exportStatement => "export_statement"
  | .exportClause => "export_clause"
  | .exportSpecifier => "export_specifier"
  | .namespaceExport => "namespace_export"
  | .lexicalDeclaration => "lexical_declaration"
  | .variableDeclaration => "variable_declaration"
  | .variableDeclarator => "variable_declarator"
  | .functionDeclaration => "function_declaration"
  | .generatorFunctionDeclaration => "generator_function_declaration"
  | .functionSignature => "function_signature"
  | .classDeclaration => "class_declaration"
  | .abstractClassDeclaration => "abstract_class_declaration"
  | .classBody => "class_body"
  | .classHeritage => "class_heritage"
  | .extendsClause => "extends_clause"
  | .implementsClause => "implements_clause"
  | .classStaticBlock => "class_static_block"
  | .methodDefinition => "method_definition"
  | .methodSignature => "method_signature"
  | .publicFieldDefinition => "public_field_definition"
  | .decorator => "decorator"
  | .interfaceDeclaration => "interface_declaration"
  | .interfaceBody => "interface_body"
  | .extendsTypeClause => "extends_type_clause"
  | .enumDeclaration => "enum_declaration"
  | .enumBody => "enum_body"
  | .enumAssignment => "enum_assignment"
  | .typeAliasDeclaration => "type_alias_declaration"
  | .ambientDeclaration => "ambient_declaration"
  | .moduleDeclaration => "module"
  | .internalModule => "internal_module"
  | .nestedIdentifier => "nested_identifier"
  | .identifier => "identifier"
  | .propertyIdentifier => "property_identifier"
  | .privatePropertyIdentifier => "private_property_identifier"
  | .shorthandPropertyIdentifier => "shorthand_property_identifier"
  | .shorthandPropertyIdentifierPattern => "shorthand_property_identifier_pattern"
  | .typeIdentifier => "type_identifier"
  | .thisWord => "this"
  | .superWord => "super"
  | .importWord => "import"
  | .trueWord => "true"
  | .falseWord => "false"
  | .nullWord => "null"
  | .undefined => "undefined"
  | .number => "number"
  | .string => "string"
  | .stringFragment => "string_fragment"
  | .escapeSequence => "escape_sequence"
  | .templateString => "template_string"
  | .templateSubstitution => "template_substitution"
  | .regex => "regex"
  | .regexPattern => "regex_pattern"
  | .regexFlags => "regex_flags"
  | .array => "array"
  | .object => "object"
  | .pair => "pair"
  | .computedPropertyName => "computed_property_name"
  | .spreadElement => "spread_element"
  | .parenthesizedExpression => "parenthesized_expression"
  | .sequenceExpression => "sequence_expression"
  | .assignmentExpression => "assignment_expression"
  | .augmentedAssignmentExpression => "augmented_assignment_expression"
  | .ternaryExpression => "ternary_expression"
  | .binaryExpression => "binary_expression"
  | .unaryExpression => "unary_expression"
  | .updateExpression => "update_expression"
  | .awaitExpression => "await_expression"
  | .yieldExpression => "yield_expression"
  | .asExpression => "as_expression"
  | .satisfiesExpression => "satisfies_expression"
  | .typeAssertion => "type_assertion"
  | .nonNullExpression => "non_null_expression"
  | .instantiationExpression => "instantiation_expression"
  | .callExpression => "call_expression"
  | .newExpression => "new_expression"
  | .memberExpression => "member_expression"
  | .subscriptExpression => "subscript_expression"
  | .optionalChain => "optional_chain"
  | .metaProperty => "meta_property"
  | .arguments => "arguments"
  | .arrowFunction => "arrow_function"
  | .functionExpression => "function_expression"
  | .generatorFunction => "generator_function"
  | .classExpression => "class"
  | .formalParameters => "formal_parameters"
  | .requiredParameter => "required_parameter"
  | .arrayPattern => "array_pattern"
  | .objectPattern => "object_pattern"
  | .pairPattern => "pair_pattern"
  | .assignmentPattern => "assignment_pattern"
  | .objectAssignmentPattern => "object_assignment_pattern"
  | .restPattern => "rest_pattern"
  | .typeClause => "type_annotation"
  | .predicateClause => "type_predicate_annotation"
  | .typePredicate => "type_predicate"
  | .assertsClause => "asserts_annotation"
  | .asserts => "asserts"
  | .typeParameters => "type_parameters"
  | .typeParameter => "type_parameter"
  | .constraint => "constraint"
  | .defaultType => "default_type"
  | .typeArguments => "type_arguments"
  | .predefinedType => "predefined_type"
  | .literalType => "literal_type"
  | .templateLiteralType => "template_literal_type"
  | .templateType => "template_type"
  | .thisType => "this_type"
  | .genericType => "generic_type"
  | .nestedTypeIdentifier => "nested_type_identifier"
  | .typeQuery => "type_query"
  | .indexTypeQuery => "index_type_query"
  | .lookupType => "lookup_type"
  | .arrayType => "array_type"
  | .tupleType => "tuple_type"
  | .restType => "rest_type"
  | .readonlyType => "readonly_type"
  | .parenthesizedType => "parenthesized_type"
  | .unionType => "union_type"
  | .intersectionType => "intersection_type"
  | .conditionalType => "conditional_type"
  | .inferType => "infer_type"
  | .functionType => "function_type"
  | .constructorType => "constructor_type"
  | .objectType => "object_type"
  | .propertySignature => "property_signature"
  | .callSignature => "call_signature"
  | .constructSignature => "construct_signature"
  | .indexSignature => "index_signature"
  | .mappedTypeClause => "mapped_type_clause"

inductive Kind
  | phrase (phrase : Phrase)
  | token (spelling : String)
deriving DecidableEq

namespace Kind

def name : Kind → String
  | phrase p => p.name
  | token spelling => spelling

def isNamed : Kind → Bool
  | phrase _ => true
  | token _ => false

end Kind

inductive Role
  | name | value | declaration | key | callee | arguments | parameter | parameters | body
deriving DecidableEq

end ViewNaming
