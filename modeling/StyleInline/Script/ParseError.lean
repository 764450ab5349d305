/-!
# Parse errors

Why a text is not a module, and how that is worded.  Some of the errors are only noted
while a module is read, so that an error which ends the reading may still replace them.
-/

namespace StyleInline.Script

inductive ParseError where
  -- pieces of text that are no tokens
  | unexpectedCharacter (shown : String)
  | unterminatedString
  | unterminatedComment
  | unterminatedPattern
  | unterminatedTemplate
  | unterminatedElement
  | invalidEscape
  | invalidUnicodeEscape
  | badEscape (allowed : String)
  | unicodeEscapeExpected
  | identifierCharacter
  | escapedKeyword (word : String)
  | legacyOctal
  | legacyOctalNumber
  | legacyDecimal
  | legacyComment
  | conflictMarker
  | digitExpected (radix : Nat)
  | exponentExpected
  | separatorPlace
  | identifierAfterNumber
  | patternFlag
  | repeatedPatternFlag (flag : Char)
  -- tokens that are not the required ones
  | unexpectedEnd
  | expected (token found : String)
  | unexpected (found allowed : String)
  | expressionExpected
  | nameExpected
  | identifierExpected
  | semicolonExpected
  | statementEndExpected
  -- names
  | strictIdentifier (name : String)
  | awaitIdentifier
  | strictBinding
  | strictTarget
  | argumentsInField
  | hashGap
  -- expressions
  | notAPattern
  | notAnExpression
  | invalidTarget
  | notAssignable
  | notATarget
  | defaultOutsidePattern
  | emptyParentheses
  | spreadInParentheses
  | arrowPlace
  | lineBreakBeforeArrow
  | unaryInPower
  | mixedCoalescing
  | taggedOptional
  | optionalConstructor
  | deletedIdentifier
  | deletedValue
  | awaitedStar
  | awaitInFunction
  | awaitInParameter
  | yieldInParameter
  | newTarget
  | importCallee
  | importTrailingComma
  | superPlace
  | superCallPlace
  | superOptional
  | nonNullCallee (word : String)
  | optionalMember
  | listedKey
  | accessorModifier
  -- patterns and parameters
  | restNotLast
  | restParameterNotLast
  | commaAfterRest
  | defaultedRest
  | optionalRest
  | unnamedRest
  | optionalDefault
  | optionalPattern
  | typeBehindDefault
  | parameterField
  | parameterFieldPattern
  | signatureDefault
  | strictDirective
  -- classes
  | secondConstructor
  | constructorModifier (word : String)
  | constructorTypeParameters
  | constructorType
  | constructorField
  | constructorPrivateName
  | constructorAccessor
  | constructorAsync
  | constructorGenerator
  | getterParameters
  | setterParameters
  | setterMissing
  | setterRest
  | readonlyMethod
  | readonlyAccessor
  | abstractMember
  | abstractBody
  | abstractValue
  | abstractPlace
  | overridePlace
  | declarePlace
  | nestedDeclare
  | repeatedModifier (word : String)
  | lateModifier (word before : String)
  | mixedModifiers (word other : String)
  | typeParameterModifier (word : String)
  | varianceModifier (word : String)
  | constModifier (word : String)
  | modifierPlace
  | privateNameModifier (word : String)
  | privateNameAccess
  | className
  | repeatedExtends
  | lateExtends
  | severalParents
  | repeatedImplements
  | heritageName
  | ambientBody
  -- statements
  | returnPlace
  | breakPlace
  | continuePlace
  | unknownBreakLabel
  | unknownContinueLabel
  | repeatedLabel (name : String)
  | labeledFunction
  | labeledGenerator
  | withStatement
  | typedWith
  | lineBreakAfterThrow
  | constWithoutValue
  | patternWithoutValue
  | trailingComma
  | noVariable
  | severalVariables
  | loopValue
  | loopType
  | loopPattern
  | loopAsync
  | loopAwait
  | declarationPlace
  | secondDefault
  | usingDisabled
  | usingInLoop
  | usingPattern
  | usingWithoutValue
  -- modules
  | importPlace
  | importedText (value : String)
  | exportedText
  | exportedWord (word : String)
  | typeInTypeImport
  | typeInTypeExport
  | decoratorBeforeExport
  | decoratorsAroundExport
  -- types
  | importTypeText
  | requiredBehindOptional
  | indexParameters
  | interfaceName
  | privateNameInType
  | numericEnumMember
  | computedEnumMember
  -- elements
  | emptyAttribute
  | attributeValue
  | closingTag (name : String)
  | closingFragment
  | elementText (mark entity : String)
  /-- The budget of the grammar ran out, which no text can cause. -/
  | budget
  deriving DecidableEq, Repr, Inhabited

namespace ParseError

def digitOf : Nat → String
  | 2 => "a binary"
  | 8 => "an octal"
  | 16 => "a hexadecimal"
  | _ => "a decimal"

def ofToken? : ParseError → Option String
  | .unexpectedCharacter shown => some ("Unexpected character " ++ shown)
  | .unterminatedString => some "Unterminated string constant"
  | .unterminatedComment => some "Unterminated block comment"
  | .unterminatedPattern => some "Unterminated regexp literal"
  | .unterminatedTemplate => some "Unterminated template"
  | .unterminatedElement => some "Unterminated JSX contents"
  | .invalidEscape => some "Invalid string escape"
  | .invalidUnicodeEscape => some "Invalid unicode escape"
  | .badEscape allowed => some ("Bad character escape sequence, expected " ++ allowed)
  | .unicodeEscapeExpected => some "Expected unicode escape"
  | .identifierCharacter => some "Invalid character in identifier"
  | .escapedKeyword word => some ("Unexpected escape sequence in reserved word: " ++ word)
  | .legacyOctal => some "Legacy octal escape is not permitted in strict mode"
  | .legacyOctalNumber =>
    some "Legacy octal literals are not available when targeting ECMAScript 5 and higher"
  | .legacyDecimal => some "Legacy decimal escape is not permitted in strict mode"
  | .legacyComment => some "Legacy comments cannot be used in module code"
  | .conflictMarker => some "Merge conflict marker encountered."
  | .digitExpected radix => some ("Expected " ++ digitOf radix ++ " digit")
  | .exponentExpected => some "Expected +, - or decimal digit after e"
  | .separatorPlace => some "A numeric separator is only allowed between two digits"
  | .identifierAfterNumber => some "Identifier cannot follow number"
  | .patternFlag => some "Unknown regular expression flags."
  | .repeatedPatternFlag flag =>
    some ("Duplicated regular expression flag '" ++ flag.toString ++ "'.")
  | .unexpectedEnd => some "Unexpected eof"
  | .expected token found => some ("Expected '" ++ token ++ "', got '" ++ found ++ "'")
  | .unexpected found allowed =>
    some ("Unexpected token `" ++ found ++ "`. Expected " ++ allowed)
  | .expressionExpected => some "Expression expected"
  | .nameExpected => some "Expected ident"
  | .identifierExpected => some "Expected an identifier"
  | .semicolonExpected => some "Expected a semicolon"
  | .statementEndExpected => some "Expected ';', '\x7d' or <eof>"
  | .strictIdentifier name =>
    some ("`" ++ name ++ "` cannot be used as an identifier in strict mode")
  | .awaitIdentifier => some "`await` cannot be used as an identifier in an async context"
  | .strictBinding =>
    some "'eval' and 'arguments' cannot be used as a binding identifier in strict mode"
  | .strictTarget => some "Invalid use of 'arguments' in strict mode"
  | .argumentsInField => some "'arguments' is only allowed in functions and class methods"
  | .hashGap => some "Unexpected space between # and identifier"
  | _ => none

def ofExpression? : ParseError → Option String
  | .notAPattern => some "Not a pattern"
  | .notAnExpression => some "Not an expression"
  | .invalidTarget =>
    some "The left-hand side of an assignment expression must be a variable or a property access."
  | .notAssignable => some "Cannot assign to this"
  | .notATarget => some "Invalid assignment target"
  | .defaultOutsidePattern => some "assignment property is invalid syntax"
  | .emptyParentheses => some "Parenthesized expression cannot be empty"
  | .spreadInParentheses => some "Parenthesized expression cannot contain spread operator"
  | .arrowPlace => some "An arrow function is not allowed here"
  | .lineBreakBeforeArrow => some "Unexpected line break between arrow head and arrow"
  | .unaryInPower => some "'**' cannot be applied to unary/await expression."
  | .mixedCoalescing =>
    some "Nullish coalescing operator(??) requires parens when mixing with logical operators"
  | .taggedOptional => some "Tagged template literal is not allowed in optional chain."
  | .optionalConstructor => some "Constructor in/after an optional chaining is not allowed."
  | .deletedIdentifier => some "'delete' cannot be called on an identifier in strict mode"
  | .deletedValue => some "The operand of a delete operator must be a property reference."
  | .awaitedStar =>
    some ("await* has been removed from the async functions proposal. " ++
      "Use Promise.all() instead.")
  | .awaitInFunction => some "await isn't allowed in non-async function"
  | .awaitInParameter => some "`await` expressions cannot be used in a parameter initializer."
  | .yieldInParameter => some "'yield' cannot be used as a parameter within generator"
  | .newTarget =>
    some ("'new.target' is only allowed in the body of a function declaration, " ++
      "function expression, or class.")
  | .importCallee => some "Import is not allowed here"
  | .importTrailingComma => some "Trailing comma is disallowed inside import(...) arguments"
  | .superPlace => some "Invalid access to super"
  | .superCallPlace => some "Invalid `super()`"
  | .superOptional => some "Super call cannot be optional"
  | .nonNullCallee word =>
    some ("Typescript non-null assertion operator is not allowed with '" ++ word ++ "'")
  | .optionalMember => some "An object member cannot be declared optional"
  | .listedKey => some "A comma expression is not allowed in a computed property name"
  | .accessorModifier => some "`async` modifier cannot be used here"
  | .restNotLast => some "Rest element must be final element"
  | .restParameterNotLast => some "A rest parameter must be last in a parameter list"
  | .commaAfterRest => some "Trailing comma isn't permitted after a rest element"
  | .defaultedRest => some "A rest parameter cannot have an initializer"
  | .optionalRest => some "A rest parameter cannot be optional"
  | .unnamedRest => some "`...` must be followed by an identifier in declaration contexts"
  | .optionalDefault => some "Parameter cannot have question mark and initializer"
  | .optionalPattern =>
    some "A binding pattern parameter cannot be optional in an implementation signature."
  | .typeBehindDefault => some "Type annotations must come before default assignments"
  | .parameterField =>
    some "A parameter property is only allowed in a constructor implementation"
  | .parameterFieldPattern =>
    some "Typescript parameter property must be an identifier or assignment pattern"
  | .signatureDefault =>
    some "A parameter initializer is only allowed in a function or constructor implementation"
  | .strictDirective =>
    some "Illegal 'use strict' directive in function with non-simple parameter list."
  | _ => none

def ofClass? : ParseError → Option String
  | .secondConstructor => some "A class can only have one constructor"
  | .constructorModifier word =>
    some ("'" ++ word ++ "' modifier cannot appear on a constructor declaration")
  | .constructorTypeParameters =>
    some "Type parameters cannot appear on a constructor declaration"
  | .constructorType => some "Type annotation cannot appear on a constructor declaration"
  | .constructorField => some "Classes may not have a non-static field named 'constructor'"
  | .constructorPrivateName =>
    some "Classes can't have a private field named '#constructor'."
  | .constructorAccessor => some "Class constructor can't be an accessor."
  | .constructorAsync => some "Constructor can't be an async function"
  | .constructorGenerator => some "A constructor cannot be generator"
  | .getterParameters => some "A `get` accessor cannot have parameters"
  | .setterParameters => some "A `set` accessor must have exactly one parameter"
  | .setterMissing => some "Setter should have exactly one parameter"
  | .setterRest => some "Rest pattern is not allowed in setter"
  | .readonlyMethod => some "A method cannot be readonly"
  | .readonlyAccessor => some "A getter or a setter cannot be readonly"
  | .abstractMember => some "Abstract methods can only appear within an abstract class."
  | .abstractBody => some "Method cannot have an implementation because it is marked abstract."
  | .abstractValue => some "Property cannot have an initializer because it is marked abstract."
  | .abstractPlace =>
    some "`abstract` modifier can only appear on a class or method declaration"
  | .overridePlace =>
    some ("This member cannot have an 'override' modifier because its containing class " ++
      "does not extend another class.")
  | .declarePlace => some "`declare` modifier cannot appear on class elements of this kind"
  | .nestedDeclare =>
    some "`declare` modifier not allowed for code already in an ambient context"
  | .repeatedModifier word => some ("'" ++ word ++ "' modifier already seen.")
  | .lateModifier word before =>
    some ("'" ++ word ++ "' modifier must precede '" ++ before ++ "' modifier.")
  | .mixedModifiers word other =>
    some ("'" ++ word ++ "' modifier cannot be used with '" ++ other ++ "' modifier.")
  | .typeParameterModifier word =>
    some ("'" ++ word ++ "' modifier cannot appear on a type parameter")
  | .varianceModifier word =>
    some ("'" ++ word ++ "' modifier can only appear on a type parameter of a class, " ++
      "interface or type alias")
  | .constModifier word =>
    some ("'" ++ word ++ "' modifier can only appear on a type parameter of a function, " ++
      "method or class")
  | .modifierPlace => some "Modifiers cannot appear here"
  | .privateNameModifier word =>
    some ("'" ++ word ++ "' modifier cannot be used with a private identifier")
  | .privateNameAccess =>
    some "An accessibility modifier cannot be used with a private identifier."
  | .className => some "Invalid class name"
  | .repeatedExtends => some "`extends` clause already seen."
  | .lateExtends => some "'extends' clause must precede 'implements' clause."
  | .severalParents => some "Classes can only extend a single class"
  | .repeatedImplements => some "`implements` clause already seen"
  | .heritageName =>
    some ("An interface can only extend an identifier/qualified-name with optional type " ++
      "arguments.")
  | .ambientBody => some "An implementation cannot be declared in ambient contexts"
  | _ => none

def ofStatement? : ParseError → Option String
  | .returnPlace => some "Return statement is not allowed here"
  | .breakPlace =>
    some ("A 'break' statement can only be used within an enclosing iteration or switch " ++
      "statement")
  | .continuePlace =>
    some ("A 'continue' statement can only jump to a label of an enclosing iteration " ++
      "statement")
  | .unknownBreakLabel =>
    some "A 'break' statement can only jump to a label of an enclosing statement"
  | .unknownContinueLabel => some "Jump target cannot cross function boundary"
  | .repeatedLabel name => some ("Label " ++ name ++ " is already declared")
  | .labeledFunction => some "Function cannot be labelled in strict mode"
  | .labeledGenerator => some "Generator or async function cannot be labelled"
  | .withStatement => some "With statement are not allowed in strict mode"
  | .typedWith =>
    some ("The 'with' statement is not supported. All symbols in a 'with' block will have " ++
      "type 'any'.")
  | .lineBreakAfterThrow => some "LineBreak cannot follow 'throw'"
  | .constWithoutValue => some "'const' declarations must be initialized"
  | .patternWithoutValue => some "Destructuring bindings require initializers"
  | .trailingComma => some "Trailing comma is not allowed"
  | .noVariable => some "Variable declaration list cannot be empty"
  | .severalVariables => some "Expected one variable binding"
  | .loopValue => some "Unexpected initializer in for in/of loop"
  | .loopType =>
    some "The left-hand side of a 'for...of' statement cannot use a type annotation"
  | .loopPattern =>
    some "The left-hand side of a 'for...in' statement cannot be a destructuring pattern"
  | .loopAsync => some "The left-hand side of a `for...of` statement may not be `async`"
  | .loopAwait => some "for await syntax is valid only for for-of statement"
  | .declarationPlace => some "Declaration is not allowed"
  | .secondDefault => some "A switch block cannot have multiple defaults"
  | .usingDisabled =>
    some ("Using declaration is not enabled. Set jsc.parser.explicitResourceManagement " ++
      "to true")
  | .usingInLoop => some "Using declaration is not allowed in for-in loop"
  | .usingPattern => some "Using declaration only allows identifiers"
  | .usingWithoutValue => some "Using declaration requires initializer"
  | .importPlace => some "'import', and 'export' cannot be used outside of module code"
  | .importedText value =>
    some ("A string literal cannot be used as an imported binding.\n" ++
      "- Did you mean `import \x7b \"" ++ value ++ "\" as foo \x7d`?")
  | .exportedText =>
    some "A string literal cannot be used as an exported binding without `from`."
  | .exportedWord word => some ("`" ++ word ++ "` cannot be used without `from` clause")
  | .typeInTypeImport =>
    some ("The 'type' modifier cannot be used on a named import when 'import type' is used " ++
      "on its import statement.")
  | .typeInTypeExport =>
    some ("The 'type' modifier cannot be used on a named export when 'export type' is used " ++
      "on its export statement.")
  | .decoratorBeforeExport =>
    some ("Using the export keyword between a decorator and a class is not allowed. " ++
      "Please use `export @dec class` instead.")
  | .decoratorsAroundExport =>
    some ("Decorators may not appear after `export` or `export default` if they also appear " ++
      "before `export`.")
  | _ => none

def ofType : ParseError → String
  | .importTypeText => "literal in an import type should be string literal"
  | .requiredBehindOptional => "A required element cannot follow an optional element."
  | .indexParameters => "An index signature must have exactly one parameter"
  | .interfaceName => "interface name is invalid"
  | .privateNameInType => "private names are not allowed in interface"
  | .numericEnumMember => "An enum member cannot have a numeric name"
  | .computedEnumMember => "Computed property names are not allowed in enums"
  | .emptyAttribute => "JSX attributes must only be assigned a non-empty expression"
  | .attributeValue => "JSX value should be either an expression or a quoted JSX text"
  | .closingTag name => "Expected corresponding JSX closing tag for <" ++ name ++ ">"
  | .closingFragment => "Expected corresponding JSX closing tag for <>"
  | .elementText mark entity =>
    "Unexpected token. Did you mean `\x7b'" ++ mark ++ "'\x7d` or `" ++ entity ++ "`?"
  | _ => "Budget exhausted"

def message (error : ParseError) : String :=
  (error.ofToken? <|> error.ofExpression? <|> error.ofClass? <|> error.ofStatement?).getD
    error.ofType

end ParseError

end StyleInline.Script
