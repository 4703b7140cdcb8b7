import LazyStyles.Text.Quoted

/-!
# Faults

Everything that can be wrong with a source text, and how each is worded.  A fault says nothing about
where it is; that is the place beside it.
-/

namespace LazyStyles.Syntax

/-- What is wrong with a source text. -/
inductive Fault where
  -- Literals, words and comments.
  | unexpectedCharacter (c : Char)
  | unterminatedString
  | unterminatedRegex
  | unterminatedComment
  | htmlComment
  | expectedUnicodeEscape
  | invalidUnicodeEscape
  | invalidStringEscape
  | badEscape (digits : String)
  | notInIdentifier
  | escapedReservedWord (word : String)
  | legacyOctal
  | legacyDecimal
  | expectedDigit (radix : String)
  | expectedExponent
  | separatorBetweenDigits
  | identifierAfterNumber
  | duplicateFlag (c : Char)
  | unknownFlags
  -- Tokens out of place.
  | unexpectedEnd
  | expected (what got : String)
  | unexpectedToken (got wanted : String)
  | expressionExpected
  | expectedStatementEnd
  | expectedSemicolon
  | expectedIdentifier
  | trailingComma
  -- Names.
  | strictName (word : String)
  | awaitName
  | evalOrArguments
  | argumentsInField
  | argumentsInStaticBlock
  | reservedShorthand
  | spaceAfterHash
  -- Expressions.
  | assignmentTarget
  | cannotAssign
  | notPattern
  | arrowLineBreak
  | arrowNotAllowed
  | emptyParentheses
  | spreadInParentheses
  | mixedCoalescing
  | exponentOfUnary
  | deleteIdentifier
  | awaitStar
  | awaitInFunction
  | awaitInParameter
  | yieldInParameter
  | metaOutsideModule
  | newTargetOutsideFunction
  | superOutsideMethod
  | newOfOptionalChain
  | templateInOptionalChain
  | importTrailingComma
  | optionalMember
  -- Functions and classes.
  | restNotLast
  | restElementNotLast
  | restWithInitializer
  | commaAfterRest
  | dotsWithoutIdentifier
  | getterParameters
  | setterParameters
  | setterRest
  | strictDirectiveWithPatterns
  | duplicateConstructor
  | generatorConstructor
  | asyncConstructor
  | accessorConstructor
  | staticConstructor
  | privateConstructor
  | fieldConstructor
  | secondExtends
  -- Statements.
  | initializerRequired
  | patternInitializerRequired
  | declarationNotAllowed
  | usingNotEnabled
  | returnOutsideFunction
  | withInStrict
  | breakOutside
  | continueOutside
  | breakLabel
  | continueLabel
  | duplicateLabel (label : String)
  | labelledFunctionInStrict
  | labelledGeneratorOrAsync
  | lineBreakAfterThrow
  | multipleDefaults
  | awaitNotForOf
  | manyLoopBindings
  | loopInitializer
  -- Modules.
  | moduleItemNested
  | reservedImport
  | importBindingIsString (name : String)
  | exportBindingIsString
  | exportWithoutSource (name : String)
  /-- No depth is left for another nested construct. -/
  | tooDeep
deriving DecidableEq, Repr

namespace Fault

/-- The wording of a fault. -/
def message : Fault → String
  | unexpectedCharacter c => "Unexpected character " ++ Text.quoteChar c
  | unterminatedString => "Unterminated string constant"
  | unterminatedRegex => "Unterminated regexp literal"
  | unterminatedComment => "Unterminated block comment"
  | htmlComment => "Legacy comments cannot be used in module code"
  | expectedUnicodeEscape => "Expected unicode escape"
  | invalidUnicodeEscape => "Invalid unicode escape"
  | invalidStringEscape => "Invalid string escape"
  | badEscape digits => "Bad character escape sequence, expected " ++ digits
  | notInIdentifier => "Invalid character in identifier"
  | escapedReservedWord word => "Unexpected escape sequence in reserved word: " ++ word
  | legacyOctal => "Legacy octal escape is not permitted in strict mode"
  | legacyDecimal => "Legacy decimal escape is not permitted in strict mode"
  | expectedDigit radix => "Expected " ++ radix ++ " digit"
  | expectedExponent => "Expected +, - or decimal digit after e"
  | separatorBetweenDigits => "A numeric separator is only allowed between two digits"
  | identifierAfterNumber => "Identifier cannot follow number"
  | duplicateFlag c => "Duplicated regular expression flag '" ++ c.toString ++ "'."
  | unknownFlags => "Unknown regular expression flags."
  | unexpectedEnd => "Unexpected eof"
  | expected what got => "Expected '" ++ what ++ "', got '" ++ got ++ "'"
  | unexpectedToken got wanted => "Unexpected token `" ++ got ++ "`. Expected " ++ wanted
  | expressionExpected => "Expression expected"
  | expectedStatementEnd => "Expected ';', '\x7d' or <eof>"
  | expectedSemicolon => "Expected a semicolon"
  | expectedIdentifier => "Expected ident"
  | trailingComma => "Trailing comma is not allowed"
  | strictName word => "`" ++ word ++ "` cannot be used as an identifier in strict mode"
  | awaitName => "`await` cannot be used as an identifier in an async context"
  | evalOrArguments =>
    "'eval' and 'arguments' cannot be used as a binding identifier in strict mode"
  | argumentsInField => "'arguments' is only allowed in functions and class methods"
  | argumentsInStaticBlock =>
    "'arguments' cannot be referenced in class static initialization block"
  | reservedShorthand => "Cannot use a reserved word as a shorthand property"
  | spaceAfterHash => "Unexpected space between # and identifier"
  | assignmentTarget =>
    "The left-hand side of an assignment expression must be a variable or a property access."
  | cannotAssign => "Cannot assign to this"
  | notPattern => "Not a pattern"
  | arrowLineBreak => "Unexpected line break between arrow head and arrow"
  | arrowNotAllowed => "Arrow is not allowed here"
  | emptyParentheses => "Parenthesized expression cannot be empty"
  | spreadInParentheses => "Parenthesized expression cannot contain spread operator"
  | mixedCoalescing =>
    "Nullish coalescing operator(??) requires parens when mixing with logical operators"
  | exponentOfUnary => "'**' cannot be applied to unary/await expression."
  | deleteIdentifier => "'delete' cannot be called on an identifier in strict mode"
  | awaitStar =>
    "await* has been removed from the async functions proposal. Use Promise.all() instead."
  | awaitInFunction => "await isn't allowed in non-async function"
  | awaitInParameter => "`await` expressions cannot be used in a parameter initializer"
  | yieldInParameter => "'yield' cannot be used as a parameter within generator"
  | metaOutsideModule => "'import.meta' cannot be used outside of module code."
  | newTargetOutsideFunction =>
    "'new.target' is only allowed in the body of a function declaration, function expression, or constructor"
  | superOutsideMethod => "Invalid access to super"
  | newOfOptionalChain => "Constructor in/after an optional chaining is not allowed"
  | templateInOptionalChain => "Tagged template literal is not allowed in optional chain"
  | importTrailingComma => "Trailing comma is disallowed inside import(...) arguments"
  | optionalMember => "An object member cannot be declared optional"
  | restNotLast => "A rest parameter must be last in a parameter list"
  | restElementNotLast => "Rest element must be final element"
  | restWithInitializer => "A rest parameter cannot have an initializer"
  | commaAfterRest => "Trailing comma isn't permitted after a rest element"
  | dotsWithoutIdentifier =>
    "`...` must be followed by an identifier in declaration contexts"
  | getterParameters => "A `get` accessor cannot have parameters"
  | setterParameters => "A `set` accessor must have exactly one parameter"
  | setterRest => "Rest pattern is not allowed in setter"
  | strictDirectiveWithPatterns =>
    "Illegal 'use strict' directive in function with non-simple parameter list."
  | duplicateConstructor => "A class can only have one constructor"
  | generatorConstructor => "A constructor cannot be generator"
  | asyncConstructor => "A constructor cannot be async"
  | accessorConstructor => "Class constructor can't be an accessor"
  | staticConstructor => "'static' modifier cannot appear on a constructor declaration"
  | privateConstructor => "Classes can't have a private field named '#constructor'"
  | fieldConstructor => "Classes may not have a non-static field named 'constructor'"
  | secondExtends => "'extends' clause already seen."
  | initializerRequired => "'const' declarations must be initialized"
  | patternInitializerRequired => "Destructuring bindings require initializers"
  | declarationNotAllowed => "Declaration is not allowed"
  | usingNotEnabled =>
    "Using declaration is not enabled. Set jsc.parser.explicitResourceManagement to true"
  | returnOutsideFunction => "Return statement is not allowed here"
  | withInStrict => "With statement are not allowed in strict mode"
  | breakOutside =>
    "A 'break' statement can only be used within an enclosing iteration or switch statement"
  | continueOutside =>
    "A 'continue' statement can only jump to a label of an enclosing iteration statement"
  | breakLabel => "A 'break' statement can only jump to a label of an enclosing statement"
  | continueLabel => "Jump target cannot cross function boundary"
  | duplicateLabel label => "Label " ++ label ++ " is already declared"
  | labelledFunctionInStrict => "Function cannot be labelled in strict mode"
  | labelledGeneratorOrAsync => "Generator or async function cannot be labelled"
  | lineBreakAfterThrow => "LineBreak cannot follow 'throw'"
  | multipleDefaults => "A switch block cannot have multiple defaults"
  | awaitNotForOf => "for await syntax is valid only for for-of statement"
  | manyLoopBindings => "Expected one variable binding"
  | loopInitializer => "Unexpected initializer in for in/of loop"
  | moduleItemNested => "'import', and 'export' cannot be used outside of module code"
  | reservedImport => "cannot import as reserved word"
  | importBindingIsString name =>
    "A string literal cannot be used as an imported binding.\n- Did you mean `import \x7b \"" ++
      name ++ "\" as foo \x7d`?"
  | exportBindingIsString =>
    "A string literal cannot be used as an exported binding without `from`."
  | exportWithoutSource name => "`" ++ name ++ "` cannot be used without `from` clause"
  | tooDeep => "The source is nested too deeply"

end Fault

end LazyStyles.Syntax
