/-!
# What can be wrong with the text of a script

`Fault` names the causes for which a script is not well formed, and `Fault.message` words them.
A `Complaint` places a fault in the text.
-/

namespace UnitResolution.Script

/-- A cause for which the text of a script is not well formed. -/
inductive Fault
  /-- The given mark or word is missing. -/
  | expected (what : String)
  | expressionExpected
  | typeExpected
  | identifierExpected
  | reservedWord (word : String)
  | variableDeclarationExpected
  | wordNotVariableName (word : String)
  | wordNotParameterName (word : String)
  | parameterDeclarationExpected
  | typeParameterExpected
  | typeArgumentExpected
  | declarationExpected
  | declarationOrStatementExpected
  | statementExpected
  | caseOrDefaultExpected
  | catchOrFinallyExpected
  | blockOrSemicolonExpected
  | blockFollowedByAssignment
  | propertyOrSignatureExpected
  | classMemberExpected
  | enumMemberExpected
  | enumMemberSeparatorExpected
  | propertyPatternExpected
  | elementPatternExpected
  | argumentExpected
  | propertyAssignmentExpected
  | expressionOrCommaExpected
  | openBraceExpectedAfterToken
  | identifierOrStringExpected
  | initializerMarkExpected
  | indexArgumentExpected
  | superMemberExpected
  | superTypeArguments
  | instantiatedMember
  | optionalConstruction (callee : String)
  | assertionRaisedToPower
  | unaryRaisedToPower (operator : String)
  | functionTypeInUnion
  | functionTypeInIntersection
  | predicateOutsideReturn
  | lineBreakHere
  | declarationNotAllowedHere
  | unexpectedWord
  | taggedModuleName
  | invalidName (kind name : String)
  | missingName (kind : String)
  | decoratorAfterName
  | callInAnnotatedType
  | privateNameOutsideClass
  | privateNameAsParameter
  | privateNameAsVariable
  | escapedWord
  | escapedName
  | unterminatedString
  | unterminatedTemplate
  | unterminatedRegularExpression
  | unterminatedComment
  | invalidCharacter
  | hashBangNotFirst
  | digitExpected
  | hexadecimalDigitExpected
  | binaryDigitExpected
  | octalDigitExpected
  | separatorRepeated
  | separatorMisplaced
  | leadingZero
  | octalLiteral (replacement : String)
  | bigintExponent
  | bigintFraction
  | wordAfterNumber
  | octalEscape (replacement : String)
  | forbiddenEscape (escape : String)
  | unterminatedEscape
  | escapeOutOfRange
  deriving Repr, DecidableEq

/-- The wording of a fault. -/
def Fault.message : Fault → String
  | expected what => "'" ++ what ++ "' expected."
  | expressionExpected => "Expression expected."
  | typeExpected => "Type expected."
  | identifierExpected => "Identifier expected."
  | reservedWord word =>
      "Identifier expected. '" ++ word ++ "' is a reserved word that cannot be used here."
  | variableDeclarationExpected => "Variable declaration expected."
  | wordNotVariableName word =>
      "'" ++ word ++ "' is not allowed as a variable declaration name."
  | wordNotParameterName word => "'" ++ word ++ "' is not allowed as a parameter name."
  | parameterDeclarationExpected => "Parameter declaration expected."
  | typeParameterExpected => "Type parameter declaration expected."
  | typeArgumentExpected => "Type argument expected."
  | declarationExpected => "Declaration expected."
  | declarationOrStatementExpected => "Declaration or statement expected."
  | statementExpected => "Statement expected."
  | caseOrDefaultExpected => "'case' or 'default' expected."
  | catchOrFinallyExpected => "'catch' or 'finally' expected."
  | blockOrSemicolonExpected => "'\x7b' or ';' expected."
  | blockFollowedByAssignment =>
      "Declaration or statement expected. This '=' follows a block of statements, so if you " ++
        "intended to write a destructuring assignment, you might need to wrap the whole " ++
        "assignment in parentheses."
  | propertyOrSignatureExpected => "Property or signature expected."
  | classMemberExpected =>
      "Unexpected token. A constructor, method, accessor, or property was expected."
  | enumMemberExpected => "Enum member expected."
  | enumMemberSeparatorExpected =>
      "An enum member name must be followed by a ',', '=', or '\x7d'."
  | propertyPatternExpected => "Property destructuring pattern expected."
  | elementPatternExpected => "Array element destructuring pattern expected."
  | argumentExpected => "Argument expression expected."
  | propertyAssignmentExpected => "Property assignment expected."
  | expressionOrCommaExpected => "Expression or comma expected."
  | openBraceExpectedAfterToken => "Unexpected token. '\x7b' expected."
  | identifierOrStringExpected => "Identifier or string literal expected."
  | initializerMarkExpected => "Expected '=' for property initializer."
  | indexArgumentExpected => "An element access expression should take an argument."
  | superMemberExpected => "'super' must be followed by an argument list or member access."
  | superTypeArguments => "'super' may not use type arguments."
  | instantiatedMember =>
      "An instantiation expression cannot be followed by a property access."
  | optionalConstruction callee =>
      "Invalid optional chain from new expression. Did you mean to call '" ++ callee ++ "()'?"
  | assertionRaisedToPower =>
      "A type assertion expression is not allowed in the left-hand side of an exponentiation " ++
        "expression. Consider enclosing the expression in parentheses."
  | unaryRaisedToPower operator =>
      "An unary expression with the '" ++ operator ++ "' operator is not allowed in the " ++
        "left-hand side of an exponentiation expression. Consider enclosing the expression in " ++
        "parentheses."
  | functionTypeInUnion =>
      "Function type notation must be parenthesized when used in a union type."
  | functionTypeInIntersection =>
      "Function type notation must be parenthesized when used in an intersection type."
  | predicateOutsideReturn =>
      "A type predicate is only allowed in return position for functions and methods."
  | lineBreakHere => "Line break not permitted here."
  | declarationNotAllowedHere => "Variable declaration not allowed at this location."
  | unexpectedWord => "Unexpected keyword or identifier."
  | taggedModuleName => "Module declaration names may only use ' or \" quoted strings."
  | invalidName kind name => kind ++ " name cannot be '" ++ name ++ "'."
  | missingName kind => kind ++ " must be given a name."
  | decoratorAfterName =>
      "Decorators must precede the name and all keywords of property declarations."
  | callInAnnotatedType => "Cannot start a function call in a type annotation."
  | privateNameOutsideClass => "Private identifiers are not allowed outside class bodies."
  | privateNameAsParameter => "Private identifiers cannot be used as parameters."
  | privateNameAsVariable =>
      "Private identifiers are not allowed in variable declarations."
  | escapedWord => "Keywords cannot contain escape characters."
  | escapedName => "Unicode escape sequence cannot appear here."
  | unterminatedString => "Unterminated string literal."
  | unterminatedTemplate => "Unterminated template literal."
  | unterminatedRegularExpression => "Unterminated regular expression literal."
  | unterminatedComment => "'*/' expected."
  | invalidCharacter => "Invalid character."
  | hashBangNotFirst => "'#!' can only be used at the start of a file."
  | digitExpected => "Digit expected."
  | hexadecimalDigitExpected => "Hexadecimal digit expected."
  | binaryDigitExpected => "Binary digit expected."
  | octalDigitExpected => "Octal digit expected."
  | separatorRepeated => "Multiple consecutive numeric separators are not permitted."
  | separatorMisplaced => "Numeric separators are not allowed here."
  | leadingZero => "Decimals with leading zeros are not allowed."
  | octalLiteral replacement =>
      "Octal literals are not allowed. Use the syntax '" ++ replacement ++ "'."
  | bigintExponent => "A bigint literal cannot use exponential notation."
  | bigintFraction => "A bigint literal must be an integer."
  | wordAfterNumber =>
      "An identifier or keyword cannot immediately follow a numeric literal."
  | octalEscape replacement =>
      "Octal escape sequences are not allowed. Use the syntax '" ++ replacement ++ "'."
  | forbiddenEscape escape => "Escape sequence '" ++ escape ++ "' is not allowed."
  | unterminatedEscape => "Unterminated Unicode escape sequence."
  | escapeOutOfRange =>
      "An extended Unicode escape value must be between 0x0 and 0x10FFFF inclusive."

/-- A fault with its place: the code unit at which it begins and its extent in code units. -/
structure Complaint where
  start : Nat
  length : Nat
  fault : Fault
  deriving Repr, DecidableEq

end UnitResolution.Script
