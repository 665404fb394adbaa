import UnitResolution.Script.Parser.Ahead

/-!
# Sequences of similar parts

Statements, members, parameters, arguments and the like come in sequences. `listOf` reads parts
that follow each other directly, `delimitedList` parts with commas between them. A token that
begins no part is a fault; whether it is passed over or ends the sequence depends on whether one of
the surrounding sequences (`State.regions`) could go on with it.
-/

namespace UnitResolution.Script.Parser

/-- Whether a part of the given sequence begins here. In recovery from a fault, when the question
is whether a surrounding sequence can go on, the answer is a little stricter. -/
def isElement (recovering : Bool) : Region → Parser Bool
  | .sourceElements | .blockStatements | .clauseStatements => do
      if recovering && (← isMark ";") then return false
      isStartOfStatement
  | .switchClauses => isOneOfWords ["case", "default"]
  | .typeMembers => isStartOfTypeMember
  | .classMembers => do
      return (← isStartOfClassMember) || (!recovering && (← isMark ";"))
  | .enumMembers => do return (← isMark "[") || (← isPlainPropertyName)
  | .objectMembers => do
      return (← isOneOfMarks ["[", "*", "...", "."]) || (← isPlainPropertyName)
  | .objectBindings => do return (← isOneOfMarks ["[", "..."]) || (← isPlainPropertyName)
  | .importAttributes => do return (← isName) || (← kind) == .string
  | .heritageElements => do
      if ← isMark "\x7b" then isHeritageObject
      else
        let starts ← if recovering then isIdentifier else isStartOfLeftHandSide
        if !starts then return false
        if ← isHeritageWord then return !(← lookAhead do advance; isStartOfExpression)
        return true
  | .variableDeclarations => isStartOfBinding
  | .arrayBindings => do return (← isOneOfMarks [",", "..."]) || (← isStartOfBinding)
  | .typeParameters => do return (← isOneOfWords ["in", "const"]) || (← isIdentifier)
  | .arrayMembers => do return (← isOneOfMarks [",", ".", "..."]) || (← isStartOfExpression)
  | .arguments => do return (← isMark "...") || (← isStartOfExpression)
  | .parameters => isStartOfParameter
  | .typeArguments | .tupleElements => do return (← isMark ",") || (← isStartOfType)
  | .heritageClauses => isHeritageWord
  | .specifiers => do
      if (← isWord "from") && (← nextIsString) then return false
      return (← kind) == .string || (← isName)

/-- Whether the given sequence ends before the current token. -/
def isTerminator (region : Region) : Parser Bool := do
  if ← atEnd then return true
  match region with
  | .blockStatements | .switchClauses | .typeMembers | .classMembers | .enumMembers
  | .objectMembers | .objectBindings | .specifiers | .importAttributes => isMark "\x7d"
  | .clauseStatements => return (← isMark "\x7d") || (← isOneOfWords ["case", "default"])
  | .heritageElements => return (← isMark "\x7b") || (← isHeritageWord)
  | .variableDeclarations =>
      return (← canEndStatement) || (← isOneOfWords ["in", "of"]) || (← isMark "=>")
  | .typeParameters => return (← isOneOfMarks [">", "(", "\x7b"]) || (← isHeritageWord)
  | .arguments => isOneOfMarks [")", ";"]
  | .arrayMembers | .tupleElements | .arrayBindings => isMark "]"
  | .parameters => isOneOfMarks [")", "]"]
  | .typeArguments => return !(← isMark ",")
  | .heritageClauses => isOneOfMarks ["\x7b", "\x7d"]
  | .sourceElements => return false

/-- The fault of a token that begins no part of the given sequence. -/
def elementFault (region : Region) : Parser Fault := do
  let text ← tokenText
  match region with
  | .sourceElements =>
      return if ← isWord "default" then .expected "export" else .declarationOrStatementExpected
  | .blockStatements => return .declarationOrStatementExpected
  | .switchClauses => return .caseOrDefaultExpected
  | .clauseStatements => return .statementExpected
  | .typeMembers => return .propertyOrSignatureExpected
  | .classMembers => return .classMemberExpected
  | .enumMembers => return .enumMemberExpected
  | .heritageElements => return .expressionExpected
  | .variableDeclarations =>
      return if ← isKeywordToken then .wordNotVariableName text
        else .variableDeclarationExpected
  | .objectBindings => return .propertyPatternExpected
  | .arrayBindings => return .elementPatternExpected
  | .arguments => return .argumentExpected
  | .objectMembers => return .propertyAssignmentExpected
  | .arrayMembers => return .expressionOrCommaExpected
  | .parameters =>
      return if ← isKeywordToken then .wordNotParameterName text
        else .parameterDeclarationExpected
  | .typeParameters => return .typeParameterExpected
  | .typeArguments => return .typeArgumentExpected
  | .tupleElements => return .typeExpected
  | .heritageClauses => return .openBraceExpectedAfterToken
  | .specifiers => return if ← isWord "from" then .expected "\x7d" else .identifierExpected
  | .importAttributes => return .identifierOrStringExpected

/-- Whether one of the given sequences can go on or end at the current token. -/
def canResume : List Region → Parser Bool
  | [] => return false
  | region :: outer => do
      if (← isElement true region) || (← isTerminator region) then return true
      canResume outer

/-- Note that no part of the sequence begins here. Then either answer that the sequence is given
up, since a surrounding one can go on, or pass over the token. -/
def giveUpOrSkip (region : Region) : Parser Bool := do
  complain (← elementFault region)
  if ← canResume (← get).regions then return true
  advance
  return false

/-- Read a part inside the given sequence. -/
def inRegion {α : Type} (region : Region) (p : Parser α) : Parser α := do
  let saved := (← get).regions
  modify fun s => { s with regions := region :: saved }
  let a ← p
  modify fun s => { s with regions := saved }
  return a

/-- Read parts that follow each other directly. -/
def listOf {α : Type} (region : Region) (part : Parser α) : Parser (List α) :=
  inRegion region do
    let parts ← loop ([] : List α) fun parts => do
      if ← isTerminator region then return (false, parts)
      if ← isElement false region then return (true, (← part) :: parts)
      if ← giveUpOrSkip region then return (false, parts)
      return (true, parts)
    return parts.reverse

/-- Read parts with commas between them. The list is nothing if one of its parts is. -/
def delimitedList? {α : Type} (region : Region) (part : Parser (Option α))
    (semicolons : Bool := false) : Parser (Option (List α)) :=
  inRegion region do
    let parts ← loop (some [] : Option (List α)) fun parts => do
      if ← isElement false region then
        let before ← previousStop
        match ← part with
        | none => return (false, none)
        | some p =>
            let parts := parts.map (p :: ·)
            if ← optionalMark "," then return (true, parts)
            if ← isTerminator region then return (false, parts)
            let fault : Fault :=
              if region = .enumMembers then .enumMemberSeparatorExpected else .expected ","
            let _ ← expectMark "," fault
            if semicolons && (← isMark ";") && !(← afterLineBreak) then advance
            if before == (← previousStop) then advance
            return (true, parts)
      if ← isTerminator region then return (false, parts)
      if ← giveUpOrSkip region then return (false, parts)
      return (true, parts)
    return parts.map List.reverse

/-- Read parts with commas between them. -/
def delimitedList {α : Type} (region : Region) (part : Parser α) (semicolons : Bool := false) :
    Parser (List α) := do
  return (← delimitedList? region (some <$> part) semicolons).getD []

/-- Read parts with commas between them, enclosed in brackets. -/
def bracketedList {α : Type} (region : Region) (part : Parser α) (opening closing : String) :
    Parser (List α) := do
  if ← expectMark opening then
    let parts ← delimitedList region part
    let _ ← expectMark closing
    return parts
  else return []

end UnitResolution.Script.Parser
