import UnitResolution.Script.Parser.State

/-!
# What the next tokens begin

The questions by which a parser decides what it is about to read: whether a type, an expression, a
statement, a declaration or a member begins at the current token. All of them look at tokens only
and leave the parser where it is, the functions named for a step apart, which are used inside
`lookAhead`.
-/

namespace UnitResolution.Script.Parser

/-! ## Steps used in looking ahead -/

/-- Go on to the next token and answer its kind. -/
def next : Parser TokenKind := do
  advance
  kind

/-- Whether what follows a modifier can be the beginning of what it modifies. -/
def canFollowModifier : Parser Bool := do
  return (← isOneOfMarks ["[", "\x7b", "*", "..."]) || (← isPlainPropertyName)

/-- Whether what follows `export` can be what it exports. -/
def canFollowExport : Parser Bool := do
  if ← isMark "@" then return true
  if (← isOneOfMarks ["*", "\x7b"]) || (← isWord "as") then return false
  canFollowModifier

/-- Step over `default` and see whether a declaration follows. -/
def canFollowDefault : Parser Bool := do
  advance
  if (← isOneOfWords ["class", "function", "interface"]) || (← isMark "@") then return true
  if ← isWord "abstract" then
    return ← lookAhead do advance; return (← isWord "class") && !(← afterLineBreak)
  if ← isWord "async" then
    return ← lookAhead do advance; return (← isWord "function") && !(← afterLineBreak)
  return false

/-- Step over a modifier and see whether what it modifies follows. -/
def stepOverModifier : Parser Bool := do
  match ← kind with
  | .word "const" => advance; isWord "enum"
  | .word "export" =>
      advance
      if ← isWord "default" then lookAhead canFollowDefault
      else if ← isWord "type" then lookAhead do advance; canFollowExport
      else canFollowExport
  | .word "default" => canFollowDefault
  | .word "static" => advance; canFollowModifier
  | .word "get" | .word "set" =>
      advance
      return (← isMark "[") || (← isPlainPropertyName)
  | _ =>
      advance
      if ← afterLineBreak then return false
      canFollowModifier

/-! ## Types -/

/-- Words that are types of their own or begin one, beside identifiers. -/
def typeWords : List String :=
  ["any", "unknown", "string", "number", "bigint", "boolean", "readonly", "symbol", "unique",
    "void", "undefined", "null", "this", "typeof", "never", "new", "true", "false", "object",
    "infer", "import", "asserts"]

/-- Whether a type begins here; `depth` bounds the parentheses looked behind. -/
def isStartOfTypeWithin (inParameter : Bool) : (depth : Nat) → Parser Bool
  | 0 => return false
  | depth + 1 => do
      match ← kind with
      | .mark mark =>
          if ["\x7b", "[", "<", "|", "&", "*", "?", "!", "..."].contains mark then return true
          else if mark == "-" then
            if inParameter then return false
            lookAhead do
              match ← next with
              | .number | .bigint => return true
              | _ => return false
          else if mark == "(" then
            if inParameter then return false
            lookAhead do
              advance
              if ← isMark ")" then return true
              if (← isOneOfMarks ["...", "\x7b", "[", "@"]) || (← kind) == .privateName ||
                  (← isBindingIdentifier) || (← isModifierToken) then return true
              if ← isStartOfTypeWithin true depth then return true
              isStartOfTypeWithin false depth
          else return false
      | .string | .number | .bigint | .template | .templateHead => return true
      | .word word =>
          if typeWords.contains word then return true
          else if word == "function" then return !inParameter
          else isIdentifier
      | _ => return false

/-- Whether a type begins here. -/
def isStartOfType : Parser Bool := do isStartOfTypeWithin false (← budget)

/-- Whether a parameter begins here. -/
def isStartOfParameter : Parser Bool := do
  if (← isOneOfMarks ["...", "\x7b", "[", "@"]) || (← kind) == .privateName ||
      (← isBindingIdentifier) || (← isModifierToken) then return true
  isStartOfTypeWithin true (← budget)

/-- Whether an identifier or a pattern that takes a value apart begins here. -/
def isStartOfBinding : Parser Bool := do
  return (← isOneOfMarks ["\x7b", "["]) || (← kind) == .privateName || (← isBindingIdentifier)

/-- Inside a bracket that may begin an index signature: whether it does. -/
def isIndexSignatureHead : Parser Bool := do
  advance
  if ← isOneOfMarks ["...", "]"] then return true
  if ← isModifierToken then
    advance
    if ← isIdentifier then return true
  else if !(← isIdentifier) then return false
  else advance
  if ← isOneOfMarks [":", ","] then return true
  if !(← isMark "?") then return false
  advance
  isOneOfMarks [":", ",", "]"]

/-- Whether an index signature begins here. -/
def isIndexSignature : Parser Bool := do
  return (← isMark "[") && (← lookAhead isIndexSignatureHead)

/-- Whether a member of an object type or interface begins here. -/
def isStartOfTypeMember : Parser Bool := lookAhead do
  if (← isOneOfMarks ["(", "<"]) || (← isOneOfWords ["get", "set"]) then return true
  let named ← loop false fun named => do
    if ← isModifierToken then advance; return (true, true) else return (false, named)
  if ← isMark "[" then return true
  let plain ← isPlainPropertyName
  if plain then advance
  if named || plain then
    return (← isOneOfMarks ["(", "<", "?", ":", ","]) || (← canEndStatement)
  return false

/-! ## Expressions -/

/-- The precedence of an operator between two operands; nothing for any other token. -/
def precedence : TokenKind → Option Nat
  | .mark "??" => some 4
  | .mark "||" => some 5
  | .mark "&&" => some 6
  | .mark "|" => some 7
  | .mark "^" => some 8
  | .mark "&" => some 9
  | .mark mark =>
      if ["==", "!=", "===", "!=="].contains mark then some 10
      else if ["<", ">", "<=", ">="].contains mark then some 11
      else if ["<<", ">>", ">>>"].contains mark then some 12
      else if mark == "+" || mark == "-" then some 13
      else if ["*", "/", "%"].contains mark then some 14
      else if mark == "**" then some 15
      else none
  | .word word =>
      if ["instanceof", "in", "as", "satisfies"].contains word then some 11 else none
  | _ => none

/-- Whether the current token is an operator between two operands. -/
def isBinaryOperator : Parser Bool := do
  let k ← kind
  if (← setting).noIn && k == .word "in" then return false
  return (precedence k).isSome

/-- Whether `import` begins a call or names a property of the module here. -/
def isImportExpression : Parser Bool := lookAhead do advance; isOneOfMarks ["(", "<", "."]

/-- Whether an expression begins here that can stand on the left of a dot. -/
def isStartOfLeftHandSide : Parser Bool := do
  match ← kind with
  | .word word =>
      if ["this", "super", "null", "true", "false", "function", "class", "new"].contains word then
        return true
      else if word == "import" then isImportExpression
      else isIdentifier
  | .number | .bigint | .string | .template | .templateHead => return true
  | .mark mark => return ["(", "[", "\x7b", "/", "/="].contains mark
  | _ => return false

/-- Whether an expression begins here. An operator counts too, so that an operand missing in front
of it is noticed there. -/
def isStartOfExpression : Parser Bool := do
  if ← isStartOfLeftHandSide then return true
  match ← kind with
  | .word word =>
      if ["delete", "typeof", "void", "await", "yield"].contains word then return true
  | .mark mark => if ["+", "-", "~", "!", "++", "--", "<", "@"].contains mark then return true
  | .privateName => return true
  | _ => pure ()
  isBinaryOperator

/-- Whether an expression that is a statement of its own begins here. -/
def isStartOfExpressionStatement : Parser Bool := do
  if (← isOneOfMarks ["\x7b", "@"]) || (← isOneOfWords ["function", "class"]) then return false
  isStartOfExpression

/-- Whether the current token is a template behind an expression that processes it. -/
def isTemplateStart : Parser Bool := do
  match ← kind with
  | .template | .templateHead => return true
  | _ => return false

/-! ## Statements and declarations -/

/-- Whether the word behind the current one names what a declaration binds, on the same line. -/
def nextIsBindingOnSameLine (allowOf : Bool) : Parser Bool := lookAhead do
  advance
  if !allowOf && (← isWord "of") then return false
  return ((← isBindingIdentifier) || (← isMark "\x7b")) && !(← afterLineBreak)

/-- Whether `using` begins a declaration here. -/
def isUsingDeclaration : Parser Bool := nextIsBindingOnSameLine true

/-- Whether `await using` begins a declaration here. -/
def isAwaitUsingDeclaration : Parser Bool := lookAhead do
  advance
  if (← isWord "using") && !(← afterLineBreak) then nextIsBindingOnSameLine true else return false

/-- Whether `let` begins a declaration here. -/
def isLetDeclaration : Parser Bool := lookAhead do
  advance
  return (← isBindingIdentifier) || (← isOneOfMarks ["\x7b", "["])

/-- Step over modifiers and see whether a declaration begins; nothing while that is open. -/
def declarationStep : Parser (Option Bool) := do
  match ← kind with
  | .word word =>
      if ["var", "let", "const", "function", "class", "enum"].contains word then return some true
      else if word == "using" then return some (← isUsingDeclaration)
      else if word == "await" then return some (← isAwaitUsingDeclaration)
      else if word == "interface" || word == "type" then
        advance
        return some ((← isIdentifier) && !(← afterLineBreak))
      else if word == "module" || word == "namespace" then
        advance
        return some (((← isIdentifier) || (← kind) == .string) && !(← afterLineBreak))
      else if ["abstract", "accessor", "async", "declare", "private", "protected", "public",
          "readonly"].contains word then
        advance
        if ← afterLineBreak then return some false
        if word == "declare" && (← isWord "type") then return some true
        return none
      else if word == "global" then
        advance
        return some ((← isMark "\x7b") || (← isIdentifier) || (← isWord "export"))
      else if word == "import" then
        advance
        return some ((← kind) == .string || (← isOneOfMarks ["*", "\x7b"]) || (← isName))
      else if word == "export" then
        advance
        let what ← if ← isWord "type" then lookAhead next else kind
        match what with
        | .mark mark =>
            if ["=", "*", "\x7b", "@"].contains mark then return some true else return none
        | .word behind =>
            if behind == "default" || behind == "as" then return some true else return none
        | _ => return none
      else if word == "static" then advance; return none
      else return some false
  | _ => return some false

/-- Whether a declaration begins here, modifiers included. -/
def isStartOfDeclaration : Parser Bool := lookAhead do
  let answer ← loop none fun (_ : Option Bool) => do
    let answer ← declarationStep
    return (answer.isNone, answer)
  return answer.getD false

/-- Words that always begin a statement. -/
def statementWords : List String :=
  ["var", "let", "using", "function", "class", "enum", "if", "do", "while", "for", "continue",
    "break", "return", "with", "switch", "throw", "try", "debugger", "catch", "finally", "async",
    "declare", "interface", "module", "namespace", "type", "global", "defer"]

/-- Whether a statement begins here. -/
def isStartOfStatement : Parser Bool := do
  match ← kind with
  | .mark mark => if ["@", ";", "\x7b"].contains mark then return true
  | .word word =>
      if statementWords.contains word then return true
      if word == "import" then return (← isStartOfDeclaration) || (← isImportExpression)
      if word == "const" || word == "export" then return ← isStartOfDeclaration
      if ["accessor", "public", "private", "protected", "static", "readonly"].contains word then
        return (← isStartOfDeclaration) || !(← nextIsNameOnSameLine)
  | _ => pure ()
  isStartOfExpression

/-! ## Classes -/

/-- Whether `extends` or `implements` stands here and opens a list of its own. -/
def isHeritageWord : Parser Bool := isOneOfWords ["extends", "implements"]

/-- Whether a brace behind `extends` holds an object and not the body of the class. -/
def isHeritageObject : Parser Bool := lookAhead do
  advance
  if ← isMark "\x7d" then
    advance
    return (← isOneOfMarks [",", "\x7b"]) || (← isHeritageWord)
  return true

/-- Whether a member of a class begins here. -/
def isStartOfClassMember : Parser Bool := lookAhead do
  if ← isMark "@" then return true
  -- the word that may turn out to be the name of the member, and whether it is certain already
  let (word, certain) ← loop ((none, false) : Option TokenKind × Bool) fun (word, _) => do
    if ← isModifierToken then
      let k ← kind
      if ← isOneOfWords memberModifierWords then return (false, (some k, true))
      advance
      return (true, (some k, false))
    else return (false, (word, false))
  if certain then return true
  if ← isMark "*" then return true
  let word ← if ← isPlainPropertyName then do
      let k ← kind
      advance
      pure (some k)
    else pure word
  if ← isMark "[" then return true
  match word with
  | none => return false
  | some (.word w) =>
      if !isKeyword w || w == "get" || w == "set" then return true
      if ← isOneOfMarks ["(", "<", "!", ":", "=", "?"] then return true
      canEndStatement
  | some _ => return true

end UnitResolution.Script.Parser
