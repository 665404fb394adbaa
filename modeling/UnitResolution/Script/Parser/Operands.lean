import UnitResolution.Script.Parser.Classes

/-!
# Operands

The expressions without operators between them: literals, names, functions, object and array
literals, and the member accesses, calls and templates that follow one of those.
-/

namespace UnitResolution.Script.Parser

variable (g : Grammar)

/-! ## Lists of expressions -/

/-- Read an element of an array literal; an element left out or spread tells nothing. -/
def arrayElement : Parser Expression := do
  if ← optionalMark "..." then
    let _ ← g.assignment true
    return .other
  if ← isMark "," then return .other
  return (← g.assignment true).tree

/-- Read a part in which `in` is an operator and which does not belong to a decorator. -/
def withinBrackets {α : Type} (p : Parser α) : Parser α :=
  within (fun s => { s with noIn := false, inDecorator := false }) p

/-- Pass over the arguments of a call. -/
def callArguments : Parser Unit := do
  let _ ← expectMark "("
  let _ ← delimitedList .arguments (withinBrackets (arrayElement g))
  let _ ← expectMark ")"

/-- Pass over type arguments of a call, and decide whether they are any. -/
def typeArgumentsInExpression : Parser Bool :=
  attemptThat do
    splitLess
    if !(← isMark "<") then return false
    advance
    let _ ← delimitedList .typeArguments g.type
    joinGreater
    if !(← isMark ">") then return false
    advance
    match ← kind with
    | .mark "(" | .template | .templateHead => return true
    | .mark "<" | .mark ">" | .mark "+" | .mark "-" => return false
    | _ => return (← afterLineBreak) || (← isBinaryOperator) || !(← isStartOfExpression)

/-! ## Templates -/

/-- Pass over a template from its first part on. -/
def templateParts : Parser Unit := do
  advance
  repeatWhile do
    let _ ← allowIn g.expression
    templatePart

/-- Pass over a template. -/
def template : Parser Unit := do
  if (← kind) == .template then advance else templateParts g

/-! ## Member access and calls -/

/-- Whether a question mark with a dot begins an access to a member here. -/
def isOptionalAccess : Parser Bool := do
  if !(← isMark "?.") then return false
  lookAhead do
    advance
    return (← isName) || (← isMark "[") || (← isTemplateStart)

/-- Pass over the index of an element, behind its opening bracket. -/
def indexTail : Parser Unit := do
  if ← isMark "]" then complainAt (← previousStop) 0 .indexArgumentExpected
  else
    let _ ← allowIn g.expression
  let _ ← expectMark "]"

/-- One access to a member behind an expression, if there is one. -/
def memberStep (optionalChain : Bool) (n : Node) : Parser (Bool × Node) := do
  let isOptional ← if optionalChain then isOptionalAccess else pure false
  if isOptional then advance
  let named ← if isOptional then isName else optionalMark "."
  if named then
    let _ ← nameBehindDot true true
    if n.form = .instantiation then complainAt n.start (n.stop - n.start) .instantiatedMember
    return (true, ← finish n.start .other)
  if (isOptional || !(← setting).inDecorator) && (← isMark "[") then
    advance
    indexTail g
    return (true, ← finish n.start .other)
  if ← isTemplateStart then
    template g
    return (true, ← finish n.start .other .taggedTemplate)
  if isOptional then return (false, n)
  if (← isMark "!") && !(← afterLineBreak) then
    advance
    return (true, ← finish n.start .other)
  if (← isOneOfMarks ["<", "<<"]) && (← typeArgumentsInExpression g) then
    let callee : Expression :=
      match n.form, n.tree with
      | .identifier, tree => tree
      | _, _ => .other
    return (true, ← finish n.start callee .instantiation)
  return (false, n)

/-- The accesses to members behind an expression. -/
def memberRest (optionalChain : Bool) (n : Node) : Parser Node :=
  loop n (memberStep g optionalChain)

/-- The accesses and calls behind an expression. -/
def callRest (n : Node) : Parser Node := do
  let n ← loop n fun n => do
    let n ← memberRest g true n
    let isOptional ← optionalMark "?."
    let typed ← if isOptional then typeArgumentsInExpression g else pure false
    if isOptional && (← isTemplateStart) then
      template g
      return (true, ← finish n.start .other .taggedTemplate)
    if typed || (← isMark "(") then
      callArguments g
      return (true, ← finish n.start .other)
    if isOptional then
      complain .identifierExpected
      return (false, ← finish n.start .other)
    return (false, n)
  -- a name with type arguments is no longer the name alone
  return if n.form = .instantiation then { n with tree := .other } else n

/-! ## Literals of objects and arrays -/

/-- Pass over a part of an object literal. -/
def objectElement : Parser Unit := do
  if ← optionalMark "..." then
    let _ ← g.assignment true
    return
  let (words, _) ← modifiers g true
  if ← contextualModifier "get" then return ← accessor g false
  if ← contextualModifier "set" then return ← accessor g false
  let generator ← optionalMark "*"
  let plain ← isIdentifier
  let _ ← propertyName g
  let _ ← optionalMark "?"
  let _ ← optionalMark "!"
  if generator || (← isOneOfMarks ["(", "<"]) then
    return ← methodTail g { yields := generator, awaits := words.contains "async" }
  if plain && !(← isMark ":") then
    if ← optionalMark "=" then
      let _ ← allowIn (g.assignment true)
  else
    let _ ← expectMark ":"
    let _ ← allowIn (g.assignment true)

/-- Pass over an object literal. -/
def objectLiteral : Parser Unit := do
  let _ ← expectMark "\x7b"
  let _ ← delimitedList .objectMembers (objectElement g) true
  closeBracket "\x7d"

/-- Read an array literal. -/
def arrayLiteral : Parser (List Expression) := do
  let _ ← expectMark "["
  let elements ← delimitedList .arrayMembers (arrayElement g)
  closeBracket "]"
  return elements

/-! ## Functions and constructions -/

/-- Pass over a function from its modifiers on. -/
def functionExpression : Parser Unit :=
  within (fun s => { s with inDecorator := false }) do
    let (words, _) ← modifiers g false
    let _ ← expectWord "function"
    let generator ← optionalMark "*"
    let isAsync := words.contains "async"
    let _ ← within (fun s => { s with
      yields := s.yields || generator, awaits := s.awaits || isAsync }) optionalBindingIdentifier
    typeParameters g
    let _ ← parameters g { yields := generator, awaits := isAsync }
    let _ ← returnType g false
    functionBlock g { yields := generator, awaits := isAsync }

/-- Read the construction of an instance behind `new`. -/
def construction (start : Nat) : Parser Node := do
  if ← optionalMark "." then
    let _ ← identifierName
    return ← finish start .other
  let calleeStart := (← token).start
  let callee ← memberRest g false (← g.primary)
  let calleeStop ← previousStop
  if ← isMark "?." then
    complain (.optionalConstruction (String.ofList (calleeStart.textUpTo calleeStop)))
  if ← isMark "(" then callArguments g
  match callee.form, callee.tree with
  | .identifier, .identifier name | .instantiation, .identifier name =>
      finish start (.construct name)
  | _, _ => finish start .other

/-! ## Expressions without operators -/

/-- Read a class behind its decorators. -/
def decoratedClass (start : Nat) : Parser Node := do
  let _ ← modifiers g true
  if ← isWord "class" then
    let _ ← classTail g false
  else complain .expressionExpected
  finish start .other

/-- Read an expression without operators. -/
def primary : Parser Node := do
  let start ← here
  match ← kind with
  | .number => advance; finish start .number
  | .bigint => advance; finish start .bigint
  | .string | .template => advance; finish start .string
  | .templateHead => templateParts g; finish start .string
  | .privateName => advance; finish start .other
  | .word word => ofWord start word
  | .mark "(" =>
      advance
      let inner ← allowIn g.expression
      closeBracket ")"
      finish start (.parenthesized inner.tree)
  | .mark "[" => finish start (.array (← arrayLiteral g))
  | .mark "\x7b" => objectLiteral g; finish start .object
  | .mark "@" => decoratedClass g start
  | .mark "/" | .mark "/=" =>
      setToken (rescanSlash (← token))
      advance
      finish start .other
  | _ => named start
where
  /-- An identifier, or the fault that there is no expression. -/
  named (start : Nat) : Parser Node := do
    let before ← previousStop
    let name ← identifier (some .expressionExpected)
    let stop ← previousStop
    return { tree := .identifier name, form := .identifier
             start := if before = stop then before else start, stop }
  /-- The expressions that a word begins. -/
  ofWord (start : Nat) (word : String) : Parser Node := do
    if word == "true" || word == "false" then advance; return ← finish start .boolean
    if word == "null" then advance; return ← finish start .null
    if word == "this" || word == "super" then advance; return ← finish start .other
    if word == "function" then functionExpression g; return ← finish start .function
    if word == "async" then
      if ← lookAhead do advance; return (← isWord "function") && !(← afterLineBreak) then
        functionExpression g
        return ← finish start .function
    if word == "class" then
      let _ ← classTail g false
      return ← finish start .other
    if word == "new" then advance; return ← construction g start
    named start

/-- Read `super`, which has to be followed by a member or arguments. -/
def superExpression : Parser Node := do
  let start ← here
  advance
  if ← isMark "<" then
    let before ← here
    if ← typeArgumentsInExpression g then
      complainAt before ((← here) - before) .superTypeArguments
  if ← isOneOfMarks ["(", ".", "["] then return ← finish start .other
  let _ ← expectMark "." .superMemberExpected
  let _ ← nameBehindDot true true
  finish start .other

/-- Read an expression that can stand on the left of an assignment. -/
def leftHandSide : Parser Node := do
  let start ← here
  if ← isWord "super" then return ← callRest g (← superExpression g)
  if ← isWord "import" then
    if ← lookAhead do advance; isOneOfMarks ["(", "<"] then
      advance
      return ← callRest g (← finish start .other)
    if ← nextIsMark "." then
      advance
      advance
      let property ← identifierName
      if property == "meta" then modify fun s => { s with isModule := true }
      return ← callRest g (← finish start .other)
  callRest g (← memberRest g true (← primary g))

end UnitResolution.Script.Parser
