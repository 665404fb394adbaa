import UnitResolution.Script.Parser.Grammar

/-!
# Modifiers, names, patterns and signatures

What declarations of all sorts have in common: the modifiers and decorators in front of them, the
names of properties, the patterns that take a value apart, type parameters, parameters and the
type of the result.
-/

namespace UnitResolution.Script.Parser

variable (g : Grammar)

/-! ## Modifiers -/

/-- Pass over a decorator if one comes. -/
def decorator : Parser Bool := do
  if !(← optionalMark "@") then return false
  within (fun s => { s with inDecorator := true }) do
    let _ ← g.leftHandSide
  return true

/-- Read a modifier if one comes. -/
def modifier? (seenStatic constAllowed staticBlock : Bool) : Parser (Option String) := do
  match ← kind with
  | .word word =>
      if word == "const" && constAllowed then
        let follows ← attemptThat do
          advance
          if ← afterLineBreak then return false
          canFollowModifier
        return if follows then some word else none
      else if word == "static" && (seenStatic ||
          (staticBlock && (← nextIsMark "\x7b"))) then return none
      else if modifierWords.contains word then
        return if ← attemptThat stepOverModifier then some word else none
      else return none
  | _ => return none

/-- Read modifiers as long as they come. -/
def plainModifiers (seen : List String) (constAllowed staticBlock : Bool) :
    Parser (List String) :=
  loop seen fun seen => do
    match ← modifier? (seen.contains "static") constAllowed staticBlock with
    | some word => return (true, seen ++ [word])
    | none => return (false, seen)

/-- Read the modifiers in front of a declaration, and the decorators before or behind the first of
them where those are allowed. Answers also whether there was anything. -/
def modifiers (decorators : Bool) (constAllowed staticBlock : Bool := false) :
    Parser (List String × Bool) := do
  let decorated ← if decorators then readDecorators else pure false
  let words ← plainModifiers [] constAllowed staticBlock
  let trailing ← if decorators && !words.isEmpty then readDecorators else pure false
  let words ← if trailing then plainModifiers words constAllowed staticBlock else pure words
  return (words, decorated || !words.isEmpty)
where
  /-- Pass over decorators; answers whether there are any. -/
  readDecorators : Parser Bool := do
    loop false fun any => do
      if ← decorator g then return (true, true) else return (false, any)

/-- Pass over a word such as `get` if it modifies what follows. -/
def contextualModifier (word : String) : Parser Bool := do
  if ← isWord word then attemptThat stepOverModifier else return false

/-! ## Names of properties -/

/-- Read the name of a property. -/
def propertyName : Parser Node := do
  let start ← here
  match ← kind with
  | .string | .number | .bigint | .privateName =>
      advance
      finish start .other
  | .mark "[" =>
      advance
      let _ ← allowIn g.expression
      let _ ← expectMark "]"
      finish start .other
  | _ =>
      let name ← identifierName
      finish start (.identifier name) .identifier

/-! ## Patterns -/

/-- Pass over the initial value of a variable, parameter or property, if it has one. -/
def initializer? : Parser (Option Node) := do
  if ← optionalMark "=" then return some (← g.assignment true) else return none

/-- Pass over a part of a pattern that takes an object apart. -/
def objectBindingElement : Parser Unit := do
  let _ ← optionalMark "..."
  let plain ← isBindingIdentifier
  let _ ← propertyName g
  if !plain || (← isMark ":") then
    let _ ← expectMark ":"
    let _ ← g.binding .privateNameOutsideClass
  let _ ← initializer? g

/-- Pass over a part of a pattern that takes an array apart. -/
def arrayBindingElement : Parser Unit := do
  if ← isMark "," then return
  let _ ← optionalMark "..."
  let _ ← g.binding .privateNameOutsideClass
  let _ ← initializer? g

/-- Read an identifier, or pass over a pattern that takes a value apart. -/
def binding (privateFault : Fault) : Parser (Option String) := do
  if ← isMark "[" then
    advance
    let _ ← allowIn (delimitedList .arrayBindings (arrayBindingElement g))
    let _ ← expectMark "]"
    return none
  else if ← isMark "\x7b" then
    advance
    let _ ← allowIn (delimitedList .objectBindings (objectBindingElement g))
    let _ ← expectMark "\x7d"
    return none
  else return some (← bindingIdentifier privateFault)

/-! ## Signatures -/

/-- Pass over the type annotation, if there is one. -/
def annotatedType : Parser (Option TypeShape) := do
  if ← optionalMark ":" then return some (← g.type) else return none

/-- Pass over a type parameter. -/
def typeParameter : Parser Unit := do
  let _ ← modifiers g false true
  let _ ← identifier
  if ← optionalWord "extends" then
    if ← isStartOfType then
      let _ ← g.type
    else if ← isStartOfExpression then
      let _ ← g.unary
    else
      let _ ← g.type
  if ← optionalMark "=" then
    let _ ← g.type

/-- Pass over type parameters, if there are any. -/
def typeParameters : Parser Unit := do
  if ← isMark "<" then
    let _ ← bracketedList .typeParameters (typeParameter g) "<" ">"

/-- Pass over a parameter. Where it is open whether this is a parameter at all, something that
cannot be one is answered by nothing. -/
def parameter? (outerAwaits certain : Bool) : Parser (Option Unit) := do
  let (words, _) ← within (fun s => { s with awaits := outerAwaits }) (modifiers g true)
  if ← isWord "this" then
    let _ ← name true
    let _ ← annotatedType g
    return some ()
  let _ ← optionalMark "..."
  if !certain && !((← isBindingIdentifier) || (← isOneOfMarks ["[", "\x7b"])) then return none
  let before ← previousStop
  let _ ← g.binding .privateNameAsParameter
  if before == (← previousStop) && words.isEmpty && (← isModifierToken) then advance
  let _ ← optionalMark "?"
  let _ ← annotatedType g
  let _ ← initializer? g
  return some ()

/-- Pass over parameters without their parentheses. -/
def parametersWithin (sort : FunctionSort) (certain : Bool) : Parser (Option Unit) := do
  let outer := (← setting).awaits
  within (fun s => { s with yields := sort.yields, awaits := sort.awaits }) do
    let list ← delimitedList? .parameters (parameter? g outer certain)
    return list.map fun _ => ()

/-- Pass over parameters; answers whether they are there. -/
def parameters (sort : FunctionSort := {}) : Parser Bool := do
  if !(← expectMark "(") then return false
  let _ ← parametersWithin g sort true
  let _ ← expectMark ")"
  return true

/-- Pass over a type, or over a statement about a parameter, as the type of a result. -/
def typeOrPredicate : Parser TypeShape := do
  if ← isIdentifier then
    let _ ← attemptThat do
      let _ ← identifier
      if (← isWord "is") && !(← afterLineBreak) then advance; return true
      return false
  g.type

/-- Pass over the type of a result behind a colon, if it is given. In a type, an arrow in place of
the colon is a fault. -/
def returnType (inType : Bool) : Parser (Option TypeShape) := do
  if ← optionalMark ":" then return some (← allowConditionalTypes (typeOrPredicate g))
  if inType && (← isMark "=>") then
    complain (.expected ":")
    advance
    return some (← allowConditionalTypes (typeOrPredicate g))
  return none

/-- Pass over the type of a result behind an arrow. -/
def arrowReturnType : Parser TypeShape := do
  let _ ← expectMark "=>"
  allowConditionalTypes (typeOrPredicate g)

/-- End a member of a type: by a comma or as a statement ends. -/
def endTypeMember : Parser Unit := do
  if !(← optionalMark ",") then expectSemicolon

/-! ## Bodies -/

/-- Pass over the closing bracket that belongs to an opening one. -/
def closeBracket (mark : String) : Parser Unit := do
  let _ ← expectMark mark

/-- Pass over a block of statements. Its opening brace may be missing where that is asked for. -/
def block (braceOptional : Bool := false) (fault : Fault := .expected "\x7b") : Parser Unit := do
  let opened ← expectMark "\x7b" fault
  if opened || braceOptional then
    let _ ← listOf .blockStatements g.statement
    closeBracket "\x7d"
    if ← isMark "=" then
      complain .blockFollowedByAssignment
      advance

/-- Pass over the body of a function. -/
def functionBlock (sort : FunctionSort) (braceOptional : Bool := false)
    (fault : Fault := .expected "\x7b") : Parser Unit :=
  within (fun s => { s with yields := sort.yields, awaits := sort.awaits, inDecorator := false })
    (block g braceOptional fault)

/-- Pass over the body of a function, or over the semicolon in its place. -/
def functionBlockOrSemicolon (sort : FunctionSort) (inType : Bool := false)
    (fault : Fault := .expected "\x7b") : Parser Unit := do
  if !(← isMark "\x7b") then
    if inType then return ← endTypeMember
    if ← canEndStatement then return ← expectSemicolon
  functionBlock g sort false fault

/-- Pass over an accessor behind its introducing word. -/
def accessor (inType : Bool) : Parser Unit := do
  let _ ← propertyName g
  typeParameters g
  let _ ← parameters g
  let _ ← returnType g false
  functionBlockOrSemicolon g {} inType

/-- Pass over a method behind its name. -/
def methodTail (sort : FunctionSort) (fault : Fault := .expected "\x7b") : Parser Unit := do
  typeParameters g
  let _ ← parameters g sort
  let _ ← returnType g false
  functionBlockOrSemicolon g sort false fault

/-- Pass over an index signature. -/
def indexSignature : Parser Unit := do
  let outer := (← setting).awaits
  let _ ← bracketedList .parameters (parameter? g outer true) "[" "]"
  let _ ← annotatedType g
  endTypeMember

end UnitResolution.Script.Parser
