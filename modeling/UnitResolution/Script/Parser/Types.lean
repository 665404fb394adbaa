import UnitResolution.Script.Parser.Signature

/-!
# Types

A type is read only to find where it ends: what the analysis keeps of an annotation is its text
(`typeText`).
-/

namespace UnitResolution.Script.Parser

variable (g : Grammar)

/-! ## References -/

/-- Pass over type arguments if they come on the same line. -/
def typeReferenceArguments : Parser Unit := do
  if !(← afterLineBreak) then
    splitLess
    if ← isMark "<" then
      let _ ← bracketedList .typeArguments g.type "<" ">"

/-- Pass over a name with dots in it; answers whether its first part is missing. -/
def entityName (anyWord : Bool) (fault : Option Fault := none) : Parser Bool := do
  let before ← previousStop
  let _ ← if anyWord then identifierName fault else identifier fault
  let isMissing := before == (← previousStop)
  repeatWhile do
    if !(← optionalMark ".") then return false
    if ← isMark "<" then return false
    let _ ← nameBehindDot anyWord false
    return true
  return isMissing

/-- Pass over the name of a type with its arguments. -/
def typeReference : Parser TypeShape := do
  let isMissing ← entityName true (some .typeExpected)
  typeReferenceArguments g
  return { isMissing }

/-! ## Members of object types -/

/-- Pass over a signature without a name. -/
def signatureMember : Parser Unit := do
  typeParameters g
  let _ ← parameters g
  let _ ← returnType g true
  endTypeMember

/-- Pass over a property or method of a type. -/
def propertyOrMethodSignature : Parser Unit := do
  let _ ← propertyName g
  let _ ← optionalMark "?"
  if ← isOneOfMarks ["(", "<"] then
    typeParameters g
    let _ ← parameters g
    let _ ← returnType g true
  else
    let _ ← annotatedType g
    if ← isMark "=" then
      let _ ← initializer? g
  endTypeMember

/-- Pass over a member of an object type. -/
def typeMember : Parser Unit := do
  if ← isOneOfMarks ["(", "<"] then return ← signatureMember g
  if ← isWord "new" then
    if ← lookAhead do advance; isOneOfMarks ["(", "<"] then
      advance
      return ← signatureMember g
  let _ ← modifiers g false
  if ← contextualModifier "get" then return ← accessor g true
  if ← contextualModifier "set" then return ← accessor g true
  if ← isIndexSignature then return ← indexSignature g
  propertyOrMethodSignature g

/-- Pass over the members of an object type in braces. -/
def objectTypeMembers : Parser Unit := do
  if ← expectMark "\x7b" then
    let _ ← listOf .typeMembers (typeMember g)
    let _ ← expectMark "\x7d"

/-- Behind a brace: whether it opens a type with a member for each member of another type. -/
def isMappedTypeHead : Parser Bool := do
  advance
  if ← isOneOfMarks ["+", "-"] then return (← next) == .word "readonly"
  if ← isWord "readonly" then advance
  if !(← isMark "[") then return false
  advance
  if !(← isIdentifier) then return false
  return (← next) == .word "in"

/-- Pass over a type with a member for each member of another type. -/
def mappedType : Parser Unit := do
  let _ ← expectMark "\x7b"
  if ← isOneOfMarks ["+", "-"] then
    advance
    let _ ← expectWord "readonly"
  else
    let _ ← optionalWord "readonly"
  let _ ← expectMark "["
  let _ ← identifierName
  let _ ← expectWord "in"
  let _ ← g.type
  if ← optionalWord "as" then
    let _ ← g.type
  let _ ← expectMark "]"
  if ← isOneOfMarks ["+", "-"] then
    advance
    let _ ← expectMark "?"
  else
    let _ ← optionalMark "?"
  let _ ← annotatedType g
  expectSemicolon
  let _ ← listOf .typeMembers (typeMember g)
  let _ ← expectMark "\x7d"

/-! ## Other types without operators -/

/-- Whether a name comes that is followed by a colon, as a label in a tuple type. -/
def isTupleLabel : Parser Bool := lookAhead do
  let _ ← optionalMark "..."
  if !(← isName) then return false
  advance
  if ← isMark ":" then return true
  if !(← isMark "?") then return false
  return (← next) == .mark ":"

/-- Pass over an element of a tuple type. -/
def tupleElement : Parser Unit := do
  if ← isTupleLabel then
    let _ ← optionalMark "..."
    let _ ← identifierName
    let _ ← optionalMark "?"
    let _ ← expectMark ":"
  let _ ← optionalMark "..."
  let _ ← g.type

/-- Pass over the attributes behind `with` or `assert`. -/
def attributeList : Parser Unit := do
  if ← expectMark "\x7b" then
    let _ ← delimitedList .importAttributes moduleAttribute true
    let _ ← expectMark "\x7d"
where
  /-- Pass over an attribute. -/
  moduleAttribute : Parser Unit := do
    if ← isName then
      let _ ← identifierName
    else advance
    let _ ← expectMark ":"
    let _ ← g.assignment true

/-- Pass over the type of a module or of a part of it. -/
def importType : Parser Unit := do
  let _ ← optionalWord "typeof"
  let _ ← expectWord "import"
  let _ ← expectMark "("
  let _ ← g.type
  if ← optionalMark "," then
    let _ ← expectMark "\x7b"
    if ← isOneOfWords ["with", "assert"] then advance
    else complain (.expected "with")
    let _ ← expectMark ":"
    attributeList g
    let _ ← optionalMark ","
    let _ ← expectMark "\x7d"
  let _ ← expectMark ")"
  if ← optionalMark "." then
    let _ ← entityName true (some .typeExpected)
  typeReferenceArguments g

/-- Pass over the rest of a template behind a substitution; answers whether another one follows. -/
def templatePart : Parser Bool := do
  if ← isMark "\x7d" then
    setToken (rescanTemplate (← token))
    let more := (← kind) == .templateMiddle
    advance
    return more
  else
    complain (.expected "\x7d")
    return false

/-- Pass over a template type. -/
def templateType : Parser Unit := do
  advance
  repeatWhile do
    let _ ← g.type
    templatePart

/-- Pass over the name of a value, as a type that is the type of the value. -/
def typeQuery : Parser Unit := do
  let _ ← expectWord "typeof"
  let _ ← entityName true
  if !(← afterLineBreak) && (← isMark "<") then
    let _ ← bracketedList .typeArguments g.type "<" ">"

/-- Names of types that are words of their own. -/
def keywordTypes : List String :=
  ["any", "unknown", "string", "number", "bigint", "symbol", "boolean", "undefined", "never",
    "object"]

/-- Pass over the word `function` with a signature, as a type. -/
def functionWordType : Parser TypeShape := do
  let plain ← lookAhead do advance; isMark "("
  if plain then
    advance
    let _ ← parameters g
    if ← optionalMark ":" then
      let _ ← g.type
    return { isFunctionWord := true }
  else
    let isMissing ← entityName true (some .typeExpected)
    return { isMissing }

/-- Pass over a type without operators before or behind it. -/
def primaryType : Parser TypeShape := do
  match ← kind with
  | .template | .string | .number | .bigint => advance; return {}
  | .templateHead => templateType g; return {}
  | .mark mark => ofMark mark
  | .word word => ofWord word
  | _ => typeReference g
where
  /-- The types that a mark begins. -/
  ofMark (mark : String) : Parser TypeShape := do
    if mark == "*=" then
      modify fun s => { s with token := rescanAsterisk s.token }
    if mark == "??" then
      modify fun s => { s with token := rescanQuestion s.token }
    if mark == "*" || mark == "*=" then advance; return {}
    if mark == "?" || mark == "??" then
      advance
      if ← isOneOfMarks [",", "\x7d", ")", ">", "=", "|"] then return {}
      let _ ← g.type
      return {}
    if mark == "!" then
      advance
      let _ ← g.typeOperand
      return {}
    if mark == "-" then
      let numeric ← lookAhead do
        match ← next with
        | .number | .bigint => return true
        | _ => return false
      if numeric then advance; advance; return {}
      return ← typeReference g
    if mark == "\x7b" then
      if ← lookAhead isMappedTypeHead then mappedType g else objectTypeMembers g
      return {}
    if mark == "[" then
      let _ ← bracketedList .tupleElements (tupleElement g) "[" "]"
      return {}
    if mark == "(" then
      advance
      let shape ← g.type
      let _ ← expectMark ")"
      return shape
    typeReference g
  /-- The types that a word begins. -/
  ofWord (word : String) : Parser TypeShape := do
    if keywordTypes.contains word then
      let alone ← attemptThat do advance; return !(← isMark ".")
      if alone then return {} else return ← typeReference g
    if word == "function" then return ← functionWordType g
    if ["true", "false", "null", "void"].contains word then advance; return {}
    if word == "this" then
      advance
      if (← isWord "is") && !(← afterLineBreak) then
        advance
        let _ ← g.type
      return {}
    if word == "typeof" then
      if ← lookAhead do advance; isWord "import" then importType g else typeQuery g
      return {}
    if word == "import" then importType g; return {}
    if word == "asserts" then
      let about ← lookAhead do
        advance
        return ((← isIdentifier) || (← isWord "this")) && !(← afterLineBreak)
      if about then
        advance
        if ← isWord "this" then advance
        else
          let _ ← identifier
        if ← optionalWord "is" then
          let _ ← g.type
        return {}
    typeReference g

/-! ## Operators -/

/-- Pass over a type with the brackets and marks behind it. -/
def postfixType : Parser TypeShape := do
  let shape ← primaryType g
  loop shape fun shape => do
    if ← afterLineBreak then return (false, shape)
    if ← isMark "!" then advance; return (true, {})
    if ← isMark "?" then
      if ← lookAhead do advance; isStartOfType then return (false, shape)
      advance
      return (true, {})
    if ← isMark "[" then
      advance
      if ← isStartOfType then
        let _ ← g.type
      let _ ← expectMark "]"
      return (true, {})
    return (false, shape)

/-- Pass over the name of an inferred type with its constraint. -/
def inferredType : Parser Unit := do
  let _ ← expectWord "infer"
  let _ ← identifier
  let _ ← attemptThat do
    if !(← optionalWord "extends") then return false
    let _ ← forbidConditionalTypes g.type
    return (← setting).noConditionalTypes || !(← isMark "?")

/-- Pass over a type with the operators in front of it. -/
def typeOperand : Parser TypeShape := do
  if ← isOneOfWords ["keyof", "unique", "readonly"] then
    advance
    let _ ← g.typeOperand
    return {}
  if ← isWord "infer" then inferredType g; return {}
  allowConditionalTypes (postfixType g)

/-- Behind a parenthesis: whether it opens the parameters of a function type. -/
def isFunctionTypeHead : Parser Bool := do
  advance
  if ← isOneOfMarks [")", "..."] then return true
  if ← isModifierToken then
    let _ ← modifiers g false
  let skipped ←
    if (← isIdentifier) || (← isWord "this") then do
      advance
      pure true
    else if ← isOneOfMarks ["[", "\x7b"] then do
      let before := (← get).complaints.length
      let _ ← g.binding .privateNameOutsideClass
      pure (before == (← get).complaints.length)
    else pure false
  if !skipped then return false
  if ← isOneOfMarks [":", ",", "?", "="] then return true
  if ← isMark ")" then return (← next) == .mark "=>"
  return false

/-- Whether a function or constructor type begins here. -/
def isFunctionType : Parser Bool := do
  match ← kind with
  | .mark "<" | .word "new" => return true
  | .mark "(" => lookAhead (isFunctionTypeHead g)
  | .word "abstract" => return (← lookAhead next) == .word "new"
  | _ => return false

/-- Pass over a function or constructor type. -/
def functionType : Parser TypeShape := do
  if ← isWord "abstract" then advance
  let _ ← optionalWord "new"
  typeParameters g
  let present ← parameters g
  let result ← arrowReturnType g
  return { isMissing := !present || result.isMissing }

/-- Pass over types with the given mark between them. -/
def joinedTypes (mark : String) (fault : Fault) (part : Parser TypeShape) : Parser TypeShape := do
  let leading ← optionalMark mark
  let first ← if leading then member else part
  if leading || (← isMark mark) then
    repeatWhile do
      if !(← optionalMark mark) then return false
      let _ ← member
      return true
    return {}
  return first
where
  /-- A function type in such a list has to be parenthesized. -/
  member : Parser TypeShape := do
    if ← isFunctionType g then
      let start ← here
      let shape ← functionType g
      complainAt start ((← previousStop) - start) fault
      return shape
    else part

/-- Pass over a type. -/
def type : Parser TypeShape :=
  within (fun s => { s with yields := false, awaits := false }) do
    if ← isFunctionType g then return ← functionType g
    let shape ← joinedTypes g "|" .functionTypeInUnion
      (joinedTypes g "&" .functionTypeInIntersection g.typeOperand)
    if !(← setting).noConditionalTypes && !(← afterLineBreak) && (← isWord "extends") then
      advance
      let _ ← forbidConditionalTypes g.type
      let _ ← expectMark "?"
      let _ ← allowConditionalTypes g.type
      let _ ← expectMark ":"
      let _ ← allowConditionalTypes g.type
      return {}
    return shape

/-- Read a type and answer its text, from the beginning of its first token to the end of its last
one. -/
def typeText : Parser String := do
  let start := (← token).start
  let _ ← g.type
  return String.ofList (start.textUpTo (← previousStop))

end UnitResolution.Script.Parser
