import UnitResolution.Script.Parser.Types

/-!
# Classes

A class is read for its name only; its members are passed over.
-/

namespace UnitResolution.Script.Parser

variable (g : Grammar)

/-- End a property of a class. -/
def endProperty (name : Node) (typed initialized : Bool) : Parser Unit := do
  if (← isMark "@") && !(← afterLineBreak) then return ← complain .decoratorAfterName
  if ← isMark "(" then
    complain .callInAnnotatedType
    return ← advance
  if typed && !(← canEndStatement) then
    return ← complain (if initialized then .expected ";" else .initializerMarkExpected)
  if ← optionalSemicolon then return
  if initialized then complain (.expected ";") else complainMissingEnd name

/-- Pass over a property of a class behind its name. -/
def propertyTail (name : Node) (isOptional : Bool) : Parser Unit := do
  if !isOptional && !(← afterLineBreak) then
    let _ ← optionalMark "!"
  let declared ← annotatedType g
  let value ← within (fun s => { s with yields := false, awaits := false, noIn := false })
    (initializer? g)
  endProperty name declared.isSome value.isSome

/-- Pass over a property or method of a class. -/
def propertyOrMethod (isAsync : Bool) : Parser Unit := do
  let generator ← optionalMark "*"
  let name ← propertyName g
  let isOptional ← optionalMark "?"
  if generator || (← isOneOfMarks ["(", "<"]) then
    methodTail g { yields := generator, awaits := isAsync } .blockOrSemicolonExpected
  else propertyTail g name isOptional

/-- Pass over a constructor if one comes. -/
def constructor? : Parser Bool := do
  let named ←
    if ← isWord "constructor" then do
      advance
      pure true
    else
      let t ← token
      if t.kind == .string && t.value == "constructor" && (← nextIsMark "(") then do
        advance
        pure true
      else pure false
  if !named then return false
  methodTail g {} .blockOrSemicolonExpected
  return true

/-- Pass over a member of a class. -/
def classElement : Parser Unit := do
  if ← optionalMark ";" then return
  let (words, any) ← modifiers g true true true
  if (← isWord "static") && (← nextIsMark "\x7b") then
    advance
    return ← within (fun s => { s with yields := false, awaits := true }) (block g)
  if ← contextualModifier "get" then return ← accessor g false
  if ← contextualModifier "set" then return ← accessor g false
  if ← constructor? g then return
  if ← isIndexSignature then return ← indexSignature g
  if (← isPlainPropertyName) || (← isOneOfMarks ["*", "["]) then
    return ← propertyOrMethod g (words.contains "async")
  if any then
    complainAt (← previousStop) 0 .declarationExpected
    propertyTail g { tree := .identifier "" } false

/-- Pass over a class or interface named behind `extends` or `implements`. -/
def heritageElement : Parser Unit := do
  let n ← g.leftHandSide
  if n.form != .instantiation && (← isMark "<") then
    let _ ← bracketedList .typeArguments g.type "<" ">"

/-- Pass over the lists behind `extends` and `implements`. -/
def heritageClauses : Parser Unit := do
  if ← isHeritageWord then
    let _ ← listOf .heritageClauses do
      advance
      let _ ← delimitedList .heritageElements (heritageElement g)

/-- Read a class from its introducing word on, and answer its name. -/
def classTail (exported : Bool) : Parser (Option String) := do
  let saved := (← setting).awaits
  let _ ← expectWord "class"
  let named ← isBindingIdentifier
  let listed ← if ← isWord "implements" then lookAhead do advance; isName else pure false
  let name ← if named && !listed then some <$> bindingIdentifier else pure none
  typeParameters g
  within (fun s => { s with awaits := saved || exported }) do
    heritageClauses g
    if ← expectMark "\x7b" then
      let _ ← listOf .classMembers (classElement g)
      let _ ← expectMark "\x7d"
  return name

end UnitResolution.Script.Parser
