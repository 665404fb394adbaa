import UnitResolution.Script.Parser.Expressions

/-!
# Statements

Of a statement only what a module exchanges with others and what it declares is kept; the bodies
of functions, loops and the like are passed over.
-/

namespace UnitResolution.Script.Parser

variable (g : Grammar)

/-! ## Variables -/

/-- Read the declaration of a variable. -/
def «variable» (definite : Bool) : Parser Variable := do
  let name ← g.binding .privateNameAsVariable
  if definite && name.isSome && !(← afterLineBreak) then
    let _ ← optionalMark "!"
  let declaredType ← if ← optionalMark ":" then some <$> typeText g else pure none
  let value ← if ← isOneOfWords ["in", "of"] then pure none else initializer? g
  return { name, declaredType, initializer := value.map (·.tree) }

/-- Read declarations of variables from their introducing word on. -/
def variableList (inLoop : Bool) : Parser (VariableKind × List Variable) := do
  let variableKind : VariableKind ←
    match ← kind with
    | .word "let" => pure .let
    | .word "const" => pure .const
    | .word "await" => do
        advance
        pure .const
    | _ => pure .var
  advance
  let isEmpty ←
    if ← isWord "of" then
      lookAhead do
        advance
        if !(← isIdentifier) then return false
        return (← next) == .mark ")"
    else pure false
  if isEmpty then return (variableKind, [])
  let list ← within (fun s => { s with noIn := inLoop })
    (delimitedList .variableDeclarations («variable» g (!inLoop)))
  return (variableKind, list)

/-- Read a statement that declares variables. -/
def variableStatement (exported : Bool) : Parser Statement := do
  let (variableKind, list) ← variableList g false
  expectSemicolon
  return .variables exported variableKind list

/-! ## Statements that only nest others -/

/-- Pass over an expression in parentheses. -/
def parenthesizedHead : Parser Unit := do
  let _ ← expectMark "("
  let _ ← allowIn g.expression
  closeBracket ")"

/-- Pass over a statement inside another one. -/
def inner : Parser Unit := do
  let _ ← g.statement

/-- Pass over the head and body of a loop that is introduced by `for`. -/
def forStatement : Parser Unit := do
  advance
  let awaited ← optionalWord "await"
  let _ ← expectMark "("
  if !(← isMark ";") then
    let declares ←
      match ← kind with
      | .word word =>
          if ["var", "let", "const"].contains word then pure true
          else if word == "using" then nextIsBindingOnSameLine false
          else if word == "await" then isAwaitUsingDeclaration
          else pure false
      | _ => pure false
    if declares then
      let _ ← variableList g true
    else
      let _ ← forbidIn g.expression
  let overElements ← if awaited then expectWord "of" else optionalWord "of"
  if overElements then
    let _ ← allowIn (g.assignment true)
    let _ ← expectMark ")"
  else if ← optionalWord "in" then
    let _ ← allowIn g.expression
    let _ ← expectMark ")"
  else
    let _ ← expectMark ";"
    if !(← isOneOfMarks [";", ")"]) then
      let _ ← allowIn g.expression
    let _ ← expectMark ";"
    if !(← isMark ")") then
      let _ ← allowIn g.expression
    let _ ← expectMark ")"
  inner g

/-- Pass over a clause of a `switch` statement. -/
def switchClause : Parser Unit := do
  if ← optionalWord "case" then
    let _ ← allowIn g.expression
  else
    let _ ← expectWord "default"
  let _ ← expectMark ":"
  let _ ← listOf .clauseStatements g.statement

/-- Pass over a `try` statement. -/
def tryStatement : Parser Unit := do
  let _ ← expectWord "try"
  block g
  let caught ← optionalWord "catch"
  if caught then
    if ← optionalMark "(" then
      let _ ← «variable» g false
      let _ ← expectMark ")"
    block g
  if !caught || (← isWord "finally") then
    let _ ← expectWord "finally" .catchOrFinallyExpected
    block g

/-- Pass over a `throw` statement. -/
def throwStatement : Parser Unit := do
  advance
  let n ← if ← afterLineBreak then pure { tree := .identifier "" } else allowIn g.expression
  if !(← optionalSemicolon) then complainMissingEnd n

/-- Pass over an expression as a statement, or over a label with its statement. -/
def expressionStatement : Parser Unit := do
  let n ← allowIn g.expression
  if n.form == .identifier && (← isMark ":") then
    advance
    inner g
  else if !(← optionalSemicolon) then complainMissingEnd n

/-- Pass over a statement that one of the words of control begins; answers whether it is one. -/
def controlStatement (word : String) : Parser Bool := do
  match word with
  | "if" =>
      advance
      parenthesizedHead g
      inner g
      if ← optionalWord "else" then inner g
      return true
  | "do" =>
      advance
      inner g
      let _ ← expectWord "while"
      parenthesizedHead g
      let _ ← optionalMark ";"
      return true
  | "while" | "with" =>
      advance
      parenthesizedHead g
      inner g
      return true
  | "for" => forStatement g; return true
  | "continue" | "break" =>
      advance
      if !(← canEndStatement) then
        let _ ← identifier
      expectSemicolon
      return true
  | "return" =>
      advance
      if !(← canEndStatement) then
        let _ ← allowIn g.expression
      expectSemicolon
      return true
  | "switch" =>
      advance
      let _ ← expectMark "("
      let _ ← allowIn g.expression
      let _ ← expectMark ")"
      let _ ← expectMark "\x7b"
      let _ ← listOf .switchClauses (switchClause g)
      let _ ← expectMark "\x7d"
      return true
  | "throw" => throwStatement g; return true
  | "try" | "catch" | "finally" => tryStatement g; return true
  | "debugger" => advance; expectSemicolon; return true
  | _ => return false

/-! ## Declarations -/

/-- How the modifiers of a function or class expose it. -/
def exposure (words : List String) : Exposure :=
  if !words.contains "export" then .internal
  else if words.contains "default" then .default
  else .named

/-- Read a function behind its modifiers. -/
def functionDeclaration (words : List String) : Parser Statement := do
  let _ ← expectWord "function"
  let generator ← optionalMark "*"
  let name ←
    if words.contains "default" then optionalBindingIdentifier else some <$> bindingIdentifier
  let sort : FunctionSort := { yields := generator, awaits := words.contains "async" }
  typeParameters g
  within (fun s => { s with awaits := s.awaits || words.contains "export" }) do
    let _ ← parameters g sort
    let _ ← returnType g false
    functionBlockOrSemicolon g sort false .blockOrSemicolonExpected
  return .function (exposure words) name

/-- Pass over an interface. -/
def interfaceDeclaration : Parser Unit := do
  advance
  let _ ← identifier
  typeParameters g
  heritageClauses g
  objectTypeMembers g

/-- Pass over the declaration of a name for a type. -/
def typeAliasDeclaration : Parser Unit := do
  advance
  if ← afterLineBreak then complain .lineBreakHere
  let _ ← identifier
  typeParameters g
  let _ ← expectMark "="
  let _ ← g.type
  expectSemicolon

/-- Pass over an enumeration. -/
def enumDeclaration : Parser Unit := do
  advance
  let _ ← identifier
  if ← expectMark "\x7b" then
    let _ ← within (fun s => { s with yields := false, awaits := false })
      (delimitedList .enumMembers do
        let _ ← propertyName g
        allowIn (initializer? g))
    let _ ← expectMark "\x7d"

/-- Pass over the statements of a namespace in braces. -/
def namespaceBlock : Parser Unit := do
  if ← expectMark "\x7b" then
    let _ ← listOf .blockStatements g.statement
    let _ ← expectMark "\x7d"

/-- Pass over the body of a namespace, or over the rest of its name and then its body. -/
def namespaceTail : Parser Unit := do
  if ← optionalMark "." then
    let _ ← identifierName
    g.namespaceTail
  else namespaceBlock g

/-- Pass over a namespace or the declaration of a module. -/
def namespaceDeclaration : Parser Unit := do
  let isGlobal ← isWord "global"
  let isNamespace ← isWord "namespace"
  if !isGlobal then advance
  if isGlobal || (!isNamespace && (← kind) == .string) then
    advance
    if ← isMark "\x7b" then namespaceBlock g else expectSemicolon
  else
    let _ ← identifier
    namespaceTail g

/-! ## Imports and exports -/

/-- Read the name of a module; anything but a string literal is passed over. -/
def moduleSpecifier : Parser (Option String) := do
  if (← kind) == .string then
    let value := (← token).value
    advance
    return some value
  else
    let _ ← g.expression
    return none

/-- Pass over the attributes of an import, if there are any. -/
def importAttributes : Parser Unit := do
  if (← isOneOfWords ["with", "assert"]) && !(← afterLineBreak) then
    advance
    attributeList g

/-- Whether a name of an import or export comes. -/
def isModuleName : Parser Bool := return (← kind) == .string || (← isName)

/-- Read a name of an import or export, which can be a string, together with its place and whether
it is an identifier and whether it is a word that cannot be one. -/
def moduleName : Parser (Node × Bool) := do
  let start ← here
  let isWordOnly := (← isKeywordToken) && !(← isIdentifier)
  if (← kind) == .string then
    let value := (← token).value
    advance
    return (← finish start (.identifier value), false)
  else
    let name ← identifierName
    return (← finish start (.identifier name) .identifier, isWordOnly)

/-- Read what an import or export takes from a module: the name it has there, and the name it gets.
A leading `type` may be a modifier or the name itself. -/
def specifier (isImport : Bool) : Parser (String × String) := do
  let (first, firstOnly) ← moduleName
  let (source, target, onlyWord, complete) ←
    if first.form == .identifier && first.name? == some "type" then
      if ← isWord "as" then
        let (firstAs, _) ← moduleName
        if ← isWord "as" then
          let (secondAs, _) ← moduleName
          if ← isModuleName then
            let (last, only) ← moduleName
            pure (some firstAs, last, only, true)
          else pure (some first, secondAs, firstOnly, true)
        else if ← isModuleName then
          let (last, only) ← moduleName
          pure (some first, last, only, true)
        else pure (none, firstAs, firstOnly, false)
      else if ← isModuleName then
        let (last, only) ← moduleName
        pure (none, last, only, false)
      else pure (none, first, firstOnly, false)
    else pure (none, first, firstOnly, false)
  let (source, target, onlyWord) ←
    if !complete && (← isWord "as") then do
      advance
      let (last, only) ← moduleName
      pure (some target, last, only)
    else pure (source, target, onlyWord)
  let text (n : Node) : String := n.name?.getD ""
  if isImport then
    if target.form != .identifier then
      complainAt target.start (target.stop - target.start) .identifierExpected
      return (text (source.getD target), "")
    else if onlyWord then
      complainAt target.start (target.stop - target.start) .identifierExpected
  return (text (source.getD target), text target)

/-- Read the names of an import or export in braces. -/
def specifierList (isImport : Bool) : Parser (List (String × String)) :=
  bracketedList .specifiers (specifier isImport) "\x7b" "\x7d"

/-- Read what an import binds, up to the name of the module. -/
def importClause (default : Option String) : Parser (List ImportedName) := do
  if default.isNone || (← optionalMark ",") then
    if ← optionalMark "*" then
      let _ ← expectWord "as"
      let _ ← identifier
      return []
    let names ← specifierList true
    return names.map fun (source, target) => ⟨target, source⟩
  return []

/-- Pass over an import that names a module or namespace as a value, behind its name. -/
def importAlias : Parser Unit := do
  let _ ← expectMark "="
  if (← isWord "require") && (← nextIsMark "(") then
    modify fun s => { s with isModule := true }
    advance
    advance
    let _ ← moduleSpecifier g
    let _ ← expectMark ")"
  else
    let _ ← entityName false
  expectSemicolon

/-- Read an import. -/
def importDeclaration : Parser Statement := do
  advance
  let first ← if ← isIdentifier then some <$> identifier else pure none
  let isTypeOnly ←
    if first == some "type" then do
      let other ←
        if ← isWord "from" then
          if ← isIdentifier then
            lookAhead do
              advance
              return (← isWord "from") || (← isMark "=")
          else pure false
        else pure true
      pure (other && ((← isIdentifier) || (← isOneOfMarks ["*", "\x7b"])))
    else pure false
  let isDeferred ←
    if !isTypeOnly && first == some "defer" then
      if ← isWord "from" then pure !(← nextIsString)
      else pure !(← isOneOfMarks [",", "="])
    else pure false
  let default ←
    if isTypeOnly || isDeferred then
      if ← isIdentifier then some <$> identifier else pure none
    else pure first
  if default.isSome && !((← isMark ",") || (← isWord "from")) && !isDeferred then
    importAlias g
    return .other
  modify fun s => { s with isModule := true }
  let names ←
    if default.isSome || (← isOneOfMarks ["*", "\x7b"]) then do
      let names ← importClause default
      let _ ← expectWord "from"
      pure names
    else pure []
  let source ← moduleSpecifier g
  importAttributes g
  expectSemicolon
  match source with
  | some source => return .importFrom source default names
  | none => return .other

/-- Read an export of names or of a module, behind its introducing word. -/
def exportDeclaration : Parser Statement :=
  within (fun s => { s with awaits := true }) do
    let _ ← optionalWord "type"
    if ← optionalMark "*" then
      let named ← optionalWord "as"
      if named then
        let _ ← moduleName
      let _ ← expectWord "from"
      let source ← moduleSpecifier g
      importAttributes g
      expectSemicolon
      match source with
      | some source => return .exportFrom source (if named then .namespaceObject else .everything)
      | none => return .other
    else
      let names ← specifierList false
      let names := names.map fun (source, target) => (⟨target, source⟩ : ExportedName)
      let source ←
        if (← isWord "from") || ((← kind) == .string && !(← afterLineBreak)) then do
          let _ ← expectWord "from"
          let source ← moduleSpecifier g
          importAttributes g
          pure source
        else pure none
      expectSemicolon
      match source with
      | some source => return .exportFrom source (.names names)
      | none => return .exportNames names

/-- Read the export of a value, behind its introducing word. -/
def exportAssignment : Parser Statement :=
  within (fun s => { s with awaits := true }) do
    let equals ← optionalMark "="
    if !equals then
      let _ ← expectWord "default"
    let n ← g.assignment true
    expectSemicolon
    return if equals then .other else .exportDefault n.tree

/-- Read what `export` introduces where it is no modifier. -/
def exportStatement : Parser Statement := do
  advance
  modify fun s => { s with isModule := true }
  if (← isWord "default") || (← isMark "=") then exportAssignment g
  else if ← optionalWord "as" then
    let _ ← expectWord "namespace"
    let _ ← identifier
    expectSemicolon
    return .other
  else exportDeclaration g

/-! ## All statements -/

/-- Read a declaration with its modifiers. -/
def declaration : Parser Statement := do
  let atTop := (← get).regions == [.sourceElements]
  let (words, any) ← modifiers g true
  if atTop && words.contains "export" then modify fun s => { s with isModule := true }
  match ← kind with
  | .word word => ofWord words any word
  | _ => missing any
where
  /-- Modifiers without a declaration behind them. -/
  missing (any : Bool) : Parser Statement := do
    if any then complainAt (← previousStop) 0 .declarationExpected
    return .other
  /-- The declaration that a word introduces. -/
  ofWord (words : List String) (any : Bool) (word : String) : Parser Statement := do
    match word with
    | "var" | "let" | "const" | "using" | "await" =>
        variableStatement g (words.contains "export")
    | "function" => functionDeclaration g words
    | "class" => return .classDeclaration (exposure words) (← classTail g (words.contains "export"))
    | "interface" => interfaceDeclaration g; return .other
    | "type" => typeAliasDeclaration g; return .other
    | "enum" => enumDeclaration g; return .other
    | "global" | "module" | "namespace" => namespaceDeclaration g; return .other
    | "import" => importDeclaration g
    | "export" => exportStatement g
    | _ => missing any

/-- Words that introduce a declaration only if one follows. -/
def declarationWords : List String :=
  ["async", "interface", "type", "module", "namespace", "declare", "const", "enum", "export",
    "import", "private", "protected", "public", "abstract", "accessor", "static", "readonly",
    "global"]

/-- Read a statement. -/
def statement : Parser Statement := do
  match ← kind with
  | .mark ";" => advance; return .other
  | .mark "\x7b" => block g; return .other
  | .mark "@" => declaration g
  | .word word =>
      if ← declares word then declaration g
      else if ← controlStatement g word then return .other
      else expressionStatement g; return .other
  | _ => expressionStatement g; return .other
where
  /-- Whether a declaration begins with the given word here. -/
  declares (word : String) : Parser Bool := do
    if word == "var" || word == "function" || word == "class" then return true
    if word == "let" then return ← isLetDeclaration
    if word == "await" then return ← isAwaitUsingDeclaration
    if word == "using" then return ← isUsingDeclaration
    if declarationWords.contains word then return ← isStartOfDeclaration
    return false

end UnitResolution.Script.Parser
