import UnitResolution.Script.Parser.Operands

/-!
# Expressions with operators

Operators in front of, behind and between operands, conditionals, assignments and arrow functions.
Whether a parenthesis opens the parameters of an arrow function is decided by a few tokens where
that is possible (`arrowGuess`), and by trying otherwise.
-/

namespace UnitResolution.Script.Parser

variable (g : Grammar)

/-! ## Operators before and behind an operand -/

/-- Read an operand with a step operator before or behind it. -/
def stepExpression : Parser Node := do
  let start ← here
  if ← isOneOfMarks ["++", "--"] then
    advance
    let operand ← g.leftHandSide
    return ← finish start (.signed operand.tree) .plain false
  let n ← g.leftHandSide
  if (← isOneOfMarks ["++", "--"]) && !(← afterLineBreak) then
    advance
    return ← finish start .other .plain false
  return n

/-- Whether `await` is an operator here. -/
def isAwaitOperator : Parser Bool := do
  if (← setting).awaits then return true
  lookAhead do
    advance
    if ← afterLineBreak then return false
    match ← kind with
    | .word _ | .privateName | .number | .bigint | .string => return true
    | _ => return false

/-- Read an operand with the operators in front of it. -/
def simpleUnary : Parser Node := do
  let start ← here
  match ← kind with
  | .mark mark =>
      if mark == "!" then
        advance
        let operand ← g.simpleUnary
        return ← finish start (.not operand.tree) .plain false
      if ["+", "-", "~"].contains mark then
        advance
        let operand ← g.simpleUnary
        return ← finish start (.signed operand.tree) .plain false
      if mark == "<" then
        advance
        let text ← typeText g
        let _ ← expectMark ">"
        let operand ← g.simpleUnary
        return ← finish start (.cast text operand.tree) .assertion false
      stepExpression g
  | .word word =>
      if ["delete", "typeof", "void"].contains word || (word == "await" && (← isAwaitOperator)) then
        advance
        let _ ← g.simpleUnary
        return ← finish start .other .plain false
      stepExpression g
  | _ => stepExpression g

/-- Words and marks of operators in front of an operand. -/
def isUnaryOperator : Parser Bool := do
  return (← isOneOfMarks ["+", "-", "~", "!", "<"]) ||
    (← isOneOfWords ["delete", "typeof", "void", "await"])

/-! ## Operators between operands -/

/-- One more operator behind an operand, if it binds closer than the given precedence. -/
def binaryStep (above : Nat) (left : Node) : Parser (Bool × Node) := do
  joinGreater
  let k ← kind
  match precedence k with
  | none => return (false, left)
  | some own =>
      let takes := if k == .mark "**" then own ≥ above else own > above
      if !takes || (k == .word "in" && (← setting).noIn) then return (false, left)
      match k with
      | .word "as" =>
          if ← afterLineBreak then return (false, left)
          advance
          let text ← typeText g
          return (true, ← finish left.start (.cast text left.tree) .plain false)
      | .word "satisfies" =>
          if ← afterLineBreak then return (false, left)
          advance
          let _ ← g.type
          return (true, ← finish left.start (.satisfies left.tree) .plain false)
      | .word spelling | .mark spelling =>
          advance
          let right ← g.binary own
          return (true, ← finish left.start
            (.binary (.ofSpelling spelling) left.tree right.tree) .plain false)
      | _ => return (false, left)

/-- The operators and operands behind an operand that bind closer than the given precedence. -/
def binaryRest (above : Nat) (left : Node) : Parser Node :=
  loop left (binaryStep g above)

/-- Read an operand with the operators in front of it; a power may follow only where there are
none. -/
def unary : Parser Node := do
  let first ← kind
  if ← isUnaryOperator then
    let n ← simpleUnary g
    if ← isMark "**" then
      let fault : Fault :=
        if n.form = .assertion then .assertionRaisedToPower
        else
          match first with
          | .mark spelling | .word spelling => .unaryRaisedToPower spelling
          | _ => .unaryRaisedToPower ""
      complainAt n.start (n.stop - n.start) fault
    return n
  else
    let n ← stepExpression g
    if ← isMark "**" then binaryRest g 15 n else return n

/-- Read operands joined by operators that bind closer than the given precedence. -/
def binary (above : Nat) : Parser Node := do
  binaryRest g above (← g.unary)

/-! ## Arrow functions -/

/-- What a few tokens tell about an arrow function. -/
inductive ArrowGuess
  | certain
  | possible
  | excluded
  deriving DecidableEq

/-- Behind an opening parenthesis or angle bracket: whether an arrow function begins there. -/
def arrowGuessBehind (opening : String) : Parser ArrowGuess := do
  if opening == "<" then
    return if (← isIdentifier) || (← isWord "const") then .possible else .excluded
  let second ← kind
  if second == .mark ")" then
    advance
    return if ← isOneOfMarks ["=>", ":", "\x7b"] then .certain else .excluded
  if ← isOneOfMarks ["[", "\x7b"] then return .possible
  if second == .mark "..." then return .certain
  if (← isModifierToken) && second != .word "async" && (← nextIsIdentifier) then
    return if (← next) == .word "as" then .excluded else .certain
  if !(← isIdentifier) && second != .word "this" then return .excluded
  match ← next with
  | .mark ":" => return .certain
  | .mark "?" =>
      advance
      return if ← isOneOfMarks [":", ",", "=", ")"] then .certain else .excluded
  | .mark "," | .mark "=" | .mark ")" => return .possible
  | _ => return .excluded

/-- Whether an arrow function with parameters in parentheses begins here. -/
def arrowGuess : Parser ArrowGuess := do
  match ← kind with
  | .mark "=>" => return .certain
  | .mark "(" => lookAhead do advance; arrowGuessBehind "("
  | .mark "<" => lookAhead do advance; arrowGuessBehind "<"
  | .word "async" => lookAhead do
      advance
      if ← afterLineBreak then return .excluded
      if ← isMark "(" then advance; return ← arrowGuessBehind "("
      if ← isMark "<" then advance; return ← arrowGuessBehind "<"
      return .excluded
  | _ => return .excluded

/-- Pass over the body of an arrow function. -/
def arrowBody (isAsync returnTypes : Bool) : Parser Unit := do
  if ← isMark "\x7b" then return ← functionBlock g { awaits := isAsync }
  if !(← isMark ";") && !(← isOneOfWords ["function", "class"]) then
    if (← isStartOfStatement) && !(← isStartOfExpressionStatement) then
      return ← functionBlock g { awaits := isAsync } true
  within (fun s => { s with awaits := isAsync, yields := false }) do
    let _ ← g.assignment returnTypes

/-- Pass over an arrow function with parameters in parentheses. Where it is open whether it is one,
the answer is nothing if it cannot be. -/
def parenthesizedArrow? (certain returnTypes : Bool) : Parser (Option Unit) := do
  let isAsync ← optionalWord "async"
  typeParameters g
  if ← expectMark "(" then
    let list ← parametersWithin g { awaits := isAsync } certain
    if list.isNone then return none
    if !(← expectMark ")") && !certain then return none
  else if !certain then return none
  let hasColon ← isMark ":"
  let result ← returnType g false
  if !certain then
    if result.any (·.isMissing) then return none
    if !(← isMark "=>") && (result.any (·.isFunctionWord) || !(← isMark "\x7b")) then return none
  let hasBody ← isOneOfMarks ["=>", "\x7b"]
  let _ ← expectMark "=>"
  if hasBody then arrowBody g isAsync returnTypes
  else
    let _ ← identifier
  if !returnTypes && hasColon && !(← isMark ":") then return none
  return some ()

/-- Pass over an arrow function with parameters in parentheses, if one comes. -/
def parenthesizedArrow (returnTypes : Bool) : Parser Bool := do
  match ← arrowGuess with
  | .excluded => return false
  | .certain =>
      let _ ← parenthesizedArrow? g true true
      return true
  | .possible =>
      let place ← here
      if (← get).notArrows.contains place then return false
      let found ← attempt (parenthesizedArrow? g false returnTypes)
      if found.isNone then modify fun s => { s with notArrows := place :: s.notArrows }
      return found.isSome

/-- Whether an asynchronous arrow function with a bare parameter begins here. -/
def isBareAsyncArrow : Parser Bool := do
  if !(← isWord "async") then return false
  lookAhead do
    advance
    if (← afterLineBreak) || (← isMark "=>") then return false
    let n ← g.binary 0
    return !(← afterLineBreak) && n.form == .identifier && (← isMark "=>")

/-- Pass over an arrow function behind its bare parameter. -/
def bareArrow (isAsync returnTypes : Bool) : Parser Unit := do
  let _ ← expectMark "=>"
  arrowBody g isAsync returnTypes

/-! ## Assignments and conditionals -/

/-- The marks of assignment. -/
def assignmentMarks : List String :=
  ["=", "+=", "-=", "*=", "**=", "/=", "%=", "<<=", ">>=", ">>>=", "&=", "|=", "^=", "||=",
    "&&=", "??="]

/-- Whether `yield` is an operator here. -/
def isYieldOperator : Parser Bool := do
  if !(← isWord "yield") then return false
  if (← setting).yields then return true
  lookAhead do
    advance
    if ← afterLineBreak then return false
    match ← kind with
    | .word _ | .privateName | .number | .bigint | .string => return true
    | _ => return false

/-- The rest of a conditional behind its condition, if there is one. -/
def conditionalRest (returnTypes : Bool) (n : Node) : Parser Node := do
  if !(← optionalMark "?") then return n
  let whenTrue ← withinBrackets (g.assignment false)
  if ← expectMark ":" then
    let whenFalse ← g.assignment returnTypes
    finish n.start (.conditional n.tree whenTrue.tree whenFalse.tree) .plain false
  else
    finish n.start (.conditional n.tree whenTrue.tree (.identifier "")) .plain false

/-- Read an expression without commas. -/
def assignment (returnTypes : Bool) : Parser Node := do
  let start ← here
  if ← isYieldOperator then
    advance
    if !(← afterLineBreak) && ((← isMark "*") || (← isStartOfExpression)) then
      let _ ← optionalMark "*"
      let _ ← g.assignment true
    return ← finish start .other .plain false
  if ← parenthesizedArrow g returnTypes then return ← finish start .function .plain false
  if ← isBareAsyncArrow g then
    advance
    let _ ← g.binary 0
    bareArrow g true returnTypes
    return ← finish start .function .plain false
  let n ← g.binary 0
  if n.form == .identifier && (← isMark "=>") then
    bareArrow g false returnTypes
    return ← finish start .function .plain false
  if n.isLeftHandSide then
    joinGreater
    match ← kind with
    | .mark mark =>
        if assignmentMarks.contains mark then
          advance
          let right ← g.assignment returnTypes
          return ← finish n.start (.binary (.ofSpelling mark) n.tree right.tree) .plain false
    | _ => pure ()
  conditionalRest g returnTypes n

/-- Read an expression, commas included. -/
def expression : Parser Node :=
  within (fun s => { s with inDecorator := false }) do
    let first ← g.assignment true
    loop first fun n => do
      if ← optionalMark "," then
        let right ← g.assignment true
        return (true, ← finish n.start (.binary (.ofSpelling ",") n.tree right.tree) .plain false)
      return (false, n)

end UnitResolution.Script.Parser
