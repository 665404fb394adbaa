import UnitResolution.Script.Lexer
import UnitResolution.Script.Tree

/-!
# The state of reading a script

A `Parser` reads from a `State` that holds the current token and the faults found so far. It never
fails: where something is missing it notes a fault and goes on with what it has. `lookAhead` and
`attempt` read ahead without commitment.

Only the first of several faults with one starting point is kept, so that one mistake is not
reported once for every rule it breaks.
-/

namespace UnitResolution.Script

/-- The sequences a parser can be in the middle of. An unexpected token ends the innermost
sequence if some surrounding one can go on with it. -/
inductive Region
  | sourceElements
  | blockStatements
  | switchClauses
  | clauseStatements
  | typeMembers
  | classMembers
  | enumMembers
  | heritageElements
  | variableDeclarations
  | objectBindings
  | arrayBindings
  | arguments
  | objectMembers
  | arrayMembers
  | parameters
  | typeParameters
  | typeArguments
  | tupleElements
  | heritageClauses
  | specifiers
  | importAttributes
  deriving Repr, DecidableEq

/-- What the grammar allows at the current place. -/
structure Setting where
  /-- Inside a generator, where `yield` is an operator. -/
  yields : Bool := false
  /-- Inside an asynchronous function or a module, where `await` is an operator. -/
  awaits : Bool := false
  /-- In the head of a loop, where `in` is no operator. -/
  noIn : Bool := false
  /-- In the expression of a decorator, where a bracket does not belong to the expression. -/
  inDecorator : Bool := false
  /-- In a place where a conditional type has to be parenthesized. -/
  noConditionalTypes : Bool := false
  deriving Repr

/-- The state of reading a script. -/
structure State where
  /-- The current token. -/
  token : Token
  /-- The end of the token before it. -/
  previousStop : Nat
  /-- The number of code units of the whole text. -/
  size : Nat
  /-- The faults found so far, the last one first. -/
  complaints : List Complaint := []
  setting : Setting := {}
  /-- The sequences that surround the current place, the innermost first. -/
  regions : List Region := []
  /-- Places known not to begin the parameter list of an arrow function. -/
  notArrows : List Nat := []
  /-- Whether a statement or expression that only modules have has been read. -/
  isModule : Bool := false

/-- A reader of a part of a script. -/
abbrev Parser := StateM State

namespace Parser

/-- The current token. -/
def token : Parser Token := return (← get).token

/-- The kind of the current token. -/
def kind : Parser TokenKind := return (← get).token.kind

/-- Whether the current token is the given mark. -/
def isMark (mark : String) : Parser Bool := return (← get).token.kind == .mark mark

/-- Whether the current token is the given word. -/
def isWord (word : String) : Parser Bool := return (← get).token.kind == .word word

/-- Whether the current token is one of the given marks. -/
def isOneOfMarks (marks : List String) : Parser Bool := do
  match ← kind with
  | .mark mark => return marks.contains mark
  | _ => return false

/-- Whether the current token is one of the given words. -/
def isOneOfWords (words : List String) : Parser Bool := do
  match ← kind with
  | .word word => return words.contains word
  | _ => return false

/-- Whether the text is at its end. -/
def atEnd : Parser Bool := return (← kind) == .endOfText

/-- Whether a line has ended before the current token. -/
def afterLineBreak : Parser Bool := return (← get).token.afterLineBreak

/-- The end of the preceding token. -/
def previousStop : Parser Nat := return (← get).previousStop

/-- The setting of the current place. -/
def setting : Parser Setting := return (← get).setting

/-! ## Faults -/

/-- Add a fault unless the last one begins at the same place. -/
def addComplaint (complaints : List Complaint) (c : Complaint) : List Complaint :=
  match complaints with
  | [] => [c]
  | last :: _ => if last.start = c.start then complaints else c :: complaints

/-- Note a fault at a place. -/
def complainAt (start length : Nat) (fault : Fault) : Parser Unit :=
  modify fun s => { s with complaints := addComplaint s.complaints ⟨start, length, fault⟩ }

/-- Note a fault at the current token. -/
def complain (fault : Fault) : Parser Unit := do
  let t ← token
  complainAt t.start.offset (t.stop.offset - t.start.offset) fault

/-! ## Moving on -/

/-- Make a token the current one, together with the faults found while reading it. -/
def setToken (read : Token × List Complaint) : Parser Unit :=
  modify fun s => { s with
    token := read.1
    complaints := read.2.foldl addComplaint s.complaints }

/-- Go on to the next token, whatever the current one is. -/
def skip : Parser Unit := do
  let s ← get
  set { s with previousStop := s.token.stop.offset }
  setToken (scan s.token.stop)

/-- Go on to the next token. A keyword must be written without escapes. -/
def advance : Parser Unit := do
  let t ← token
  match t.kind with
  | .word word => if t.escaped && isKeyword word then complain .escapedWord
  | _ => pure ()
  skip

/-- Read an operator that begins with a closing angle bracket as a whole. -/
def joinGreater : Parser Unit :=
  modify fun s => { s with token := rescanGreater s.token }

/-- Read a double opening angle bracket as a single one. -/
def splitLess : Parser Unit :=
  modify fun s => { s with token := rescanLess s.token }

/-- The number of tokens that can still follow is less than this. -/
def budget : Parser Nat := do
  let s ← get
  return s.size - s.previousStop + 2

/-- Repeat a step on a value until it answers that it is done, at most `n` times. -/
def iterate {α : Type} (step : α → Parser (Bool × α)) : (n : Nat) → α → Parser α
  | 0, value => pure value
  | n + 1, value => do
      let (more, value) ← step value
      if more then iterate step n value else pure value

/-- Repeat a step on a value until it answers that it is done. A step that does not finish uses up
a token, so the tokens left bound the number of steps. -/
def loop {α : Type} (start : α) (step : α → Parser (Bool × α)) : Parser α := do
  iterate step (← budget) start

/-- Repeat a step as long as it answers true. -/
def repeatWhile (step : Parser Bool) : Parser Unit :=
  loop () fun _ => return (← step, ())

/-- Read ahead, and come back to the current place. -/
def lookAhead {α : Type} (p : Parser α) : Parser α := fun s =>
  let (a, after) := p s
  (a, { s with notArrows := after.notArrows })

/-- Read on if the reader answers something, and come back to the current place otherwise. -/
def attempt {α : Type} (p : Parser (Option α)) : Parser (Option α) := fun s =>
  match p s with
  | (some a, after) => (some a, after)
  | (none, after) => (none, { s with notArrows := after.notArrows })

/-- Read on if the reader answers true, and come back to the current place otherwise. -/
def attemptThat (p : Parser Bool) : Parser Bool := fun s =>
  match p s with
  | (true, after) => (true, after)
  | (false, after) => (false, { s with notArrows := after.notArrows })

/-- Read a part in another setting. -/
def within {α : Type} (change : Setting → Setting) (p : Parser α) : Parser α := do
  let saved ← setting
  modify fun s => { s with setting := change s.setting }
  let a ← p
  modify fun s => { s with setting := saved }
  return a

/-- Read a part in which `in` is an operator. -/
def allowIn {α : Type} (p : Parser α) : Parser α := within (fun s => { s with noIn := false }) p

/-- Read a part in which `in` is no operator. -/
def forbidIn {α : Type} (p : Parser α) : Parser α := within (fun s => { s with noIn := true }) p

/-- Read a part in which conditional types need no parentheses. -/
def allowConditionalTypes {α : Type} (p : Parser α) : Parser α :=
  within (fun s => { s with noConditionalTypes := false }) p

/-- Read a part in which conditional types need parentheses. -/
def forbidConditionalTypes {α : Type} (p : Parser α) : Parser α :=
  within (fun s => { s with noConditionalTypes := true }) p

/-! ## Tokens that have to or may come -/

/-- Pass over the given mark if it is next. -/
def optionalMark (mark : String) : Parser Bool := do
  if ← isMark mark then advance; return true else return false

/-- Pass over the given word if it is next. -/
def optionalWord (word : String) : Parser Bool := do
  if ← isWord word then advance; return true else return false

/-- Pass over the given mark, which has to come; the fault of its absence can be worded. -/
def expectMark (mark : String) (fault : Fault := .expected mark) : Parser Bool := do
  if ← isMark mark then advance; return true else complain fault; return false

/-- Pass over the given word, which has to come; the fault of its absence can be worded. -/
def expectWord (word : String) (fault : Fault := .expected word) : Parser Bool := do
  if ← isWord word then advance; return true else complain fault; return false

/-- Whether a statement may end before the current token. -/
def canEndStatement : Parser Bool := do
  let t ← token
  return t.kind == .mark ";" || t.kind == .mark "\x7d" || t.kind == .endOfText || t.afterLineBreak

/-- End a statement if it may end here. -/
def optionalSemicolon : Parser Bool := do
  if ← canEndStatement then
    let _ ← optionalMark ";"
    return true
  else return false

/-- End a statement, which has to end here. -/
def expectSemicolon : Parser Unit := do
  if !(← optionalSemicolon) then
    let _ ← expectMark ";"

/-! ## Names -/

/-- Whether the current token can be an identifier. -/
def isIdentifier : Parser Bool := do
  let s ← setting
  match ← kind with
  | .word word =>
      if word == "yield" && s.yields then return false
      else if word == "await" && s.awaits then return false
      else return !isReserved word
  | _ => return false

/-- Whether the current token can name what a declaration binds. -/
def isBindingIdentifier : Parser Bool := do
  match ← kind with
  | .word word => return !isReserved word
  | _ => return false

/-- Whether the current token is a word or a private name. -/
def isName : Parser Bool := do
  match ← kind with
  | .word _ | .privateName => return true
  | _ => return false

/-- Whether the current token is a word with a meaning of its own. -/
def isKeywordToken : Parser Bool := do
  match ← kind with
  | .word word => return isKeyword word
  | _ => return false

/-- Whether the current token is a word that may modify a declaration. -/
def isModifierToken : Parser Bool := isOneOfWords modifierWords

/-- Whether the current token can name a property without brackets. -/
def isPlainPropertyName : Parser Bool := do
  match ← kind with
  | .word _ | .privateName | .string | .number | .bigint => return true
  | _ => return false

/-- The text of the current token. -/
def tokenText : Parser String := do
  let t ← token
  return String.ofList (t.start.textUpTo t.stop.offset)

/-- Read a name if `present`, and note its absence otherwise. The name that is missing is empty. -/
def name (present : Bool) (fault : Option Fault := none)
    (privateFault : Fault := .privateNameOutsideClass) : Parser String := do
  let t ← token
  if present then
    skip
    return spelling t
  else
    match t.kind with
    | .privateName =>
        complain privateFault
        skip
        return spelling t
    | .endOfText =>
        complainAt (← previousStop) 0 (fault.getD .identifierExpected)
        return ""
    | .word word =>
        let text ← tokenText
        complain (fault.getD (if isReserved word then .reservedWord text else .identifierExpected))
        return ""
    | _ =>
        complain (fault.getD .identifierExpected)
        return ""
where
  /-- The name that a token spells. -/
  spelling (t : Token) : String :=
    match t.kind with
    | .word word => word
    | _ => t.value

/-- Read an identifier. -/
def identifier (fault : Option Fault := none) : Parser String := do
  name (← isIdentifier) fault

/-- Read the name that a declaration binds. -/
def bindingIdentifier (privateFault : Fault := .privateNameOutsideClass) : Parser String := do
  name (← isBindingIdentifier) none privateFault

/-- Read a name that may be any word. -/
def identifierName (fault : Option Fault := none) : Parser String := do
  name (← isName) fault

/-- Read the name that a declaration binds, if one comes. -/
def optionalBindingIdentifier : Parser (Option String) := do
  if ← isBindingIdentifier then return some (← bindingIdentifier) else return none

/-- Whether the next token can be an identifier. -/
def nextIsIdentifier : Parser Bool := lookAhead do advance; isIdentifier

/-- Whether a name follows on the same line. -/
def nextIsNameOnSameLine : Parser Bool := lookAhead do
  advance
  return (← isName) && !(← afterLineBreak)

/-- Whether the next token is the given mark. -/
def nextIsMark (mark : String) : Parser Bool := lookAhead do advance; isMark mark

/-- Whether the next token is a string literal. -/
def nextIsString : Parser Bool := lookAhead do advance; return (← kind) == .string

/-- Read the name behind a dot. -/
def nameBehindDot (allowAnyWord allowPrivate : Bool) : Parser String := do
  if (← afterLineBreak) && (← isName) && (← nextIsNameOnSameLine) then
    complainAt (← previousStop) 0 .identifierExpected
    return ""
  if (← kind) == .privateName then
    let n ← identifierName
    if !allowPrivate then complainAt (← previousStop) 0 .identifierExpected
    return n
  if allowAnyWord then identifierName else identifier

end Parser

end UnitResolution.Script
