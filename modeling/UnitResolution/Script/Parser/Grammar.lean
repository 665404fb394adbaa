import UnitResolution.Script.Parser.Sequence

/-!
# The nonterminals of the grammar

Types, expressions, bindings and statements contain each other. The readers of their parts are
therefore written over a `Grammar`, which holds a reader for each nonterminal that can occur inside
another one. `Script.Parser` closes the circle.

A reader answers as much of what it has read as later decisions need: a `Node` for an expression
and a `TypeShape` for a type.
-/

namespace UnitResolution.Script

/-- The forms of an expression on which a later decision depends. -/
inductive Form
  | identifier
  /-- A name with type arguments, as in `f<number>`. -/
  | instantiation
  | taggedTemplate
  /-- A conversion written in angle brackets. -/
  | assertion
  | plain
  deriving Repr, DecidableEq

/-- An expression that has been read, with its place. -/
structure Node where
  tree : Expression
  form : Form := .plain
  /-- The expression can stand on the left of an assignment or a dot. -/
  isLeftHandSide : Bool := true
  /-- The beginning of its first token. -/
  start : Nat := 0
  /-- The end of its last token. -/
  stop : Nat := 0

/-- The name of an expression that is an identifier. -/
def Node.name? (n : Node) : Option String :=
  match n.tree with
  | .identifier name => some name
  | _ => none

/-- What is known of a type that has been read. -/
structure TypeShape where
  /-- The name of the type, or of the type it answers, is missing. -/
  isMissing : Bool := false
  /-- The type is the word `function` with a signature. -/
  isFunctionWord : Bool := false

/-- Whether a function may be suspended, and how. -/
structure FunctionSort where
  yields : Bool := false
  awaits : Bool := false

/-- The readers of the parts that occur inside other parts. -/
structure Grammar where
  type : Parser TypeShape
  /-- A type without operators between types. -/
  typeOperand : Parser TypeShape
  /-- An expression, commas included. -/
  expression : Parser Node
  /-- An expression without commas; the argument tells whether an arrow function in it may have a
  return type. -/
  assignment : Bool → Parser Node
  /-- Operands joined by operators that bind closer than the given precedence. -/
  binary : Nat → Parser Node
  /-- An operand with the operators in front of it. -/
  unary : Parser Node
  /-- An operand with the operators in front of it, a power not counted. -/
  simpleUnary : Parser Node
  /-- An expression that can stand on the left of an assignment. -/
  leftHandSide : Parser Node
  /-- An expression without any operator. -/
  primary : Parser Node
  /-- An identifier, or a pattern that takes a value apart; the name of the former. -/
  binding : Fault → Parser (Option String)
  statement : Parser Statement
  /-- The name of a namespace behind a dot, and its body. -/
  namespaceTail : Parser Unit

namespace Parser

/-- Complete a node with its place, given the beginning of its first token. -/
def finish (start : Nat) (tree : Expression) (form : Form := .plain)
    (isLeftHandSide : Bool := true) : Parser Node := do
  return { tree, form, isLeftHandSide, start, stop := ← previousStop }

/-- The beginning of the current token. -/
def here : Parser Nat := return (← token).start.offset

/-- Note that a statement should have ended behind the given expression or name. -/
def complainMissingEnd (n : Node) : Parser Unit := do
  match n.form, n.name? with
  | .taggedTemplate, _ => complainAt n.start (n.stop - n.start) .taggedModuleName
  | _, none => complain (.expected ";")
  | _, some name =>
      if name.isEmpty then complain (.expected ";")
      else if ["const", "let", "var"].contains name then
        complainAt n.start (n.stop - n.start) .declarationNotAllowedHere
      else if name == "declare" then pure ()
      else if name == "interface" then invalid "Interface" "\x7b"
      else if name == "is" then
        complainAt n.start ((← here) - n.start) .predicateOutsideReturn
      else if name == "module" || name == "namespace" then invalid "Namespace" "\x7b"
      else if name == "type" then invalid "Type alias" "="
      else if (← kind) == .unknown then pure ()
      else complainAt n.start (n.stop - n.start) .unexpectedWord
where
  /-- The fault of a declaration whose name is missing or cannot be one. -/
  invalid (kind markIfMissing : String) : Parser Unit := do
    if ← isMark markIfMissing then complain (.missingName kind)
    else complain (.invalidName kind (← tokenText))

end Parser

end UnitResolution.Script
