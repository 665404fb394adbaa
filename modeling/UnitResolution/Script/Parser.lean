import UnitResolution.Script.Parser.Statements

/-!
# Reading a script

`Grammar.level` closes the circle of the nonterminals: a grammar of level `n + 1` reads parts
inside parts by the grammar of level `n`. A text cannot nest parts deeper than a multiple of its
length, so `parse` reads with a level that is never used up.

A text with an import or export is a module, where `await` is an operator at the top level. That
shows only when the text has been read, so a module in which that word occurs is read again.
-/

namespace UnitResolution.Script

/-- The grammar that can nest parts to the given depth. -/
def Grammar.level : Nat → Grammar
  | 0 =>
      { type := return {}, typeOperand := return {}
        expression := nothing, assignment := fun _ => nothing, binary := fun _ => nothing
        unary := nothing, simpleUnary := nothing, leftHandSide := nothing, primary := nothing
        binding := fun _ => return none, statement := return .other
        namespaceTail := return () }
  | n + 1 =>
      { type := fun s => Parser.type (level n) s
        typeOperand := fun s => Parser.typeOperand (level n) s
        expression := fun s => Parser.expression (level n) s
        assignment := fun returnTypes s => Parser.assignment (level n) returnTypes s
        binary := fun above s => Parser.binary (level n) above s
        unary := fun s => Parser.unary (level n) s
        simpleUnary := fun s => Parser.simpleUnary (level n) s
        leftHandSide := fun s => Parser.leftHandSide (level n) s
        primary := fun s => Parser.primary (level n) s
        binding := fun fault s => Parser.binding (level n) fault s
        statement := fun s => Parser.statement (level n) s
        namespaceTail := fun s => Parser.namespaceTail (level n) s }
where
  /-- The node of an expression that is not read. -/
  nothing : Parser Node := return { tree := .other }

/-- What has been read of the text of a script. -/
structure SyntaxTree where
  /-- The top-level statements in their order. -/
  statements : List Statement
  /-- The faults of the text, in the order in which they were noticed. -/
  complaints : List Complaint
  deriving Repr

/-- The state before the first token of a text. -/
def State.initial (text : List Char) (awaits : Bool) : State :=
  let (token, complaints) := scan ⟨text, 0⟩
  { token, previousStop := 0, size := Text.units text, setting := { awaits }
    complaints := complaints.foldl Parser.addComplaint [] }

/-- Read a text; `awaits` tells whether `await` is an operator at the top level. Also answers
whether the text turns out to be a module. -/
def parseAs (text : List Char) (awaits : Bool) : SyntaxTree × Bool :=
  let start := State.initial text awaits
  let grammar := Grammar.level (16 * start.size + 64)
  let (statements, stop) := (Parser.listOf .sourceElements grammar.statement).run start
  ({ statements, complaints := stop.complaints.reverse }, stop.isModule)

/-- Whether the word `await` occurs in a text. -/
def mentionsAwait : List Char → Bool
  | [] => false
  | c :: rest => "await".toList.isPrefixOf (c :: rest) || mentionsAwait rest

/-- Read a script. -/
def parse (text : String) : SyntaxTree :=
  let chars := text.toList
  let (script, isModule) := parseAs chars false
  if isModule && mentionsAwait chars then (parseAs chars true).1 else script

end UnitResolution.Script
