/-!
# What a script says

The part of a script's structure that the analysis of units looks at: its top-level statements,
and of them the names they import, export and declare, the annotations, and the initializers of
variables. An expression is kept as far as its type can be read off its form; every other
expression is `Expression.other`, and every other statement `Statement.other`.
-/

namespace UnitResolution.Script

/-- An operator between two operands. -/
inductive BinaryOperator
  | add
  | subtract
  | multiply
  | divide
  | remainder
  | power
  | equal
  | strictlyEqual
  | unequal
  | strictlyUnequal
  | less
  | lessOrEqual
  | greater
  | greaterOrEqual
  | instanceOf
  | memberOf
  /-- A logical, bitwise, shift, comma or assignment operator. -/
  | other (spelling : String)
  deriving Repr, DecidableEq

namespace BinaryOperator

/-- The operator of a mark or word. -/
def ofSpelling (spelling : String) : BinaryOperator :=
  match spelling with
  | "+" => add
  | "-" => subtract
  | "*" => multiply
  | "/" => divide
  | "%" => remainder
  | "**" => power
  | "==" => equal
  | "===" => strictlyEqual
  | "!=" => unequal
  | "!==" => strictlyUnequal
  | "<" => less
  | "<=" => lessOrEqual
  | ">" => greater
  | ">=" => greaterOrEqual
  | "instanceof" => instanceOf
  | "in" => memberOf
  | _ => other spelling

/-- The operators that answer a number of their operands, addition apart. -/
def isArithmetic : BinaryOperator → Bool
  | subtract | multiply | divide | remainder | power => true
  | _ => false

/-- The operators that answer a truth value. -/
def isComparison : BinaryOperator → Bool
  | equal | strictlyEqual | unequal | strictlyUnequal | less | lessOrEqual | greater
  | greaterOrEqual | instanceOf | memberOf => true
  | _ => false

end BinaryOperator

/-- An expression, as far as its type can be read off its form. -/
inductive Expression
  | number
  | bigint
  /-- A string literal or a template. -/
  | string
  | boolean
  | null
  | identifier (name : String)
  | parenthesized (inner : Expression)
  /-- A conversion to the type with the given text. -/
  | cast (typeText : String) (operand : Expression)
  /-- An expression with a type it is checked against. -/
  | satisfies (operand : Expression)
  /-- Logical negation. -/
  | not (operand : Expression)
  /-- Another operator in front of its operand: a sign, a complement or a step. -/
  | signed (operand : Expression)
  /-- An array literal; an element that is left out or spread is `other`. -/
  | array (elements : List Expression)
  | object
  | function
  /-- The construction of an instance of a class that is named directly. -/
  | construct (className : String)
  | binary (operator : BinaryOperator) (left right : Expression)
  | conditional (condition whenTrue whenFalse : Expression)
  | other
  deriving Repr, Inhabited

/-- The word that introduces variables. -/
inductive VariableKind
  | const
  | let
  | var
  deriving Repr, DecidableEq

/-- One declaration of a list of variables. -/
structure Variable where
  /-- The name, or nothing for a pattern that takes a value apart. -/
  name : Option String
  /-- The text of the type annotation. -/
  declaredType : Option String
  initializer : Option Expression
  deriving Repr

/-- A name that a statement takes from another module, with the name it has there. -/
structure ImportedName where
  localName : String
  importedName : String
  deriving Repr

/-- A name that a statement offers to other modules, with the name of what stands behind it. -/
structure ExportedName where
  exportedName : String
  sourceName : String
  deriving Repr

/-- What a statement passes on from another module. -/
inductive ReExported
  /-- Everything the module exports. -/
  | everything
  /-- Everything, as one value with a name. -/
  | namespaceObject
  | names (list : List ExportedName)
  deriving Repr

/-- How a function or class is exported. -/
inductive Exposure
  | internal
  | named
  | default
  deriving Repr, DecidableEq

/-- A top-level statement. -/
inductive Statement
  | importFrom (specifier : String) (defaultName : Option String) (names : List ImportedName)
  | exportFrom (specifier : String) (what : ReExported)
  | exportNames (names : List ExportedName)
  | exportDefault (value : Expression)
  | function (exposure : Exposure) (name : Option String)
  | classDeclaration (exposure : Exposure) (name : Option String)
  | variables (exported : Bool) (kind : VariableKind) (list : List Variable)
  | other
  deriving Repr

end UnitResolution.Script
