import UnitResolution.Script.Surface

/-!
# Types of declarations

`inferType` reads the type of an expression off its form; a type is a text. Names are looked up
among the types of earlier declarations first, and among the imports of the unit then. The look-up
of an import may have effects, so it happens in a monad, and only where its answer is needed: the
operands of a comparison, for instance, are never looked at.

`inferDeclarations` goes through the statements of a unit in their order and types what they
declare.
-/

namespace UnitResolution.Script

/-- The type of what is not known. -/
def unknownType : String := "unknown"

/-- The word that introduces a declaration. -/
inductive DeclarationKind
  | const
  | let
  | var
  | function
  | classDeclaration
  deriving Repr, DecidableEq

/-- The spelling of the word that introduces a declaration. -/
def DeclarationKind.word : DeclarationKind → String
  | const => "const"
  | .let => "let"
  | var => "var"
  | function => "function"
  | classDeclaration => "class"

/-- The kind of the declaration of a variable. -/
def VariableKind.toDeclaration : VariableKind → DeclarationKind
  | const => .const
  | .let => .let
  | var => .var

/-- A declaration with its type. -/
structure Declaration where
  name : String
  kind : DeclarationKind
  type : String
  /-- The type comes from an initializer, and not from an annotation or the form of the
  declaration. -/
  inferred : Bool
  exported : Bool
  deriving Repr, DecidableEq

/-- What inference takes into account. -/
structure InferenceOptions where
  /-- Follow imports, and type imported names by the unit they come from. -/
  followImports : Bool := true
  /-- Type only constants by their initializers. -/
  onlyConstants : Bool := false
  deriving Repr, DecidableEq

/-! ## Types of expressions -/

/-- The union of two types. -/
def unionType (left right : String) : String :=
  if left = right then left else left ++ " | " ++ right

/-- The type of an array with elements of the given types. -/
def arrayType (elements : List String) : String :=
  match elements with
  | [] => unknownType ++ "[]"
  | first :: rest =>
      if rest.all (· == first) then
        if first.toList.contains ' ' then "(" ++ first ++ ")[]" else first ++ "[]"
      else unknownType ++ "[]"

/-- The type of a number with a sign, or of what a step leaves. -/
def signedType (operand : String) : String :=
  if operand = "number" ∨ operand = "bigint" then operand else unknownType

/-- The type of the result of an arithmetic operator. -/
def arithmeticType (left right : String) : String :=
  if left = "bigint" ∧ right = "bigint" then "bigint" else "number"

/-- The type of a sum. -/
def sumType (left right : String) : String :=
  if left = "string" ∨ right = "string" then "string"
  else if left = "number" ∧ right = "number" then "number"
  else unknownType

/-- The types that the names of a unit have so far. -/
abbrev Locals := List (String × String)

variable {m : Type → Type} [Monad m]

/-- The type of a name. -/
def nameType (locals : Locals) (lookupImport : String → m (Option String)) (name : String) :
    m String :=
  if name = "undefined" then return "undefined"
  else
    match locals.lookup name with
    | some type => return type
    | none => return (← lookupImport name).getD unknownType

/-- The type of an expression. -/
def inferType (locals : Locals) (lookupImport : String → m (Option String)) :
    Expression → m String
  | .number => return "number"
  | .bigint => return "bigint"
  | .string => return "string"
  | .boolean => return "boolean"
  | .null => return "null"
  | .identifier name => nameType locals lookupImport name
  | .parenthesized inner => inferType locals lookupImport inner
  | .cast typeText _ => return typeText
  | .satisfies operand => inferType locals lookupImport operand
  | .not _ => return "boolean"
  | .signed operand => return signedType (← inferType locals lookupImport operand)
  | .array elements => return arrayType (← inferElements elements)
  | .object => return "object"
  | .function => return "Function"
  | .construct className => return className
  | .binary operator left right =>
      if operator.isArithmetic then do
        let l ← inferType locals lookupImport left
        let r ← inferType locals lookupImport right
        return arithmeticType l r
      else if operator.isComparison then return "boolean"
      else if operator = .add then do
        let l ← inferType locals lookupImport left
        let r ← inferType locals lookupImport right
        return sumType l r
      else return unknownType
  | .conditional _ whenTrue whenFalse => do
      let t ← inferType locals lookupImport whenTrue
      let f ← inferType locals lookupImport whenFalse
      return unionType t f
  | .other => return unknownType
where
  /-- The types of the elements of an array literal. -/
  inferElements : List Expression → m (List String)
    | [] => return []
    | element :: rest => do
        let type ← inferType locals lookupImport element
        return type :: (← inferElements rest)

/-! ## Types of declarations -/

/-- The declarations of a unit so far, with the types that its names have. -/
structure Progress where
  locals : Locals := []
  declarations : List Declaration := []

/-- Add a declaration. -/
def Progress.declare (p : Progress) (d : Declaration) : Progress :=
  { locals := (d.name, d.type) :: p.locals, declarations := p.declarations ++ [d] }

/-- Type a variable and add its declaration. -/
def declareVariable (exported : String → Bool) (options : InferenceOptions)
    (lookupImport : String → m (Option String)) (kind : VariableKind) (p : Progress)
    (v : Variable) : m Progress :=
  match v.name with
  | none => return p
  | some name =>
      let typed (type : String) (inferred : Bool) : Progress :=
        p.declare ⟨name, kind.toDeclaration, type, inferred, exported name⟩
      match v.declaredType, v.initializer with
      | some type, _ => return typed type false
      | none, none => return typed unknownType false
      | none, some value =>
          if options.onlyConstants && kind != .const then return typed unknownType false
          else do
            let type ← inferType p.locals lookupImport value
            return typed type true

/-- Add the declarations of a statement. -/
def declareStatement (exported : String → Bool) (options : InferenceOptions)
    (lookupImport : String → m (Option String)) (p : Progress) : Statement → m Progress
  | .function _ name =>
      let localName := name.getD "default"
      -- a further signature of a function repeats the name of the first one
      if (p.locals.lookup localName).isSome then return p
      else return p.declare ⟨localName, .function, "Function", false, exported localName⟩
  | .classDeclaration _ name =>
      let localName := name.getD "default"
      let type := if name.isSome then "typeof " ++ localName else "Function"
      return p.declare ⟨localName, .classDeclaration, type, false, exported localName⟩
  | .variables _ kind list =>
      list.foldlM (declareVariable exported options lookupImport kind) p
  | _ => return p

/-- The declarations of the statements of a unit, in their order. -/
def inferDeclarations (exported : String → Bool) (options : InferenceOptions)
    (lookupImport : String → m (Option String)) (statements : List Statement) :
    m (List Declaration) := do
  let p ← statements.foldlM (declareStatement exported options lookupImport) {}
  return p.declarations

/-- Whether a name is the local name behind an export. -/
def Surface.isExportedLocal (s : Surface) (name : String) : Bool :=
  s.exports.any fun entry => entry.2 == name

end UnitResolution.Script
