import UnitResolution.Script.Fault
import UnitResolution.Text.Units

/-!
# Tokens of a script

A `Cursor` is a place in the text: what follows it and how many code units precede it. A `Token`
is a word, a mark or a literal between two cursors. Words are told apart only by their spelling;
the tables at the end say which spellings are reserved, which are keywords in some place, and
which may modify a declaration.
-/

namespace UnitResolution.Script

/-- A place in the text of a script. -/
structure Cursor where
  /-- The text that follows. -/
  rest : List Char
  /-- The number of code units before it. -/
  offset : Nat
  deriving Repr

namespace Cursor

/-- The cursor behind a list of characters that are next in the text. -/
def skip (c : Cursor) (count : Nat) : Cursor :=
  ⟨c.rest.drop count, c.offset + Text.units (c.rest.take count)⟩

/-- The text from one cursor up to a code unit further on. -/
def textUpTo (c : Cursor) (stop : Nat) : List Char :=
  go c.rest (stop - c.offset)
where
  /-- The first characters, as long as the budget of code units is not used up. -/
  go : List Char → Nat → List Char
    | [], _ => []
    | _, 0 => []
    | x :: rest, budget + 1 => x :: go rest (budget + 1 - Text.unitsOf x)

end Cursor

/-- The sort of a token. -/
inductive TokenKind
  | endOfText
  /-- An identifier or a keyword, with escapes replaced by the characters they stand for. -/
  | word (spelling : String)
  /-- A name that begins with `#`. -/
  | privateName
  | number
  | bigint
  | string
  /-- A template without substitutions. -/
  | template
  /-- The part of a template up to its first substitution. -/
  | templateHead
  /-- A part of a template between two substitutions. -/
  | templateMiddle
  /-- The part of a template behind its last substitution. -/
  | templateTail
  | regularExpression
  /-- An operator or another mark of punctuation. -/
  | mark (spelling : String)
  /-- A character that begins no token. -/
  | unknown
  deriving Repr, DecidableEq

/-- A token with its place. -/
structure Token where
  kind : TokenKind
  /-- Where the token begins, behind white space and comments. -/
  start : Cursor
  /-- The text behind the token. -/
  stop : Cursor
  /-- The value of a string literal. -/
  value : String := ""
  /-- A line ends between the preceding token and this one. -/
  afterLineBreak : Bool := false
  /-- A word that is written with an escape sequence. -/
  escaped : Bool := false
  deriving Repr

/-- Words that can never be identifiers. -/
def reservedWords : List String :=
  ["break", "case", "catch", "class", "const", "continue", "debugger", "default", "delete", "do",
    "else", "enum", "export", "extends", "false", "finally", "for", "function", "if", "import",
    "in", "instanceof", "new", "null", "return", "super", "switch", "this", "throw", "true",
    "try", "typeof", "var", "void", "while", "with"]

/-- Words that have a meaning of their own in some places and are identifiers elsewhere. -/
def contextualWords : List String :=
  ["implements", "interface", "let", "package", "private", "protected", "public", "static",
    "yield", "abstract", "accessor", "as", "asserts", "assert", "any", "async", "await",
    "boolean", "constructor", "declare", "defer", "get", "infer", "intrinsic", "is", "keyof",
    "module", "namespace", "never", "out", "readonly", "require", "number", "object",
    "satisfies", "set", "string", "symbol", "type", "undefined", "unique", "unknown", "using",
    "from", "global", "bigint", "override", "of"]

/-- Words that may stand before a declaration, a member or a parameter and modify it. -/
def modifierWords : List String :=
  ["abstract", "accessor", "async", "const", "declare", "default", "export", "in", "public",
    "private", "protected", "out", "override", "readonly", "static"]

/-- Modifiers that only members of a class have. -/
def memberModifierWords : List String :=
  ["public", "private", "protected", "readonly", "override", "static", "accessor"]

/-- A word that can never be an identifier. -/
def isReserved (word : String) : Bool := reservedWords.contains word

/-- A word with a meaning of its own, everywhere or in some places. -/
def isKeyword (word : String) : Bool :=
  reservedWords.contains word || contextualWords.contains word

end UnitResolution.Script
