/-!
# Diagnostics

A diagnostic tells what went wrong, how badly, where, and what to do about it. Most are built by
the library itself with a code of `Code`; one that is handed in from outside may carry any code and
severity, so both are texts in a `Diagnostic`.
-/

namespace UnitResolution

/-- A place in a source: line and column count from one, the column and the length in UTF-16 code
units. -/
structure Location where
  file : String
  line : Int
  column : Int
  length : Int
  deriving Repr, DecidableEq

/-- A message about a problem. -/
structure Diagnostic where
  code : String
  severity : String
  message : String
  location : Option Location := none
  hint : Option String := none
  deriving Repr, DecidableEq

namespace Diagnostic

/-- What a diagnostic of the library is about. -/
inductive Code
  /-- A required field of a configuration is missing. -/
  | missingField
  /-- Fields of a configuration exclude each other. -/
  | conflictingField
  /-- A field of a configuration has an unusable value. -/
  | invalidValue
  /-- A project file does not exist. -/
  | projectFileMissing
  /-- A project file cannot be read. -/
  | projectFileUnreadable
  /-- The resolver that claims an identifier has no source for it. -/
  | sourceNotFound
  /-- No resolver claims an identifier. -/
  | unclaimedScheme
  /-- A source exists and cannot be read. -/
  | sourceUnreadable
  /-- The directory of the runtime library has no usable layout. -/
  | invalidLayout
  /-- A part of a context is replaced after its first use. -/
  | contextSealed
  /-- A context is used after its end. -/
  | contextDisposed
  /-- A context is used before it is complete. -/
  | contextIncomplete
  /-- A chain of resolvers is empty. -/
  | emptyChain
  /-- An import of a unit has no source. -/
  | importUnresolved
  /-- The text of a unit is not well formed. -/
  | malformedUnit
  deriving Repr, DecidableEq

/-- The short name of what a diagnostic is about. -/
def Code.name : Code → String
  | missingField => "UG1001"
  | conflictingField => "UG1002"
  | invalidValue => "UG1003"
  | projectFileMissing => "UG1004"
  | projectFileUnreadable => "UG1005"
  | sourceNotFound => "UG2001"
  | unclaimedScheme => "UG2002"
  | sourceUnreadable => "UG2003"
  | invalidLayout => "UG2004"
  | contextSealed => "UG3001"
  | contextDisposed => "UG3002"
  | contextIncomplete => "UG3003"
  | emptyChain => "UG3004"
  | importUnresolved => "UG4001"
  | malformedUnit => "UG4002"

/-- An error of the library. -/
def error (code : Code) (message : String) (hint : Option String := none) : Diagnostic :=
  { code := code.name, severity := "error", message, hint }

/-- Whether a diagnostic is an error and not only a remark. -/
def isError (d : Diagnostic) : Bool := d.severity == "error"

/-- The diagnostic on one line: its place, severity, code, message and hint. -/
def format (d : Diagnostic) : String :=
  let place :=
    match d.location with
    | some l => l.file ++ ":" ++ toString l.line ++ ":" ++ toString l.column ++ " "
    | none => ""
  let advice :=
    match d.hint with
    | some hint => if hint.isEmpty then "" else " Hint: " ++ hint
    | none => ""
  place ++ d.severity ++ " " ++ d.code ++ ": " ++ d.message ++ advice

end Diagnostic

/-- Diagnostics in the order in which they were found. -/
structure Report where
  diagnostics : List Diagnostic := []
  deriving Repr, DecidableEq

namespace Report

/-- The report of one diagnostic. -/
def single (d : Diagnostic) : Report := ⟨[d]⟩

/-- A report with one more diagnostic. -/
def add (r : Report) (d : Diagnostic) : Report := ⟨r.diagnostics ++ [d]⟩

/-- The diagnostics of one report and then those of another. -/
def merge (r s : Report) : Report := ⟨r.diagnostics ++ s.diagnostics⟩

/-- Whether an error is among the diagnostics. -/
def hasErrors (r : Report) : Bool := r.diagnostics.any Diagnostic.isError

end Report

end UnitResolution
