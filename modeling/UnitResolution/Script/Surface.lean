import UnitResolution.Diagnostic
import UnitResolution.Identifier.Specifier
import UnitResolution.Script.Parser
import UnitResolution.Table

/-!
# What a script exchanges with other units

`surfaceOf` reads off the statements of a script which units it imports, which names it binds to
exports of other units, which it passes on, and which it exports itself. `diagnosticsOf` words the
faults of its text, and `read` does both for the text of a unit.

The statements are taken in their order. A specifier that has no identifier stops the reading.
-/

namespace UnitResolution.Script

open Identifier

/-- A local name bound to an export of another unit. -/
structure ImportBinding where
  localName : String
  importedName : String
  source : String
  deriving Repr, DecidableEq

/-- A name passed on from another unit. -/
structure ReExport where
  exportedName : String
  importedName : String
  source : String
  deriving Repr, DecidableEq

/-- What a script exchanges with other units. -/
structure Surface where
  /-- The units it imports, each once. -/
  imports : List String := []
  bindings : List ImportBinding := []
  reExports : List ReExport := []
  /-- The units all of whose exports it passes on, each once. -/
  starExports : List String := []
  /-- The exported names with the local names behind them. -/
  exports : List (String × String) := []
  deriving Repr, DecidableEq

namespace Surface

/-- A list with one more element, unless it holds it already. -/
def addOnce (x : String) (list : List String) : List String :=
  if x ∈ list then list else list ++ [x]

/-- Export a local name. -/
def setExport (s : Surface) (exportedName localName : String) : Surface :=
  { s with exports := Table.set exportedName localName s.exports }

/-- Import a unit. -/
def addImport (s : Surface) (source : String) : Surface :=
  { s with imports := addOnce source s.imports }

/-- Bind a local name to an export of a unit. -/
def addBinding (s : Surface) (localName importedName source : String) : Surface :=
  { s with bindings := s.bindings ++ [⟨localName, importedName, source⟩] }

/-- Export a function or class. -/
def expose (s : Surface) (exposure : Exposure) (name : Option String) : Surface :=
  let localName := name.getD "default"
  match exposure with
  | .internal => s
  | .named => s.setExport localName localName
  | .default => s.setExport "default" localName

/-- Pass on names of a unit. -/
def passOn (s : Surface) (source : String) : ReExported → Surface
  | .everything => { s with starExports := addOnce source s.starExports }
  | .namespaceObject => s
  | .names list => { s with
      reExports := s.reExports ++ list.map fun n => ⟨n.exportedName, n.sourceName, source⟩ }

/-- Take in a statement of the unit with the given identifier. -/
def addStatement (unit : String) (s : Surface) : Statement → Except SpecifierError Surface
  | .importFrom specifier defaultName names => do
      let source ← resolveSpecifier specifier unit
      let s := s.addImport source
      let s := defaultName.elim s fun name => s.addBinding name "default" source
      return names.foldl (fun s n => s.addBinding n.localName n.importedName source) s
  | .exportFrom specifier what => do
      let source ← resolveSpecifier specifier unit
      return (s.addImport source).passOn source what
  | .exportNames names =>
      return names.foldl (fun s n => s.setExport n.exportedName n.sourceName) s
  | .exportDefault (.identifier name) => return s.setExport "default" name
  | .exportDefault _ => return s
  | .function exposure name => return s.expose exposure name
  | .classDeclaration exposure name => return s.expose exposure name
  | .variables true _ list =>
      return list.foldl (fun s v => v.name.elim s fun name => s.setExport name name) s
  | .variables false _ _ => return s
  | .other => return s

end Surface

/-- What the statements of a unit exchange with other units. -/
def surfaceOf (unit : String) (statements : List Statement) : Except SpecifierError Surface :=
  statements.foldlM (Surface.addStatement unit) {}

/-! ## Diagnostics -/

/-- The line and column of a place in a text, both counted from one. -/
def lineAndColumn (text : List Char) (place : Nat) : Nat × Nat :=
  go text 0 1 0
where
  /-- Walk on from the given offset, with the current line and its beginning. -/
  go : List Char → (offset line lineStart : Nat) → Nat × Nat
    | [], _, line, lineStart => (line, place - lineStart + 1)
    | c :: rest, offset, line, lineStart =>
        if place ≤ offset then (line, place - lineStart + 1)
        else
          let behind := offset + Text.unitsOf c
          let isPair := c == '\r' && rest.head? == some '\n'
          if Text.isLineBreak c && !isPair && behind ≤ place then go rest behind (line + 1) behind
          else go rest behind line lineStart

/-- The diagnostic of a fault in the text of a unit. -/
def diagnosticOf (unit : String) (text : List Char) (c : Complaint) : Diagnostic :=
  let (line, column) := lineAndColumn text c.start
  { Diagnostic.error .malformedUnit c.fault.message with
    location := some { file := unit, line, column, length := c.length } }

/-- What is read off the text of a unit. -/
structure Contents where
  statements : List Statement
  surface : Surface
  diagnostics : List Diagnostic

/-- Read the text of a unit. -/
def read (unit text : String) : Except SpecifierError Contents := do
  let script := parse text
  let surface ← surfaceOf unit script.statements
  return {
    statements := script.statements
    surface
    diagnostics := script.complaints.map (diagnosticOf unit text.toList) }

end UnitResolution.Script
