import UnitResolution.Markup.Scripts
import UnitResolution.Script.Inference

/-!
# Library units

A `LibraryUnit` is what an identifier stands for once its source has been read: a script with its
declarations, or a host document with the scripts that it embeds.
-/

namespace UnitResolution

open Script (Surface Declaration)

/-- The kinds of units. -/
inductive UnitKind
  | script
  | hostDocument
  deriving Repr, DecidableEq

/-- The word for a kind of units. -/
def UnitKind.word : UnitKind → String
  | script => "script"
  | hostDocument => "host-document"

/-- A unit as it has been read. -/
structure LibraryUnit where
  identifier : String
  kind : UnitKind
  /-- What the unit exchanges with other units. -/
  surface : Surface
  declarations : List Declaration
  /-- What is wrong with the text of the unit. -/
  diagnostics : List Diagnostic
  deriving Repr, DecidableEq

namespace LibraryUnit

/-- The units that a unit imports. -/
def imports (u : LibraryUnit) : List String := u.surface.imports

/-- The host document that embeds the given scripts. -/
def ofScripts (identifier : String) (scripts : List String) : LibraryUnit :=
  { identifier, kind := .hostDocument, surface := { imports := scripts }
    declarations := [], diagnostics := [] }

/-- The type of the declaration of a name. -/
def typeOf? (u : LibraryUnit) (name : String) : Option String :=
  (u.declarations.find? (·.name == name)).map (·.type)

end LibraryUnit

end UnitResolution
