import UnitResolution.Identifier.Specifier
import UnitResolution.Markup.Outline
import UnitResolution.Text.Blank

/-!
# Scripts of host documents

A host document imports the scripts that it embeds by their sources. The blanks around a source do
not count, and neither does a source that is nothing but blank. `scriptImports` takes the sources
for specifiers in the document; every unit is imported once.
-/

namespace UnitResolution.Markup

open Identifier

/-- The specifiers of the scripts in a document, in its order. -/
def scriptSpecifiers (text : String) : List String :=
  let trimmed := (scriptSources text.toList).map fun source => Text.trim source.toList
  (trimmed.filter (· != [])).map String.ofList

/-- The units that a host document with the given identifier imports. -/
def scriptImports (unit text : String) : Except SpecifierError (List String) := do
  let identifiers ← (scriptSpecifiers text).mapM fun specifier => resolveSpecifier specifier unit
  return identifiers.eraseDups

end UnitResolution.Markup
