import UnitResolution.Interruption
import UnitResolution.Library.Cache
import UnitResolution.Library.Unit
import UnitResolution.Source
import UnitResolution.Configuration.Basic

/-!
# Resolving units

`Library.resolveUnit` reads the unit of an identifier. To type what a unit imports, other units are
read, and to type theirs, further ones. A unit that is being read answers nothing about its own
exports, so import cycles end; `pending` lists those units. Units that have been read are kept in a
cache, and for every import the identifier that has served it.

The sources come from surroundings with a state of their own, such as a context and a disk. How deep
readings may nest is limited, so that reading ends even where every unit imports a new one.
-/

namespace UnitResolution

open Script (Contents)

/-- Where a library takes its sources from, and where its log goes. -/
structure Surroundings (σ : Type) where
  /-- The source of an identifier. -/
  source : String → Interruptible σ (Except Diagnostic Source)
  /-- Log a line. -/
  log : String → σ → σ

/-- What a library remembers. -/
structure Memory where
  units : Cache LibraryUnit
  /-- The identifiers that have served imports. -/
  aliases : List (String × String) := []

/-- The memory of a library that has read nothing. -/
def Memory.empty (bound : Int) : Memory := { units := { bound } }

/-- What an import leads to. -/
inductive Imported
  /-- To a unit that is still being read. -/
  | pending
  /-- To none, for the reason why its first candidate has no source. -/
  | failed (reason : Diagnostic)
  /-- To a unit. -/
  | served (unit : LibraryUnit)

namespace Library

/-- How a library reads units. -/
structure Reader (σ : Type) where
  configuration : Configuration
  surroundings : Surroundings σ
  /-- How many units may be read or walked inside each other, and how many imports a search may
  follow in a row. -/
  depthLimit : Nat := 6000

/-- An operation on the memory of a library and on its surroundings. -/
abbrev Operation (σ α : Type) := Interruptible (Memory × σ) α

variable {σ : Type}

/-! ## Access to the state -/

/-- Stop with an interruption. -/
def interrupt {α : Type} (i : Interruption) : Operation σ α := throw i

/-- An operation of the surroundings. -/
def inSurroundings {α : Type} (operation : Interruptible σ α) : Operation σ α := fun (m, s) =>
  let (outcome, s) := operation s
  (outcome, (m, s))

/-- The unit that is kept for an identifier. -/
def keptUnit (identifier : String) : Operation σ (Option LibraryUnit) := fun (m, s) =>
  let (unit, units) := m.units.get identifier
  (.ok unit, ({ m with units }, s))

/-- Keep a unit. -/
def keep (unit : LibraryUnit) : Operation σ Unit := fun (m, s) =>
  (.ok (), ({ m with units := m.units.set unit.identifier unit }, s))

/-- Remember which identifier has served an import. -/
def rememberAlias (imported identifier : String) : Operation σ Unit := fun (m, s) =>
  (.ok (), ({ m with aliases := Table.set imported identifier m.aliases }, s))

/-- The identifiers to try for an import: the one that has served it before, or all that it may
stand for. -/
def candidatesOf (imported : String) : Operation σ (List String) := fun (m, s) =>
  match m.aliases.lookup imported with
  | some identifier => (.ok [identifier], (m, s))
  | none => (.ok (Identifier.candidates imported), (m, s))

/-- The line that tells that a unit has been read. -/
def resolvedLine (unit : LibraryUnit) : String :=
  "[unitgraph] Resolved " ++ unit.kind.word ++ " " ++ unit.identifier ++ ": " ++
    toString unit.imports.length ++ " imports, " ++
    toString unit.declarations.length ++ " declarations"

/-- Log that a unit has been read, if that is asked for. -/
def logResolved (r : Reader σ) (unit : LibraryUnit) : Operation σ Unit := fun (m, s) =>
  let s := if r.configuration.verbose then r.surroundings.log (resolvedLine unit) s else s
  (.ok (), (m, s))

/-! ## Searching exported names -/

section Search

variable {m : Type → Type} [Monad m]

/-- The key under which a search remembers that it has looked for a name in a unit. -/
def searchKey (imported name : String) : String := imported ++ "#" ++ name

/-- Look for a type in the units of a list, one after the other, until one has it. -/
def firstType (typeIn : String → List String → m (Option String × List String)) :
    List String → List String → m (Option String × List String)
  | [], seen => return (none, seen)
  | source :: rest, seen => do
      let (type, seen) ← typeIn source seen
      if type.isSome then return (type, seen) else firstType typeIn rest seen

/-- Look for the type of an exported name in a unit: among what it exports itself, then by the first
name of that kind it passes on, then in the units all of whose exports it passes on. The units that
it passes names on from are searched by `search`. -/
def searchUnit (search : String → String → List String → m (Option String × List String))
    (unit : LibraryUnit) (name : String) (seen : List String) :
    m (Option String × List String) :=
  match unit.surface.exports.lookup name with
  | some localName => return (unit.typeOf? localName, seen)
  | none =>
      match unit.surface.reExports.find? (·.exportedName == name) with
      | some reExport => search reExport.source reExport.importedName seen
      | none =>
          if name = "default" then return (none, seen)
          else firstType (fun source seen => search source name seen) unit.surface.starExports seen

end Search

/-- The type of an exported name of an imported unit, through units that pass it on. Imports are
followed by `follow`, and at most `limit` of them in a row. The searches for which `seen` has the
key are not begun again. -/
def typeOfExport (follow : String → Operation σ Imported) : (limit : Nat) →
    (imported name : String) → (seen : List String) → Operation σ (Option String × List String)
  | 0, _, _, _ => interrupt .tooDeep
  | limit + 1, imported, name, seen => do
      if searchKey imported name ∈ seen then return (none, seen)
      let seen := searchKey imported name :: seen
      match ← follow imported with
      | .pending => return (none, seen)
      | .failed _ => return (none, seen)
      | .served unit => searchUnit (typeOfExport follow limit) unit name seen

/-! ## Reading units -/

section Reading

variable {m : Type → Type} [Monad m]

/-- The unit of a script, with imported names typed by `typeOfExport`, which is asked for a name in
a unit. -/
def typeScript (options : Script.InferenceOptions)
    (typeOfExport : String → String → m (Option String)) (identifier : String)
    (script : Contents) : m LibraryUnit := do
  let typeOfImport (localName : String) : m (Option String) :=
    match script.surface.bindings.find? (·.localName == localName) with
    | none => return none
    | some binding =>
        if options.followImports then typeOfExport binding.source binding.importedName
        else return some Script.unknownType
  let declarations ←
    Script.inferDeclarations script.surface.isExportedLocal options typeOfImport script.statements
  return {
    identifier, kind := .script, surface := script.surface, declarations
    diagnostics := script.diagnostics }

/-- The outcome of reading a text, which a specifier without an identifier interrupts. -/
def orInterrupt {α : Type} (read : Except Identifier.SpecifierError α) : Except Interruption α :=
  read.mapError Interruption.ofSpecifier

/-- Read the text of a unit: a host document, or a script with imported names typed by
`typeOfExport`. -/
def readUnit [MonadLiftT (Except Interruption) m] (options : Script.InferenceOptions)
    (typeOfExport : String → String → m (Option String)) (identifier contents : String) :
    m LibraryUnit :=
  if Identifier.isHostDocument identifier then do
    let scripts ← liftM (orInterrupt (Markup.scriptImports identifier contents))
    return .ofScripts identifier scripts
  else do
    let script ← liftM (orInterrupt (Script.read identifier contents))
    typeScript options typeOfExport identifier script

end Reading

/-- Try the candidates of an import in their order. `reason` is why the first one has failed. -/
def tryCandidates (resolve : String → Operation σ (Except Diagnostic LibraryUnit))
    (pending : List String) (imported : String) :
    List String → (reason : Option Diagnostic) → Operation σ Imported
  | [], none => return .pending
  | [], some reason => return .failed reason
  | candidate :: rest, reason => do
      if candidate ∈ pending then return .pending
      match ← resolve candidate with
      | .ok unit => do
          rememberAlias imported candidate
          return .served unit
      | .error d => tryCandidates resolve pending imported rest (some (reason.getD d))

/-- What an import leads to, if `resolve` finds the unit of an identifier and the units of `pending`
are being read. -/
def followImport (resolve : String → Operation σ (Except Diagnostic LibraryUnit))
    (pending : List String) (imported : String) : Operation σ Imported := do
  tryCandidates resolve pending imported (← candidatesOf imported) none

/-- The unit of an identifier, or why it has no source. At most `depth` units are read inside each
other, and the units of `pending` are being read. -/
def resolveUnit (r : Reader σ) : (depth : Nat) → (pending : List String) → (identifier : String) →
    Operation σ (Except Diagnostic LibraryUnit)
  | 0, _, _ => interrupt .tooDeep
  | depth + 1, pending, identifier => do
      match ← keptUnit identifier with
      | some unit => return .ok unit
      | none =>
          match ← inSurroundings (r.surroundings.source identifier) with
          | .error d => return .error d
          | .ok source => do
              let inside := identifier :: pending
              let follow := followImport (resolveUnit r depth inside) inside
              let typeOf (imported name : String) : Operation σ (Option String) := do
                let (type, _) ← typeOfExport follow r.depthLimit imported name []
                return type
              let unit ← readUnit r.configuration.inference typeOf identifier source.contents
              logResolved r unit
              keep unit
              return .ok unit

/-- What an import leads to, while no unit is being read. -/
def resolveImport (r : Reader σ) (imported : String) : Operation σ Imported :=
  followImport (resolveUnit r r.depthLimit []) [] imported

/-- The unit of an identifier, or the report of why it has no source. -/
def resolveLibrary (r : Reader σ) (identifier : String) :
    Operation σ (Except Report LibraryUnit) := do
  return (← resolveUnit r r.depthLimit [] identifier).mapError Report.single

end Library

end UnitResolution
