import UnitResolution.Library.Resolution

/-!
# Programs

A `Program` is a unit with everything that it imports, directly or through other units.
`Library.resolveProgram` walks along the imports from the entry. A unit comes into the program when
all that it imports has been walked, so units come in front of those that import them, as far as
that is possible. An import without a source is reported once, and the walk goes on.
-/

namespace UnitResolution

/-- A unit with everything that it imports. -/
structure Program where
  entry : String
  units : List LibraryUnit
  report : Report
  deriving Repr, DecidableEq

namespace Library

variable {σ : Type}

/-- The state of a walk along imports. -/
structure Walk where
  /-- The imports that have been met, as they are written and as they are served. -/
  visited : List String
  /-- The units that have been walked. -/
  units : List LibraryUnit := []
  report : Report := {}

/-- The diagnostic of an import of a unit that has no source. -/
def unresolvedImport (imported unit : String) (reason : Option Diagnostic) : Diagnostic :=
  .error .importUnresolved
    ("Cannot resolve import \"" ++ imported ++ "\" of \"" ++ unit ++ "\"")
    (reason.map Diagnostic.format)

/-- Walk along the imports of a unit. -/
def visitImports (r : Reader σ) (visit : LibraryUnit → Walk → Operation σ Walk) (unit : String) :
    List String → Walk → Operation σ Walk
  | [], w => return w
  | imported :: rest, w =>
      if imported ∈ w.visited then visitImports r visit unit rest w
      else do
        let w := { w with visited := imported :: w.visited }
        match ← resolveImport r imported with
        | .pending =>
            let w := { w with report := w.report.add (unresolvedImport imported unit none) }
            visitImports r visit unit rest w
        | .failed reason =>
            let w := { w with report := w.report.add (unresolvedImport imported unit reason) }
            visitImports r visit unit rest w
        | .served dependency =>
            if dependency.identifier = imported then do
              visitImports r visit unit rest (← visit dependency w)
            else if dependency.identifier ∈ w.visited then visitImports r visit unit rest w
            else do
              let w := { w with visited := dependency.identifier :: w.visited }
              visitImports r visit unit rest (← visit dependency w)

/-- Walk along a unit and everything that it imports. At most `depth` units are walked inside each
other. -/
def visitUnit (r : Reader σ) : (depth : Nat) → LibraryUnit → Walk → Operation σ Walk
  | 0, _, _ => interrupt .tooDeep
  | depth + 1, unit, w => do
      let w := { w with report := w.report.merge ⟨unit.diagnostics⟩ }
      let w ← visitImports r (visitUnit r depth) unit.identifier unit.imports w
      return { w with units := w.units ++ [unit] }

/-- The program of an entry, or the report of why the entry has no source. -/
def resolveProgram (r : Reader σ) (entry : String) :
    Operation σ (Except Report Program) := do
  match ← resolveLibrary r entry with
  | .error report => return .error report
  | .ok unit => do
      let w ← visitUnit r r.depthLimit unit { visited := [entry] }
      return .ok { entry, units := w.units, report := w.report }

end Library

end UnitResolution
