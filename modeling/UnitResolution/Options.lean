import UnitResolution.Diagnostic
import UnitResolution.Number.Shortest

/-!
# Options of an analysis

The options of an analysis are made once and never changed. `AnalysisOptions.make` accepts a
positive number of units that may be kept, and takes `standardCacheSize` where none is given.
-/

namespace UnitResolution

/-- The options of an analysis. -/
structure AnalysisOptions where
  /-- The number of units that may be kept for later. -/
  cacheSize : Int
  deriving Repr, DecidableEq

namespace AnalysisOptions

/-- The number of units that may be kept where no other number is given. -/
def standardCacheSize : Int := 512

/-- The diagnostic of a number of units that is no positive integer. -/
def sizeDiagnostic (size : Number) : Diagnostic :=
  .error .invalidValue ("cacheSize must be a positive integer, got " ++ size.text)

/-- Options with a number of units, if it is a positive integer. -/
def make (size : Option Number) : Except Diagnostic AnalysisOptions :=
  match size with
  | none => .ok ⟨standardCacheSize⟩
  | some size =>
      match size.toInt? with
      | some n => if 0 < n then .ok ⟨n⟩ else .error (sizeDiagnostic size)
      | none => .error (sizeDiagnostic size)

end AnalysisOptions

end UnitResolution
