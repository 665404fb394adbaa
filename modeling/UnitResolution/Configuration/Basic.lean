import UnitResolution.Json.Basic
import UnitResolution.Script.Inference

/-!
# Configurations

A `ConfigurationInput` is what a caller or a project file says about the surroundings of an
analysis. Every field may be left out, and fields may contradict each other. A `Configuration` is
what is left when that is sorted out: the choice of the runtime library, of the packages and of the
entry, each with exactly the data that belong to it, and absolute paths throughout.
-/

namespace UnitResolution

open Script (InferenceOptions)

/-- What an input says about inference. -/
structure InferenceInput where
  followImports : Option Bool := none
  onlyConstants : Option Bool := none
  deriving Repr, DecidableEq

/-- What a caller or a project file says about the surroundings of an analysis. -/
structure ConfigurationInput where
  useMockRuntime : Option Bool := none
  runtimePath : Option String := none
  /-- The units of a mock runtime library; a text is expected for each. -/
  mockRuntime : Option (List (String × Json)) := none
  useImplicitEntry : Option Bool := none
  entryPointFile : Option String := none
  useMultiRoot : Option Bool := none
  packageRoots : Option (List String) := none
  packageRoot : Option String := none
  inference : Option InferenceInput := none
  verbose : Option Bool := none

/-- Where the units of the runtime library come from. -/
inductive RuntimeChoice
  /-- From the given texts. -/
  | mock (sources : List (String × String))
  /-- From a directory. -/
  | directory (path : String)
  deriving Repr, DecidableEq

/-- Where packages are looked for. -/
inductive PackageChoice
  | single (root : String)
  | several (roots : List String)
  deriving Repr, DecidableEq

/-- Which entry an analysis has. -/
inductive EntryChoice
  /-- No entry document is served; there may be an entry file all the same. -/
  | explicit (file : Option String)
  /-- An entry document is served for the file. -/
  | implicit (file : String)
  deriving Repr, DecidableEq

/-- The surroundings of an analysis. -/
structure Configuration where
  runtime : RuntimeChoice
  packages : PackageChoice
  entry : EntryChoice
  inference : InferenceOptions
  verbose : Bool
  deriving Repr, DecidableEq

end UnitResolution
