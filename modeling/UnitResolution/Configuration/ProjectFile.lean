import UnitResolution.Configuration.Basic
import UnitResolution.Diagnostic
import UnitResolution.Disk
import UnitResolution.Json.Reader

/-!
# Project files

A project file is a JSON file with the fields of a configuration input. `ProjectFile.read` checks
its fields one by one and counts its relative paths from the directory of the file; every field of
the wrong kind is reported. `ProjectFile.find?` looks for the project file of a directory, which is
that of the nearest directory above it.
-/

namespace UnitResolution.ProjectFile

variable [Host]

/-- The name of a project file. -/
def fileName : String := "unitgraph.json"

/-- Why a project file gives no input. -/
inductive Fault
  /-- There is no file at the path. -/
  | missing (path : String)
  /-- The file at the path cannot be read, for a reason. -/
  | unreadable (path reason : String)
  /-- The file holds a value of the given kind instead of an object. -/
  | notObject (kind : String)
  /-- A field has another kind of value than it must have. -/
  | wrongKind (field required : String)
  deriving Repr, DecidableEq

/-- The diagnostic of a fault. -/
def Fault.diagnostic : Fault → Diagnostic
  | missing path => .error .projectFileMissing ("Config file not found: " ++ path)
  | unreadable path reason =>
      .error .projectFileUnreadable ("Failed to parse " ++ path ++ ": " ++ reason)
  | notObject kind =>
      .error .projectFileUnreadable (fileName ++ " must contain an object, got " ++ kind)
  | wrongKind field required =>
      .error .invalidValue (fileName ++ ": '" ++ field ++ "' must be " ++ required)

/-! ## Fields -/

/-- A reading of fields, with the faults found on the way. -/
abbrev Reading (α : Type) := StateM (List Fault) α

/-- Note that a field has the wrong kind of value. -/
def wrong {α : Type} (field required : String) : Reading (Option α) := do
  modify (· ++ [.wrongKind field required])
  return none

/-- A field that is true or false. -/
def readBoolean (field : String) : Option Json → Reading (Option Bool)
  | none => return none
  | some (.bool value) => return some value
  | some _ => wrong field "a boolean"

/-- A field with a path, counted from a directory. -/
def readPath (directory field : String) : Option Json → Reading (Option String)
  | none => return none
  | some (.string path) => return some (Path.resolve directory path)
  | some _ => wrong field "a string"

/-- The texts of a list of values, if they all are texts. -/
def texts? : List Json → Option (List String)
  | [] => some []
  | .string text :: rest => (texts? rest).map (text :: ·)
  | _ :: _ => none

/-- A field with a list of paths, counted from a directory. -/
def readPaths (directory field : String) : Option Json → Reading (Option (List String))
  | none => return none
  | some (.array elements) =>
      match texts? elements with
      | some paths => return some (paths.map (Path.resolve directory))
      | none => wrong field "an array of strings"
  | some _ => wrong field "an array of strings"

/-- The name that an object of units cannot hold: setting it has no effect. -/
def unsettable : String := "__proto__"

/-- The units of a mock runtime library among the members of an object. -/
def readUnits : List (String × Json) → Reading (List (String × Json))
  | [] => return []
  | (identifier, .string text) :: rest => do
      let units ← readUnits rest
      return if identifier = unsettable then units else (identifier, .string text) :: units
  | (identifier, _) :: rest => do
      modify (· ++ [.wrongKind ("mockRuntime." ++ identifier) "a string"])
      readUnits rest

/-- The field of the mock runtime library. -/
def readMockRuntime : Option Json → Reading (Option (List (String × Json)))
  | none => return none
  | some (.object members) => return some (← readUnits members)
  | some _ => wrong "mockRuntime" "an object of strings"

/-- The field of the inference. -/
def readInference : Option Json → Reading (Option InferenceInput)
  | none => return none
  | some (.object members) => do
      let followImports ←
        readBoolean "inference.inferTransitively" (members.lookup "inferTransitively")
      let onlyConstants ←
        readBoolean "inference.onlyInferConstants" (members.lookup "onlyInferConstants")
      return some { followImports, onlyConstants }
  | some _ => wrong "inference" "an object"

/-- All fields of a project file. -/
def readFields (directory : String) (members : List (String × Json)) :
    Reading ConfigurationInput := do
  let field (name : String) := members.lookup name
  let useMockRuntime ← readBoolean "useMockRuntime" (field "useMockRuntime")
  let runtimePath ← readPath directory "runtimePath" (field "runtimePath")
  let mockRuntime ← readMockRuntime (field "mockRuntime")
  let useImplicitEntry ← readBoolean "useImplicitEntry" (field "useImplicitEntry")
  let entryPointFile ← readPath directory "entryPointFile" (field "entryPointFile")
  let useMultiRoot ← readBoolean "useMultiRoot" (field "useMultiRoot")
  let packageRoots ← readPaths directory "packageRoots" (field "packageRoots")
  let packageRoot ← readPath directory "packageRoot" (field "packageRoot")
  let inference ← readInference (field "inference")
  let verbose ← readBoolean "verbose" (field "verbose")
  return {
    useMockRuntime, runtimePath, mockRuntime, useImplicitEntry, entryPointFile, useMultiRoot,
    packageRoots, packageRoot, inference, verbose }

/-! ## Files -/

/-- The kind of a value, in the words of a fault. -/
def kindOf : Option Json → String
  | none => "undefined"
  | some .null => "object"
  | some (.bool _) => "boolean"
  | some (.number _) => "number"
  | some (.string _) => "string"
  | some (.array _) => "array"
  | some (.object _) => "object"

/-- The input that the value of a project file describes, relative paths counted from a directory;
or all that is wrong with it. -/
def read (value : Option Json) (directory : String) : Except (List Fault) ConfigurationInput :=
  match value with
  | some (.object members) =>
      match (readFields directory members).run [] with
      | (input, []) => .ok input
      | (_, faults) => .error faults
  | other => .error [.notObject (kindOf other)]

/-- The input that the project file at a path describes. -/
def load (disk : Disk) (path : String) : Except (List Fault) ConfigurationInput :=
  if !disk.exists? path then .error [.missing path]
  else
    match disk.read path with
    | .error reason => .error [.unreadable path reason]
    | .ok text =>
        match Json.parse? text with
        | none => .error [.unreadable path (Host.malformed text)]
        | some value => read (some value) (Path.directoryString path)

/-- The report of all that is wrong with a project file. -/
def reportOf (faults : List Fault) : Report := ⟨faults.map Fault.diagnostic⟩

/-! ## The nearest project file -/

/-- The path of the project file of a directory, given by its segments. -/
def pathIn (place : Place) : String :=
  String.ofList (Path.ofSegments (place ++ [fileName.toList]))

/-- The nearest project file of a directory, given by its segments, the last one first. -/
def findAbove (disk : Disk) : (reversed : Place) → Option String
  | [] => if disk.exists? (pathIn []) then some (pathIn []) else none
  | name :: above =>
      let path := pathIn (name :: above).reverse
      if disk.exists? path then some path else findAbove disk above

/-- The project file of the nearest directory at or above the given one. -/
def find? (disk : Disk) (directory : String) : Option String :=
  findAbove disk (Disk.placeOf directory).reverse

end UnitResolution.ProjectFile
