import UnitResolution.Diagnostic
import UnitResolution.Disk
import UnitResolution.Interruption
import UnitResolution.Json.Reader
import UnitResolution.Text.Collation

/-!
# Layouts of runtime libraries

The directory of a runtime library says in one of two ways which libraries it has: by a manifest
that lists their entry units, or by a directory `lib` with a directory for each library, whose entry
unit has the name of the library. `Layout.discover` finds out. A manifest is taken even where it is
broken, and its libraries keep their order; those below `lib` are sorted by name.
-/

namespace UnitResolution

variable [Host]

/-- The libraries of a runtime library with the absolute paths of their entry units. -/
structure Layout where
  root : String
  libraries : List (String × String)
  deriving Repr, DecidableEq

namespace Layout

/-- Why a directory has no layout. -/
inductive Fault
  /-- There is no directory at the given path. -/
  | noDirectory (root : String)
  /-- The directory has neither a manifest nor libraries. -/
  | nothingInside (root : String)
  /-- The manifest cannot be read, for a reason. -/
  | unreadableManifest (manifest reason : String)
  /-- The manifest does not list libraries. -/
  | noLibraries (manifest : String)
  /-- The entry unit of a library is no path. -/
  | noPath (manifest library : String)
  deriving Repr, DecidableEq

/-- The name of the manifest of a runtime library. -/
def manifestName : String := "libraries.json"

/-- The diagnostic of a missing layout. -/
def Fault.diagnostic : Fault → Diagnostic
  | noDirectory root =>
      .error .invalidLayout ("Runtime library directory not found: " ++ root)
        (some "Check 'runtimePath' or use a mock runtime")
  | nothingInside root =>
      .error .invalidLayout ("No " ++ manifestName ++ " or lib/ directory in " ++ root)
        (some "A runtime library directory needs one of the two")
  | unreadableManifest manifest reason =>
      .error .invalidLayout ("Failed to read runtime manifest: " ++ reason)
        (some ("Manifest: " ++ manifest))
  | noLibraries manifest =>
      .error .invalidLayout "Runtime manifest must contain a 'libraries' object"
        (some ("Manifest: " ++ manifest))
  | noPath manifest library =>
      .error .invalidLayout
        ("Runtime manifest entry for '" ++ library ++ "' must be a string path")
        (some ("Manifest: " ++ manifest))

/-- The entry unit that a member of a manifest names. -/
def readEntry (root manifest : String) : String × Json → Except Fault (String × String)
  | (name, .string path) => .ok (name, Path.resolve root path)
  | (name, _) => .error (.noPath manifest name)

/-- The layout that a manifest describes. -/
def ofManifest (disk : Disk) (root manifest : String) : Except Fault Layout :=
  match disk.read manifest with
  | .error reason => .error (.unreadableManifest manifest reason)
  | .ok text =>
      match Json.parse? text with
      | none => .error (.unreadableManifest manifest (Host.malformed text))
      | some json =>
          match json.get? "libraries" with
          | some (.object members) => do
              return ⟨root, ← members.mapM (readEntry root manifest)⟩
          | _ => .error (.noLibraries manifest)

/-- The path of the entry unit of a library below a directory. -/
def entryBelow (directory name : String) : String :=
  Path.joinedString (Path.joinedString directory name) (name ++ ".ts")

/-- The layout of the directories in a directory of libraries; a reason where it cannot be
listed. -/
def ofDirectory (disk : Disk) (root directory : String) : Except String Layout :=
  (disk.directoriesIn (Disk.placeOf directory)).map fun names =>
    let entries := (Text.sortNames names).map fun name =>
      (String.ofList name, entryBelow directory (String.ofList name))
    ⟨root, entries.filter fun entry => disk.exists? entry.2⟩

/-- The layout of the runtime library in a directory. -/
def discover (disk : Disk) (path : String) : Except Interruption (Except Fault Layout) := do
  let root := Path.absoluteString path
  if !(← (disk.isDirectory root).mapError .uninspectable) then
    return .error (.noDirectory root)
  let manifest := Path.joinedString root manifestName
  if disk.exists? manifest then return ofManifest disk root manifest
  let directory := Path.joinedString root "lib"
  if ← (disk.isDirectory directory).mapError .uninspectable then
    return .ok (← (ofDirectory disk root directory).mapError .uninspectable)
  return .error (.nothingInside root)

end Layout

end UnitResolution
