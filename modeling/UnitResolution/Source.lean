import UnitResolution.Identifier.PackagePath
import UnitResolution.RuntimeLibrary.Layout

/-!
# Sources

A `Source` is the text that an identifier stands for. `SourceFault` lists why a resolver has none,
and `SourceFault.diagnostic` words it. `Source.read` reads the file behind an identifier.
-/

namespace UnitResolution

/-- The text that an identifier stands for. -/
structure Source where
  identifier : String
  contents : String
  /-- The path of the file that holds the text, if it comes from one. -/
  path : Option String := none
  deriving Repr, DecidableEq

/-- Why there is no source for an identifier. -/
inductive SourceFault
  /-- There is nothing at the path. -/
  | fileMissing (path : String)
  /-- There is something else than a file at the path. -/
  | notFile (path : String)
  /-- The file at the path cannot be read, for a reason. -/
  | unreadable (path reason : String)
  /-- The identifier names no path. -/
  | noFilePath
  /-- The identifier names no unit of a package. -/
  | packagePath (fault : PackagePath.Fault)
  /-- None of several roots holds the file; these are the paths that were tried. -/
  | inNoRoot (tried : List String)
  /-- The runtime library in memory does not have the identifier. -/
  | notInMockRuntime
  /-- The files in memory do not have the path. -/
  | notInMemory
  /-- The runtime library has no library of the name, but those that are listed. -/
  | unknownLibrary (name : String) (available : List String)
  /-- A part lies outside the library of the name. -/
  | leavesLibrary (name : String)
  /-- The runtime library has no layout. -/
  | layout (fault : Layout.Fault)
  /-- No resolver of the chain claims the identifier. -/
  | unclaimed (chain : List String)
  /-- A resolver refuses the identifier with a message of its own. -/
  | refused (message : String)
  deriving Repr, DecidableEq

namespace SourceFault

/-- The diagnostic of an identifier that is claimed, but has no source. -/
def notFound (identifier hint : String) : Diagnostic :=
  .error .sourceNotFound ("Cannot find source: \"" ++ identifier ++ "\"") (some hint)

/-- Names in a row. -/
def listed (names : List String) : String := String.intercalate ", " names

/-- The diagnostic of a missing source for an identifier. -/
def diagnostic (identifier : String) : SourceFault → Diagnostic
  | fileMissing path => notFound identifier ("File not found: " ++ path)
  | notFile path => notFound identifier ("Not a file: " ++ path)
  | unreadable path reason =>
      .error .sourceUnreadable ("Failed to read source \"" ++ identifier ++ "\": " ++ reason)
        (some ("Path: " ++ path))
  | noFilePath => notFound identifier "Not a valid file: identifier"
  | packagePath .noPackage => notFound identifier "Expected pkg:<package>/<path>"
  | packagePath .leavesRoot => notFound identifier "Package path escapes the package root"
  | inNoRoot tried => notFound identifier ("Tried: " ++ listed tried)
  | notInMockRuntime => notFound identifier "Not present in the mock runtime library"
  | notInMemory => notFound identifier "Not held by the in-memory layer"
  | unknownLibrary name available =>
      notFound identifier
        ("Unknown runtime library '" ++ name ++ "'. Available: " ++ listed available)
  | leavesLibrary name => notFound identifier ("Part escapes library '" ++ name ++ "'")
  | layout fault => fault.diagnostic
  | unclaimed chain =>
      let message :=
        match Identifier.scheme? identifier with
        | none => "Identifier has no scheme: \"" ++ identifier ++ "\""
        | some scheme =>
            "No resolver handles the '" ++ scheme ++ "' scheme: \"" ++ identifier ++ "\""
      .error .unclaimedScheme message (some ("Resolver chain: " ++ listed chain))
  | refused message => .error .sourceUnreadable message

end SourceFault

/-- The file at a path as the source of an identifier. -/
def Source.read [Host] (disk : Disk) (identifier path : String) : Except SourceFault Source :=
  if !disk.exists? path then .error (.fileMissing path)
  else
    match disk.isFile path with
    | .error reason => .error (.unreadable path reason)
    | .ok false => .error (.notFile path)
    | .ok true =>
        match disk.read path with
        | .error reason => .error (.unreadable path reason)
        | .ok contents => .ok { identifier, contents, path := some path }

end UnitResolution
