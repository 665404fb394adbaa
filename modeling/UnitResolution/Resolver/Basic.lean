import UnitResolution.Configuration.Basic
import UnitResolution.Resolver.Memory
import UnitResolution.RuntimeLibrary.Directory

/-!
# Resolvers

A resolver claims some identifiers and has sources for some of those. Whether it claims an
identifier hangs on the identifier alone, and not on what the disk holds. A resolver is a value:
resolving answers with the resolver as it is afterwards, which differs only where a layout has been
discovered.

A caller can put resolvers of its own in a chain. Such a resolver may read the disk and may give up
for a reason, but it answers by the disk and the identifier alone: a resolver of a caller that keeps
a state from one identifier to the next is not described here.
-/

namespace UnitResolution

variable [Host]

/-- A resolver of identifiers. -/
inductive Resolver
  /-- A mock runtime library. -/
  | mockRuntime (library : MockRuntime)
  /-- A runtime library in a directory. -/
  | runtimeDirectory (library : RuntimeDirectory)
  /-- Files on the disk. -/
  | file
  /-- Packages below an absolute root. -/
  | package (root : String)
  /-- Packages below several absolute roots, of which the first with a file wins. -/
  | packages (roots : List String)
  /-- Files in memory. -/
  | memory (name : String) (files : MemoryFiles)
  /-- A resolver of the caller, which may read the disk and may give up for a reason. -/
  | foreign (name scheme : String) (claimed : String → Bool)
      (answer : Disk → String → Except String (Except SourceFault Source))

namespace Resolver

/-! ## Making resolvers -/

/-- The resolver of a runtime library of which only the given units exist. -/
def ofMockSources (sources : List (String × String)) : Resolver := .mockRuntime ⟨sources, true⟩

/-- The resolver of a runtime library in a directory. -/
def ofRuntimePath (path : String) (verbose : Bool := false) : Resolver :=
  .runtimeDirectory { path, verbose }

/-- The resolver that a configuration asks for in the place of the runtime library. -/
def ofRuntimeChoice (verbose : Bool) : RuntimeChoice → Resolver
  | .mock sources => ofMockSources sources
  | .directory path => ofRuntimePath path verbose

/-- The resolver that a configuration asks for in the place of the packages. -/
def ofPackageChoice : PackageChoice → Resolver
  | .single root => .package (Path.absoluteString root)
  | .several roots => .packages (roots.map Path.absoluteString)

/-- The resolver of the entry document. -/
def ofEntry (entry directory : String) : Resolver :=
  .memory "implicit-entry" (EntryDocument.files entry directory)

/-- A resolver of the caller that looks at nothing but the identifier. -/
def custom (name scheme : String) (claimed : String → Bool)
    (answer : String → Except SourceFault Source) : Resolver :=
  .foreign name scheme claimed fun _ identifier => .ok (answer identifier)

/-! ## What a resolver is called and claims -/

/-- The name of a resolver. -/
def name : Resolver → String
  | mockRuntime _ => "mock-runtime"
  | runtimeDirectory _ => "runtime-path"
  | file => "file"
  | package _ => "package"
  | packages _ => "multi-package"
  | memory name _ => name
  | foreign name .. => name

/-- The scheme for which a resolver is meant. -/
def scheme : Resolver → String
  | mockRuntime _ => Identifier.runtimeScheme
  | runtimeDirectory _ => Identifier.runtimeScheme
  | file => Identifier.fileScheme
  | package _ => Identifier.packageScheme
  | packages _ => Identifier.packageScheme
  | memory _ _ => Identifier.fileScheme
  | foreign _ scheme .. => scheme

/-- Whether a resolver claims an identifier. -/
def claims (identifier : String) : Resolver → Bool
  | mockRuntime _ => Identifier.hasScheme identifier Identifier.runtimeScheme
  | runtimeDirectory _ => Identifier.hasScheme identifier Identifier.runtimeScheme
  | file => Identifier.hasScheme identifier Identifier.fileScheme
  | package _ => Identifier.hasScheme identifier Identifier.packageScheme
  | packages _ => Identifier.hasScheme identifier Identifier.packageScheme
  | memory _ files => (files.serve? identifier).isSome
  | foreign _ _ claimed _ => claimed identifier

/-! ## Resolving -/

/-- The path of an identifier below a root of packages. -/
def packageFile (root : String) (path : List Char) : String :=
  String.ofList (Path.joined root.toList path)

/-- The first of several paths at which a file exists. -/
def firstFile? (disk : Disk) : List String → Except Interruption (Option String)
  | [] => .ok none
  | path :: rest =>
      match disk.isFile path with
      | .error reason => .error (.uninspectable reason)
      | .ok true => .ok (some path)
      | .ok false => firstFile? disk rest

/-- The source of a unit of a package below one of several roots. -/
def readPackage (disk : Disk) (roots : List String) (identifier : String) :
    Except Interruption (Except SourceFault Source) :=
  match PackagePath.ofIdentifier identifier.toList with
  | .error fault => .ok (.error (.packagePath fault))
  | .ok path => do
      let tried := roots.map fun root => packageFile root path
      match ← firstFile? disk tried with
      | none => return .error (.inNoRoot tried)
      | some path => return Source.read disk identifier path

/-- The answer of a resolver to an identifier, and the resolver as it is afterwards. -/
def resolve (disk : Disk) (identifier : String) (r : Resolver) :
    Answer (Except SourceFault Source) × Resolver :=
  match r with
  | mockRuntime library =>
      let found :=
        match library.lookup? identifier with
        | some contents => .ok { identifier, contents }
        | none => .error .notInMockRuntime
      (⟨.ok found, []⟩, r)
  | runtimeDirectory library =>
      let (answer, library) := library.lookup disk identifier
      (answer, .runtimeDirectory library)
  | file =>
      let found :=
        match Identifier.filePath? identifier with
        | some path => Source.read disk identifier path
        | none => .error .noFilePath
      (⟨.ok found, []⟩, r)
  | package root =>
      let found :=
        match PackagePath.ofIdentifier identifier.toList with
        | .error fault => .error (.packagePath fault)
        | .ok path => Source.read disk identifier (packageFile root path)
      (⟨.ok found, []⟩, r)
  | packages roots => (⟨readPackage disk roots identifier, []⟩, r)
  | memory _ files =>
      let found :=
        match files.serve? identifier with
        | some (path, contents) => .ok { identifier, contents, path := some path }
        | none => .error .notInMemory
      (⟨.ok found, []⟩, r)
  | foreign _ _ _ answer => (⟨(answer disk identifier).mapError .uninspectable, []⟩, r)

end Resolver

end UnitResolution
