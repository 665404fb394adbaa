import UnitResolution.Identifier.Scheme
import UnitResolution.Table

/-!
# Sources in memory

Two kinds of sources that are given beforehand and need no disk: units of a mock runtime library by
their identifiers (`MockRuntime`), and files by their absolute paths (`MemoryFiles`). The entry
document is such a file: a page with one script, by which a host document comes to stand in front of
a script.
-/

namespace UnitResolution

variable [Host]

/-- A runtime library whose units are given. -/
structure MockRuntime where
  sources : List (String × String)
  /-- Whether an identifier that is not given has no source, rather than an empty one. -/
  strict : Bool
  deriving Repr, DecidableEq

/-- The text of a unit; nothing if it is not given and has to be. -/
def MockRuntime.lookup? (m : MockRuntime) (identifier : String) : Option String :=
  match m.sources.lookup identifier with
  | some contents => some contents
  | none => if m.strict then none else some ""

/-- Files with given texts at absolute paths. -/
structure MemoryFiles where
  files : List (String × String)
  deriving Repr, DecidableEq

namespace MemoryFiles

/-- The files at given paths, which may be relative. -/
def ofList (files : List (String × String)) : MemoryFiles :=
  ⟨Table.ofList (files.map fun file => (Path.absoluteString file.1, file.2))⟩

/-- The text of the file at a path. -/
def read? (m : MemoryFiles) (path : String) : Option String :=
  m.files.lookup (Path.absoluteString path)

/-- The absolute path of the file that an identifier names, and its text. -/
def serve? (m : MemoryFiles) (identifier : String) : Option (String × String) := do
  let path := Path.absoluteString (← Identifier.filePath? identifier)
  return (path, ← m.files.lookup path)

end MemoryFiles

/-! ## The entry document -/

namespace EntryDocument

/-- The file name of the entry document. -/
def fileName : String := "__implicit_entry__.html"

/-- The path of the entry document for a working directory. -/
def path (directory : String) : String := Path.resolve directory fileName

/-- The identifier of the entry document for a working directory. -/
def identifier (directory : String) : String := Identifier.ofFilePath (path directory)

/-- A character as it is written in the value of an attribute. -/
def escapeChar (c : Char) : List Char :=
  if c = '&' then "&amp;".toList else if c = '"' then "&quot;".toList else [c]

/-- The page with one script, whose source is the given path. -/
def page (entry : String) : String :=
  "<body><script type=\"module\" src=\"" ++ String.ofList (entry.toList.flatMap escapeChar) ++
    "\"></script></body>"

/-- The entry document as a file in memory. -/
def files (entry directory : String) : MemoryFiles :=
  .ofList [(path directory, page (Path.resolve directory entry))]

end EntryDocument

end UnitResolution
