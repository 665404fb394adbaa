import UnitResolution.Path
import UnitResolution.Text.Utf8

/-!
# Disks

A `Disk` is what the library can see of a file system: entries at absolute places, each place the
list of its segments. A directory exists where it is entered as such, at the root, and wherever an
entry lies below. A file can refuse to be read, a directory can refuse to be listed, and an entry
can refuse to be looked at.

`find` looks up a path as it is written. The path is worked out segment by segment, without regard
to what exists on the way; but a file is not found under a path that ends as only the path of a
directory can.
-/

namespace UnitResolution

/-- What a disk holds at a place. -/
inductive Entry
  /-- A file with a text. -/
  | file (contents : String)
  /-- A file that cannot be read, for a reason. -/
  | unreadable (reason : String)
  /-- Something that cannot be looked at, for a reason. -/
  | uninspectable (reason : String)
  /-- A directory. -/
  | directory
  /-- A directory whose entries cannot be listed, for a reason; each of them can still be found. -/
  | unlistable (reason : String)
  deriving Repr, DecidableEq

/-- Whether an entry is a directory. -/
def Entry.isDirectory : Entry → Bool
  | directory | unlistable _ => true
  | _ => false

/-- The file of given bytes. -/
def Entry.ofBytes (bytes : List UInt8) : Entry :=
  .file (String.ofList (Text.Utf8.decodeLossy bytes))

/-- A place on a disk: the segments of an absolute path. -/
abbrev Place := List (List Char)

/-- The entries of a file system at their places. -/
structure Disk where
  entries : List (Place × Entry) := []
  deriving Repr

namespace Disk

/-- Whether a place lies below another one. -/
def isBelow (directory place : Place) : Bool :=
  directory.isPrefixOf place && directory.length < place.length

variable [Host]

/-- The place that a path names. -/
def placeOf (path : String) : Place := Path.segments (Path.absolute path.toList)

/-- What lies at a place. -/
def entryAt? (d : Disk) (place : Place) : Option Entry :=
  match d.entries.lookup place with
  | some entry => some entry
  | none =>
      if place = [] ∨ d.entries.any (fun e => isBelow place e.1) then some .directory else none

/-- Whether a path is written as only the path of a directory can be. -/
def endsAsDirectory (path : List Char) : Bool :=
  path.getLast? == some '/' || ['.', '/'].isPrefixOf path.reverse

/-- What lies at a path. -/
def find? (d : Disk) (path : String) : Option Entry :=
  if path.isEmpty ∨ '\x00' ∈ path.toList then none
  else
    match d.entryAt? (placeOf path) with
    | some entry =>
        if endsAsDirectory path.toList ∧ entry.isDirectory = false then none else some entry
    | none => none

/-- Whether something lies at a path. -/
def exists? (d : Disk) (path : String) : Bool := (d.find? path).isSome

/-- The text of the file at a path, or the reason why it cannot be read. -/
def read (d : Disk) (path : String) : Except String String :=
  match d.find? path with
  | some (.file contents) => .ok contents
  | some (.unreadable reason) => .error reason
  | some (.uninspectable reason) => .error reason
  | some .directory | some (.unlistable _) =>
      .error "EISDIR: illegal operation on a directory, read"
  | none => .error ("ENOENT: no such file or directory, open '" ++ path ++ "'")

/-- Whether a path that exists names a file; a reason where that cannot be found out. -/
def isFile (d : Disk) (path : String) : Except String Bool :=
  match d.find? path with
  | some (.file _) => .ok true
  | some (.unreadable _) => .ok true
  | some (.uninspectable reason) => .error reason
  | some .directory | some (.unlistable _) => .ok false
  | none => .ok false

/-- Whether a path names a directory; a reason where that cannot be found out. -/
def isDirectory (d : Disk) (path : String) : Except String Bool :=
  match d.find? path with
  | some .directory | some (.unlistable _) => .ok true
  | some (.uninspectable reason) => .error reason
  | _ => .ok false

/-- The names of the directories directly below a place, in the order in which they occur. -/
def directoriesBelow (d : Disk) (place : Place) : List (List Char) :=
  let names := d.entries.filterMap fun e =>
    if isBelow place e.1 then e.1[place.length]? else none
  names.eraseDups.filter fun name => (d.entryAt? (place ++ [name])).any Entry.isDirectory

/-- The names of the directories in the directory at a place; a reason where it cannot be
listed. -/
def directoriesIn (d : Disk) (place : Place) : Except String (List (List Char)) :=
  match d.entryAt? place with
  | some (.unlistable reason) => .error reason
  | _ => .ok (d.directoriesBelow place)

/-! ## Changes -/

/-- The disk with an entry at a place, in the place of what was entered there before. -/
def put (place : Place) (entry : Entry) (d : Disk) : Disk :=
  if d.entries.any (·.1 == place) then
    ⟨d.entries.map fun e => if e.1 == place then (place, entry) else e⟩
  else ⟨d.entries ++ [(place, entry)]⟩

/-- The disk with an entry at a path. -/
def write (path : String) (entry : Entry) (d : Disk) : Disk := d.put (placeOf path) entry

/-- The disk without the entry at a path and all entries below it. -/
def remove (path : String) (d : Disk) : Disk :=
  let place := placeOf path
  ⟨d.entries.filter fun e => !place.isPrefixOf e.1⟩

/-- The disk of entries that are written one after the other. -/
def ofEntries (entries : List (String × Entry)) : Disk :=
  entries.foldl (fun d e => d.write e.1 e.2) {}

end Disk

end UnitResolution
