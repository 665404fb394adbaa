import UnitResolution.Source

/-!
# Runtime libraries in a directory

A `RuntimeDirectory` serves the units of a runtime library from a directory. Its layout is
discovered by the first lookup and kept from then on, also if there is none; the files themselves
are read anew by every lookup.

Behind the scheme, an identifier names a library and possibly a part of it. The library alone stands
for its entry unit, and a part for a file in the directory of that unit.
-/

namespace UnitResolution

open Text

variable [Host]

/-- What an operation on sources yields, with the lines that it logs. -/
structure Answer (α : Type) where
  outcome : Except Interruption α
  log : List String := []

/-- A runtime library in a directory. -/
structure RuntimeDirectory where
  path : String
  /-- Log what the layout is when it is discovered. -/
  verbose : Bool := false
  /-- The layout found by the first lookup. -/
  layout : Option (Except Layout.Fault Layout) := none

namespace RuntimeDirectory

/-- The path of a part of a library with the given entry unit; nothing outside the directory of
that unit. -/
def partPath? (entry : String) (parts : List (List Char)) : Option String :=
  let directory := Path.directory entry.toList
  let path := Path.ofSegments (Path.reduce false (split '/' directory ++ parts))
  if Path.isWithin directory path then some (String.ofList path) else none

/-- The source that a layout prescribes for an identifier. -/
def serve (layout : Layout) (disk : Disk) (identifier : String) : Except SourceFault Source :=
  let rest := dropUnits (units Identifier.runtimeScheme.toList) identifier.toList
  match split '/' rest with
  | [] => .error (.unknownLibrary "" (Table.keys layout.libraries))
  | name :: parts =>
      match layout.libraries.lookup (String.ofList name) with
      | none => .error (.unknownLibrary (String.ofList name) (Table.keys layout.libraries))
      | some entry =>
          if parts.isEmpty then Source.read disk identifier entry
          else
            match partPath? entry parts with
            | none => .error (.leavesLibrary (String.ofList name))
            | some path => Source.read disk identifier path

/-- The line that tells which libraries a layout has. -/
def layoutLine (layout : Layout) : String :=
  "[unitgraph] Runtime libraries in " ++ layout.root ++ ": " ++
    SourceFault.listed (Table.keys layout.libraries)

/-- The layout, discovered now if it has not been before. -/
def ensureLayout (r : RuntimeDirectory) (disk : Disk) :
    Answer (Except Layout.Fault Layout) × RuntimeDirectory :=
  match r.layout with
  | some layout => (⟨.ok layout, []⟩, r)
  | none =>
      match Layout.discover disk r.path with
      | .error interruption => (⟨.error interruption, []⟩, r)
      | .ok layout =>
          let log :=
            match layout with
            | .ok found => if r.verbose then [layoutLine found] else []
            | .error _ => []
          (⟨.ok layout, log⟩, { r with layout := some layout })

/-- The source of an identifier. -/
def lookup (r : RuntimeDirectory) (disk : Disk) (identifier : String) :
    Answer (Except SourceFault Source) × RuntimeDirectory :=
  let (answer, r) := r.ensureLayout disk
  let outcome := answer.outcome.map fun layout =>
    match layout with
    | .error fault => .error (.layout fault)
    | .ok layout => serve layout disk identifier
  (⟨outcome, answer.log⟩, r)

end RuntimeDirectory

end UnitResolution
