import UnitResolution.CommandLine.Run

/-!
# What a run looks at

A run works on a disk, which somebody has to fill before. `projectFiles` are the paths at which a
run looks for its project file. Once these are on the disk, `directories` are the directories with
all the rest: that in which the run takes place, those that its input names, and that of the file
that it is asked about.
-/

namespace UnitResolution.CommandLine

variable [Host]

/-- The paths of the project files of a place and of all places above it, the place given by its
segments, the last one first. -/
def pathsAbove : (reversed : Place) → List String
  | [] => [ProjectFile.pathIn []]
  | name :: above => ProjectFile.pathIn (name :: above).reverse :: pathsAbove above

/-- The paths at which a run in a directory looks for its project file. -/
def projectFiles (directory : String) (words : List String) : List String :=
  match (Arguments.read words).options.config with
  | some path => [Path.resolve directory path]
  | none => pathsAbove (Disk.placeOf directory).reverse

/-- The directories that an input names. -/
def directoriesOf (input : ConfigurationInput) : List String :=
  input.runtimePath.toList ++ input.packageRoot.toList ++ input.packageRoots.getD [] ++
    (input.entryPointFile.map Path.directoryString).toList

/-- The directory of the file that an argument of a command names. -/
def directoryOfArgument (directory argument : String) : List String :=
  ((Identifier.filePath? (Identifier.ofArgument argument directory)).map
    Path.directoryString).toList

/-- The directories that a run in a directory looks at, on a disk that holds the project file. -/
def directories (disk : Disk) (directory : String) (words : List String) : List String :=
  let a := Arguments.read words
  let named :=
    match inputOf disk directory (projectFile? disk directory a.options) with
    | .ok (input, _) => directoriesOf (a.options.applyTo directory input)
    | .error _ => []
  (directory :: named ++ (a.identifier.map (directoryOfArgument directory)).getD []).eraseDups

end UnitResolution.CommandLine
