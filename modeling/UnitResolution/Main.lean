import UnitResolution.CommandLine.Scope

/-!
# The program

Reads the part of the file system that a command line is about, runs the command line on it, and
prints what comes of that.
-/

namespace UnitResolution

/-- The entry for the file at a path. -/
def readEntry (path : String) : IO Entry := do
  try
    return .ofBytes (← IO.FS.readBinFile path).toList
  catch reason =>
    return .unreadable (toString reason)

/-- The entries at the paths that name files. -/
def readFiles (paths : List String) : IO (List (String × Entry)) := do
  let here ← IO.currentDir
  let mut entries := #[]
  for path in paths do
    if ← (here / path).pathExists then
      entries := entries.push (path, ← readEntry path)
  return entries.toList

/-- The entries of the tree below a directory, of which links to directories and what a version
control system keeps are no part. -/
partial def readTree (directory : String) : IO (List (String × Entry)) := do
  let here ← IO.currentDir
  if !(← (here / directory).isDir) then return []
  let items ←
    try
      (here / directory).readDir
    catch reason =>
      return [(directory, .unlistable (toString reason))]
  let mut entries := #[(directory, Entry.directory)]
  for item in items do
    let path := Path.joinedString directory item.fileName
    match (← (here / path).symlinkMetadata).type with
    | .dir =>
        if item.fileName ≠ ".git" then entries := entries ++ (← readTree path).toArray
    | .file => entries := entries.push (path, ← readEntry path)
    | .symlink =>
        if (← (here / path).pathExists) && !(← (here / path).isDir) then
          entries := entries.push (path, ← readEntry path)
    | .other => pure ()
  return entries.toList

/-- The process that runs in a directory. -/
@[reducible]
def Host.ofDirectory (directory : String) : Host where
  workingDirectory := directory.toList
  malformed _ := "invalid JSON"

/-- The disk that a command line is about. -/
def readDisk [Host] (directory : String) (words : List String) : IO Disk := do
  let projects ← readFiles (CommandLine.projectFiles directory words)
  let mut entries := projects
  for place in CommandLine.directories (.ofEntries projects) directory words do
    entries := entries ++ (← readTree place)
  return .ofEntries entries

/-- The line that tells what has interrupted a run. -/
def Interruption.line : Interruption → String
  | invalidUrl => "Invalid URL"
  | uninspectable reason => reason
  | tooDeep => "Units are nested too deeply"

/-- Print what a run has printed, and yield its exit code. -/
def conclude (outcome : CommandLine.Outcome) : IO UInt32 := do
  for line in outcome.printed.out do
    IO.println line
  for line in outcome.printed.err do
    IO.eprintln line
  match outcome.exit with
  | .ok code => return code.toUInt32
  | .error interruption =>
      IO.eprintln interruption.line
      return 1

end UnitResolution

/-- Run the command line in the working directory. -/
def main (words : List String) : IO UInt32 := do
  let directory := toString (← IO.currentDir)
  let _ := UnitResolution.Host.ofDirectory directory
  let disk ← UnitResolution.readDisk directory words
  UnitResolution.conclude (UnitResolution.CommandLine.run disk directory words)
