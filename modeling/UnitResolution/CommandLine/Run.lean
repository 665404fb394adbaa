import UnitResolution.CommandLine.Arguments
import UnitResolution.CommandLine.Command
import UnitResolution.CommandLine.Help
import UnitResolution.Configuration.ProjectFile

/-!
# Running the command line

`run` carries out a command line on a disk: it finds the project file, puts the options over it,
creates a context, and runs the command. The exit code tells how that ended: 0 without errors, 1
where the command line, the project file or the configuration is wrong, 2 where the command fails
or reports an error, and 3 where there is no project file.
-/

namespace UnitResolution.CommandLine

variable [Host]

/-- What has been printed: texts for the standard output and for the standard error. -/
structure Printed where
  out : List String := []
  err : List String := []
  deriving Repr, DecidableEq

/-- How a run ends: with an exit code, unless something interrupts it, and with what it prints. -/
structure Outcome where
  exit : Except Interruption Nat
  printed : Printed
  /-- The context that the run has created, as the run leaves it. -/
  context : Option (Context Strategy Strategy) := none

/-- A run that ends with an exit code. -/
def exitWith (code : Nat) (out err : List String) : Outcome :=
  { exit := .ok code, printed := { out, err } }

/-- A run that ends because of what a report tells. -/
def failWith (code : Nat) (report : Report) (out : List String := []) : Outcome :=
  exitWith code out (report.diagnostics.map Diagnostic.format)

/-- The remarks of a command that are shown; a quiet run shows errors only. -/
def shown (quiet : Bool) (diagnostics : List Diagnostic) : List String :=
  (diagnostics.filter fun d => !quiet || d.isError).map Diagnostic.format

/-- The closing line of a command, unless the run is quiet. -/
def closing (quiet : Bool) (summary : Option String) : List String :=
  match summary with
  | some line => if quiet then [] else ["\n✓ " ++ line]
  | none => []

/-- The project file of a run, if there is one. -/
def projectFile? (disk : Disk) (directory : String) (o : Options) : Option String :=
  match o.config with
  | some path =>
      if path.isEmpty then ProjectFile.find? disk directory else some (Path.resolve directory path)
  | none => ProjectFile.find? disk directory

/-- The input of a run, and the directory from which the paths in it are counted. -/
def inputOf (disk : Disk) (directory : String) :
    (project : Option String) → Except (List ProjectFile.Fault) (ConfigurationInput × String)
  | none => .ok ({}, directory)
  | some path => do return (← ProjectFile.load disk path, Path.directoryString path)

/-- What comes of a command, behind what it has logged. -/
def conclude (quiet : Bool) (log : List String) :
    Except Interruption (Except Report Output) → Outcome
  | .error interruption => { exit := .error interruption, printed := { out := log } }
  | .ok (.error report) => failWith 2 report log
  | .ok (.ok output) =>
      exitWith (if output.diagnostics.any Diagnostic.isError then 2 else 0)
        (log ++ output.text :: closing quiet output.summary) (shown quiet output.diagnostics)

/-- Run a command in a session, and dispose of its context in the end, whatever comes of the
command. -/
def runIn (s : Session) (command : Command) (identifier : String) (quiet : Bool) : Outcome :=
  let (outcome, s) := command.output identifier s
  { conclude quiet s.scene.log outcome with context := some s.scene.context.dispose }

/-- Run a command on an input. -/
def runOn (disk : Disk) (directory : String) (a : Arguments) (command : Command)
    (input : ConfigurationInput) (root : String) : Outcome :=
  match Context.create Strategy.inference (a.options.applyTo directory input)
      { directory := root } with
  | .invalid violations => failWith 1 (Configuration.reportOf violations)
  | .refused refusal _ => failWith 1 (.single refusal.diagnostic)
  | .created context log =>
      runIn (.start context disk log) command
        (Identifier.ofArgument (a.identifier.getD "") directory) a.options.quiet

/-- Run a command, for which the project file is looked for first. -/
def runCommand (disk : Disk) (directory : String) (a : Arguments) (command : Command) : Outcome :=
  let project := projectFile? disk directory a.options
  if project.isNone && a.options.runtime.isNone then
    exitWith 3 [] ["Error: No unitgraph.json found", "Create one, or pass --runtime <dir>"]
  else
    match inputOf disk directory project with
    | .error faults => failWith 1 (ProjectFile.reportOf faults)
    | .ok (input, root) => runOn disk directory a command input root

/-- Run a command line in a directory. -/
def run (disk : Disk) (directory : String) (words : List String) : Outcome :=
  let a := Arguments.read words
  if a.command = "version" then exitWith 0 [versionLine] []
  else if a.command = "help" ∨ a.command.isEmpty then exitWith 0 [helpText] []
  else
    match Command.ofName? a.command with
    | none =>
        exitWith 1 []
          ["Error: Unknown command '" ++ a.command ++ "'",
            "Run 'unitgraph --help' for usage information"]
    | some command =>
        if command.needsIdentifier && a.identifier.isNone then
          exitWith 1 []
            ["Error: Identifier required", "Usage: unitgraph " ++ a.command ++ " <identifier>"]
        else runCommand disk directory a command

end UnitResolution.CommandLine
