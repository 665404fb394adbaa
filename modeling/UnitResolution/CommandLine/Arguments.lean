import UnitResolution.Configuration.Basic
import UnitResolution.Path
import UnitResolution.Text.Blank

/-!
# Arguments of the command line

`Arguments.read` sorts the words of a command line into a command, an identifier and options. The
first two words that are no options are the command and the identifier; further ones are ignored,
and so are options that are not known. An option with a value takes the word behind it, whatever
that is. A request for help or for the version decides alone.

`Options.applyTo` puts the options in the place of the modes of a project file.
-/

namespace UnitResolution.CommandLine

open Text

/-- The options of a command line. -/
structure Options where
  verbose : Bool := false
  quiet : Bool := false
  config : Option String := none
  runtime : Option String := none
  packageRoot : Option String := none
  packageRoots : Option (List String) := none
  entry : Option String := none
  noTransitive : Bool := false
  onlyConstants : Bool := false
  deriving Repr, DecidableEq

/-- What a command line says. -/
structure Arguments where
  /-- The command, empty if there is none. -/
  command : String := ""
  identifier : Option String := none
  options : Options := {}
  deriving Repr, DecidableEq

/-- The parts of a list with commas, without the blank ones. -/
def splitList (value : String) : List String :=
  (((split ',' value.toList).map trim).filter (· != [])).map String.ofList

/-- An option that stands alone, by what it does to the options. -/
def flag? : String → Option (Options → Options)
  | "-V" | "--verbose" => some fun o => { o with verbose := true }
  | "-q" | "--quiet" => some fun o => { o with quiet := true }
  | "--no-transitive" => some fun o => { o with noTransitive := true }
  | "--only-constants" => some fun o => { o with onlyConstants := true }
  | _ => none

/-- An option with a value, by what it does to the options. -/
def setting? : String → Option (String → Options → Options)
  | "-c" | "--config" => some fun value o => { o with config := some value }
  | "--runtime" => some fun value o => { o with runtime := some value }
  | "--package-root" => some fun value o => { o with packageRoot := some value }
  | "--package-roots" => some fun value o => { o with packageRoots := some (splitList value) }
  | "--entry" => some fun value o => { o with entry := some value }
  | _ => none

/-- The command that an option stands for. -/
def command? : String → Option String
  | "-h" | "--help" => some "help"
  | "-v" | "--version" => some "version"
  | _ => none

/-- Whether a word is an option. -/
def isOption (word : String) : Bool := word.toList.head? == some '-'

namespace Arguments

/-- Take in the words of a command line, one after the other. -/
def readFrom (a : Arguments) : List String → Arguments
  | [] => a
  | word :: rest =>
      if word.isEmpty then readFrom a rest
      else if !isOption word then
        if a.command.isEmpty then readFrom { a with command := word } rest
        else if a.identifier.isNone then readFrom { a with identifier := some word } rest
        else readFrom a rest
      else
        match command? word with
        | some command => { command }
        | none =>
            match setting? word with
            | some set =>
                match rest with
                | [] => { a with options := set "" a.options }
                | value :: rest => readFrom { a with options := set value a.options } rest
            | none =>
                match flag? word with
                | some set => readFrom { a with options := set a.options } rest
                | none => readFrom a rest

/-- What the words of a command line say. -/
def read (words : List String) : Arguments := readFrom {} words

end Arguments

namespace Options

variable [Host]

/-- Replace the runtime library of an input. -/
def applyRuntime (o : Options) (directory : String) (input : ConfigurationInput) :
    ConfigurationInput :=
  match o.runtime with
  | none => input
  | some path =>
      { input with
        useMockRuntime := some false
        runtimePath := some (Path.resolve directory path)
        mockRuntime := none }

/-- Replace the packages of an input. -/
def applyPackages (o : Options) (directory : String) (input : ConfigurationInput) :
    ConfigurationInput :=
  match o.packageRoots, o.packageRoot with
  | some roots, _ =>
      { input with
        useMultiRoot := some true
        packageRoots := some (roots.map (Path.resolve directory))
        packageRoot := none }
  | none, some root =>
      { input with
        useMultiRoot := some false
        packageRoot := some (Path.resolve directory root)
        packageRoots := none }
  | none, none => input

/-- Replace the entry of an input. -/
def applyEntry (o : Options) (directory : String) (input : ConfigurationInput) :
    ConfigurationInput :=
  match o.entry with
  | none => input
  | some path =>
      { input with
        useImplicitEntry := some true
        entryPointFile := some (Path.resolve directory path) }

/-- Restrict the inference of an input. -/
def applyInference (o : Options) (input : ConfigurationInput) : ConfigurationInput :=
  if o.noTransitive || o.onlyConstants then
    let given := input.inference.getD {}
    { input with
      inference := some {
        followImports := if o.noTransitive then some false else given.followImports
        onlyConstants := if o.onlyConstants then some true else given.onlyConstants } }
  else input

/-- An input with the options in the place of the modes that they replace, their paths counted from
a directory. -/
def applyTo (o : Options) (directory : String) (input : ConfigurationInput) : ConfigurationInput :=
  let input := o.applyRuntime directory input
  let input := o.applyPackages directory input
  let input := o.applyEntry directory input
  let input := o.applyInference input
  if o.verbose then { input with verbose := some true } else input

end Options

end UnitResolution.CommandLine
