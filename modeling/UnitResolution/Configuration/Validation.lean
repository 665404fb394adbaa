import UnitResolution.Configuration.Basic
import UnitResolution.Diagnostic
import UnitResolution.Identifier.Scheme
import UnitResolution.Text.Blank

/-!
# Validation

`validate` makes a configuration of an input, or lists all that is wrong with it: first what
concerns the runtime library, then the packages, then the entry, and the units of a mock runtime
library in their order. A `Violation` is one thing that is wrong. Nothing but violations keeps an
input from being accepted.
-/

namespace UnitResolution

open Script (InferenceOptions)

/-- Something that is wrong with an input. -/
inductive Violation
  /-- A mock runtime library is used, and a path is given. -/
  | runtimePathWithMock
  /-- A mock runtime library is used, and no units are given. -/
  | noMockRuntime
  /-- The identifier of a unit of the mock runtime library has another scheme. -/
  | mockScheme (identifier : String)
  /-- A unit of the mock runtime library is no text. -/
  | mockContents (identifier : String)
  /-- No mock runtime library is used, and units are given. -/
  | mockWithoutUse
  /-- No mock runtime library is used, and no path is given. -/
  | noRuntimePath
  /-- Several roots are used, and a single one is given. -/
  | singleRootWithSeveral
  /-- Several roots are used, and none is given. -/
  | noPackageRoots
  /-- One of several roots is blank. -/
  | blankPackageRoots
  /-- A single root is used, and several are given. -/
  | severalRootsWithSingle
  /-- The single root is blank. -/
  | blankPackageRoot
  /-- The entry document is used, and no entry is given. -/
  | noEntry
  deriving Repr, DecidableEq

namespace Violation

/-- The diagnostic of a field that a mode needs. -/
def missing (field mode : String) : Diagnostic :=
  .error .missingField ("'" ++ field ++ "' is required when " ++ mode)

/-- The diagnostic of a field that a mode rules out. -/
def conflicting (field mode : String) : Diagnostic :=
  .error .conflictingField ("'" ++ field ++ "' cannot be used when " ++ mode)
    (some ("Remove '" ++ field ++ "' or change the mode"))

/-- The diagnostic of a violation. -/
def diagnostic : Violation → Diagnostic
  | runtimePathWithMock => conflicting "runtimePath" "useMockRuntime is true"
  | noMockRuntime => missing "mockRuntime" "useMockRuntime is true"
  | mockScheme identifier =>
      .error .invalidValue ("Mock runtime identifier \"" ++ identifier ++ "\" does not use the " ++
        Identifier.runtimeScheme ++ " scheme")
  | mockContents identifier =>
      .error .invalidValue
        ("Mock runtime contents for \"" ++ identifier ++ "\" must be a string")
  | mockWithoutUse => conflicting "mockRuntime" "useMockRuntime is false"
  | noRuntimePath => missing "runtimePath" "useMockRuntime is false"
  | singleRootWithSeveral => conflicting "packageRoot" "useMultiRoot is true"
  | noPackageRoots => missing "packageRoots" "useMultiRoot is true"
  | blankPackageRoots => .error .invalidValue "'packageRoots' entries must be non-empty paths"
  | severalRootsWithSingle => conflicting "packageRoots" "useMultiRoot is false"
  | blankPackageRoot => .error .invalidValue "'packageRoot' must be a non-empty path"
  | noEntry => missing "entryPointFile" "useImplicitEntry is true"

@[simp] theorem isError_diagnostic (v : Violation) : v.diagnostic.isError = true := by
  cases v <;> rfl

end Violation

namespace Configuration

variable [Host]

/-- What a check of some fields yields: all that is wrong, and what the fields choose, which is
there at least if nothing is wrong. -/
structure Checked (α : Type) where
  violations : List Violation
  choice : Option α
  choice_isSome : violations = [] → choice.isSome

/-- A check that finds something wrong. -/
def Checked.wrong {α : Type} (first : Violation) (rest : List Violation := []) : Checked α :=
  ⟨first :: rest, none, by simp⟩

/-- A check with a choice. -/
def Checked.chosen {α : Type} (choice : α) (violations : List Violation := []) : Checked α :=
  ⟨violations, some choice, by simp⟩

/-- The violation, if a condition holds. -/
def violationIf (condition : Bool) (v : Violation) : List Violation := if condition then [v] else []

/-! ## The runtime library -/

/-- A unit of a mock runtime library, or what is wrong with it. -/
def checkMockUnit : String × Json → Except Violation (String × String)
  | (identifier, contents) =>
      if !Identifier.runtimeScheme.toList.isPrefixOf identifier.toList then
        .error (.mockScheme identifier)
      else
        match contents with
        | .string text => .ok (identifier, text)
        | _ => .error (.mockContents identifier)

/-- All that is wrong with the units of a mock runtime library. -/
def mockViolations (units : List (String × Json)) : List Violation :=
  units.filterMap fun unit =>
    match checkMockUnit unit with
    | .error v => some v
    | .ok _ => none

/-- The units of a mock runtime library with which nothing is wrong. -/
def mockSources (units : List (String × Json)) : List (String × String) :=
  units.filterMap fun unit => (checkMockUnit unit).toOption

/-- Check the fields of the runtime library. -/
def checkRuntime (input : ConfigurationInput) (directory : String) : Checked RuntimeChoice :=
  if input.useMockRuntime = some true then
    let conflict := violationIf input.runtimePath.isSome .runtimePathWithMock
    match input.mockRuntime with
    | none => ⟨conflict ++ [.noMockRuntime], none, by simp⟩
    | some units => .chosen (.mock (mockSources units)) (conflict ++ mockViolations units)
  else
    let conflict := violationIf input.mockRuntime.isSome .mockWithoutUse
    match input.runtimePath with
    | none => ⟨conflict ++ [.noRuntimePath], none, by simp⟩
    | some path =>
        if Text.isAllBlank path then ⟨conflict ++ [.noRuntimePath], none, by simp⟩
        else .chosen (.directory (Path.resolve directory path)) conflict

/-! ## The packages -/

/-- The root of packages where none is given. -/
def defaultPackageRoot : String := "packages"

/-- Check the fields of the packages. -/
def checkPackages (input : ConfigurationInput) (directory : String) : Checked PackageChoice :=
  if input.useMultiRoot = some true then
    let conflict := violationIf input.packageRoot.isSome .singleRootWithSeveral
    match input.packageRoots with
    | none | some [] => ⟨conflict ++ [.noPackageRoots], none, by simp⟩
    | some (first :: rest) =>
        let roots := first :: rest
        if roots.any Text.isAllBlank then ⟨conflict ++ [.blankPackageRoots], none, by simp⟩
        else .chosen (.several (roots.map (Path.resolve directory))) conflict
  else
    let conflict := violationIf input.packageRoots.isSome .severalRootsWithSingle
    let root := input.packageRoot.getD defaultPackageRoot
    if Text.isAllBlank root then ⟨conflict ++ [.blankPackageRoot], none, by simp⟩
    else .chosen (.single (Path.resolve directory root)) conflict

/-! ## The entry -/

/-- Check the fields of the entry. -/
def checkEntry (input : ConfigurationInput) (directory : String) : Checked EntryChoice :=
  let file := input.entryPointFile.bind fun path =>
    if Text.isAllBlank path then none else some (Path.resolve directory path)
  if input.useImplicitEntry = some true then
    match file with
    | none => .wrong .noEntry
    | some file => .chosen (.implicit file)
  else .chosen (.explicit file)

/-! ## All together -/

/-- The inference that an input asks for. -/
def inferenceOf (input : Option InferenceInput) : InferenceOptions :=
  let standard : InferenceOptions := {}
  { followImports := (input.bind (·.followImports)).getD standard.followImports
    onlyConstants := (input.bind (·.onlyConstants)).getD standard.onlyConstants }

/-- The configuration that an input describes, its relative paths counted from a directory, or all
that is wrong with the input. -/
def validate (input : ConfigurationInput) (directory : String) :
    Except (List Violation) Configuration :=
  let runtime := checkRuntime input directory
  let packages := checkPackages input directory
  let entry := checkEntry input directory
  match runtime.violations ++ packages.violations ++ entry.violations, runtime.choice,
    packages.choice, entry.choice with
  | [], some runtime, some packages, some entry =>
      .ok {
        runtime, packages, entry
        inference := inferenceOf input.inference
        verbose := input.verbose.getD false }
  | violations, _, _, _ => .error violations

/-- The report of all that is wrong with an input. -/
def reportOf (violations : List Violation) : Report := ⟨violations.map Violation.diagnostic⟩

end Configuration

end UnitResolution
