import UnitResolution.Configuration.Validation
import UnitResolution.Proofs.Resolver.Confinement
import Mathlib.Data.List.Nodup

/-!
# What validation accepts

An input is wrong in certain ways, which can be said of its fields without checking them
(`UnitResolution.Violation.Applies`). Validation finds exactly these, in the order of
`UnitResolution.ConfigurationInput.rules`: each check lists those of its own fields
(`UnitResolution.Configuration.violations_checkRuntime` and the like), and chooses something if
there are none. All together there is either a configuration
(`UnitResolution.Configuration.Accepts`), or a list of all violations.

The theorem `UnitResolution.Configuration.validate_exact` says when there is a configuration, what
is reported otherwise and in which order, that the paths of a configuration are absolute, and that
its mock runtime library has the units of the input and no others.
-/

namespace UnitResolution

/-! ## Rules -/

/-- The text of a JSON value that is one. -/
def Json.text? : Json → Option String
  | .string text => some text
  | _ => none

/-- A field is left out, or blank. -/
def IsMissing (field : Option String) : Prop := field.all Text.isAllBlank

instance (field : Option String) : Decidable (IsMissing field) :=
  inferInstanceAs (Decidable (_ = _))

/-- An identifier is written like one of a unit of the runtime library. -/
def IsRuntimeUnit (identifier : String) : Prop :=
  Identifier.runtimeScheme.toList <+: identifier.toList

instance (identifier : String) : Decidable (IsRuntimeUnit identifier) :=
  inferInstanceAs (Decidable (_ <+: _))

/-- The units of the mock runtime library that an input asks for. -/
def ConfigurationInput.mockUnits (input : ConfigurationInput) : List (String × Json) :=
  if input.useMockRuntime = some true then input.mockRuntime.getD [] else []

namespace Violation

/-- An input is wrong in a certain way. The contents of a unit of a mock runtime library matter only
if its identifier is one of such units. -/
def Applies (input : ConfigurationInput) : Violation → Prop
  | runtimePathWithMock => input.useMockRuntime = some true ∧ input.runtimePath.isSome
  | mockWithoutUse => input.useMockRuntime ≠ some true ∧ input.mockRuntime.isSome
  | noMockRuntime => input.useMockRuntime = some true ∧ input.mockRuntime.isNone
  | noRuntimePath => input.useMockRuntime ≠ some true ∧ IsMissing input.runtimePath
  | mockScheme identifier =>
      ∃ unit ∈ input.mockUnits, unit.1 = identifier ∧ ¬ IsRuntimeUnit identifier
  | mockContents identifier =>
      ∃ unit ∈ input.mockUnits,
        unit.1 = identifier ∧ IsRuntimeUnit identifier ∧ unit.2.text? = none
  | singleRootWithSeveral => input.useMultiRoot = some true ∧ input.packageRoot.isSome
  | severalRootsWithSingle => input.useMultiRoot ≠ some true ∧ input.packageRoots.isSome
  | noPackageRoots => input.useMultiRoot = some true ∧ input.packageRoots.getD [] = []
  | blankPackageRoots =>
      input.useMultiRoot = some true ∧ ∃ root ∈ input.packageRoots.getD [], Text.isAllBlank root
  | blankPackageRoot =>
      input.useMultiRoot ≠ some true ∧ input.packageRoot.isSome ∧ IsMissing input.packageRoot
  | noEntry => input.useImplicitEntry = some true ∧ IsMissing input.entryPointFile

instance (input : ConfigurationInput) : DecidablePred (Applies input)
  | runtimePathWithMock | mockWithoutUse | noMockRuntime | noRuntimePath | singleRootWithSeveral
  | severalRootsWithSingle | noPackageRoots | blankPackageRoots | blankPackageRoot | noEntry =>
      inferInstanceAs (Decidable (_ ∧ _))
  | mockScheme identifier =>
      inferInstanceAs (Decidable (∃ unit ∈ input.mockUnits,
        unit.1 = identifier ∧ ¬ IsRuntimeUnit identifier))
  | mockContents identifier =>
      inferInstanceAs (Decidable (∃ unit ∈ input.mockUnits,
        unit.1 = identifier ∧ IsRuntimeUnit identifier ∧ unit.2.text? = none))

/-- Different violations have different diagnostics. -/
theorem diagnostic_injective : Function.Injective diagnostic := by
  intro v w same
  cases v <;> cases w <;>
    simp only [diagnostic, missing, conflicting, Diagnostic.error, Diagnostic.Code.name,
      Diagnostic.mk.injEq, String.reduceAppend, String.reduceEq, false_and, and_false, true_and,
      and_true, reduceCtorEq, mockScheme.injEq, mockContents.injEq, Option.some.injEq] at same ⊢
  -- what is left are the messages that name a unit
  all_goals
    have characters := congrArg String.toList same
    simp [String.toList_append] at characters
    try exact String.toList_inj.mp characters

/-- What can be wrong with the choice of a runtime library. -/
def ofRuntime : List Violation :=
  [runtimePathWithMock, mockWithoutUse, noMockRuntime, noRuntimePath]

/-- What can be wrong with a unit of a mock runtime library. -/
def ofUnit (unit : String × Json) : List Violation := [mockScheme unit.1, mockContents unit.1]

/-- What can be wrong with the choice of the packages. -/
def ofPackages : List Violation :=
  [singleRootWithSeveral, severalRootsWithSingle, noPackageRoots, blankPackageRoots,
    blankPackageRoot]

/-- What can be wrong with the entry. -/
def ofEntry : List Violation := [noEntry]

end Violation

/-- All that can be wrong with an input, in the order in which it is reported: what concerns the
runtime library and its units in their order, then the packages, then the entry. -/
def ConfigurationInput.rules (input : ConfigurationInput) : List Violation :=
  (Violation.ofRuntime ++ input.mockUnits.flatMap Violation.ofUnit) ++ Violation.ofPackages ++
    Violation.ofEntry

/-- Whatever is wrong with an input is among what can be wrong with it. -/
theorem Violation.Applies.mem_rules {input : ConfigurationInput} {v : Violation}
    (applies : v.Applies input) : v ∈ input.rules := by
  cases v with
  | mockScheme identifier | mockContents identifier =>
      obtain ⟨unit, member, rfl, _⟩ := applies
      simp only [ConfigurationInput.rules, List.mem_append, List.mem_flatMap]
      exact .inl (.inl (.inr ⟨unit, member, by simp [ofUnit]⟩))
  | _ => simp [ConfigurationInput.rules, ofRuntime, ofPackages, ofEntry]

namespace Configuration

variable {input : ConfigurationInput} {directory : String} {v : Violation}

/-! ## Single units -/

theorem checkMockUnit_eq_ok {unit : String × Json} {source : String × String}
    (checked : checkMockUnit unit = .ok source) : unit = (source.1, .string source.2) := by
  obtain ⟨identifier, contents⟩ := unit
  simp only [checkMockUnit] at checked
  split at checked
  · cases checked
  · split at checked
    · cases checked
      rfl
    · cases checked

theorem checkMockUnit_eq_error_iff {unit : String × Json} :
    checkMockUnit unit = .error v ↔
      (v = .mockScheme unit.1 ∧ ¬ IsRuntimeUnit unit.1) ∨
      (v = .mockContents unit.1 ∧ IsRuntimeUnit unit.1 ∧ unit.2.text? = none) := by
  obtain ⟨identifier, contents⟩ := unit
  have named : Identifier.runtimeScheme.toList.isPrefixOf identifier.toList = true ↔
      IsRuntimeUnit identifier := List.isPrefixOf_iff_prefix
  unfold checkMockUnit
  by_cases runtime : IsRuntimeUnit identifier
  · simp only [named.mpr runtime, Bool.not_true, Bool.false_eq_true, ↓reduceIte]
    cases contents <;> simp [Json.text?, runtime, eq_comm]
  · have foreign : Identifier.runtimeScheme.toList.isPrefixOf identifier.toList = false :=
      Bool.eq_false_iff.mpr (mt named.mp runtime)
    simp [foreign, runtime, eq_comm]

theorem mem_mockViolations {units : List (String × Json)} :
    v ∈ mockViolations units ↔ ∃ unit ∈ units, checkMockUnit unit = .error v := by
  unfold mockViolations
  rw [List.mem_filterMap]
  refine exists_congr fun unit => and_congr_right fun _ => ?_
  cases checkMockUnit unit with
  | ok source => exact iff_of_false nofun nofun
  | error w => simp

/-- What is reported of the units of an input is what is wrong with them. -/
theorem mem_mockViolations_mockUnits : v ∈ mockViolations input.mockUnits ↔
    v ∈ input.mockUnits.flatMap Violation.ofUnit ∧ v.Applies input := by
  rw [mem_mockViolations, List.mem_flatMap]
  constructor
  · rintro ⟨unit, member, wrong⟩
    rcases checkMockUnit_eq_error_iff.mp wrong with ⟨rfl, scheme⟩ | ⟨rfl, scheme, contents⟩
    · exact ⟨⟨unit, member, by simp [Violation.ofUnit]⟩, unit, member, rfl, scheme⟩
    · exact ⟨⟨unit, member, by simp [Violation.ofUnit]⟩, unit, member, rfl, scheme, contents⟩
  · rintro ⟨⟨_, _, kind⟩, applies⟩
    simp only [Violation.ofUnit, List.mem_cons, List.not_mem_nil, or_false] at kind
    rcases kind with rfl | rfl <;> obtain ⟨unit, member, same, rest⟩ := applies <;>
      refine ⟨unit, member, checkMockUnit_eq_error_iff.mpr ?_⟩
    · exact .inl ⟨congrArg Violation.mockScheme same.symm, same ▸ rest⟩
    · exact .inr ⟨congrArg Violation.mockContents same.symm, same ▸ rest.1, rest.2⟩

/-- Every unit is reported at most once, and in its place. -/
theorem mockViolations_sublist (units : List (String × Json)) :
    (mockViolations units).Sublist (units.flatMap Violation.ofUnit) := by
  induction units with
  | nil => exact List.nil_sublist _
  | cons unit rest ih =>
      unfold mockViolations at ih ⊢
      rw [List.flatMap_cons, List.filterMap_cons]
      cases checked : checkMockUnit unit with
      | ok source => exact ih.trans (List.sublist_append_right _ _)
      | error w =>
          have single : [w].Sublist (Violation.ofUnit unit) := by
            rw [List.singleton_sublist]
            rcases checkMockUnit_eq_error_iff.mp checked with ⟨rfl, _⟩ | ⟨rfl, _⟩ <;>
              simp [Violation.ofUnit]
          exact single.append ih

/-- A mock runtime library with which nothing is wrong is taken over as it is. -/
theorem eq_map_mockSources {units : List (String × Json)} (sound : mockViolations units = []) :
    units = (mockSources units).map fun source => (source.1, .string source.2) := by
  induction units with
  | nil => rfl
  | cons unit rest ih =>
      unfold mockViolations at sound ih
      rw [List.filterMap_cons] at sound
      cases checked : checkMockUnit unit with
      | error w =>
          rw [checked] at sound
          cases sound
      | ok source =>
          rw [checked] at sound
          have same : mockSources (unit :: rest) = source :: mockSources rest := by
            simp [mockSources, checked, Except.toOption]
          rw [same, List.map_cons, ← ih sound, ← checkMockUnit_eq_ok checked]

variable [Host]

/-! ## The checks -/

theorem violations_checkRuntime :
    (checkRuntime input directory).violations =
      Violation.ofRuntime.filter (Violation.Applies input) ++ mockViolations input.mockUnits := by
  obtain ⟨use, path, units⟩ := input
  by_cases mock : use = some true
  · cases units <;> cases path <;>
      simp [checkRuntime, Violation.ofRuntime, ConfigurationInput.mockUnits, mock, Checked.chosen,
        violationIf, Violation.Applies, mockViolations]
  · cases path with
    | none =>
        cases units <;>
          simp [checkRuntime, Violation.ofRuntime, ConfigurationInput.mockUnits, mock, IsMissing,
            violationIf, Violation.Applies, mockViolations]
    | some path =>
        by_cases blank : Text.isAllBlank path = true <;> cases units <;>
          simp [checkRuntime, Violation.ofRuntime, ConfigurationInput.mockUnits, mock, IsMissing,
            blank, Checked.chosen, violationIf, Violation.Applies, mockViolations]

theorem violations_checkPackages :
    (checkPackages input directory).violations =
      Violation.ofPackages.filter (Violation.Applies input) := by
  obtain ⟨_, _, _, _, _, use, roots, root⟩ := input
  by_cases multi : use = some true
  · rcases roots with _ | _ | ⟨first, rest⟩ <;> cases root <;>
      simp [checkPackages, Violation.ofPackages, multi, violationIf, Violation.Applies,
        List.filter_cons]
    all_goals split <;> rfl
  · have standard : Text.isAllBlank defaultPackageRoot = false := by decide
    cases root with
    | none =>
        cases roots <;>
          simp [checkPackages, Violation.ofPackages, multi, violationIf, Violation.Applies,
            standard, Checked.chosen]
    | some root =>
        by_cases blank : Text.isAllBlank root = true <;> cases roots <;>
          simp [checkPackages, Violation.ofPackages, multi, violationIf, Violation.Applies,
            IsMissing, blank, Checked.chosen]

theorem violations_checkEntry :
    (checkEntry input directory).violations =
      Violation.ofEntry.filter (Violation.Applies input) := by
  obtain ⟨_, _, _, use, file⟩ := input
  by_cases implicit : use = some true
  · cases file with
    | none =>
        simp [checkEntry, Violation.ofEntry, implicit, Checked.wrong, Violation.Applies, IsMissing]
    | some file =>
        by_cases blank : Text.isAllBlank file = true <;>
          simp [checkEntry, Violation.ofEntry, implicit, Checked.wrong, Checked.chosen, blank,
            Violation.Applies, IsMissing]
  · simp [checkEntry, Violation.ofEntry, implicit, Checked.chosen, Violation.Applies]

/-- What the check of the runtime library chooses. -/
inductive ChoosesRuntime (input : ConfigurationInput) (directory : String) : RuntimeChoice → Prop
  | mock {units : List (String × Json)} (mode : input.useMockRuntime = some true)
      (given : input.mockRuntime = some units) :
      ChoosesRuntime input directory (.mock (mockSources units))
  | directory {path : String} (mode : input.useMockRuntime ≠ some true)
      (given : input.runtimePath = some path) :
      ChoosesRuntime input directory (.directory (Path.resolve directory path))

/-- What the check of the packages chooses. -/
inductive ChoosesPackages (input : ConfigurationInput) (directory : String) : PackageChoice → Prop
  | several {roots : List String} (mode : input.useMultiRoot = some true)
      (given : input.packageRoots = some roots) :
      ChoosesPackages input directory (.several (roots.map (Path.resolve directory)))
  | single (mode : input.useMultiRoot ≠ some true) :
      ChoosesPackages input directory
        (.single (Path.resolve directory (input.packageRoot.getD defaultPackageRoot)))

/-- What the check of the entry chooses. -/
inductive ChoosesEntry (input : ConfigurationInput) (directory : String) : EntryChoice → Prop
  | implicit {path : String} (mode : input.useImplicitEntry = some true)
      (given : input.entryPointFile = some path) :
      ChoosesEntry input directory (.implicit (Path.resolve directory path))
  | explicit {path : String} (mode : input.useImplicitEntry ≠ some true)
      (given : input.entryPointFile = some path) (filled : ¬ Text.isAllBlank path) :
      ChoosesEntry input directory (.explicit (some (Path.resolve directory path)))
  | none (mode : input.useImplicitEntry ≠ some true) (missing : IsMissing input.entryPointFile) :
      ChoosesEntry input directory (.explicit none)

theorem chooses_checkRuntime {choice : RuntimeChoice}
    (chosen : (checkRuntime input directory).choice = some choice) :
    ChoosesRuntime input directory choice := by
  unfold checkRuntime at chosen
  split at chosen
  · next mode =>
      split at chosen
      · cases chosen
      · next given =>
          cases chosen
          exact .mock mode given
  · next mode =>
      simp only at chosen
      split at chosen
      · cases chosen
      · next given =>
          split at chosen
          · cases chosen
          · cases chosen
            exact .directory mode given

theorem chooses_checkPackages {choice : PackageChoice}
    (chosen : (checkPackages input directory).choice = some choice) :
    ChoosesPackages input directory choice := by
  unfold checkPackages at chosen
  split at chosen
  · next mode =>
      split at chosen
      · cases chosen
      · cases chosen
      · next given =>
          simp only at chosen
          split at chosen
          · cases chosen
          · cases chosen
            exact .several mode given
  · next mode =>
      simp only at chosen
      split at chosen
      · cases chosen
      · cases chosen
        exact .single mode

theorem chooses_checkEntry {choice : EntryChoice}
    (chosen : (checkEntry input directory).choice = some choice) :
    ChoosesEntry input directory choice := by
  unfold checkEntry at chosen
  simp only at chosen
  split at chosen
  · next mode =>
      split at chosen
      · cases chosen
      · next found =>
          cases chosen
          obtain ⟨path, given, named⟩ := Option.bind_eq_some_iff.mp found
          split at named
          · cases named
          · cases named
            exact .implicit mode given
  · next mode =>
      cases chosen
      cases given : input.entryPointFile with
      | none => exact .none mode (by simp [IsMissing, given])
      | some path =>
          by_cases blank : Text.isAllBlank path
          · simpa [blank] using ChoosesEntry.none mode (by simp [IsMissing, given, blank])
          · simpa [blank] using ChoosesEntry.explicit mode given blank

/-! ## All together -/

/-- All that is wrong with an input, as it is reported. -/
def violations (input : ConfigurationInput) (directory : String) : List Violation :=
  (checkRuntime input directory).violations ++ (checkPackages input directory).violations ++
    (checkEntry input directory).violations

/-- A configuration is made of what an input chooses. -/
structure Accepts (input : ConfigurationInput) (directory : String) (c : Configuration) : Prop where
  sound : violations input directory = []
  runtime : ChoosesRuntime input directory c.runtime
  packages : ChoosesPackages input directory c.packages
  entry : ChoosesEntry input directory c.entry
  inference : c.inference = inferenceOf input.inference
  verbose : c.verbose = input.verbose.getD false

theorem accepts_of_validate {c : Configuration} (valid : validate input directory = .ok c) :
    Accepts input directory c := by
  unfold validate at valid
  simp only at valid
  split at valid
  · next sound runtime packages entry =>
      cases valid
      exact ⟨sound, chooses_checkRuntime runtime, chooses_checkPackages packages,
        chooses_checkEntry entry, rfl, rfl⟩
  · cases valid

/-- A configuration comes of validation if nothing is wrong and it is made of what is chosen. -/
theorem validate_eq_ok_iff {c : Configuration} :
    validate input directory = .ok c ↔ violations input directory = [] ∧
      (checkRuntime input directory).choice = some c.runtime ∧
      (checkPackages input directory).choice = some c.packages ∧
      (checkEntry input directory).choice = some c.entry ∧
      c.inference = inferenceOf input.inference ∧ c.verbose = input.verbose.getD false := by
  constructor
  · intro valid
    unfold validate at valid
    simp only at valid
    split at valid
    · next sound runtime packages entry =>
        cases valid
        exact ⟨sound, runtime, packages, entry, rfl, rfl⟩
    · cases valid
  · rintro ⟨sound, runtime, packages, entry, inference, verbose⟩
    unfold violations at sound
    unfold validate
    simp only [sound, runtime, packages, entry]
    rw [← inference, ← verbose]

/-- An input with which nothing is wrong makes a configuration. -/
theorem exists_validate_eq_ok (sound : violations input directory = []) :
    ∃ c, validate input directory = .ok c := by
  obtain ⟨front, entry⟩ := List.append_eq_nil_iff.mp sound
  obtain ⟨runtime, packages⟩ := List.append_eq_nil_iff.mp front
  obtain ⟨_, chosenRuntime⟩ := Option.isSome_iff_exists.mp (Checked.choice_isSome _ runtime)
  obtain ⟨_, chosenPackages⟩ := Option.isSome_iff_exists.mp (Checked.choice_isSome _ packages)
  obtain ⟨_, chosenEntry⟩ := Option.isSome_iff_exists.mp (Checked.choice_isSome _ entry)
  unfold violations at sound
  simp [validate, sound, chosenRuntime, chosenPackages, chosenEntry]

/-- Whatever is wrong with an input is reported, and nothing is chosen then. -/
theorem validate_eq_error (unsound : violations input directory ≠ []) :
    validate input directory = .error (violations input directory) := by
  unfold validate
  simp only
  split
  · next sound _ _ _ => exact absurd sound unsound
  · rfl

/-- Without a configuration, something is wrong, and that is what is reported. -/
theorem of_validate_eq_error {vs : List Violation} (wrong : validate input directory = .error vs) :
    vs = violations input directory ∧ vs ≠ [] := by
  have unsound : violations input directory ≠ [] := fun sound => by
    obtain ⟨c, valid⟩ := exists_validate_eq_ok sound
    cases wrong.symm.trans valid
  cases (validate_eq_error unsound).symm.trans wrong
  exact ⟨rfl, unsound⟩

omit [Host] in
theorem hasErrors_reportOf {vs : List Violation} (some : vs ≠ []) : (reportOf vs).hasErrors := by
  obtain ⟨v, rest, rfl⟩ := List.exists_cons_of_ne_nil some
  simp [reportOf, Report.hasErrors]

theorem mem_violations : v ∈ violations input directory ↔ v.Applies input := by
  have listed : v ∈ violations input directory ↔ v ∈ input.rules ∧ v.Applies input := by
    rw [violations, violations_checkRuntime, violations_checkPackages, violations_checkEntry,
      ConfigurationInput.rules]
    simp only [List.mem_append, List.mem_filter, mem_mockViolations_mockUnits, decide_eq_true_eq]
    tauto
  exact listed.trans (and_iff_right_of_imp Violation.Applies.mem_rules)

/-- With the same result of validation, the same is wrong. -/
theorem violations_eq_of_validate_eq {other : ConfigurationInput}
    (same : validate input directory = validate other directory) :
    violations input directory = violations other directory := by
  cases validated : validate other directory with
  | ok c =>
      rw [(accepts_of_validate validated).sound, (accepts_of_validate (same.trans validated)).sound]
  | error vs =>
      rw [← (of_validate_eq_error validated).1, ← (of_validate_eq_error (same.trans validated)).1]

theorem violations_sublist : (violations input directory).Sublist input.rules := by
  rw [violations, violations_checkRuntime, violations_checkPackages, violations_checkEntry]
  exact ((List.filter_sublist.append (mockViolations_sublist _)).append
    List.filter_sublist).append List.filter_sublist

end Configuration

/-- Where the units of a mock runtime library have different identifiers, nothing that can be wrong
with an input is listed twice. -/
theorem ConfigurationInput.nodup_rules {input : ConfigurationInput}
    (distinct : (input.mockUnits.map Prod.fst).Nodup) : input.rules.Nodup := by
  have units : (input.mockUnits.flatMap Violation.ofUnit).Nodup := by
    refine List.nodup_flatMap.mpr ⟨fun unit _ => by simp [Violation.ofUnit], ?_⟩
    refine (List.pairwise_map.mp distinct).imp fun {first second} different => ?_
    simp [Function.onFun, Violation.ofUnit, Ne.symm different]
  have ofUnits {v : Violation} (member : v ∈ input.mockUnits.flatMap Violation.ofUnit) :
      ∃ identifier, v = .mockScheme identifier ∨ v = .mockContents identifier := by
    obtain ⟨unit, _, kind⟩ := List.mem_flatMap.mp member
    exact ⟨unit.1, by simpa [Violation.ofUnit] using kind⟩
  have runtime : (Violation.ofRuntime ++ input.mockUnits.flatMap Violation.ofUnit).Nodup := by
    refine List.Nodup.append (by decide) units fun v front member => ?_
    obtain ⟨_, rfl | rfl⟩ := ofUnits member <;> simp [Violation.ofRuntime] at front
  have front : (Violation.ofRuntime ++ input.mockUnits.flatMap Violation.ofUnit ++
      Violation.ofPackages).Nodup := by
    refine runtime.append (by decide) fun v member behind => ?_
    rcases List.mem_append.mp member with own | unit
    · exact (by decide : ∀ v ∈ Violation.ofRuntime, v ∉ Violation.ofPackages) v own behind
    · obtain ⟨_, rfl | rfl⟩ := ofUnits unit <;> simp [Violation.ofPackages] at behind
  refine front.append (by decide) fun v member behind => ?_
  cases List.mem_singleton.mp behind
  simp [Violation.ofRuntime, Violation.ofUnit, Violation.ofPackages] at member

namespace Configuration

variable {input : ConfigurationInput} {directory : String} {v : Violation}

/-! ## Paths -/

/-- The paths of a configuration. -/
def paths (c : Configuration) : List String :=
  (match c.runtime with
    | .mock _ => []
    | .directory path => [path]) ++
  c.packages.roots ++
  (match c.entry with
    | .explicit file => file.toList
    | .implicit file => [file])

end Configuration

/-- The paths of an input, with the root of packages that stands for one that is not given. -/
def ConfigurationInput.paths (input : ConfigurationInput) : List String :=
  input.runtimePath.toList ++ input.packageRoots.getD [] ++
    [input.packageRoot.getD Configuration.defaultPackageRoot] ++ input.entryPointFile.toList

namespace Configuration

variable [Host]

/-- The paths of a configuration are those of the input, counted from the directory. -/
theorem Accepts.exists_of_mem_paths {c : Configuration} (accepts : Accepts input directory c)
    {path : String} (member : path ∈ c.paths) :
    ∃ given ∈ input.paths, path = Path.resolve directory given := by
  obtain ⟨runtime, packages, entry, _, _⟩ := c
  simp only [paths, List.mem_append] at member
  rcases member with (ofRuntime | ofPackages) | ofEntry
  · cases accepts.runtime with
    | mock => cases ofRuntime
    | directory mode given =>
        cases List.mem_singleton.mp ofRuntime
        exact ⟨_, by simp [ConfigurationInput.paths, given], rfl⟩
  · cases accepts.packages with
    | several mode given =>
        obtain ⟨root, listed, rfl⟩ := List.mem_map.mp ofPackages
        exact ⟨root, by simp [ConfigurationInput.paths, given, listed], rfl⟩
    | single mode =>
        cases List.mem_singleton.mp ofPackages
        exact ⟨_, by simp [ConfigurationInput.paths], rfl⟩
  · cases accepts.entry with
    | implicit mode given =>
        cases List.mem_singleton.mp ofEntry
        exact ⟨_, by simp [ConfigurationInput.paths, given], rfl⟩
    | explicit mode given filled =>
        cases List.mem_singleton.mp ofEntry
        exact ⟨_, by simp [ConfigurationInput.paths, given], rfl⟩
    | none mode missing => cases ofEntry

/-- A mock runtime library is chosen where it is asked for, and has the units of the input. -/
theorem Accepts.runtime_eq_mock_iff {c : Configuration} (accepts : Accepts input directory c)
    {sources : List (String × String)} :
    c.runtime = .mock sources ↔ input.useMockRuntime = some true ∧
      input.mockRuntime = some (sources.map fun source => (source.1, .string source.2)) := by
  have runtime := accepts.runtime
  generalize c.runtime = choice at runtime ⊢
  cases runtime with
  | @mock units mode given =>
      have sound : mockViolations input.mockUnits = [] := by
        refine List.eq_nil_iff_forall_not_mem.mpr fun v member => ?_
        have applies := (mem_mockViolations_mockUnits.mp member).2
        exact List.not_mem_nil (accepts.sound ▸ mem_violations.mpr applies)
      have same : units = (mockSources units).map fun source => (source.1, .string source.2) :=
        eq_map_mockSources (by simpa [ConfigurationInput.mockUnits, mode, given] using sound)
      have injective : Function.Injective
          fun source : String × String => (source.1, Json.string source.2) := by
        rintro ⟨first, text⟩ ⟨second, other⟩ equal
        simpa using equal
      rw [RuntimeChoice.mock.injEq, given, Option.some.injEq]
      exact ⟨fun chosen => ⟨mode, chosen ▸ same⟩,
        fun taken => List.map_injective_iff.mpr injective (same.symm.trans taken.2)⟩
  | directory mode given => exact iff_of_false nofun fun asked => mode asked.1

/-- Validation is exact: there is a configuration if nothing is wrong with an input, and a report of
all that is wrong otherwise, which tells every violation once and in its place. The paths of a
configuration are absolute, and its mock runtime library has the units of the input. -/
theorem validate_exact (input : ConfigurationInput) (directory : String) :
    ((∃ c, validate input directory = .ok c) ↔ ∀ v : Violation, ¬ v.Applies input) ∧
    (∀ vs, validate input directory = .error vs →
      (reportOf vs).hasErrors ∧ (∀ v : Violation, v ∈ vs ↔ v.Applies input) ∧
        vs.Sublist input.rules ∧
        ((input.mockUnits.map Prod.fst).Nodup → (reportOf vs).diagnostics.Nodup)) ∧
    (∀ c, validate input directory = .ok c →
      (∀ path ∈ c.paths, Path.isAbsolute path.toList ∧
        ∃ given ∈ input.paths, path = Path.resolve directory given) ∧
      ∀ sources, c.runtime = .mock sources ↔ input.useMockRuntime = some true ∧
        input.mockRuntime = some (sources.map fun source => (source.1, .string source.2))) := by
  refine ⟨?_, fun vs wrong => ?_, fun c valid => ?_⟩
  · rw [← List.eq_nil_iff_forall_not_mem.trans (forall_congr' fun v => not_congr mem_violations)]
    exact ⟨fun ⟨c, valid⟩ => (accepts_of_validate valid).sound, exists_validate_eq_ok⟩
  · obtain ⟨rfl, unsound⟩ := of_validate_eq_error wrong
    refine ⟨hasErrors_reportOf unsound, fun v => mem_violations, violations_sublist,
      fun distinct => ?_⟩
    exact (violations_sublist.nodup (ConfigurationInput.nodup_rules distinct)).map
      Violation.diagnostic_injective
  · have accepts := accepts_of_validate valid
    refine ⟨fun path member => ?_, fun sources => accepts.runtime_eq_mock_iff⟩
    obtain ⟨given, listed, rfl⟩ := accepts.exists_of_mem_paths member
    exact ⟨by simp [Path.resolve, Path.isAbsolute_resolveFrom], given, listed, rfl⟩

end Configuration
end UnitResolution
