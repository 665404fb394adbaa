import UnitResolution.CommandLine.Arguments
import UnitResolution.Configuration.ProjectFile
import UnitResolution.Proofs.Configuration.Validation

/-!
# Paths that are located early

The paths of a project file are counted from its directory when the file is read, and those of the
options when they replace a mode, so that validation gets them as absolute ones
(`UnitResolution.ConfigurationInput.located`). Nearly always it makes no difference whether they are
located early or by validation itself, since an absolute path stays as it is
(`UnitResolution.Path.resolve_resolve`).

It makes one for a blank path: located, it is the directory itself, and no longer blank. The units
of a mock runtime library are set one by one when a project file is read, and one name cannot be
set. The theorem `UnitResolution.Configuration.validate_located` says exactly which inputs are not
affected (`UnitResolution.ConfigurationInput.IsLocatable`).
-/

namespace UnitResolution

namespace Path

/-- A path that has been made absolute is not blank. -/
theorem isAllBlank_resolve [Host] (directory p : String) :
    Text.isAllBlank (resolve directory p) = false := by
  simp [resolve, Text.isAllBlank, resolveFrom, workedOut, ofSegments, Text.isBlank]

end Path

/-! ## Locating -/

section

variable [Host]

/-- A path counted from a directory, or as it is. -/
def locate (early : Bool) (directory p : String) : String :=
  if early then Path.resolve directory p else p

theorem locate_false (directory : String) : locate false directory = id := rfl

theorem locate_true (directory : String) : locate true directory = Path.resolve directory := rfl

theorem resolve_locate (early : Bool) (directory p : String) :
    Path.resolve directory (locate early directory p) = Path.resolve directory p := by
  cases early with
  | false => rfl
  | true => exact Path.resolve_resolve directory directory p

theorem isAllBlank_locate (early : Bool) (directory p : String) :
    Text.isAllBlank (locate early directory p) = (!early && Text.isAllBlank p) := by
  cases early with
  | false => rfl
  | true => exact Path.isAllBlank_resolve directory p

theorem isAllBlank_locate_of_filled {early : Bool} {p : String}
    (filled : early → ¬ Text.isAllBlank p) (directory : String) :
    Text.isAllBlank (locate early directory p) = Text.isAllBlank p := by
  rw [isAllBlank_locate]
  cases early with
  | false => rfl
  | true => simp [filled]

/-- Parts of an input. -/
structure Parts where
  runtime : Bool
  packages : Bool
  entry : Bool

/-- All parts of an input. -/
def Parts.all : Parts := ⟨true, true, true⟩

namespace ConfigurationInput

/-- An input that has been read with some parts counted from a directory: with absolute paths, and
without the unit whose name cannot be set. -/
def located (parts : Parts) (directory : String) (input : ConfigurationInput) :
    ConfigurationInput :=
  { input with
    runtimePath := input.runtimePath.map (locate parts.runtime directory)
    mockRuntime := input.mockRuntime.map fun units =>
      units.filter fun unit => !parts.runtime || unit.1 ≠ ProjectFile.unsettable
    entryPointFile := input.entryPointFile.map (locate parts.entry directory)
    packageRoots := input.packageRoots.map (·.map (locate parts.packages directory))
    packageRoot := input.packageRoot.map (locate parts.packages directory) }

/-- What the parts of an input use can be located early: their paths are not blank, and their units
can be set. A blank path of an entry for which no document is served is not used, but it is part of
the configuration if there is one. -/
structure IsLocatable (parts : Parts) (input : ConfigurationInput) : Prop where
  units : parts.runtime → ∀ unit ∈ input.mockUnits, unit.1 ≠ ProjectFile.unsettable
  runtime : parts.runtime → input.useMockRuntime ≠ some true →
    ∀ path, input.runtimePath = some path → ¬ Text.isAllBlank path
  several : parts.packages → input.useMultiRoot = some true →
    ∀ root ∈ input.packageRoots.getD [], ¬ Text.isAllBlank root
  single : parts.packages → input.useMultiRoot ≠ some true →
    ∀ root, input.packageRoot = some root → ¬ Text.isAllBlank root
  entry : parts.entry →
    input.useImplicitEntry = some true ∨ (∀ v : Violation, ¬ v.Applies input) →
    ∀ path, input.entryPointFile = some path → ¬ Text.isAllBlank path

end ConfigurationInput

namespace Configuration

variable {parts : Parts} {directory : String} {input : ConfigurationInput} {v : Violation}

/-- A located path is not missing. -/
theorem not_isMissing_of_early {early : Bool} {field : Option String} {path : String}
    (located : early = true) (given : field = some path) :
    ¬ IsMissing (field.map (locate early directory)) := by
  intro missing
  rw [given] at missing
  have blank : Text.isAllBlank (locate early directory path) = true := missing
  rw [isAllBlank_locate, located] at blank
  cases blank

theorem mockUnits_located : (input.located parts directory).mockUnits =
    input.mockUnits.filter fun unit => !parts.runtime || unit.1 ≠ ProjectFile.unsettable := by
  unfold ConfigurationInput.located ConfigurationInput.mockUnits
  by_cases mode : input.useMockRuntime = some true <;> cases input.mockRuntime <;> simp [mode]

theorem packageRoots_located : (input.located parts directory).packageRoots.getD [] =
    (input.packageRoots.getD []).map (locate parts.packages directory) := by
  unfold ConfigurationInput.located
  cases input.packageRoots <;> rfl

/-- Nothing is wrong with a located input that is not wrong with the input itself. -/
theorem applies_of_located (applies : v.Applies (input.located parts directory)) :
    v.Applies input := by
  have kept {units} (member : units ∈ (input.located parts directory).mockUnits) :
      units ∈ input.mockUnits := by
    rw [mockUnits_located] at member
    exact List.mem_of_mem_filter member
  have missing {part : Bool} {field : Option String}
      (missing : IsMissing (field.map (locate part directory))) : IsMissing field := by
    cases field with
    | none => rfl
    | some p =>
        have blank : Text.isAllBlank (locate part directory p) := missing
        rw [isAllBlank_locate, Bool.and_eq_true] at blank
        exact blank.2
  cases v with
  | noRuntimePath => exact applies.imp_right missing
  | blankPackageRoot =>
      refine ⟨applies.1, ?_, missing applies.2.2⟩
      rw [← Option.isSome_map]
      exact applies.2.1
  | noEntry => exact applies.imp_right missing
  | mockScheme identifier | mockContents identifier =>
      obtain ⟨unit, member, rest⟩ := applies
      exact ⟨unit, kept member, rest⟩
  | noPackageRoots =>
      rw [Violation.Applies, packageRoots_located, List.map_eq_nil_iff] at applies
      exact applies
  | blankPackageRoots =>
      rw [Violation.Applies, packageRoots_located] at applies
      obtain ⟨mode, _, member, blank⟩ := applies
      obtain ⟨root, listed, rfl⟩ := List.mem_map.mp member
      rw [isAllBlank_locate, Bool.and_eq_true] at blank
      exact ⟨mode, root, listed, blank.2⟩
  | _ => simpa [Violation.Applies, ConfigurationInput.located] using applies

/-! ## The checks -/

theorem checkRuntime_located
    (units : parts.runtime → ∀ unit ∈ input.mockUnits, unit.1 ≠ ProjectFile.unsettable)
    (filled : parts.runtime → input.useMockRuntime ≠ some true →
      ∀ path, input.runtimePath = some path → ¬ Text.isAllBlank path) :
    checkRuntime (input.located parts directory) directory = checkRuntime input directory := by
  obtain ⟨use, path, list⟩ := input
  by_cases mode : use = some true
  · cases list with
    | none => simp [checkRuntime, ConfigurationInput.located, mode]
    | some list =>
        have same : list.filter
            (fun unit => !parts.runtime || unit.1 ≠ ProjectFile.unsettable) = list := by
          rw [ConfigurationInput.mockUnits, if_pos mode] at units
          refine List.filter_eq_self.mpr fun unit member => ?_
          cases located : parts.runtime with
          | false => rfl
          | true => simpa using units located unit member
        simp only [checkRuntime, ConfigurationInput.located, mode, if_true, Option.map_some, same,
          Option.isSome_map]
  · cases path with
    | none => simp [checkRuntime, ConfigurationInput.located, mode]
    | some path =>
        have same := isAllBlank_locate_of_filled (fun early => filled early mode path rfl) directory
        simp [checkRuntime, ConfigurationInput.located, mode, same, resolve_locate]

theorem checkPackages_located
    (several : parts.packages → input.useMultiRoot = some true →
      ∀ root ∈ input.packageRoots.getD [], ¬ Text.isAllBlank root)
    (single : parts.packages → input.useMultiRoot ≠ some true →
      ∀ root, input.packageRoot = some root → ¬ Text.isAllBlank root) :
    checkPackages (input.located parts directory) directory = checkPackages input directory := by
  obtain ⟨_, _, _, _, _, use, roots, root⟩ := input
  by_cases mode : use = some true
  · rcases roots with _ | _ | ⟨first, rest⟩
    · simp [checkPackages, ConfigurationInput.located, mode]
    · simp [checkPackages, ConfigurationInput.located, mode]
    · have blank : ((first :: rest).map (locate parts.packages directory)).any Text.isAllBlank =
          (first :: rest).any Text.isAllBlank := by
        rw [List.any_map, Bool.eq_iff_iff, List.any_eq_true, List.any_eq_true]
        refine exists_congr fun root => and_congr_right fun member => ?_
        rw [Function.comp,
          isAllBlank_locate_of_filled fun early => several early mode root member]
      have resolved : ((first :: rest).map (locate parts.packages directory)).map
          (Path.resolve directory) = (first :: rest).map (Path.resolve directory) := by
        simp [resolve_locate]
      rw [List.map_cons] at blank resolved
      simp only [checkPackages, ConfigurationInput.located, mode, if_true, Option.map_some,
        Option.isSome_map, List.map_cons, blank, resolved]
  · cases root with
    | none => simp [checkPackages, ConfigurationInput.located, mode]
    | some root =>
        have same := isAllBlank_locate_of_filled (fun early => single early mode root rfl) directory
        simp [checkPackages, ConfigurationInput.located, mode, same, resolve_locate]

theorem checkEntry_located
    (filled : parts.entry → ∀ path, input.entryPointFile = some path → ¬ Text.isAllBlank path) :
    checkEntry (input.located parts directory) directory = checkEntry input directory := by
  obtain ⟨_, _, _, use, file⟩ := input
  cases file with
  | none => rfl
  | some path =>
      have same := isAllBlank_locate_of_filled (fun early => filled early path rfl) directory
      simp [checkEntry, ConfigurationInput.located, same, resolve_locate]

/-- What can be located early is validated with the same result. -/
theorem validate_located_of_isLocatable (locatable : input.IsLocatable parts) :
    validate (input.located parts directory) directory = validate input directory := by
  have runtime : checkRuntime (input.located parts directory) directory = _ :=
    checkRuntime_located locatable.units locatable.runtime
  have packages : checkPackages (input.located parts directory) directory = _ :=
    checkPackages_located locatable.several locatable.single
  by_cases filled : parts.entry → ∀ path, input.entryPointFile = some path → ¬ Text.isAllBlank path
  · have entry : checkEntry (input.located parts directory) directory = _ :=
      checkEntry_located filled
    unfold validate
    rw [runtime, packages, entry]
    rfl
  · -- an entry that is not used is blank, so something else is wrong
    push Not at filled
    obtain ⟨early, path, given, blank⟩ := filled
    have unused : ¬ (input.useImplicitEntry = some true ∨ ∀ v : Violation, ¬ v.Applies input) :=
      fun used => locatable.entry early used path given blank
    push Not at unused
    obtain ⟨explicit, v, wrong⟩ := unused
    have unsound : violations input directory ≠ [] :=
      List.ne_nil_of_mem (mem_violations.mpr wrong)
    have same : violations (input.located parts directory) directory =
        violations input directory := by
      unfold violations
      rw [runtime, packages, violations_checkEntry, violations_checkEntry]
      simp [Violation.ofEntry, Violation.Applies, ConfigurationInput.located, explicit]
    rw [validate_eq_error unsound, validate_eq_error (same ▸ unsound), same]

/-- Validation has the same result for a located input and for the input itself exactly if what the
located parts use can be located early. -/
theorem validate_located_iff :
    validate (input.located parts directory) directory = validate input directory ↔
      input.IsLocatable parts := by
  refine ⟨fun same => ?_, validate_located_of_isLocatable⟩
  have stays {v : Violation} (applies : v.Applies input) :
      v.Applies (input.located parts directory) := by
    rw [← mem_violations, violations_eq_of_validate_eq same, mem_violations]
    exact applies
  refine ⟨fun early unit member unsettable => ?_, fun early mode path given blank => ?_,
    fun early mode root member blank => ?_, fun early mode root given blank => ?_,
    fun early why path given blank => ?_⟩
  · have foreign : ¬ IsRuntimeUnit unit.1 := by
      rw [unsettable]
      decide
    obtain ⟨other, kept, named, _⟩ :=
      stays (v := .mockScheme unit.1) ⟨unit, member, rfl, foreign⟩
    rw [mockUnits_located, List.mem_filter, early, named, unsettable] at kept
    simp at kept
  · have missing := (stays (v := .noRuntimePath) ⟨mode, by rwa [given]⟩).2
    exact not_isMissing_of_early early given missing
  · obtain ⟨_, _, kept, blank'⟩ := stays (v := .blankPackageRoots) ⟨mode, root, member, blank⟩
    rw [packageRoots_located] at kept
    obtain ⟨_, _, rfl⟩ := List.mem_map.mp kept
    rw [isAllBlank_locate, early] at blank'
    cases blank'
  · have missing := (stays (v := .blankPackageRoot) ⟨mode, by rw [given]; rfl, by rwa [given]⟩).2.2
    exact not_isMissing_of_early early given missing
  · rcases why with implicit | sound
    · have missing := (stays (v := .noEntry) ⟨implicit, by rwa [given]⟩).2
      exact not_isMissing_of_early early given missing
    · -- one of the configurations has an entry file, and the other one has none
      have silent : violations input directory = [] :=
        List.eq_nil_iff_forall_not_mem.mpr fun v member => sound v (mem_violations.mp member)
      obtain ⟨c, valid⟩ := exists_validate_eq_ok silent
      have chosen := (accepts_of_validate valid).entry
      have chosen' := (accepts_of_validate (same.trans valid)).entry
      generalize c.entry = choice at chosen chosen'
      cases chosen with
      | implicit mode given' => exact sound .noEntry ⟨mode, by rwa [given]⟩
      | explicit mode given' filled =>
          cases given.symm.trans given'
          exact filled blank
      | none mode missing =>
          cases chosen' with
          | none mode' missing' => exact not_isMissing_of_early early given missing'

end Configuration

end

/-! ## Project files -/

namespace ProjectFile

open Json

/-- The members of an object are the fields of an input, each with a value of the kind that it must
have. There may be others. -/
structure Describes (members : List (String × Json)) (input : ConfigurationInput) : Prop where
  useMockRuntime : members.lookup "useMockRuntime" = input.useMockRuntime.map .bool
  runtimePath : members.lookup "runtimePath" = input.runtimePath.map .string
  mockRuntime : members.lookup "mockRuntime" = input.mockRuntime.map .object
  texts : ∀ unit ∈ input.mockRuntime.getD [], ∃ text, unit.2 = .string text
  useImplicitEntry : members.lookup "useImplicitEntry" = input.useImplicitEntry.map .bool
  entryPointFile : members.lookup "entryPointFile" = input.entryPointFile.map .string
  useMultiRoot : members.lookup "useMultiRoot" = input.useMultiRoot.map .bool
  packageRoots : members.lookup "packageRoots" =
    input.packageRoots.map fun roots => .array (roots.map .string)
  packageRoot : members.lookup "packageRoot" = input.packageRoot.map .string
  inference : match input.inference with
    | none => members.lookup "inference" = none
    | some inference => ∃ options, members.lookup "inference" = some (.object options) ∧
        options.lookup "inferTransitively" = inference.followImports.map .bool ∧
        options.lookup "onlyInferConstants" = inference.onlyConstants.map .bool
  verbose : members.lookup "verbose" = input.verbose.map .bool

theorem readBoolean_map (field : String) (value : Option Bool) :
    readBoolean field (value.map .bool) = pure value := by
  cases value <;> rfl

theorem readPath_map [Host] (directory field : String) (path : Option String) :
    readPath directory field (path.map .string) = pure (path.map (Path.resolve directory)) := by
  cases path <;> rfl

theorem texts?_map (texts : List String) : texts? (texts.map .string) = some texts := by
  induction texts with
  | nil => rfl
  | cons text rest ih => rw [List.map_cons, texts?, ih]; rfl

theorem readPaths_map [Host] (directory field : String) (paths : Option (List String)) :
    readPaths directory field (paths.map fun list => .array (list.map .string)) =
      pure (paths.map (·.map (Path.resolve directory))) := by
  cases paths with
  | none => rfl
  | some list => simp only [Option.map_some, readPaths, texts?_map]

theorem readUnits_of_texts {units : List (String × Json)}
    (texts : ∀ unit ∈ units, ∃ text, unit.2 = .string text) :
    readUnits units = pure (units.filter (·.1 ≠ unsettable)) := by
  induction units with
  | nil => rfl
  | cons unit rest ih =>
      obtain ⟨identifier, contents⟩ := unit
      obtain ⟨⟨text, rfl⟩, others⟩ := List.forall_mem_cons.mp texts
      rw [readUnits, ih others, pure_bind]
      by_cases same : identifier = unsettable <;> simp [same]

theorem readMockRuntime_of_texts {units : Option (List (String × Json))}
    (texts : ∀ unit ∈ units.getD [], ∃ text, unit.2 = .string text) :
    readMockRuntime (units.map .object) = pure (units.map (·.filter (·.1 ≠ unsettable))) := by
  cases units with
  | none => rfl
  | some list =>
      have read : readUnits list = pure (list.filter (·.1 ≠ unsettable)) :=
        readUnits_of_texts texts
      rw [Option.map_some, readMockRuntime, read, pure_bind]
      rfl

/-- An object that describes an input is read as the input with all its parts located. -/
theorem read_of_describes [Host] {members : List (String × Json)} {input : ConfigurationInput}
    (describes : Describes members input) (directory : String) :
    read (some (.object members)) directory = .ok (input.located .all directory) := by
  have inference : readInference (members.lookup "inference") = pure input.inference := by
    have given := describes.inference
    cases asked : input.inference with
    | none =>
        rw [asked] at given
        rw [given]
        rfl
    | some inference =>
        rw [asked] at given
        obtain ⟨options, listed, follow, constants⟩ := given
        rw [listed, readInference, follow, constants, readBoolean_map, readBoolean_map, pure_bind,
          pure_bind]
  have fields : readFields directory members = pure (input.located .all directory) := by
    unfold readFields
    simp only [describes.useMockRuntime, describes.runtimePath, describes.mockRuntime,
      describes.useImplicitEntry, describes.entryPointFile, describes.useMultiRoot,
      describes.packageRoots, describes.packageRoot, describes.verbose, inference,
      readBoolean_map, readPath_map, readPaths_map, readMockRuntime_of_texts describes.texts,
      pure_bind]
    rfl
  unfold read
  simp only [fields]
  rfl

end ProjectFile

/-! ## Options -/

namespace CommandLine.Options

/-- The parts of an input that options replace. -/
def parts (o : Options) : Parts :=
  ⟨o.runtime.isSome, o.packageRoots.isSome || o.packageRoot.isSome, o.entry.isSome⟩

/-- An input with the options in the place of the modes that they replace, their paths as they have
been typed. -/
def applyTyped (o : Options) (input : ConfigurationInput) : ConfigurationInput where
  useMockRuntime := if o.runtime.isSome then some false else input.useMockRuntime
  runtimePath := o.runtime <|> input.runtimePath
  mockRuntime := if o.runtime.isSome then none else input.mockRuntime
  useImplicitEntry := if o.entry.isSome then some true else input.useImplicitEntry
  entryPointFile := o.entry <|> input.entryPointFile
  useMultiRoot :=
    if o.packageRoots.isSome then some true
    else if o.packageRoot.isSome then some false
    else input.useMultiRoot
  packageRoots :=
    if o.packageRoots.isSome || o.packageRoot.isSome then o.packageRoots else input.packageRoots
  packageRoot :=
    if o.packageRoots.isSome then none
    else o.packageRoot <|> input.packageRoot
  inference := (o.applyInference input).inference
  verbose := if o.verbose then some true else input.verbose

/-- No path of the options that takes effect is blank. -/
structure IsFilled (o : Options) : Prop where
  runtime : ∀ path, o.runtime = some path → ¬ Text.isAllBlank path
  several : ∀ roots, o.packageRoots = some roots → ∀ root ∈ roots, ¬ Text.isAllBlank root
  single : o.packageRoots = none → ∀ root, o.packageRoot = some root → ¬ Text.isAllBlank root
  entry : ∀ path, o.entry = some path → ¬ Text.isAllBlank path

/-- Options are put in the place of modes with their paths located. -/
theorem applyTo_eq_located [Host] (o : Options) (directory : String) (input : ConfigurationInput) :
    o.applyTo directory input = (o.applyTyped input).located o.parts directory := by
  have inference (other : ConfigurationInput) (same : other.inference = input.inference) :
      o.applyInference other =
        { other with inference := (o.applyInference input).inference } := by
    unfold applyInference
    rw [same]
    split
    · rfl
    · rw [← same]
  have kept : (o.applyEntry directory
      (o.applyPackages directory (o.applyRuntime directory input))).inference =
        input.inference := by
    unfold applyEntry applyPackages applyRuntime
    cases o.entry <;> cases o.packageRoots <;> cases o.packageRoot <;> cases o.runtime <;> rfl
  simp only [applyTo, inference _ kept]
  unfold applyEntry applyPackages applyRuntime applyTyped ConfigurationInput.located parts
  cases o.entry <;> cases o.packageRoots <;> cases o.packageRoot <;> cases o.runtime <;>
    cases o.verbose <;> simp [locate_false, locate_true]

theorem isLocatable_applyTyped (o : Options) (input : ConfigurationInput) :
    (o.applyTyped input).IsLocatable o.parts ↔ o.IsFilled := by
  obtain ⟨_, _, _, runtime, root, roots, entry, _, _⟩ := o
  constructor
  · intro locatable
    refine ⟨?_, ?_, ?_, ?_⟩
    · rintro path rfl
      exact locatable.runtime rfl nofun path rfl
    · rintro list rfl root member
      exact locatable.several rfl rfl root member
    · rintro rfl path rfl
      exact locatable.single rfl nofun path rfl
    · rintro path rfl
      exact locatable.entry rfl (.inl rfl) path rfl
  · intro filled
    refine ⟨?_, ?_, ?_, ?_, ?_⟩
    · intro replaced unit member
      obtain ⟨path, rfl⟩ := Option.isSome_iff_exists.mp replaced
      cases member
    · intro replaced _ path given
      obtain ⟨typed, rfl⟩ := Option.isSome_iff_exists.mp replaced
      cases given
      exact filled.runtime path rfl
    · intro replaced mode other member
      cases roots with
      | some list => exact filled.several list rfl other member
      | none =>
          obtain ⟨typed, rfl⟩ := Option.isSome_iff_exists.mp replaced
          cases mode
    · intro replaced mode other given
      cases roots with
      | some list => exact absurd rfl mode
      | none =>
          obtain ⟨typed, rfl⟩ := Option.isSome_iff_exists.mp replaced
          cases given
          exact filled.single rfl other rfl
    · intro replaced _ path given
      obtain ⟨typed, rfl⟩ := Option.isSome_iff_exists.mp replaced
      cases given
      exact filled.entry path rfl

end CommandLine.Options

namespace Configuration

open CommandLine (Options)

/-- Whether the paths of a project file and of options are located before validation or by it makes
no difference exactly if what is located is not blank, and no unit of a project file has the name
that cannot be set. Otherwise more inputs are accepted, never fewer. -/
theorem validate_located [Host] (directory : String) :
    (∀ (members : List (String × Json)) (input : ConfigurationInput),
      ProjectFile.Describes members input → ∃ loaded,
        ProjectFile.read (some (.object members)) directory = .ok loaded ∧
        (validate loaded directory = validate input directory ↔ input.IsLocatable .all) ∧
        ∀ v : Violation, v.Applies loaded → v.Applies input) ∧
    ∀ (o : Options) (input : ConfigurationInput),
      (validate (o.applyTo directory input) directory =
        validate (o.applyTyped input) directory ↔ o.IsFilled) ∧
      ∀ v : Violation, v.Applies (o.applyTo directory input) → v.Applies (o.applyTyped input) := by
  refine ⟨fun members input describes => ⟨_, ProjectFile.read_of_describes describes directory,
    validate_located_iff, fun v => applies_of_located⟩, fun o input => ?_⟩
  rw [o.applyTo_eq_located]
  exact ⟨validate_located_iff.trans (o.isLocatable_applyTyped input), fun v => applies_of_located⟩

/-- A blank path of a runtime library is wrong as it is, and names the directory itself where it has
been located. -/
theorem validate_located_of_blank :
    let blank : ConfigurationInput := { runtimePath := some "" }
    let o : Options := { runtime := some "" }
    validate blank "/work" = .error [.noRuntimePath] ∧
    (∃ loaded, ProjectFile.read (some (.object [("runtimePath", .string "")])) "/work" =
        .ok loaded ∧ validate loaded "/work" ≠ validate blank "/work") ∧
    validate (o.applyTo "/work" {}) "/work" ≠ validate (o.applyTyped {}) "/work" ∧
    (validate (o.applyTo "/work" {}) "/work").map (·.runtime) = .ok (.directory "/work") := by
  intro blank o
  obtain ⟨files, options⟩ := validate_located "/work"
  refine ⟨by decide, ?_, ?_, ?_⟩
  · have describes : ProjectFile.Describes [("runtimePath", .string "")] blank := by
      constructor <;> simp [blank, List.lookup_cons]
    obtain ⟨loaded, read, same, _⟩ := files _ blank describes
    exact ⟨loaded, read, fun equal => (same.mp equal).runtime rfl (by decide) "" rfl rfl⟩
  · exact fun equal => ((options o {}).1.mp equal).runtime "" rfl rfl
  · decide

end Configuration

end UnitResolution
