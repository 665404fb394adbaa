import UnitResolution.Proofs.Configuration.Located

/-!
# Settled configurations

A configuration says the same as the input with its choices and nothing else
(`UnitResolution.Configuration.toInput`). In a configuration that comes of validation nothing is
left to be worked out (`UnitResolution.Configuration.IsSettled`): its paths are in the form that
they keep from wherever they are counted, several roots are at least one, and the units of its mock
runtime library are named like such units. This is all that validation looks at, so validation of a
configuration gives it back, in any directory
(`UnitResolution.Configuration.validate_toInput_of_validate`).
-/

namespace UnitResolution

namespace Path

/-- A path is the same from wherever it is counted if it is in its absolute form. -/
theorem resolve_eq_self [Host] {p : String} (absolute : absoluteString p = p) (directory : String) :
    resolve directory p = p := by
  have counted : p = resolve (String.ofList workingDirectory) p := by
    rw [resolve, String.toList_ofList]
    exact absolute.symm
  rw [counted]
  exact resolve_resolve directory _ p

end Path

namespace Configuration

/-- The input that asks for a configuration: the fields of its modes, and all other fields that a
configuration has. -/
def toInput (c : Configuration) : ConfigurationInput :=
  let rest : ConfigurationInput := {
    inference := some {
      followImports := some c.inference.followImports
      onlyConstants := some c.inference.onlyConstants }
    verbose := some c.verbose }
  let rest : ConfigurationInput :=
    match c.runtime with
    | .mock sources => { rest with
        useMockRuntime := some true
        mockRuntime := some (sources.map fun source => (source.1, .string source.2)) }
    | .directory path => { rest with useMockRuntime := some false, runtimePath := some path }
  let rest : ConfigurationInput :=
    match c.packages with
    | .single root => { rest with useMultiRoot := some false, packageRoot := some root }
    | .several roots => { rest with useMultiRoot := some true, packageRoots := some roots }
  match c.entry with
  | .explicit file => { rest with useImplicitEntry := some false, entryPointFile := file }
  | .implicit file => { rest with useImplicitEntry := some true, entryPointFile := some file }

section

variable [Host]

/-- Nothing in a configuration is left to be worked out. -/
structure IsSettled (c : Configuration) : Prop where
  absolute : ∀ path ∈ c.paths, Path.absoluteString path = path
  rooted : c.packages.roots ≠ []
  units : ∀ sources, c.runtime = .mock sources → ∀ source ∈ sources, IsRuntimeUnit source.1

variable {c : Configuration} {input : ConfigurationInput} {directory : String}

/-! ## Validation settles -/

omit [Host] in
theorem isRuntimeUnit_of_mem_mockSources {units : List (String × Json)} {source : String × String}
    (member : source ∈ mockSources units) : IsRuntimeUnit source.1 := by
  obtain ⟨unit, _, kept⟩ := List.mem_filterMap.mp member
  cases checked : checkMockUnit unit with
  | error v =>
      rw [checked] at kept
      cases kept
  | ok other =>
      rw [checked] at kept
      cases kept
      by_contra foreign
      have wrong : checkMockUnit unit = .error (.mockScheme unit.1) := by
        apply checkMockUnit_eq_error_iff.mpr
        rw [checkMockUnit_eq_ok checked]
        exact .inl ⟨rfl, foreign⟩
      cases checked.symm.trans wrong

/-- What comes of validation is settled. -/
theorem isSettled_of_validate (valid : validate input directory = .ok c) : c.IsSettled := by
  have accepts := accepts_of_validate valid
  refine ⟨?_, ?_, ?_⟩
  · intro path member
    obtain ⟨given, _, rfl⟩ := accepts.exists_of_mem_paths member
    exact Path.absoluteString_resolve directory given
  · have packages := accepts.packages
    generalize c.packages = choice at packages ⊢
    cases packages with
    | single mode => exact List.cons_ne_nil _ _
    | @several roots mode given =>
        intro none
        have applies : Violation.noPackageRoots.Applies input := by
          refine ⟨mode, ?_⟩
          rw [given]
          exact List.map_eq_nil_iff.mp none
        exact List.not_mem_nil (accepts.sound ▸ mem_violations.mpr applies)
  · intro sources chosen source member
    have runtime := accepts.runtime
    rw [chosen] at runtime
    cases runtime with
    | mock mode given => exact isRuntimeUnit_of_mem_mockSources member

/-! ## Validation leaves settled configurations as they are -/

omit [Host] in
theorem checkMockUnit_of_isRuntimeUnit {identifier : String} (runtime : IsRuntimeUnit identifier)
    (text : String) : checkMockUnit (identifier, .string text) = .ok (identifier, text) := by
  have named : Identifier.runtimeScheme.toList.isPrefixOf identifier.toList = true :=
    List.isPrefixOf_iff_prefix.mpr runtime
  simp only [checkMockUnit, named, Bool.not_true, Bool.false_eq_true, ↓reduceIte]

omit [Host] in
/-- Units that are named and written like units of a runtime library are taken over as they are. -/
theorem mockSources_map {sources : List (String × String)}
    (units : ∀ source ∈ sources, IsRuntimeUnit source.1) :
    mockSources (sources.map fun source => (source.1, .string source.2)) = sources ∧
      mockViolations (sources.map fun source => (source.1, .string source.2)) = [] := by
  unfold mockSources mockViolations
  rw [List.filterMap_map, List.filterMap_map]
  constructor
  · refine (List.filterMap_congr ?_).trans List.filterMap_some
    intro source member
    simp only [Function.comp, checkMockUnit_of_isRuntimeUnit (units source member)]
    rfl
  · apply List.filterMap_eq_nil_iff.mpr
    intro source member
    simp only [Function.comp, checkMockUnit_of_isRuntimeUnit (units source member)]

theorem not_isAllBlank_of_absolute {path : String} (absolute : Path.absoluteString path = path) :
    Text.isAllBlank path = false := by
  rw [← Path.resolve_eq_self absolute ""]
  exact Path.isAllBlank_resolve "" path

/-- The check of the runtime library finds nothing wrong with a settled choice, and keeps it. -/
theorem checkRuntime_toInput (settled : c.IsSettled) (directory : String) :
    (checkRuntime c.toInput directory).violations = [] ∧
      (checkRuntime c.toInput directory).choice = some c.runtime := by
  obtain ⟨runtime, packages, entry, inference, verbose⟩ := c
  have fields : checkRuntime (toInput ⟨runtime, packages, entry, inference, verbose⟩) directory =
      checkRuntime (match runtime with
        | .mock sources => {
            useMockRuntime := some true
            mockRuntime := some (sources.map fun source => (source.1, .string source.2)) }
        | .directory path => { useMockRuntime := some false, runtimePath := some path })
        directory := by
    cases runtime <;> cases packages <;> cases entry <;> rfl
  rw [fields]
  cases runtime with
  | mock sources =>
      obtain ⟨kept, silent⟩ := mockSources_map (settled.units sources rfl)
      simp only [checkRuntime, ↓reduceIte, kept, silent]
      exact ⟨rfl, rfl⟩
  | directory path =>
      have absolute := settled.absolute path (by simp [paths])
      simp only [checkRuntime, not_isAllBlank_of_absolute absolute,
        Path.resolve_eq_self absolute directory]
      exact ⟨rfl, rfl⟩

/-- The check of the packages finds nothing wrong with a settled choice, and keeps it. -/
theorem checkPackages_toInput (settled : c.IsSettled) (directory : String) :
    (checkPackages c.toInput directory).violations = [] ∧
      (checkPackages c.toInput directory).choice = some c.packages := by
  obtain ⟨runtime, packages, entry, inference, verbose⟩ := c
  have fields : checkPackages (toInput ⟨runtime, packages, entry, inference, verbose⟩) directory =
      checkPackages (match packages with
        | .single root => { useMultiRoot := some false, packageRoot := some root }
        | .several roots => { useMultiRoot := some true, packageRoots := some roots })
        directory := by
    cases runtime <;> cases packages <;> cases entry <;> rfl
  rw [fields]
  have absolute : ∀ root ∈ packages.roots, Path.absoluteString root = root := by
    intro root member
    exact settled.absolute root (by simp [paths, member])
  cases packages with
  | single root =>
      have absolute := absolute root (List.mem_singleton.mpr rfl)
      simp only [checkPackages, Option.getD_some, not_isAllBlank_of_absolute absolute,
        Path.resolve_eq_self absolute directory]
      exact ⟨rfl, rfl⟩
  | several roots =>
      obtain ⟨first, rest, rfl⟩ := List.exists_cons_of_ne_nil settled.rooted
      have filled : (first :: rest).any Text.isAllBlank = false := by
        apply List.any_eq_false.mpr
        intro root member
        rw [not_isAllBlank_of_absolute (absolute root member)]
        exact Bool.false_ne_true
      have kept : (first :: rest).map (Path.resolve directory) = first :: rest := by
        refine (List.map_congr_left ?_).trans (List.map_id _)
        intro root member
        exact Path.resolve_eq_self (absolute root member) directory
      simp only [checkPackages, ↓reduceIte, filled, kept]
      exact ⟨rfl, rfl⟩

/-- The check of the entry finds nothing wrong with a settled choice, and keeps it. -/
theorem checkEntry_toInput (settled : c.IsSettled) (directory : String) :
    (checkEntry c.toInput directory).violations = [] ∧
      (checkEntry c.toInput directory).choice = some c.entry := by
  obtain ⟨runtime, packages, entry, inference, verbose⟩ := c
  have fields : checkEntry (toInput ⟨runtime, packages, entry, inference, verbose⟩) directory =
      checkEntry (match entry with
        | .explicit file => { useImplicitEntry := some false, entryPointFile := file }
        | .implicit file => { useImplicitEntry := some true, entryPointFile := some file })
        directory := by
    cases runtime <;> cases packages <;> cases entry <;> rfl
  rw [fields]
  cases entry with
  | explicit file =>
      cases file with
      | none => exact ⟨rfl, rfl⟩
      | some file =>
          have absolute := settled.absolute file (by simp [paths])
          simp only [checkEntry, Option.bind_some, not_isAllBlank_of_absolute absolute,
            Path.resolve_eq_self absolute directory]
          exact ⟨rfl, rfl⟩
  | implicit file =>
      have absolute := settled.absolute file (by simp [paths])
      simp only [checkEntry, Option.bind_some, not_isAllBlank_of_absolute absolute,
        Path.resolve_eq_self absolute directory]
      exact ⟨rfl, rfl⟩

/-- A settled configuration is what validation makes of it, in any directory. -/
theorem validate_toInput (settled : c.IsSettled) (directory : String) :
    validate c.toInput directory = .ok c := by
  obtain ⟨soundRuntime, runtime⟩ := checkRuntime_toInput settled directory
  obtain ⟨soundPackages, packages⟩ := checkPackages_toInput settled directory
  obtain ⟨soundEntry, entry⟩ := checkEntry_toInput settled directory
  have inference : c.inference = inferenceOf c.toInput.inference := by
    unfold toInput
    cases c.runtime <;> cases c.packages <;> cases c.entry <;> rfl
  have verbose : c.verbose = c.toInput.verbose.getD false := by
    unfold toInput
    cases c.runtime <;> cases c.packages <;> cases c.entry <;> rfl
  have sound : violations c.toInput directory = [] := by
    rw [violations, soundRuntime, soundPackages, soundEntry]
    rfl
  exact validate_eq_ok_iff.mpr ⟨sound, runtime, packages, entry, inference, verbose⟩

/-- What validation makes of an input it leaves as it is from then on, in whatever directory. -/
theorem validate_toInput_of_validate (valid : validate input directory = .ok c) (other : String) :
    validate c.toInput other = .ok c :=
  validate_toInput (isSettled_of_validate valid) other

end

/-- Relative paths, several roots and an entry without a document: what has been counted from one
directory stays there when it is validated in another one. -/
theorem validate_toInput_of_validate_of_relative :
    let input : ConfigurationInput := {
      useMockRuntime := some true
      mockRuntime := some [("rt:core", .string "export const x = 1;\n")]
      entryPointFile := some "src/../main.ts"
      useMultiRoot := some true
      packageRoots := some ["vendor//", "/opt/./lib"] }
    let c : Configuration := {
      runtime := .mock [("rt:core", "export const x = 1;\n")]
      packages := .several ["/p/vendor", "/opt/lib"]
      entry := .explicit (some "/p/main.ts")
      inference := {}
      verbose := false }
    validate input "/p" = .ok c ∧ validate input "/q" ≠ .ok c ∧
      validate c.toInput "/q" = .ok c := by
  intro input c
  have valid : validate input "/p" = .ok c := by decide
  exact ⟨valid, by decide, validate_toInput_of_validate valid "/q"⟩

end Configuration

end UnitResolution
