import UnitResolution.Proofs.Configuration.Located

/-!
# Options in the place of modes

An option of the command line replaces a whole mode of an input: the runtime library, the packages
or the entry (`UnitResolution.Mode`). What is wrong with an input is wrong with one of its modes
(`UnitResolution.Violation.mode`), and each mode is checked by itself. With options in the place of
some modes, the checks of these modes find nothing wrong, and the checks of all others find the same
as before (`UnitResolution.CommandLine.Options.violations_applyTo`).

So options never break an input, and they mend one whose faults are all in modes that they replace.
The theorem `UnitResolution.CommandLine.Options.validate_applyTo` also says what becomes of a valid
input: its configuration with the chosen modes in the place of the replaced ones, and with the flags
that are given (`UnitResolution.CommandLine.Options.overlay`).
-/

namespace UnitResolution

/-- What an input chooses one way or the other. -/
inductive Mode
  | runtime
  | packages
  | entry
  deriving Repr, DecidableEq

/-- The mode that a violation concerns. -/
def Violation.mode : Violation → Mode
  | runtimePathWithMock | noMockRuntime | mockScheme _ | mockContents _ | mockWithoutUse
  | noRuntimePath => .runtime
  | singleRootWithSeveral | noPackageRoots | blankPackageRoots | severalRootsWithSingle
  | blankPackageRoot => .packages
  | noEntry => .entry

namespace Configuration

variable {input : ConfigurationInput} {directory : String} {v : Violation}

/-! ## Each mode is checked by itself -/

variable [Host]

theorem mode_of_mem_checkRuntime (member : v ∈ (checkRuntime input directory).violations) :
    v.mode = .runtime := by
  rw [violations_checkRuntime, List.mem_append] at member
  rcases member with own | unit
  · have listed := List.mem_of_mem_filter own
    exact (by decide : ∀ v ∈ Violation.ofRuntime, v.mode = .runtime) v listed
  · obtain ⟨unit, _, wrong⟩ := mem_mockViolations.mp unit
    rcases checkMockUnit_eq_error_iff.mp wrong with ⟨rfl, _⟩ | ⟨rfl, _⟩ <;> rfl

theorem mode_of_mem_checkPackages (member : v ∈ (checkPackages input directory).violations) :
    v.mode = .packages := by
  rw [violations_checkPackages] at member
  have listed := List.mem_of_mem_filter member
  exact (by decide : ∀ v ∈ Violation.ofPackages, v.mode = .packages) v listed

theorem mode_of_mem_checkEntry (member : v ∈ (checkEntry input directory).violations) :
    v.mode = .entry := by
  rw [violations_checkEntry] at member
  have listed := List.mem_of_mem_filter member
  exact (by decide : ∀ v ∈ Violation.ofEntry, v.mode = .entry) v listed

/-- A check whose outcome is replaced, if there is another choice. -/
def Checked.replaceBy {α : Type} (check : Checked α) : Option α → Checked α
  | some choice => .chosen choice
  | none => check

omit [Host] in
theorem Checked.choice_replaceBy {α : Type} {check : Checked α} {own : α}
    (chosen : check.choice = some own) (choice? : Option α) :
    (check.replaceBy choice?).choice = some (choice?.getD own) := by
  cases choice? with
  | some choice => rfl
  | none => exact chosen

end Configuration

namespace CommandLine.Options

open UnitResolution.Configuration

/-- Whether options replace a mode. -/
def replaces (o : Options) : Mode → Bool
  | .runtime => o.runtime.isSome
  | .packages => o.packageRoots.isSome || o.packageRoot.isSome
  | .entry => o.entry.isSome

section

variable [Host]

/-- The runtime library that options choose. -/
def runtimeChoice? (o : Options) (directory : String) : Option RuntimeChoice :=
  o.runtime.map fun path => .directory (Path.resolve directory path)

/-- The packages that options choose: several roots come before a single one. -/
def packageChoice? (o : Options) (directory : String) : Option PackageChoice :=
  (o.packageRoots.map fun roots => .several (roots.map (Path.resolve directory))) <|>
    o.packageRoot.map fun root => .single (Path.resolve directory root)

/-- The entry that options choose. -/
def entryChoice? (o : Options) (directory : String) : Option EntryChoice :=
  o.entry.map fun path => .implicit (Path.resolve directory path)

/-- A configuration with the choices of options in the place of its own, and with the flags that are
given. -/
def overlay (o : Options) (directory : String) (c : Configuration) : Configuration where
  runtime := (o.runtimeChoice? directory).getD c.runtime
  packages := (o.packageChoice? directory).getD c.packages
  entry := (o.entryChoice? directory).getD c.entry
  inference := {
    followImports := c.inference.followImports && !o.noTransitive
    onlyConstants := c.inference.onlyConstants || o.onlyConstants }
  verbose := c.verbose || o.verbose

variable {o : Options} {directory root : String} {input : ConfigurationInput}

/-! ## The checks of an input with options -/

theorem checkRuntime_applyTo : checkRuntime (o.applyTo directory input) root =
    (checkRuntime input root).replaceBy (o.runtimeChoice? directory) := by
  rw [applyTo_eq_located]
  unfold ConfigurationInput.located applyTyped parts runtimeChoice?
  cases o.runtime with
  | none => simp [checkRuntime, Checked.replaceBy, locate_false]
  | some path =>
      simp [checkRuntime, Checked.replaceBy, locate_true, Path.isAllBlank_resolve,
        Path.resolve_resolve, violationIf]

theorem checkPackages_applyTo (several : o.packageRoots ≠ some []) :
    checkPackages (o.applyTo directory input) root =
      (checkPackages input root).replaceBy (o.packageChoice? directory) := by
  rw [applyTo_eq_located]
  unfold ConfigurationInput.located applyTyped parts packageChoice?
  cases roots : o.packageRoots with
  | some list =>
      rw [roots] at several
      obtain ⟨first, rest, rfl⟩ :=
        List.exists_cons_of_ne_nil fun none => several (congrArg some none)
      simp [checkPackages, Checked.replaceBy, locate_true, Path.isAllBlank_resolve,
        Path.resolve_resolve, violationIf, Function.comp_def]
  | none =>
      cases o.packageRoot with
      | none => simp [checkPackages, Checked.replaceBy, locate_false]
      | some path =>
          simp [checkPackages, Checked.replaceBy, locate_true, Path.isAllBlank_resolve,
            Path.resolve_resolve, violationIf]

theorem checkEntry_applyTo : checkEntry (o.applyTo directory input) root =
    (checkEntry input root).replaceBy (o.entryChoice? directory) := by
  rw [applyTo_eq_located]
  unfold ConfigurationInput.located applyTyped parts entryChoice?
  cases o.entry with
  | none => simp [checkEntry, Checked.replaceBy, locate_false]
  | some path =>
      simp [checkEntry, Checked.replaceBy, locate_true, Path.isAllBlank_resolve,
        Path.resolve_resolve]

theorem inferenceOf_applyTo : inferenceOf (o.applyTo directory input).inference = {
    followImports := (inferenceOf input.inference).followImports && !o.noTransitive
    onlyConstants := (inferenceOf input.inference).onlyConstants || o.onlyConstants } := by
  rw [applyTo_eq_located]
  unfold ConfigurationInput.located applyTyped applyInference
  cases o.noTransitive <;> cases o.onlyConstants <;> cases given : input.inference <;>
    simp [inferenceOf, given]

theorem verbose_applyTo : (o.applyTo directory input).verbose.getD false =
    (input.verbose.getD false || o.verbose) := by
  rw [applyTo_eq_located]
  unfold ConfigurationInput.located applyTyped
  cases o.verbose <;> simp

/-! ## What is wrong with an input with options -/

omit [Host] in
/-- A check of a mode that is replaced is left out, and one of another mode stays. -/
theorem filter_violations {α : Type} {check : Checked α} {mode : Mode} {choice? : Option α}
    (concerned : ∀ v ∈ check.violations, v.mode = mode)
    (replaced : choice?.isSome = o.replaces mode) :
    (check.replaceBy choice?).violations = check.violations.filter fun v => !o.replaces v.mode := by
  cases choice? with
  | some choice =>
      symm
      apply List.filter_eq_nil_iff.mpr
      intro v member
      rw [concerned v member, ← replaced]
      exact Bool.false_ne_true
  | none =>
      symm
      apply List.filter_eq_self.mpr
      intro v member
      rw [concerned v member, ← replaced]
      rfl

theorem isSome_packageChoice? :
    (o.packageChoice? directory).isSome = o.replaces .packages := by
  unfold packageChoice? replaces
  cases o.packageRoots <;> cases o.packageRoot <;> rfl

/-- With options in the place of modes, just that is wrong that is wrong with the other modes. -/
theorem violations_applyTo (several : o.packageRoots ≠ some []) :
    violations (o.applyTo directory input) root =
      (violations input root).filter fun v => !o.replaces v.mode := by
  have runtime : (o.runtimeChoice? directory).isSome = o.replaces .runtime := Option.isSome_map
  have entry : (o.entryChoice? directory).isSome = o.replaces .entry := Option.isSome_map
  unfold violations
  rw [checkRuntime_applyTo, checkPackages_applyTo several, checkEntry_applyTo,
    filter_violations (fun v => mode_of_mem_checkRuntime) runtime,
    filter_violations (fun v => mode_of_mem_checkPackages) isSome_packageChoice?,
    filter_violations (fun v => mode_of_mem_checkEntry) entry, List.filter_append,
    List.filter_append]

/-- A valid input stays valid with options in the place of modes. -/
theorem validate_applyTo_of_valid (several : o.packageRoots ≠ some []) {c : Configuration}
    (valid : validate input root = .ok c) :
    validate (o.applyTo directory input) root = .ok (o.overlay directory c) := by
  have sound := (accepts_of_validate valid).sound
  have silent : violations (o.applyTo directory input) root = [] := by
    rw [violations_applyTo several, sound]
    rfl
  obtain ⟨_, runtime, packages, entry, inference, verbose⟩ := validate_eq_ok_iff.mp valid
  refine validate_eq_ok_iff.mpr ⟨silent, ?_, ?_, ?_, ?_, ?_⟩
  · rw [checkRuntime_applyTo]
    exact Checked.choice_replaceBy runtime _
  · rw [checkPackages_applyTo several]
    exact Checked.choice_replaceBy packages _
  · rw [checkEntry_applyTo]
    exact Checked.choice_replaceBy entry _
  · rw [inferenceOf_applyTo, ← inference]
    rfl
  · rw [verbose_applyTo, ← verbose]
    rfl

/-- Options take the place of whole modes. What is wrong with an input with options is wrong with
the input itself, in a mode that the options do not replace, and all of that; so an input that is
wrong in replaced modes only is accepted. A valid input stays valid, and its configuration differs
in the replaced modes and in the flags that are given. -/
theorem validate_applyTo (o : Options) (directory root : String) (input : ConfigurationInput)
    (several : o.packageRoots ≠ some []) :
    (∀ vs, validate (o.applyTo directory input) root = .error vs →
      ∃ all, validate input root = .error all ∧ vs = all.filter fun v => !o.replaces v.mode) ∧
    (∀ all, validate input root = .error all → (∀ v ∈ all, o.replaces v.mode) →
      ∃ c, validate (o.applyTo directory input) root = .ok c) ∧
    ∀ c, validate input root = .ok c →
      validate (o.applyTo directory input) root = .ok (o.overlay directory c) := by
  have left : violations (o.applyTo directory input) root = _ := violations_applyTo several
  refine ⟨?_, ?_, ?_⟩
  · intro vs wrong
    obtain ⟨rfl, some⟩ := of_validate_eq_error wrong
    have unsound : violations input root ≠ [] := by
      intro none
      rw [left, none] at some
      exact some rfl
    exact ⟨violations input root, validate_eq_error unsound, left⟩
  · intro all wrong mended
    obtain ⟨rfl, _⟩ := of_validate_eq_error wrong
    apply exists_validate_eq_ok
    rw [left]
    apply List.filter_eq_nil_iff.mpr
    intro v member
    rw [mended v member]
    exact Bool.false_ne_true
  · intro c valid
    exact validate_applyTo_of_valid several valid

end

/-- An input that is wrong in all its modes, with options for two of them: what is wrong with the
third one is left. -/
theorem validate_applyTo_of_mixed :
    let input : ConfigurationInput := {
      useMockRuntime := some true
      runtimePath := some "/rt"
      mockRuntime := some [("pkg:a", .null)]
      useMultiRoot := some true
      packageRoot := some " "
      useImplicitEntry := some true }
    let o : Options := { packageRoot := some "lib", entry := some "" }
    validate input "/p" = .error [.runtimePathWithMock, .mockScheme "pkg:a",
      .singleRootWithSeveral, .noPackageRoots, .noEntry] ∧
    validate (o.applyTo "/w" input) "/p" = .error [.runtimePathWithMock, .mockScheme "pkg:a"] ∧
    (∃ c, validate (({ o with runtime := some "/rt" } : Options).applyTo "/w" input) "/p" =
      .ok c) := by
  intro input o
  have all : validate input "/p" = .error [.runtimePathWithMock, .mockScheme "pkg:a",
      .singleRootWithSeveral, .noPackageRoots, .noEntry] := by decide
  have left : validate (o.applyTo "/w" input) "/p" =
      .error [.runtimePathWithMock, .mockScheme "pkg:a"] := by decide
  obtain ⟨_, mended, _⟩ :=
    validate_applyTo { o with runtime := some "/rt" } "/w" "/p" input nofun
  exact ⟨all, left, mended _ all (by decide)⟩

end CommandLine.Options

end UnitResolution
