import UnitResolution.Proofs.Context.Lifecycle
import UnitResolution.Proofs.Identifier.Scheme

/-!
# Which resolver answers

The resolvers of a standard chain share the identifiers out by scheme. Each of them asks in its own
way whether an identifier is one of its own; what comes out is that the scheme decides, and among
files whether the identifier names the entry document (`UnitResolution.Configuration.resolverFor?`).
An identifier with another scheme, or with none, has no resolver.

There is one exception. A resolver of packages also claims identifiers that are written with a
Kelvin sign, though they have no scheme (`UnitResolution.Identifier.IsKelvinPackage`). The theorem
`UnitResolution.Context.dispatch` covers both.
-/

namespace UnitResolution

variable {configuration : Configuration} {identifier directory : String}

/-! ## The entry document -/

namespace EntryDocument

variable [Host]

/-- An identifier names the entry document for a working directory. -/
def IsNamed (directory identifier : String) : Prop :=
  (Identifier.filePath? identifier).map Path.absoluteString = some (path directory)

instance : Decidable (IsNamed directory identifier) := inferInstanceAs (Decidable (_ = _))

/-- Only a file can be the entry document. -/
theorem IsNamed.scheme?_eq (named : IsNamed directory identifier) :
    Identifier.scheme? identifier = some "file" := by
  obtain ⟨path, found, _⟩ := Option.map_eq_some_iff.mp named
  exact Identifier.hasScheme_file.mp (Identifier.url_of_filePath? found).1

theorem files_eq (entry directory : String) :
    (files entry directory).files =
      [(path directory, page (Path.resolve directory entry))] := by
  have same : Path.absoluteString (path directory) = path directory :=
    Path.absoluteString_resolve directory fileName
  simp only [files, MemoryFiles.ofList, List.map_cons, List.map_nil, same]
  rfl

theorem isSome_serve?_files {entry : String} :
    ((files entry directory).serve? identifier).isSome ↔ IsNamed directory identifier := by
  unfold MemoryFiles.serve? IsNamed
  rw [files_eq]
  cases Identifier.filePath? identifier with
  | none => exact iff_of_false nofun nofun
  | some p =>
      by_cases same : Path.absoluteString p = path directory
      · simp [same]
      · simp [same, List.lookup_cons, beq_false_of_ne same]

end EntryDocument

/-! ## Claims -/

namespace Resolver

variable [Host]

theorem claims_ofRuntimeChoice {verbose : Bool} {choice : RuntimeChoice} :
    (ofRuntimeChoice verbose choice).claims identifier ↔
      Identifier.scheme? identifier = some "rt" := by
  cases choice <;> exact Identifier.hasScheme_runtime

theorem claims_ofEntry {entry : String} :
    (ofEntry entry directory).claims identifier ↔ EntryDocument.IsNamed directory identifier :=
  EntryDocument.isSome_serve?_files

theorem claims_file : file.claims identifier ↔ Identifier.scheme? identifier = some "file" :=
  Identifier.hasScheme_file

theorem claims_ofPackageChoice {choice : PackageChoice} :
    (ofPackageChoice choice).claims identifier ↔
      Identifier.scheme? identifier = some "pkg" ∨ Identifier.IsKelvinPackage identifier := by
  cases choice <;> exact Identifier.hasScheme_package

/-- What a resolver claims does not hang on the layout that it may have discovered. -/
theorem claims_undiscovered (r : Resolver) :
    r.undiscovered.claims identifier = r.claims identifier := by
  cases r <;> rfl

end Resolver

/-! ## Sharing out -/

namespace Configuration

variable [Host]

/-- The resolver of a configuration for files. -/
def fileResolver (configuration : Configuration) (directory : String) (namesEntry : Prop)
    [Decidable namesEntry] : Resolver :=
  match configuration.entry with
  | .implicit file => if namesEntry then .ofEntry file directory else .file
  | .explicit _ => .file

/-- The resolver of a configuration for the identifiers with a scheme. Only among files it matters
whether the entry document is named. -/
def resolverFor? (configuration : Configuration) (directory : String) (namesEntry : Prop)
    [Decidable namesEntry] : Option String → Option Resolver
  | some "rt" => some (.ofRuntimeChoice configuration.verbose configuration.runtime)
  | some "file" => some (configuration.fileResolver directory namesEntry)
  | some "pkg" => some (.ofPackageChoice configuration.packages)
  | _ => none

/-- The resolver that stands in front of the one of files. -/
def entryResolvers (configuration : Configuration) (directory : String) : List Resolver :=
  match configuration.entry with
  | .implicit file => [.ofEntry file directory]
  | .explicit _ => []

theorem find?_of_file (scheme : Identifier.scheme? identifier = some "file")
    (rest : List Resolver) :
    (configuration.entryResolvers directory ++ .file :: rest).find? (Resolver.claims identifier) =
      some (configuration.fileResolver directory
        (EntryDocument.IsNamed directory identifier)) := by
  have isFile : (Resolver.file :: rest).find? (Resolver.claims identifier) = some .file :=
    List.find?_cons_of_pos (Resolver.claims_file.mpr scheme)
  unfold entryResolvers fileResolver
  cases configuration.entry with
  | explicit file => exact isFile
  | implicit file =>
      by_cases named : EntryDocument.IsNamed directory identifier
      · simp only [if_pos named]
        exact List.find?_cons_of_pos (Resolver.claims_ofEntry.mpr named)
      · simp only [if_neg named]
        exact (List.find?_cons_of_neg (mt Resolver.claims_ofEntry.mp named)).trans isFile

theorem find?_of_no_file (other : Identifier.scheme? identifier ≠ some "file")
    (rest : List Resolver) :
    (configuration.entryResolvers directory ++ .file :: rest).find? (Resolver.claims identifier) =
      rest.find? (Resolver.claims identifier) := by
  have noFile : (Resolver.file :: rest).find? (Resolver.claims identifier) =
      rest.find? (Resolver.claims identifier) :=
    List.find?_cons_of_neg (mt Resolver.claims_file.mp other)
  unfold entryResolvers
  cases configuration.entry with
  | explicit file => exact noFile
  | implicit file =>
      have unnamed : ¬ EntryDocument.IsNamed directory identifier := fun named =>
        other named.scheme?_eq
      exact (List.find?_cons_of_neg (mt Resolver.claims_ofEntry.mp unnamed)).trans noFile

end Configuration

namespace Context

section

variable [Host]

variable {η ρ : Type} {overrides : Overrides η ρ} {c : Context η ρ}

theorem resolvers_chainFor (runtime : overrides.runtimeResolver = none)
    (files : overrides.fileResolvers = none) :
    (chainFor configuration overrides).resolvers =
      .ofRuntimeChoice configuration.verbose configuration.runtime ::
        (configuration.entryResolvers overrides.directory ++
          [.file, .ofPackageChoice configuration.packages]) := by
  unfold chainFor Chain.compose Configuration.entryResolvers
  rw [runtime, files]
  cases configuration.entry <;> rfl

/-- The first resolver of a standard chain that claims an identifier is the one for its scheme. -/
theorem claimant?_chainFor (runtime : overrides.runtimeResolver = none)
    (files : overrides.fileResolvers = none) (spelled : ¬ Identifier.IsKelvinPackage identifier) :
    (chainFor configuration overrides).claimant? identifier =
      configuration.resolverFor? overrides.directory
        (EntryDocument.IsNamed overrides.directory identifier) (Identifier.scheme? identifier) := by
  unfold Chain.claimant? Configuration.resolverFor?
  rw [resolvers_chainFor runtime files]
  split
  · next scheme => exact List.find?_cons_of_pos (Resolver.claims_ofRuntimeChoice.mpr scheme)
  · next scheme =>
      rw [List.find?_cons_of_neg (mt Resolver.claims_ofRuntimeChoice.mp (by simp [scheme]))]
      exact Configuration.find?_of_file scheme _
  · next scheme =>
      rw [List.find?_cons_of_neg (mt Resolver.claims_ofRuntimeChoice.mp (by simp [scheme])),
        Configuration.find?_of_no_file (by simp [scheme])]
      exact List.find?_cons_of_pos (Resolver.claims_ofPackageChoice.mpr (.inl scheme))
  · next noRuntime noFile noPackage =>
      rw [List.find?_cons_of_neg (mt Resolver.claims_ofRuntimeChoice.mp noRuntime),
        Configuration.find?_of_no_file noFile, List.find?_singleton]
      exact if_neg (mt Resolver.claims_ofPackageChoice.mp (not_or.mpr ⟨noPackage, spelled⟩))

theorem claimant?_chainFor_of_kelvin (runtime : overrides.runtimeResolver = none)
    (files : overrides.fileResolvers = none) (kelvin : Identifier.IsKelvinPackage identifier) :
    (chainFor configuration overrides).claimant? identifier =
      some (.ofPackageChoice configuration.packages) := by
  have scheme := kelvin.scheme?_eq_none
  unfold Chain.claimant?
  rw [resolvers_chainFor runtime files,
    List.find?_cons_of_neg (mt Resolver.claims_ofRuntimeChoice.mp (by simp [scheme])),
    Configuration.find?_of_no_file (by simp [scheme])]
  exact List.find?_cons_of_pos (Resolver.claims_ofPackageChoice.mpr (.inr kelvin))

/-- Two chains of the same resolvers, but for their layouts, share identifiers out alike. -/
theorem claimant?_of_undiscovered {chain other : Chain}
    (alike : chain.resolvers.map Resolver.undiscovered =
      other.resolvers.map Resolver.undiscovered) :
    (chain.claimant? identifier).map Resolver.undiscovered =
      (other.claimant? identifier).map Resolver.undiscovered := by
  have claims : Resolver.claims identifier ∘ Resolver.undiscovered = Resolver.claims identifier :=
    funext Resolver.claims_undiscovered
  have through (chain : Chain) : (chain.claimant? identifier).map Resolver.undiscovered =
      (chain.resolvers.map Resolver.undiscovered).find? (Resolver.claims identifier) := by
    rw [List.find?_map, claims]
    rfl
  rw [through chain, through other, alike]

/-! ## Contexts -/

omit [Host] in
theorem stage_use (complete : c.stage ≠ .unconfigured) : c.use.2.stage ≠ .unconfigured := by
  rcases c.use_cases with ⟨refusal, same⟩ | ⟨chain, _, _, same⟩
  · rwa [same]
  · rw [same]
    exact nofun

/-- No use takes a context back to where it is not complete. -/
theorem stage_afterUses (complete : c.stage ≠ .unconfigured) (uses : List Use) :
    (c.afterUses uses).stage ≠ .unconfigured := by
  induction uses generalizing c with
  | nil => exact complete
  | cons use rest ih =>
      apply ih
      cases use with
      | resolve disk identifier =>
          have stage : (c.resolve disk identifier).2.stage = c.use.2.stage := by
            unfold resolve
            rcases c.use_cases with ⟨refusal, same⟩ | ⟨chain, _, _, same⟩ <;> rw [same]
          unfold afterUse
          rw [stage]
          exact stage_use complete
      | library => exact stage_use complete
      | dispose => exact nofun

omit [Host] in
/-- While a context is not at its end, it uses its chain. -/
theorem use_of_chain {chain : Chain} (known : c.chain = some chain)
    (complete : c.stage ≠ .unconfigured) (alive : c.stage ≠ .disposed) : c.use.1 = .ok chain := by
  unfold use
  rw [known]
  cases stage : c.stage with
  | unconfigured => exact absurd stage complete
  | disposed => exact absurd stage alive
  | configured => rfl
  | «sealed» => rfl

theorem resolve_of_use {chain : Chain} {disk : Disk} (used : c.use.1 = .ok chain) :
    (c.resolve disk identifier).1.outcome =
      (chain.resolve disk identifier).1.outcome.map fun found =>
        found.mapError (SourceFault.diagnostic identifier) := by
  unfold resolve
  cases whole : c.use with
  | mk answer next =>
      rw [whole] at used
      cases used
      rfl

/-- A context that has been created with its standard resolvers, and used in any way since, shares
the identifiers out by their schemes, and an identifier that no resolver claims is reported as such.
Only identifiers in which a Kelvin sign stands for the `k` of packages are claimed without a
scheme. -/
theorem dispatch (standardHook : Configuration → η) (input : ConfigurationInput)
    (overrides : Overrides η ρ) (runtime : overrides.runtimeResolver = none)
    (files : overrides.fileResolvers = none) {log : List String}
    (created : create standardHook input overrides = .created c log) (uses : List Use)
    (disk : Disk) (identifier : String) :
    let last := c.afterUses uses
    ∃ configuration chain,
      Configuration.validate input overrides.directory = .ok configuration ∧
      last.chain = some chain ∧
      (¬ Identifier.IsKelvinPackage identifier →
        (chain.claimant? identifier).map Resolver.undiscovered =
          (configuration.resolverFor? overrides.directory
            (EntryDocument.IsNamed overrides.directory identifier)
            (Identifier.scheme? identifier)).map Resolver.undiscovered) ∧
      (Identifier.IsKelvinPackage identifier → Identifier.scheme? identifier = none ∧
        chain.claimant? identifier = some (.ofPackageChoice configuration.packages)) ∧
      (last.stage ≠ .disposed → last.claimant? identifier = chain.claimant? identifier ∧
        (chain.claimant? identifier = none → ∃ d, d.code = "UG2002" ∧
          d = (SourceFault.unclaimed chain.names).diagnostic identifier ∧
          (last.resolve disk identifier).1.outcome = .ok (.error d))) := by
  intro last
  obtain ⟨configuration, valid, follows⟩ := follows_of_create created
  obtain ⟨chain, known, alike⟩ := follows.afterUses uses
  have shared : (chain.claimant? identifier).map Resolver.undiscovered =
      ((chainFor configuration overrides).claimant? identifier).map Resolver.undiscovered :=
    claimant?_of_undiscovered alike
  refine ⟨configuration, chain, valid, known, ?_, ?_, ?_⟩
  · intro spelled
    rw [shared, claimant?_chainFor runtime files spelled]
  · intro kelvin
    refine ⟨kelvin.scheme?_eq_none, ?_⟩
    rw [claimant?_chainFor_of_kelvin runtime files kelvin] at shared
    obtain ⟨r, claimant, same⟩ := Option.map_eq_some_iff.mp shared
    rw [claimant]
    refine congrArg some (Resolver.eq_of_undiscovered same.symm fun library => ?_).symm
    cases configuration.packages <;> exact nofun
  · intro alive
    obtain ⟨_, _, _, stage⟩ := complete_of_create created
    have complete := stage_afterUses (by rw [stage]; exact nofun) uses
    have used : last.use.1 = .ok chain := use_of_chain known complete alive
    refine ⟨?_, ?_⟩
    · unfold claimant?
      rw [used]
      rfl
    · intro unclaimed
      refine ⟨_, rfl, rfl, ?_⟩
      rw [resolve_of_use used, Chain.resolve_of_unclaimed unclaimed]
      rfl

end

/-- The packages claim an identifier without a scheme. -/
theorem dispatch_of_kelvin : Identifier.scheme? "p\u212Ag:lib/a.ts" = none ∧
    ∃ choice, (twoRootsContext.chain.bind fun chain => chain.claimant? "p\u212Ag:lib/a.ts") =
      some (.ofPackageChoice choice) := by
  have created : create Strategy.inference twoRootsInput ({} : Overrides Strategy Strategy) =
      .created twoRootsContext [] := rfl
  obtain ⟨configuration, chain, _, known, _, kelvin, _⟩ :=
    dispatch _ _ _ rfl rfl created [] {} "p\u212Ag:lib/a.ts"
  obtain ⟨scheme, claimant⟩ :=
    kelvin ⟨'p', 'g', "lib/a.ts".toList, by decide, by decide, by decide⟩
  have known : twoRootsContext.chain = some chain := known
  rw [known]
  exact ⟨scheme, configuration.packages, claimant⟩

end Context

end UnitResolution
