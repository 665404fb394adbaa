import UnitResolution.Proofs.Context.Creation
import UnitResolution.Proofs.Library.Invariance

/-!
# The log of a context

A verbose context logs its chain, the layout of its runtime library and the units that a library
reads through it. Every such line begins with the same mark, and a context that is not verbose logs
none (`UnitResolution.Scene.Logs`).

Only the resolver of a runtime library in a directory knows whether it is verbose. That it is
changes neither what it claims nor what it answers, so a context has the same sources either way
(`UnitResolution.Context.sources_ofConfiguration`).
-/

namespace UnitResolution

variable {disk : Disk} {identifier line : String}

/-! ## Lines -/

/-- What every line of the log begins with. -/
def logMark : String := "[unitgraph] "

/-- A line of the log: a message behind the mark. -/
def IsLogLine (line : String) : Prop := ∃ message, line = logMark ++ message

theorem IsLogLine.append (logged : IsLogLine line) (rest : String) : IsLogLine (line ++ rest) := by
  obtain ⟨message, rfl⟩ := logged
  exact ⟨message ++ rest, String.append_assoc⟩

theorem RuntimeDirectory.isLogLine_layoutLine (layout : Layout) :
    IsLogLine (layoutLine layout) := by
  have begun : IsLogLine "[unitgraph] Runtime libraries in " :=
    ⟨"Runtime libraries in ", by decide⟩
  exact ((begun.append _).append _).append _

theorem Context.isLogLine_chainLine (chain : Chain) : IsLogLine (chainLine chain) := by
  have begun : IsLogLine "[unitgraph] Resolver chain: " := ⟨"Resolver chain: ", by decide⟩
  exact begun.append _

theorem Library.isLogLine_resolvedLine (unit : LibraryUnit) : IsLogLine (resolvedLine unit) := by
  have begun : IsLogLine "[unitgraph] Resolved " := ⟨"Resolved ", by decide⟩
  unfold resolvedLine
  repeat apply IsLogLine.append
  exact begun

/-! ## Runtime libraries -/

namespace RuntimeDirectory

variable [Host]

variable (library : RuntimeDirectory)

theorem verbose_lookup (disk : Disk) (identifier : String) :
    (library.lookup disk identifier).2.verbose = library.verbose := by
  unfold lookup ensureLayout
  cases library.layout with
  | some layout => rfl
  | none => cases Layout.discover disk library.path <;> rfl

/-- Only a verbose library logs. -/
theorem log_lookup (logged : line ∈ (library.lookup disk identifier).1.log) :
    library.verbose = true ∧ IsLogLine line := by
  unfold lookup ensureLayout at logged
  cases known : library.layout with
  | some layout => simp [known] at logged
  | none =>
      cases found : Layout.discover disk library.path with
      | error i => simp [known, found] at logged
      | ok outcome =>
          cases outcome with
          | error fault => simp [known, found] at logged
          | ok layout =>
              by_cases verbose : library.verbose
              · have same : line = layoutLine layout := by
                  simpa [known, found, verbose] using logged
                exact ⟨verbose, same ▸ isLogLine_layoutLine layout⟩
              · simp [known, found, verbose] at logged

theorem outcome_lookup {other : RuntimeDirectory} (path : library.path = other.path)
    (layout : library.layout = other.layout) :
    (library.lookup disk identifier).1.outcome = (other.lookup disk identifier).1.outcome := by
  unfold lookup ensureLayout
  rw [path, layout]
  cases other.layout with
  | some layout => rfl
  | none => cases Layout.discover disk other.path <;> rfl

end RuntimeDirectory

/-! ## Resolvers -/

namespace Resolver

/-- Whether a resolver logs what it finds out. -/
def isVerbose : Resolver → Bool
  | runtimeDirectory library => library.verbose
  | _ => false

theorem isVerbose_resolve [Host] (r : Resolver) :
    (r.resolve disk identifier).2.isVerbose = r.isVerbose := by
  cases r with
  | runtimeDirectory library => exact library.verbose_lookup disk identifier
  | _ => rfl

theorem log_resolve [Host] {r : Resolver} (logged : line ∈ (r.resolve disk identifier).1.log) :
    r.isVerbose = true ∧ IsLogLine line := by
  cases r with
  | runtimeDirectory library => exact library.log_lookup logged
  | _ => cases logged

section Choice

variable (verbose other : Bool) (choice : RuntimeChoice)

theorem isVerbose_ofRuntimeChoice (isVerbose : (ofRuntimeChoice verbose choice).isVerbose = true) :
    verbose = true := by
  cases choice with
  | mock => cases isVerbose
  | directory => exact isVerbose

theorem name_ofRuntimeChoice :
    (ofRuntimeChoice verbose choice).name = (ofRuntimeChoice other choice).name := by
  cases choice <;> rfl

theorem scheme_ofRuntimeChoice :
    (ofRuntimeChoice verbose choice).scheme = (ofRuntimeChoice other choice).scheme := by
  cases choice <;> rfl

theorem outcome_ofRuntimeChoice [Host] (disk : Disk) (identifier : String) :
    ((ofRuntimeChoice verbose choice).resolve disk identifier).1.outcome =
      ((ofRuntimeChoice other choice).resolve disk identifier).1.outcome := by
  cases choice with
  | mock => rfl
  | directory path =>
      simp only [ofRuntimeChoice, ofRuntimePath, resolve]
      exact RuntimeDirectory.outcome_lookup _ rfl rfl

end Choice

end Resolver

/-! ## Chains -/

namespace Chain

/-- Whether some resolver logs. -/
def isVerbose (c : Chain) : Bool := c.resolvers.any Resolver.isVerbose

variable {unclaimed : SourceFault}

variable [Host]

theorem any_isVerbose_resolveBy (resolvers : List Resolver) :
    (resolveBy disk identifier unclaimed resolvers).2.any Resolver.isVerbose =
      resolvers.any Resolver.isVerbose := by
  induction resolvers with
  | nil => rfl
  | cons r rest ih =>
      unfold resolveBy
      split
      · rw [List.any_cons, List.any_cons, Resolver.isVerbose_resolve]
      · rw [List.any_cons, List.any_cons, ih]

theorem log_resolveBy {resolvers : List Resolver}
    (logged : line ∈ (resolveBy disk identifier unclaimed resolvers).1.log) :
    resolvers.any Resolver.isVerbose = true ∧ IsLogLine line := by
  induction resolvers with
  | nil => cases logged
  | cons r rest ih =>
      unfold resolveBy at logged
      rw [List.any_cons, Bool.or_eq_true]
      split at logged
      · obtain ⟨verbose, mark⟩ := Resolver.log_resolve logged
        exact ⟨.inl verbose, mark⟩
      · obtain ⟨verbose, mark⟩ := ih logged
        exact ⟨.inr verbose, mark⟩

/-- What a chain comes to hangs on its first resolver only through what that claims and answers. -/
theorem outcome_resolveBy_cons {r other : Resolver}
    (claims : r.claims identifier = other.claims identifier)
    (outcome : (r.resolve disk identifier).1.outcome = (other.resolve disk identifier).1.outcome)
    (rest : List Resolver) :
    (resolveBy disk identifier unclaimed (r :: rest)).1.outcome =
      (resolveBy disk identifier unclaimed (other :: rest)).1.outcome := by
  unfold resolveBy
  rw [claims]
  split
  · exact outcome
  · rfl

end Chain

/-! ## Contexts -/

namespace Context

/-- Whether a resolver of the chain logs. -/
def isVerbose {η ρ : Type} (c : Context η ρ) : Bool := c.chain.any Chain.isVerbose

variable [Host]

theorem isVerbose_resolve {η ρ : Type} (c : Context η ρ) :
    (c.resolve disk identifier).2.isVerbose = c.isVerbose := by
  unfold resolve
  rcases c.use_cases with ⟨refusal, used⟩ | ⟨chain, known, _, used⟩
  · rw [used]
  · rw [used]
    unfold isVerbose
    rw [known]
    exact Chain.any_isVerbose_resolveBy _

theorem log_resolve {η ρ : Type} {c : Context η ρ}
    (logged : line ∈ (c.resolve disk identifier).1.log) :
    c.isVerbose = true ∧ IsLogLine line := by
  unfold resolve at logged
  rcases c.use_cases with ⟨refusal, used⟩ | ⟨chain, known, _, used⟩
  · rw [used] at logged
    cases logged
  · rw [used] at logged
    unfold isVerbose
    rw [known]
    exact Chain.log_resolveBy logged

/-- The context that is created for a configuration. -/
def ofConfiguration (configuration : Configuration) (directory : String) :
    Context Strategy Strategy where
  options := { cacheSize := AnalysisOptions.standardCacheSize }
  stage := .configured
  chain := some (chainFor configuration ({ directory } : Overrides Strategy Strategy))
  hook := some (.inference configuration)

theorem create_eq (input : ConfigurationInput) (directory : String) :
    create Strategy.inference input { directory } =
      match Configuration.validate input directory with
      | .error violations => .invalid violations
      | .ok configuration => .created (ofConfiguration configuration directory)
          (if configuration.verbose then
            [chainLine (chainFor configuration ({ directory } : Overrides Strategy Strategy))]
          else []) := by
  unfold create
  cases Configuration.validate input directory <;> rfl

/-- A chain answers the same for a configuration, be it verbose or not. -/
theorem outcome_chainFor (configuration : Configuration) (verbose : Bool) (directory : String)
    (disk : Disk) (identifier : String) :
    ((chainFor { configuration with verbose }
      ({ directory } : Overrides Strategy Strategy)).resolve disk identifier).1.outcome =
    ((chainFor configuration
      ({ directory } : Overrides Strategy Strategy)).resolve disk identifier).1.outcome := by
  unfold Chain.resolve Chain.names
  dsimp only
  rw [resolvers_chainFor rfl rfl, resolvers_chainFor rfl rfl, List.map_cons, List.map_cons,
    Resolver.name_ofRuntimeChoice verbose configuration.verbose]
  apply Chain.outcome_resolveBy_cons
  · exact Bool.eq_iff_iff.mpr
      (Resolver.claims_ofRuntimeChoice.trans Resolver.claims_ofRuntimeChoice.symm)
  · exact Resolver.outcome_ofRuntimeChoice _ _ _ _ _

/-- A context has the same sources for a configuration, be it verbose or not. -/
theorem sources_ofConfiguration (configuration : Configuration) (verbose : Bool)
    (directory : String) (disk : Disk) (log log' : List String) :
    Scene.sources ⟨ofConfiguration { configuration with verbose } directory, disk, log⟩ =
      Scene.sources ⟨ofConfiguration configuration directory, disk, log'⟩ := by
  funext identifier
  have outcome := outcome_chainFor configuration verbose directory disk identifier
  change ((ofConfiguration _ directory).resolve disk identifier).1.outcome =
    ((ofConfiguration _ directory).resolve disk identifier).1.outcome
  rw [resolve_of_use rfl, resolve_of_use rfl, outcome]

theorem isVerbose_ofConfiguration {configuration : Configuration} {directory : String}
    (isVerbose : (ofConfiguration configuration directory).isVerbose = true) :
    configuration.verbose = true := by
  have some : (chainFor configuration ({ directory } : Overrides Strategy Strategy)).resolvers.any
      Resolver.isVerbose = true := isVerbose
  rw [resolvers_chainFor rfl rfl, List.any_cons, Bool.or_eq_true] at some
  rcases some with runtime | other
  · exact Resolver.isVerbose_ofRuntimeChoice _ _ runtime
  · have none : List.any (configuration.entryResolvers directory ++
        [.file, .ofPackageChoice configuration.packages]) Resolver.isVerbose = false := by
      unfold Configuration.entryResolvers Resolver.ofPackageChoice
      cases configuration.entry <;> cases configuration.packages <;> rfl
    rw [none] at other
    cases other

end Context

/-- Whether an input asks to be verbose has no effect on its validation, beyond that choice. -/
theorem Configuration.validate_verbose [Host] (input : ConfigurationInput) (directory : String)
    (verbose : Option Bool) :
    validate { input with verbose } directory =
      (validate input directory).map fun c => { c with verbose := verbose.getD false } := by
  have runtime : checkRuntime { input with verbose } directory = checkRuntime input directory := rfl
  have packages : checkPackages { input with verbose } directory = checkPackages input directory :=
    rfl
  have entry : checkEntry { input with verbose } directory = checkEntry input directory := rfl
  unfold validate
  rw [runtime, packages, entry]
  dsimp only
  split <;> rfl

/-! ## Scenes -/

namespace Scene

variable [Host]

/-- All that has been logged is marked, and a scene that is not verbose neither has logged anything
nor has a resolver that would. -/
structure Logs (verbose : Bool) (s : Scene) : Prop where
  lines : ∀ line ∈ s.log, verbose = true ∧ IsLogLine line
  context : s.context.isVerbose = true → verbose = true

variable {verbose : Bool} {s : Scene}

omit [Host] in
theorem Logs.logLines (logs : s.Logs verbose) {lines : List String}
    (marked : ∀ line ∈ lines, verbose = true ∧ IsLogLine line) :
    (Scene.logLines lines s).Logs verbose where
  lines line member := (List.mem_append.mp member).elim (logs.lines line) (marked line)
  context := logs.context

theorem Logs.resolve (logs : s.Logs verbose) (identifier : String) :
    (Scene.resolve identifier s).2.Logs verbose := by
  have kept : Logs verbose { s with context := (s.context.resolve s.disk identifier).2 } :=
    ⟨logs.lines, fun isVerbose => logs.context (s.context.isVerbose_resolve ▸ isVerbose)⟩
  apply kept.logLines
  intro line logged
  obtain ⟨isVerbose, mark⟩ := Context.log_resolve logged
  exact ⟨logs.context isVerbose, mark⟩

/-- A library that reads through a context logs in the same way. -/
theorem invariant_logs (configuration : Configuration) :
    (Session.reader configuration).Invariant fun state => state.2.Logs configuration.verbose where
  get _ logs := logs
  source identifier logs := logs.resolve identifier
  log unit verbose logs := by
    apply logs.logLines
    intro line member
    rw [List.mem_singleton.mp member]
    exact ⟨verbose, Library.isLogLine_resolvedLine unit⟩
  keep logs _ := logs
  remember logs _ _ := logs

end Scene

end UnitResolution
