import UnitResolution.Proofs.Configuration.Validation
import UnitResolution.Proofs.Context.Dispatch
import UnitResolution.Proofs.Context.Lifecycle

/-!
# How the creation of a context ends

To create a context, an input is validated, a context is minted, and a chain of resolvers and a hook
are attached to it. Creation ends in one of three ways, and what has been minted decides which: the
context with both parts, a report of what is wrong with the input before anything is minted, or a
refusal of the minted context, which is disposed then.

Whoever mints the context may have used it before. What it has been called for then may depend on a
disk, but only the layouts that its resolvers have discovered do
(`UnitResolution.Life.Alike.after`), and a new chain takes their place. The theorem
`UnitResolution.Context.create_atomic` collects what holds of every creation.
-/

namespace UnitResolution

variable {η ρ σ : Type}

/-! ## What a disk leaves behind -/

namespace Context

/-- Two contexts that differ at most in the layouts that their resolvers have discovered. -/
structure Alike (c d : Context η ρ) : Prop where
  options : c.options = d.options
  stage : c.stage = d.stage
  chain : c.chain.map Chain.bare = d.chain.map Chain.bare
  hook : c.hook = d.hook
  made : c.made = d.made

namespace Alike

variable {c d : Context η ρ}

theorem refl (c : Context η ρ) : c.Alike c := ⟨rfl, rfl, rfl, rfl, rfl⟩

theorem isSome_chain (alike : c.Alike d) : c.chain.isSome = d.chain.isSome := by
  have same := congrArg Option.isSome alike.chain
  rwa [Option.isSome_map, Option.isSome_map] at same

theorem dispose (alike : c.Alike d) : c.dispose.Alike d.dispose :=
  ⟨alike.options, rfl, alike.chain, alike.hook, rfl⟩

/-- What has been discovered is gone with the chain. -/
theorem renew (alike : c.Alike d) (chain : Option Chain) (hook : Option η) :
    { c with stage := .configured, chain, hook } =
      ({ d with stage := .configured, chain, hook } : Context η ρ) := by
  rw [alike.options, alike.made]

theorem updateStage (alike : c.Alike d) : c.updateStage.Alike d.updateStage := by
  have complete : (c.chain.isSome && c.hook.isSome) = (d.chain.isSome && d.hook.isSome) := by
    rw [alike.isSome_chain, alike.hook]
  unfold Context.updateStage
  rw [complete]
  split
  · exact ⟨alike.options, rfl, alike.chain, alike.hook, alike.made⟩
  · exact alike

theorem whyFixed (alike : c.Alike d) (part : Part) : c.whyFixed part = d.whyFixed part := by
  unfold Context.whyFixed
  rw [alike.stage]

theorem attachChain (alike : c.Alike d) (chain : Chain) :
    (c.attachChain chain).1 = (d.attachChain chain).1 ∧
      (c.attachChain chain).2.Alike (d.attachChain chain).2 := by
  unfold Context.attachChain
  rw [alike.whyFixed]
  split
  · exact ⟨rfl, alike⟩
  · exact ⟨rfl, updateStage ⟨alike.options, alike.stage, rfl, alike.hook, alike.made⟩⟩

theorem attachHook (alike : c.Alike d) (hook : η) :
    (c.attachHook hook).1 = (d.attachHook hook).1 ∧
      (c.attachHook hook).2.Alike (d.attachHook hook).2 := by
  unfold Context.attachHook
  rw [alike.whyFixed]
  split
  · exact ⟨rfl, alike⟩
  · exact ⟨rfl, updateStage ⟨alike.options, alike.stage, alike.chain, rfl, alike.made⟩⟩

/-- Both contexts refuse to be used, or both use their chains. -/
theorem use (alike : c.Alike d) :
    (∃ refusal, c.use = (.error refusal, c) ∧ d.use = (.error refusal, d)) ∨
    ∃ chain other, chain.bare = other.bare ∧ c.use = (.ok chain, { c with stage := .sealed }) ∧
      d.use = (.ok other, { d with stage := .sealed }) := by
  obtain ⟨options, stage, chain, hook, made⟩ := c
  obtain ⟨options', stage', chain', hook', made'⟩ := d
  obtain ⟨rfl, rfl, bare, rfl, rfl⟩ := alike
  cases chain with
  | none =>
      cases Option.map_eq_none_iff.mp bare.symm
      cases stage <;> exact .inl ⟨_, rfl, rfl⟩
  | some chain =>
      obtain ⟨other, rfl, same⟩ := Option.map_eq_some_iff.mp bare.symm
      cases stage with
      | unconfigured | disposed => exact .inl ⟨_, rfl, rfl⟩
      | configured | «sealed» => exact .inr ⟨chain, other, same.symm, rfl, rfl⟩

/-- What has been resolved on one disk or another leaves contexts alike. -/
theorem resolve [Host] (alike : c.Alike d) (disk other : Disk) (identifier : String) :
    (c.resolve disk identifier).2.Alike (d.resolve other identifier).2 := by
  unfold Context.resolve
  rcases alike.use with ⟨refusal, used, used'⟩ | ⟨chain, chain', bare, used, used'⟩
  · rw [used, used']
    exact alike
  · rw [used, used']
    refine ⟨alike.options, rfl, congrArg some ?_, alike.hook, alike.made⟩
    exact (Resolver.undiscovered_resolveBy _ _).trans
      (bare.trans (Resolver.undiscovered_resolveBy _ _).symm)

end Alike

end Context

/-- The call on another disk. -/
def Call.onDisk (disk : Disk) : Call η → Call η
  | resolve _ identifier => resolve disk identifier
  | call => call

/-- Calls that differ in their disks are the same, or resolve the same identifier. -/
theorem Call.eq_or_resolve {call other : Call η} (same : call.onDisk {} = other.onDisk {}) :
    call = other ∨ ∃ disk disk' identifier,
      call = .resolve disk identifier ∧ other = .resolve disk' identifier := by
  cases call with
  | resolve disk identifier =>
      cases other with
      | resolve disk' identifier' =>
          cases same
          exact .inr ⟨disk, disk', identifier, rfl, rfl⟩
      | _ => cases same
  | _ =>
      cases other with
      | resolve => cases same
      | _ => exact .inl same

namespace Life

variable [Host]

/-- Two lives that differ at most in the layouts that have been discovered. -/
structure Alike (life other : Life σ η ρ) : Prop where
  context : life.context.Alike other.context
  outside : life.outside = other.outside
  invocations : life.invocations = other.invocations

namespace Alike

variable {life other : Life σ η ρ}

omit [Host] in
theorem refl (life : Life σ η ρ) : life.Alike life := ⟨.refl _, rfl, rfl⟩

theorem libraryResolver (alike : life.Alike other) (invoke : η → StateM σ ρ) :
    (life.step invoke .libraryResolver).2.Alike (other.step invoke .libraryResolver).2 := by
  obtain ⟨c, outside, invocations⟩ := life
  obtain ⟨d, outside', invocations'⟩ := other
  obtain ⟨context, rfl, rfl⟩ := alike
  have context : c.Alike d := context
  unfold Life.step Context.libraryResolver
  rcases context.use with ⟨refusal, used, used'⟩ | ⟨chain, chain', bare, used, used'⟩
  · simp only [used, used']
    exact ⟨context, rfl, rfl⟩
  · simp only [used, used', ← context.made, ← context.hook]
    -- the hook is invoked only where nothing has been made
    cases made : c.made with
    | some made => exact ⟨⟨context.options, rfl, context.chain, rfl, rfl⟩, rfl, rfl⟩
    | none =>
        cases hook : c.hook <;>
          exact ⟨⟨context.options, rfl, context.chain, rfl, rfl⟩, rfl, rfl⟩

/-- The same call keeps lives alike, on whichever disks it is made. -/
theorem step (alike : life.Alike other) (invoke : η → StateM σ ρ) {call call' : Call η}
    (same : call.onDisk {} = call'.onDisk {}) :
    (life.step invoke call).2.Alike (other.step invoke call').2 := by
  rcases Call.eq_or_resolve same with rfl | ⟨disk, disk', identifier, rfl, rfl⟩
  · cases call with
    | attachChain chain =>
        exact ⟨(alike.context.attachChain chain).2, alike.outside, alike.invocations⟩
    | attachHook hook =>
        exact ⟨(alike.context.attachHook hook).2, alike.outside, alike.invocations⟩
    | resolve disk identifier =>
        exact ⟨alike.context.resolve disk disk identifier, alike.outside, alike.invocations⟩
    | libraryResolver => exact alike.libraryResolver invoke
    | dispose => exact ⟨alike.context.dispose, alike.outside, alike.invocations⟩
  · exact ⟨alike.context.resolve disk disk' identifier, alike.outside, alike.invocations⟩

/-- The same calls keep lives alike, on whichever disks they are made. -/
theorem after (alike : life.Alike other) (invoke : η → StateM σ ρ) {calls calls' : List (Call η)}
    (same : calls.map (Call.onDisk {}) = calls'.map (Call.onDisk {})) :
    (life.after invoke calls).Alike (other.after invoke calls') := by
  induction calls generalizing life other calls' with
  | nil =>
      cases List.map_eq_nil_iff.mp same.symm
      exact alike
  | cons call rest ih =>
      obtain ⟨call', rest', rfl, first, others⟩ := List.map_eq_cons_iff.mp same.symm
      exact ih (alike.step invoke first.symm) others.symm

end Alike

end Life

/-! ## Creation -/

namespace Creation

/-- What a caller is told about a creation that has failed. -/
def report? : Creation η ρ → Option Report
  | invalid violations => some (Configuration.reportOf violations)
  | refused refusal _ => some (.single refusal.diagnostic)
  | created .. => none

/-- Two creations that end alike: with the same answer, and with what has been minted in the same
state but for layouts that had been discovered before. -/
inductive Alike : Creation η ρ → Creation η ρ → Prop
  | same (outcome : Creation η ρ) : Alike outcome outcome
  | refused (refusal : Refusal) {c d : Context η ρ} (context : c.Alike d) :
      Alike (.refused refusal c) (.refused refusal d)

end Creation

namespace Context

variable [Host]

variable {standardHook : Configuration → η} {input : ConfigurationInput}
  {overrides : Overrides η ρ} {configuration : Configuration}

theorem resolvers_of_chainFor (configuration : Configuration) (overrides : Overrides η ρ) :
    (chainFor configuration overrides).resolvers =
      overrides.runtimeResolver.getD
        (.ofRuntimeChoice configuration.verbose configuration.runtime) ::
      (configuration.entryResolvers overrides.directory ++
        overrides.fileResolvers.getD [.file, .ofPackageChoice configuration.packages]) := by
  unfold chainFor Chain.compose Configuration.entryResolvers
  cases configuration.entry <;> rfl

omit [Host] in
/-- A context takes both parts, or refuses the first one and stays as it is. -/
theorem attach_eq (c : Context η ρ) (chain : Chain) (hook : η) :
    c.attach chain hook =
      match c.whyFixed .chain with
      | some refusal => (.error refusal, c)
      | none =>
          (.ok (), { c with stage := .configured, chain := some chain, hook := some hook }) := by
  cases fixed : c.whyFixed .chain with
  | some refusal => simp [attach, attachChain, fixed]
  | none =>
      -- the first part may complete the context already, and does not fix it
      have first : updateStage { c with chain := some chain } =
          if c.hook.isSome then { c with stage := .configured, chain := some chain }
          else { c with chain := some chain } := by
        simp [updateStage]
      have second : (updateStage { c with chain := some chain }).whyFixed .hook = none := by
        rw [whyFixed_eq_none_iff, first]
        split
        · exact .inr rfl
        · exact (whyFixed_eq_none_iff c .chain).mp fixed
      simp only [attach, attachChain, attachHook, fixed, second]
      rw [updateStage_of_complete (by rw [chain_updateStage]; rfl) rfl, first]
      split <;> rfl

/-- To mint a context by making a new one, with options that may be others than those asked for, and
calling it. -/
def minting (invoke : η → StateM σ ρ) (outside : σ) (options : AnalysisOptions → AnalysisOptions)
    (calls : AnalysisOptions → List (Call η)) (asked : AnalysisOptions) : Context η ρ :=
  ((Life.start (options asked) outside).after invoke (calls asked)).context

/-- The context that is minted for an analysis. -/
def minted (overrides : Overrides η ρ) : Context η ρ :=
  overrides.mint { cacheSize := AnalysisOptions.standardCacheSize }

/-- The ways in which a creation ends. -/
inductive Ends (standardHook : Configuration → η) (input : ConfigurationInput)
    (overrides : Overrides η ρ) : Creation η ρ → Prop
  | invalid {vs : List Violation}
      (wrong : Configuration.validate input overrides.directory = .error vs) :
      Ends standardHook input overrides (.invalid vs)
  | refused {configuration : Configuration} {refusal : Refusal}
      (valid : Configuration.validate input overrides.directory = .ok configuration)
      (fixed : (minted overrides).whyFixed .chain = some refusal) :
      Ends standardHook input overrides (.refused refusal (minted overrides).dispose)
  | created {configuration : Configuration}
      (valid : Configuration.validate input overrides.directory = .ok configuration)
      (mutable : (minted overrides).whyFixed .chain = none) :
      Ends standardHook input overrides (.created
        { minted overrides with
          stage := .configured
          chain := some (chainFor configuration overrides)
          hook := some (overrides.hook.getD (standardHook configuration)) }
        (if configuration.verbose then [chainLine (chainFor configuration overrides)] else []))

theorem ends_create (standardHook : Configuration → η) (input : ConfigurationInput)
    (overrides : Overrides η ρ) :
    Ends standardHook input overrides (create standardHook input overrides) := by
  unfold create
  split
  · next wrong => exact .invalid wrong
  · next configuration valid =>
      simp only [attach_eq]
      cases fixed : (overrides.mint { cacheSize := _ }).whyFixed .chain with
      | some refusal => exact .refused valid fixed
      | none => exact .created valid fixed

namespace Ends

variable {outcome : Creation η ρ} (ends : Ends standardHook input overrides outcome)

include ends

theorem exists_created_iff : (∃ c log, outcome = .created c log) ↔
    (∃ configuration, Configuration.validate input overrides.directory = .ok configuration) ∧
      ((minted overrides).stage = .unconfigured ∨ (minted overrides).stage = .configured) := by
  rw [← whyFixed_eq_none_iff _ .chain]
  cases ends with
  | invalid wrong =>
      refine iff_of_false nofun fun ⟨⟨_, valid⟩, _⟩ => ?_
      cases wrong.symm.trans valid
  | refused valid fixed =>
      refine iff_of_false nofun fun ⟨_, mutable⟩ => ?_
      cases fixed.symm.trans mutable
  | created valid mutable => exact iff_of_true ⟨_, _, rfl⟩ ⟨⟨_, valid⟩, mutable⟩

theorem of_created {c : Context η ρ} {log : List String} (created : outcome = .created c log) :
    ∃ configuration chain,
      Configuration.validate input overrides.directory = .ok configuration ∧
      c = { minted overrides with
        stage := .configured
        chain := some chain
        hook := some (overrides.hook.getD (standardHook configuration)) } ∧
      chain.resolvers =
        overrides.runtimeResolver.getD
          (.ofRuntimeChoice configuration.verbose configuration.runtime) ::
        (configuration.entryResolvers overrides.directory ++
          overrides.fileResolvers.getD [.file, .ofPackageChoice configuration.packages]) := by
  cases ends with
  | invalid | refused => cases created
  | created valid mutable =>
      cases created
      exact ⟨_, _, valid, rfl, resolvers_of_chainFor _ _⟩

/-- Whatever else is minted, an input that is not valid is reported as it is. -/
theorem of_failed (failed : ∀ c log, outcome ≠ .created c log) :
    (∃ report, outcome.report? = some report ∧ report.hasErrors) ∧
    ((∃ vs, Configuration.validate input overrides.directory = .error vs ∧
        ∀ mint : AnalysisOptions → Context η ρ,
          create standardHook input { overrides with mint } = .invalid vs) ∨
      ∃ refusal, outcome =
        .refused refusal { minted overrides with stage := .disposed, made := none }) := by
  cases ends with
  | invalid wrong =>
      refine ⟨⟨_, rfl, ?_⟩, .inl ⟨_, wrong, fun mint => ?_⟩⟩
      · exact Configuration.hasErrors_reportOf (Configuration.of_validate_eq_error wrong).2
      · simp only [create, wrong]
  | @refused _ refusal valid fixed =>
      refine ⟨⟨_, rfl, ?_⟩, .inr ⟨_, rfl⟩⟩
      cases refusal <;> rfl
  | created valid mutable => exact absurd rfl (failed _ _)

/-- Where contexts are minted alike, creations end alike. -/
theorem alike {mint : AnalysisOptions → Context η ρ} {other : Creation η ρ}
    (others : Ends standardHook input { overrides with mint } other)
    (alike : (minted overrides).Alike (minted { overrides with mint })) :
    outcome.Alike other := by
  have why := alike.whyFixed .chain
  cases ends with
  | invalid wrong =>
      cases others with
      | invalid wrong' =>
          cases wrong.symm.trans wrong'
          exact .same _
      | refused valid' | created valid' => cases wrong.symm.trans valid'
  | refused valid fixed =>
      cases others with
      | invalid wrong' => cases valid.symm.trans wrong'
      | refused valid' fixed' =>
          cases fixed.symm.trans (why.trans fixed')
          exact .refused _ alike.dispose
      | created valid' mutable' => cases fixed.symm.trans (why.trans mutable')
  | created valid mutable =>
      cases others with
      | invalid wrong' => cases valid.symm.trans wrong'
      | refused valid' fixed' => cases mutable.symm.trans (why.trans fixed')
      | created valid' mutable' =>
          cases valid.symm.trans valid'
          rw [alike.renew]
          exact .same _

end Ends

/-- Creation is atomic. It succeeds exactly if the input is valid and the minted context still takes
its parts, whatever has been attached to it before; that context comes out then, with the chain for
the configuration. Otherwise there is at least one error, and either nothing has been minted or the
minted context is at its end, with nothing left of what it has made. How it ends does not depend on
the disks on which the minted context may have been used. -/
theorem create_atomic (standardHook : Configuration → η) (input : ConfigurationInput)
    (overrides : Overrides η ρ) :
    let outcome := create standardHook input overrides
    let valid := Configuration.validate input overrides.directory
    ((∃ c log, outcome = .created c log) ↔ (∃ configuration, valid = .ok configuration) ∧
      ((minted overrides).stage = .unconfigured ∨ (minted overrides).stage = .configured)) ∧
    (∀ c log, outcome = .created c log → ∃ configuration chain, valid = .ok configuration ∧
      c = { minted overrides with
        stage := .configured
        chain := some chain
        hook := some (overrides.hook.getD (standardHook configuration)) } ∧
      chain.resolvers =
        overrides.runtimeResolver.getD
          (.ofRuntimeChoice configuration.verbose configuration.runtime) ::
        (configuration.entryResolvers overrides.directory ++
          overrides.fileResolvers.getD [.file, .ofPackageChoice configuration.packages])) ∧
    ((∀ c log, outcome ≠ .created c log) →
      (∃ report, outcome.report? = some report ∧ report.hasErrors) ∧
      ((∃ vs, valid = .error vs ∧ ∀ mint : AnalysisOptions → Context η ρ,
          create standardHook input { overrides with mint } = .invalid vs) ∨
        ∃ refusal, outcome =
          .refused refusal { minted overrides with stage := .disposed, made := none })) ∧
    ∀ (invoke : η → StateM σ ρ) (outside : σ) (options : AnalysisOptions → AnalysisOptions)
      (calls calls' : AnalysisOptions → List (Call η)),
      (∀ o, (calls o).map (Call.onDisk {}) = (calls' o).map (Call.onDisk {})) →
      (create standardHook input
          { overrides with mint := minting invoke outside options calls }).Alike
        (create standardHook input
          { overrides with mint := minting invoke outside options calls' }) := by
  intro outcome valid
  have ends := ends_create standardHook input overrides
  refine ⟨ends.exists_created_iff, fun c log => ends.of_created, ends.of_failed, ?_⟩
  intro invoke outside options calls calls' same
  exact (ends_create _ _ _).alike (ends_create _ _ _)
    ((Life.Alike.refl _).after invoke (same _)).context

end Context

end UnitResolution
