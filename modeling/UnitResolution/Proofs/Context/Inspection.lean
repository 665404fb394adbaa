import UnitResolution.Context.Creation
import UnitResolution.Proofs.Resolver.Opening
import UnitResolution.Proofs.Session

/-!
# What keeps a context from answering

A context that has been created with its standard resolvers goes through uses, between which the
disk may change in any way (`UnitResolution.Context.afterUses`). Its chain stays the one that the
configuration asks for, but for a layout that has been discovered
(`UnitResolution.Context.Follows`).

To every identifier such a context answers a source or a diagnostic, with one exception: something
that has to be looked at before a file is opened cannot be looked at, or a directory that has to be
listed cannot be listed. The theorem `UnitResolution.Context.resolve_answers` says exactly when, and
that everything that is wrong with the opened file itself is part of the answer.
-/

namespace UnitResolution

variable {disk : Disk} {identifier : String}

/-! ## Resolvers, but for their layouts -/

namespace Resolver

/-- A resolver without the layout that it may have discovered. -/
def undiscovered : Resolver → Resolver
  | runtimeDirectory library => .runtimeDirectory { library with layout := none }
  | r => r

/-- Only a runtime library in a directory discovers anything. -/
theorem eq_of_undiscovered {r s : Resolver} (same : r.undiscovered = s.undiscovered)
    (other : ∀ library, r ≠ .runtimeDirectory library) : r = s := by
  cases r with
  | runtimeDirectory library => exact (other library rfl).elim
  | _ =>
      cases s with
      | runtimeDirectory library => cases same
      | _ => exact same

variable [Host]

theorem undiscovered_resolve (r : Resolver) :
    (r.resolve disk identifier).2.undiscovered = r.undiscovered := by
  cases r with
  | runtimeDirectory library =>
      obtain ⟨path, verbose⟩ :
          (library.lookup disk identifier).2.path = library.path ∧
            (library.lookup disk identifier).2.verbose = library.verbose := lookup_path library
      simp only [resolve, undiscovered, path, verbose]
  | _ => rfl

theorem undiscovered_resolveBy (unclaimed : SourceFault) (resolvers : List Resolver) :
    (Chain.resolveBy disk identifier unclaimed resolvers).2.map undiscovered =
      resolvers.map undiscovered := by
  induction resolvers with
  | nil => rfl
  | cons first rest ih =>
      unfold Chain.resolveBy
      split
      · rw [List.map_cons, List.map_cons, undiscovered_resolve]
      · rw [List.map_cons, List.map_cons, ih]

end Resolver

/-! ## Contexts in use -/

namespace Context

section

variable [Host]

variable {η ρ : Type} {configuration : Configuration} {overrides : Overrides η ρ}
  {c : Context η ρ} {r : Resolver} {reason : String}

/-- A use of a context. -/
inductive Use
  /-- Ask for the source of an identifier, with the disk as it is then. -/
  | resolve (disk : Disk) (identifier : String)
  /-- Look at the resolver of libraries, which leaves the chain as it is. -/
  | library
  /-- End the context. -/
  | dispose

/-- The context after a use. -/
def afterUse (c : Context η ρ) : Use → Context η ρ
  | .resolve disk identifier => (c.resolve disk identifier).2
  | .library => c.use.2
  | .dispose => c.dispose

/-- The context after several uses. -/
def afterUses (c : Context η ρ) (uses : List Use) : Context η ρ := uses.foldl afterUse c

/-- The chain of a context is the one for a configuration, but for discovered layouts. -/
def Follows (configuration : Configuration) (overrides : Overrides η ρ) (c : Context η ρ) : Prop :=
  ∃ chain, c.chain = some chain ∧ chain.resolvers.map Resolver.undiscovered =
    (chainFor configuration overrides).resolvers.map Resolver.undiscovered

omit [Host] in
theorem chain_use (c : Context η ρ) : c.use.2.chain = c.chain := by
  unfold use
  split <;> rfl

omit [Host] in
theorem chain_of_use {chain : Chain} (used : c.use.1 = .ok chain) : c.chain = some chain := by
  unfold use at used
  split at used
  · cases used
  · cases used
  · cases used
  · next same _ _ =>
      cases used
      exact same

namespace Follows

theorem of_chain {other : Context η ρ} (follows : c.Follows configuration overrides)
    (same : other.chain = c.chain) : other.Follows configuration overrides := by
  obtain ⟨chain, found, alike⟩ := follows
  exact ⟨chain, same.trans found, alike⟩

theorem resolve (follows : c.Follows configuration overrides) :
    (c.resolve disk identifier).2.Follows configuration overrides := by
  unfold Context.resolve
  cases used : c.use with
  | mk answer next =>
      have same : next.chain = c.chain := by
        rw [← chain_use c, used]
      cases answer with
      | error refusal => exact follows.of_chain same
      | ok chain =>
          obtain ⟨chain', found, alike⟩ := follows
          have known : c.chain = some chain := chain_of_use (by rw [used])
          cases known.symm.trans found
          exact ⟨_, rfl, (Resolver.undiscovered_resolveBy _ chain.resolvers).trans alike⟩

theorem afterUse (follows : c.Follows configuration overrides) (use : Use) :
    (c.afterUse use).Follows configuration overrides := by
  cases use with
  | resolve disk identifier => exact follows.resolve
  | library => exact follows.of_chain (chain_use c)
  | dispose => exact follows.of_chain rfl

/-- No use changes which chain a context follows. -/
theorem afterUses (follows : c.Follows configuration overrides) (uses : List Use) :
    (c.afterUses uses).Follows configuration overrides := by
  induction uses generalizing c with
  | nil => exact follows
  | cons use rest ih => exact ih (follows.afterUse use)

end Follows

omit [Host] in
theorem chain_updateStage (c : Context η ρ) : c.updateStage.chain = c.chain := by
  unfold updateStage
  split <;> rfl

omit [Host] in
/-- With a chain and a hook attached, a context is complete. -/
theorem attach_complete {chain : Chain} {hook : η} (attached : (c.attach chain hook).1 = .ok ()) :
    (c.attach chain hook).2.chain = some chain ∧ (c.attach chain hook).2.stage = .configured := by
  cases fixed : c.whyFixed .chain with
  | some refusal => simp [attach, attachChain, fixed] at attached
  | none =>
      cases last : (updateStage { c with chain := some chain }).whyFixed .hook with
      | some refusal => simp [attach, attachChain, attachHook, fixed, last] at attached
      | none =>
          simp only [attach, attachChain, attachHook, fixed, last, chain_updateStage]
          refine ⟨trivial, ?_⟩
          simp [updateStage]

theorem complete_of_create {standardHook : Configuration → η} {input : ConfigurationInput}
    {log : List String} (created : create standardHook input overrides = .created c log) :
    ∃ configuration, Configuration.validate input overrides.directory = .ok configuration ∧
      c.chain = some (chainFor configuration overrides) ∧ c.stage = .configured := by
  unfold create at created
  split at created
  · cases created
  · next configuration valid =>
      dsimp only at created
      split at created
      · cases created
      · next attached =>
          cases created
          have complete := attach_complete (congrArg Prod.fst attached)
          rw [attached] at complete
          exact ⟨configuration, valid, complete⟩

/-- A created context has the chain for the configuration that its input describes. -/
theorem follows_of_create {standardHook : Configuration → η} {input : ConfigurationInput}
    {log : List String} (created : create standardHook input overrides = .created c log) :
    ∃ configuration, Configuration.validate input overrides.directory = .ok configuration ∧
      c.Follows configuration overrides := by
  obtain ⟨configuration, valid, known, _⟩ := complete_of_create created
  exact ⟨configuration, valid, _, known, rfl⟩

/-! ## Answers -/

/-- The resolver that answers for an identifier when a context is used. -/
def claimant? (c : Context η ρ) (identifier : String) : Option Resolver :=
  c.use.1.toOption.bind fun chain => chain.claimant? identifier

theorem resolve_of_claimant (claimant : c.claimant? identifier = some r) :
    (c.resolve disk identifier).1.outcome =
      (r.resolve disk identifier).1.outcome.map fun found =>
        found.mapError (SourceFault.diagnostic identifier) := by
  unfold claimant? at claimant
  unfold resolve
  cases used : c.use with
  | mk answer next =>
      cases answer with
      | error refusal =>
          rw [used] at claimant
          cases claimant
      | ok chain =>
          rw [used] at claimant
          simp only [Chain.resolve_of_claimant claimant]

theorem resolve_of_unclaimed (unclaimed : c.claimant? identifier = none) :
    ∃ d, (c.resolve disk identifier).1.outcome = .ok (.error d) := by
  unfold claimant? at unclaimed
  unfold resolve
  cases used : c.use with
  | mk answer next =>
      cases answer with
      | error refusal => exact ⟨refusal.diagnostic, rfl⟩
      | ok chain =>
          rw [used] at unclaimed
          refine ⟨(SourceFault.unclaimed chain.names).diagnostic identifier, ?_⟩
          simp only [Chain.resolve_of_unclaimed unclaimed, Except.map, Except.mapError]

/-- A context is interrupted exactly where the resolver that answers is. -/
theorem resolve_eq_error_iff {i : Interruption} :
    (c.resolve disk identifier).1.outcome = .error i ↔
      ∃ r reason, c.claimant? identifier = some r ∧ r.Blocked disk identifier reason ∧
        i = .uninspectable reason := by
  cases claimant : c.claimant? identifier with
  | none =>
      obtain ⟨d, answered⟩ : ∃ d, (c.resolve disk identifier).1.outcome = .ok (.error d) :=
        resolve_of_unclaimed claimant
      rw [answered]
      refine ⟨nofun, ?_⟩
      rintro ⟨r, reason, impossible, _⟩
      cases impossible
  | some r =>
      have through : (c.resolve disk identifier).1.outcome = .error i ↔
          (r.resolve disk identifier).1.outcome = .error i := by
        rw [resolve_of_claimant claimant]
        cases (r.resolve disk identifier).1.outcome with
        | error other => exact ⟨fun same => by cases same; rfl, fun same => by cases same; rfl⟩
        | ok found => exact ⟨nofun, nofun⟩
      rw [through, Resolver.resolve_eq_error_iff]
      constructor
      · rintro ⟨reason, blocked, same⟩
        exact ⟨r, reason, rfl, blocked, same⟩
      · rintro ⟨other, reason, same, blocked, stopped⟩
        cases same
        exact ⟨reason, blocked, stopped⟩

theorem claimant_mem {chain : Chain} (known : c.chain = some chain)
    (claimant : c.claimant? identifier = some r) :
    r ∈ chain.resolvers ∧ r.claims identifier = true := by
  obtain ⟨used, kept, found⟩ := Option.bind_eq_some_iff.mp claimant
  have same : c.chain = some used := by
    cases answer : c.use.1 with
    | error refusal =>
        rw [answer] at kept
        cases kept
    | ok other =>
        rw [answer] at kept
        cases kept
        exact chain_of_use answer
  cases known.symm.trans same
  exact ⟨List.mem_of_find?_eq_some found, List.find?_some found⟩

/-- The resolvers of the standard chain for a configuration. -/
theorem mem_chainFor (runtime : overrides.runtimeResolver = none)
    (files : overrides.fileResolvers = none)
    (member : r ∈ (chainFor configuration overrides).resolvers) :
    r = .ofRuntimeChoice configuration.verbose configuration.runtime ∨
      (∃ file, configuration.entry = .implicit file ∧ r = .ofEntry file overrides.directory) ∨
      r = .file ∨ r = .ofPackageChoice configuration.packages := by
  unfold chainFor Chain.compose at member
  rw [runtime, files] at member
  cases entry : configuration.entry with
  | explicit file => simpa [entry] using member
  | implicit file => simpa [entry, or_assoc] using member

/-- The runtime library in a directory that a context looks at first, if it has one. -/
def runtimeLibrary? (c : Context η ρ) : Option RuntimeDirectory :=
  match c.chain.bind fun chain => chain.resolvers.head? with
  | some (.runtimeDirectory library) => some library
  | _ => none

/-- Behind the first resolver of a standard chain stands no runtime library. -/
theorem Follows.runtimeLibrary (follows : c.Follows configuration overrides)
    (files : overrides.fileResolvers = none) (claimant : c.claimant? identifier = some r)
    (library : RuntimeDirectory) (same : r = .runtimeDirectory library) :
    c.runtimeLibrary? = some library := by
  obtain ⟨chain, known, alike⟩ := follows
  obtain ⟨member, _⟩ := claimant_mem known claimant
  subst same
  cases resolvers : chain.resolvers with
  | nil => exact absurd resolvers chain.resolvers_ne_nil
  | cons first rest =>
      rw [resolvers] at member alike
      rcases List.mem_cons.mp member with rfl | behind
      · simp [runtimeLibrary?, known, resolvers]
      · -- the standard chain has none there, and resolvers only ever discover their layouts
        exfalso
        have mapped : (Resolver.runtimeDirectory library).undiscovered ∈
            rest.map Resolver.undiscovered := List.mem_map_of_mem behind
        have tail := congrArg List.tail alike
        simp only [List.map_cons, List.tail_cons] at tail
        rw [tail] at mapped
        unfold chainFor Chain.compose at mapped
        rw [files] at mapped
        cases entry : configuration.entry <;> cases packages : configuration.packages <;>
          simp [entry, packages, Resolver.undiscovered, Resolver.ofEntry, Resolver.ofPackageChoice]
            at mapped

/-- The resolver that answers is a standard one, or a runtime library in a directory that may have
discovered its layout. -/
theorem Follows.claimant (follows : c.Follows configuration overrides)
    (runtime : overrides.runtimeResolver = none) (files : overrides.fileResolvers = none)
    (claimant : c.claimant? identifier = some r) :
    (∃ sources, configuration.runtime = .mock sources ∧ r = .ofMockSources sources) ∨
    (∃ library, configuration.runtime = .directory library.path ∧
      c.runtimeLibrary? = some library ∧ r = .runtimeDirectory library) ∨
    (∃ file, configuration.entry = .implicit file ∧ r = .ofEntry file overrides.directory) ∨
    r = .file ∨ r = .ofPackageChoice configuration.packages := by
  have front := follows.runtimeLibrary files claimant
  obtain ⟨chain, known, alike⟩ := follows
  obtain ⟨member, _⟩ := claimant_mem known claimant
  obtain ⟨standard, among, same⟩ : ∃ s ∈ (chainFor configuration overrides).resolvers,
      s.undiscovered = r.undiscovered := by
    rw [← List.mem_map, ← alike]
    exact List.mem_map_of_mem member
  rcases mem_chainFor runtime files among with rfl | ⟨file, implicit, rfl⟩ | rfl | rfl
  · cases choice : configuration.runtime with
    | mock sources =>
        rw [choice] at same
        exact .inl ⟨sources, rfl, (Resolver.eq_of_undiscovered same nofun).symm⟩
    | directory path =>
        rw [choice] at same
        cases r with
        | runtimeDirectory library =>
            have equal : path = library.path :=
              congrArg RuntimeDirectory.path (Resolver.runtimeDirectory.inj same)
            exact .inr (.inl ⟨library, by rw [equal], front library rfl, rfl⟩)
        | _ => cases same
  · exact .inr (.inr (.inl ⟨file, implicit, (Resolver.eq_of_undiscovered same nofun).symm⟩))
  · exact .inr (.inr (.inr (.inl (Resolver.eq_of_undiscovered same nofun).symm)))
  · refine .inr (.inr (.inr (.inr (Resolver.eq_of_undiscovered same fun library => ?_).symm)))
    cases configuration.packages <;> exact nofun

/-- A resolver of a context that follows a standard chain can be blocked if it looks through several
roots, or if it still has to discover its layout. -/
theorem Follows.blocked (follows : c.Follows configuration overrides)
    (runtime : overrides.runtimeResolver = none) (files : overrides.fileResolvers = none)
    (claimant : c.claimant? identifier = some r) (blocked : r.Blocked disk identifier reason) :
    (∃ roots, configuration.packages = .several roots ∧
        r = .packages (roots.map Path.absoluteString)) ∨
      ∃ library, configuration.runtime = .directory library.path ∧ library.layout = none ∧
        r = .runtimeDirectory library := by
  rcases follows.claimant runtime files claimant with
    ⟨sources, _, rfl⟩ | ⟨library, choice, _, rfl⟩ | ⟨file, _, rfl⟩ | rfl | rfl
  · cases blocked
  · cases blocked with
    | runtime undiscovered hidden => exact .inr ⟨library, choice, undiscovered, rfl⟩
  · cases blocked
  · cases blocked
  · cases choice : configuration.packages with
    | single root =>
        rw [choice] at blocked
        cases blocked
    | several roots => exact .inl ⟨roots, rfl, rfl⟩

/-- A context that has been created with its standard resolvers, and used in any way since, answers
a source or a diagnostic to every identifier, unless something that the answering resolver looks at
before it opens a file cannot be looked at, or not be listed. That can only be one of several roots,
or the directory of a runtime library whose layout has not been discovered. What is wrong with an
opened file is a diagnostic of the resolver that opens it. -/
theorem resolve_answers (standardHook : Configuration → η) (input : ConfigurationInput)
    (overrides : Overrides η ρ) (runtime : overrides.runtimeResolver = none)
    (files : overrides.fileResolvers = none) {log : List String}
    (created : create standardHook input overrides = .created c log) (uses : List Use)
    (disk : Disk) (identifier : String) :
    let last := c.afterUses uses
    let outcome := (last.resolve disk identifier).1.outcome
    (∀ i, outcome = .error i ↔ ∃ r reason, last.claimant? identifier = some r ∧
      r.Blocked disk identifier reason ∧ i = .uninspectable reason) ∧
    (∀ r path reason, last.claimant? identifier = some r → r.Opens disk identifier path →
      (disk.find? path = some (.unreadable reason) ∨
        disk.find? path = some (.uninspectable reason)) →
      outcome = .ok (.error ((SourceFault.unreadable path reason).diagnostic identifier))) ∧
    ∃ configuration, Configuration.validate input overrides.directory = .ok configuration ∧
      ∀ r reason, last.claimant? identifier = some r → r.Blocked disk identifier reason →
        (∃ roots, configuration.packages = .several roots ∧
          r = .packages (roots.map Path.absoluteString)) ∨
        ∃ library, configuration.runtime = .directory library.path ∧ library.layout = none ∧
          r = .runtimeDirectory library := by
  intro last outcome
  obtain ⟨configuration, valid, follows⟩ := follows_of_create created
  refine ⟨fun i => resolve_eq_error_iff, ?_, configuration, valid, ?_⟩
  · intro r path reason claimant opens refuses
    have answered : outcome = _ := resolve_of_claimant claimant
    rw [answered, opens.outcome, Source.read_of_refusing refuses]
    rfl
  · intro r reason claimant blocked
    exact (follows.afterUses uses).blocked runtime files claimant blocked

end

/-- An input with a runtime library in a directory and two roots of packages. -/
def twoRootsInput : ConfigurationInput where
  runtimePath := some "/rt"
  useMultiRoot := some true
  packageRoots := some ["/first", "/second"]

/-- The context that is created for this input. -/
def twoRootsContext : Context Strategy Strategy :=
  match create Strategy.inference twoRootsInput ({} : Overrides Strategy Strategy) with
  | .created context _ => context
  | _ => { options := { cacheSize := AnalysisOptions.standardCacheSize } }

/-- A disk with a file that cannot be looked at and a directory that cannot be listed. -/
def refusingDisk : Disk :=
  .ofEntries [("/first/lib/a.ts", .uninspectable "EACCES: permission denied, stat"),
    ("/rt/lib", .unlistable "EACCES: permission denied, scandir")]

set_option maxRecDepth 4000 in
/-- What cannot be looked at below one of several roots interrupts the context, and as a file it is
reported. Libraries that cannot be listed interrupt it as well. -/
theorem resolve_answers_refusing :
    let statReason := "EACCES: permission denied, stat"
    let listReason := "EACCES: permission denied, scandir"
    let later := twoRootsContext.afterUses [.resolve {} "pkg:lib/a.ts"]
    (twoRootsContext.resolve refusingDisk "pkg:lib/a.ts").1.outcome =
      .error (.uninspectable statReason) ∧
    (twoRootsContext.resolve refusingDisk "rt:core").1.outcome =
      .error (.uninspectable listReason) ∧
    (later.resolve refusingDisk "file:///first/lib/a.ts").1.outcome =
      .ok (.error ((SourceFault.unreadable "/first/lib/a.ts" statReason).diagnostic
        "file:///first/lib/a.ts")) := by
  intro statReason listReason later
  have created : create Strategy.inference twoRootsInput ({} : Overrides Strategy Strategy) =
      .created twoRootsContext [] := rfl
  have refuses : refusingDisk.find? "/first/lib/a.ts" = some (.uninspectable statReason) := by
    decide +kernel
  refine ⟨?_, ?_, ?_⟩
  · have answers := resolve_answers _ _ _ rfl rfl created [] refusingDisk "pkg:lib/a.ts"
    have inside : PackagePath.ofIdentifier "pkg:lib/a.ts".toList = .ok "lib/a.ts".toList := by
      decide +kernel
    have blocked : Resolver.Blocked refusingDisk "pkg:lib/a.ts" statReason
        (.packages ([] ++ "/first" :: ["/second"])) :=
      .packages inside (List.forall_mem_nil _) (by decide +kernel)
    exact (answers.1 _).mpr ⟨_, _, by rfl, blocked, rfl⟩
  · have answers := resolve_answers _ _ _ rfl rfl created [] refusingDisk "rt:core"
    have hidden : Layout.Hidden refusingDisk "/rt" listReason :=
      .listing (by decide +kernel) (by decide +kernel) (by decide +kernel)
    have blocked : Resolver.Blocked refusingDisk "rt:core" listReason
        (.runtimeDirectory { path := "/rt" }) := .runtime rfl hidden
    exact (answers.1 _).mpr ⟨_, _, by rfl, blocked, rfl⟩
  · have answers := resolve_answers _ _ _ rfl rfl created [.resolve {} "pkg:lib/a.ts"] refusingDisk
      "file:///first/lib/a.ts"
    exact answers.2.1 .file _ _ (by rfl) (.file (by decide +kernel)) (.inr refuses)

end Context

end UnitResolution
