import UnitResolution.Proofs.Context.Creation
import UnitResolution.Proofs.Context.Dispatch

/-!
# A context with an entry document

With the entry document a chain has one more resolver, behind the runtime library and in front of
the files (`UnitResolution.Chain.WithEntry`). It answers for nothing but the identifiers that name
the entry document, and does not look at the disk for them. All others are answered as they are
without it; only the list of resolvers that an unclaimed identifier is told about shows it
(`UnitResolution.Context.resolve_withEntry`).
-/

namespace UnitResolution

variable {disk : Disk} {identifier file directory : String}

/-! ## The entry document -/

namespace EntryDocument

variable [Host]

theorem serve?_files (named : IsNamed directory identifier) (entry : String) :
    (files entry directory).serve? identifier =
      some (path directory, page (Path.resolve directory entry)) := by
  obtain ⟨p, found, same⟩ := Option.map_eq_some_iff.mp named
  unfold MemoryFiles.serve?
  rw [files_eq, found]
  simp [same]

/-- The source of the entry document under an identifier that names it. -/
def source (entry directory identifier : String) : Source where
  identifier := identifier
  contents := page (Path.resolve directory entry)
  path := some (path directory)

theorem source_resolve (entry directory identifier : String) :
    source (Path.resolve directory entry) directory identifier =
      source entry directory identifier := by
  unfold source
  rw [Path.resolve_resolve]

end EntryDocument

/-! ## Resolvers -/

namespace Resolver

variable [Host]

theorem resolve_ofEntry (named : EntryDocument.IsNamed directory identifier) :
    (ofEntry file directory).resolve disk identifier =
      (⟨.ok (.ok (EntryDocument.source file directory identifier)), []⟩,
        ofEntry file directory) := by
  simp only [ofEntry, resolve, EntryDocument.serve?_files named, EntryDocument.source]

/-- Only a runtime library changes by being asked. -/
theorem resolve_snd_of_file {r : Resolver} (claimed : r.claims identifier)
    (isFile : Identifier.scheme? identifier = some "file") :
    (r.resolve disk identifier).2 = r := by
  cases r with
  | runtimeDirectory library =>
      have runtime : Identifier.scheme? identifier = some "rt" :=
        Identifier.hasScheme_runtime.mp claimed
      rw [isFile] at runtime
      exact absurd runtime (by decide)
  | _ => rfl

end Resolver

/-! ## Chains -/

namespace Chain

variable {unclaimed refused : SourceFault} {resolvers : List Resolver}

variable [Host]

theorem resolveBy_of_claims {r : Resolver} (claimed : r.claims identifier)
    (rest : List Resolver) :
    resolveBy disk identifier unclaimed (r :: rest) =
      ((r.resolve disk identifier).1, (r.resolve disk identifier).2 :: rest) := by
  rw [resolveBy, if_pos claimed]

theorem resolveBy_of_not_claims {r : Resolver} (claimed : ¬ r.claims identifier)
    (rest : List Resolver) :
    resolveBy disk identifier unclaimed (r :: rest) =
      ((resolveBy disk identifier unclaimed rest).1,
        r :: (resolveBy disk identifier unclaimed rest).2) := by
  rw [resolveBy, if_neg claimed]

theorem resolve_fst (c : Chain) : (c.resolve disk identifier).1 =
    (resolveBy disk identifier (.unclaimed c.names) c.resolvers).1 :=
  rfl

theorem resolvers_resolve (c : Chain) : (c.resolve disk identifier).2.resolvers =
    (resolveBy disk identifier (.unclaimed c.names) c.resolvers).2 :=
  rfl

/-- No resolver of files changes by being asked. -/
theorem resolveBy_snd_of_file (isFile : Identifier.scheme? identifier = some "file") :
    (resolveBy disk identifier unclaimed resolvers).2 = resolvers := by
  induction resolvers with
  | nil => rfl
  | cons r rest ih =>
      by_cases claimed : r.claims identifier
      · rw [resolveBy_of_claims claimed, Resolver.resolve_snd_of_file claimed isFile]
      · rw [resolveBy_of_not_claims claimed, ih]

/-- What an unclaimed identifier is told about shows nowhere else. -/
theorem resolveBy_congr (disk : Disk) (identifier : String) (unclaimed refused : SourceFault)
    (resolvers : List Resolver) :
    (resolveBy disk identifier refused resolvers).2 =
        (resolveBy disk identifier unclaimed resolvers).2 ∧
      ((resolveBy disk identifier refused resolvers).1 =
          (resolveBy disk identifier unclaimed resolvers).1 ∨
        (resolveBy disk identifier refused resolvers).1 = ⟨.ok (.error refused), []⟩ ∧
          (resolveBy disk identifier unclaimed resolvers).1 = ⟨.ok (.error unclaimed), []⟩) := by
  induction resolvers with
  | nil => exact ⟨rfl, .inr ⟨rfl, rfl⟩⟩
  | cons r rest ih =>
      by_cases claimed : r.claims identifier
      · rw [resolveBy_of_claims claimed, resolveBy_of_claims claimed]
        exact ⟨rfl, .inl rfl⟩
      · rw [resolveBy_of_not_claims claimed, resolveBy_of_not_claims claimed]
        exact ⟨congrArg (r :: ·) ih.1, ih.2⟩

/-- A chain has the resolvers of another one and, behind the first of them, the one of the entry
document. The first one is a runtime library. -/
structure WithEntry (file directory : String) (plain full : Chain) : Prop where
  parts : ∃ runtime rest,
    (∀ u, runtime.claims u → Identifier.scheme? u = some "rt") ∧
    plain.resolvers = runtime :: rest ∧
    full.resolvers = runtime :: .ofEntry file directory :: rest

/-- Two answers to an identifier are the same, unless nothing claims it: then each tells the names
of the resolvers that have been asked. -/
inductive Alike (first : String) (rest : List String) :
    Answer (Except SourceFault Source) → Answer (Except SourceFault Source) → Prop
  | same (answer : Answer (Except SourceFault Source)) : Alike first rest answer answer
  | unclaimed : Alike first rest ⟨.ok (.error (.unclaimed (first :: rest))), []⟩
      ⟨.ok (.error (.unclaimed (first :: "implicit-entry" :: rest))), []⟩

namespace WithEntry

variable {plain full : Chain} (withEntry : WithEntry file directory plain full)

include withEntry

theorem names : ∃ first rest, plain.names = first :: rest ∧
    full.names = first :: "implicit-entry" :: rest := by
  obtain ⟨runtime, rest, _, short, long⟩ := withEntry.parts
  refine ⟨runtime.name, rest.map Resolver.name, ?_, ?_⟩
  · rw [Chain.names, short, List.map_cons]
  · rw [Chain.names, long, List.map_cons, List.map_cons]
    rfl

/-- The entry document is answered with, whatever is on the disk. -/
theorem resolve_of_named (named : EntryDocument.IsNamed directory identifier) :
    (full.resolve disk identifier).1 =
        ⟨.ok (.ok (EntryDocument.source file directory identifier)), []⟩ ∧
      WithEntry file directory (plain.resolve disk identifier).2
        (full.resolve disk identifier).2 := by
  obtain ⟨runtime, rest, scheme, short, long⟩ := withEntry.parts
  have isFile := named.scheme?_eq
  have notRuntime : ¬ runtime.claims identifier := by
    intro claimed
    rw [scheme identifier claimed] at isFile
    exact absurd isFile (by decide)
  have byEntry : (Resolver.ofEntry file directory).claims identifier :=
    Resolver.claims_ofEntry.mpr named
  refine ⟨?_, ⟨runtime, rest, scheme, ?_, ?_⟩⟩
  · rw [resolve_fst, long, resolveBy_of_not_claims notRuntime, resolveBy_of_claims byEntry,
      Resolver.resolve_ofEntry named]
  · rw [resolvers_resolve, resolveBy_snd_of_file isFile, short]
  · rw [resolvers_resolve, resolveBy_snd_of_file isFile, long]

/-- Every other identifier is answered as without the entry document. -/
theorem resolve_of_not_named (other : ¬ EntryDocument.IsNamed directory identifier)
    {first : String} {rest : List String} (names : plain.names = first :: rest)
    (more : full.names = first :: "implicit-entry" :: rest) :
    Alike first rest (plain.resolve disk identifier).1 (full.resolve disk identifier).1 ∧
      WithEntry file directory (plain.resolve disk identifier).2
        (full.resolve disk identifier).2 := by
  obtain ⟨runtime, files, scheme, short, long⟩ := withEntry.parts
  have notByEntry : ¬ (Resolver.ofEntry file directory).claims identifier :=
    mt Resolver.claims_ofEntry.mp other
  by_cases claimed : runtime.claims identifier
  · -- the runtime library stands in front of both chains, and changes alike
    constructor
    · rw [resolve_fst, resolve_fst, short, long, resolveBy_of_claims claimed,
        resolveBy_of_claims claimed]
      exact .same _
    · refine ⟨(runtime.resolve disk identifier).2, files, ?_, ?_, ?_⟩
      · intro u
        rw [Resolver.claims_resolve]
        exact scheme u
      · rw [resolvers_resolve, short, resolveBy_of_claims claimed]
      · rw [resolvers_resolve, long, resolveBy_of_claims claimed]
  · obtain ⟨changes, answers⟩ := resolveBy_congr disk identifier (.unclaimed plain.names)
      (.unclaimed full.names) files
    constructor
    · rw [resolve_fst, resolve_fst, short, long, resolveBy_of_not_claims claimed,
        resolveBy_of_not_claims claimed, resolveBy_of_not_claims notByEntry]
      rcases answers with same | ⟨refused, unclaimed⟩
      · rw [same]
        exact .same _
      · rw [refused, unclaimed, names, more]
        exact .unclaimed
    · refine ⟨runtime, (resolveBy disk identifier (.unclaimed plain.names) files).2, scheme, ?_, ?_⟩
      · rw [resolvers_resolve, short, resolveBy_of_not_claims claimed]
      · rw [resolvers_resolve, long, resolveBy_of_not_claims claimed,
          resolveBy_of_not_claims notByEntry, changes]

end WithEntry

end Chain

/-! ## Contexts -/

namespace Context

variable {η ρ : Type} {plain full : Context η ρ}

variable [Host]

theorem resolve_fst_of_use {c : Context η ρ} {chain : Chain} (used : c.use.1 = .ok chain)
    (disk : Disk) (identifier : String) :
    (c.resolve disk identifier).1 =
      ⟨(chain.resolve disk identifier).1.outcome.map fun found =>
          found.mapError (SourceFault.diagnostic identifier),
        (chain.resolve disk identifier).1.log⟩ := by
  unfold resolve
  cases whole : c.use with
  | mk answer next =>
      rw [whole] at used
      cases used
      rfl

/-- At its end, a context refuses every identifier. -/
theorem resolve_fst_of_disposed {c : Context η ρ} (ended : c.stage = .disposed) (disk : Disk)
    (identifier : String) :
    (c.resolve disk identifier).1 = ⟨.ok (.error Refusal.ended.diagnostic), []⟩ := by
  simp only [resolve, use, ended]

/-- A context has a chain with the entry document, and otherwise the parts and the stage of another
one, but for what its hook is. -/
structure WithEntry (file directory : String) (plain full : Context η ρ) : Prop where
  stage : full.stage = plain.stage
  chains : ∃ short long, plain.chain = some short ∧ full.chain = some long ∧
    Chain.WithEntry file directory short long

namespace WithEntry

variable (withEntry : WithEntry file directory plain full)

include withEntry

/-- Both contexts refuse to be used, or both use their chains. -/
theorem use :
    (∃ refusal, plain.use = (.error refusal, plain) ∧ full.use = (.error refusal, full)) ∨
    ∃ short long, Chain.WithEntry file directory short long ∧
      plain.chain = some short ∧ full.chain = some long ∧
      plain.use = (.ok short, { plain with stage := .sealed }) ∧
      full.use = (.ok long, { full with stage := .sealed }) := by
  obtain ⟨same, short, long, known, more, chains⟩ := withEntry
  unfold Context.use
  rw [known, more, same]
  cases plain.stage with
  | unconfigured | disposed => exact .inl ⟨_, rfl, rfl⟩
  | configured | «sealed» => exact .inr ⟨short, long, chains, rfl, rfl, rfl, rfl⟩

theorem resolve (disk : Disk) (identifier : String) :
    WithEntry file directory (plain.resolve disk identifier).2
      (full.resolve disk identifier).2 := by
  unfold Context.resolve
  rcases withEntry.use with ⟨refusal, used, used'⟩ | ⟨short, long, chains, _, _, used, used'⟩
  · rw [used, used']
    exact withEntry
  · rw [used, used']
    refine ⟨rfl, _, _, rfl, rfl, ?_⟩
    by_cases named : EntryDocument.IsNamed directory identifier
    · exact (chains.resolve_of_named named).2
    · obtain ⟨first, rest, names, more⟩ := chains.names
      exact (chains.resolve_of_not_named named names more).2

theorem afterUse (use : Use) :
    WithEntry file directory (plain.afterUse use) (full.afterUse use) := by
  cases use with
  | resolve disk identifier => exact withEntry.resolve disk identifier
  | library =>
      change WithEntry file directory plain.use.2 full.use.2
      rcases withEntry.use with ⟨refusal, used, used'⟩ | ⟨_, _, _, _, _, used, used'⟩
      · rw [used, used']
        exact withEntry
      · rw [used, used']
        exact ⟨rfl, withEntry.chains⟩
  | dispose => exact ⟨rfl, withEntry.chains⟩

/-- No use tells the contexts apart. -/
theorem afterUses (uses : List Use) :
    WithEntry file directory (plain.afterUses uses) (full.afterUses uses) := by
  induction uses generalizing plain full with
  | nil => exact withEntry
  | cons use rest ih => exact ih (withEntry.afterUse use)

/-- While the context is not at its end, it answers with the entry document for whatever names it,
and for every other identifier as the context without it. -/
theorem answers (complete : plain.stage ≠ .unconfigured) (disk : Disk) (identifier : String) :
    ∃ first rest, plain.chainNames? = some (first :: rest) ∧
      full.chainNames? = some (first :: "implicit-entry" :: rest) ∧
      if full.stage ≠ .disposed ∧ EntryDocument.IsNamed directory identifier then
        (full.resolve disk identifier).1 =
          ⟨.ok (.ok (EntryDocument.source file directory identifier)), []⟩
      else
        (full.resolve disk identifier).1 = (plain.resolve disk identifier).1 ∨
        (plain.resolve disk identifier).1 =
            ⟨.ok (.error ((SourceFault.unclaimed (first :: rest)).diagnostic identifier)), []⟩ ∧
          (full.resolve disk identifier).1 =
            ⟨.ok (.error ((SourceFault.unclaimed
              (first :: "implicit-entry" :: rest)).diagnostic identifier)), []⟩ := by
  obtain ⟨same, short, long, known, more, chains⟩ := withEntry
  obtain ⟨first, rest, names, names'⟩ := chains.names
  refine ⟨first, rest, ?_, ?_, ?_⟩
  · rw [chainNames?, known, Option.map_some, names]
  · rw [chainNames?, more, Option.map_some, names']
  · by_cases ended : plain.stage = .disposed
    · rw [if_neg fun both => both.1 (same.trans ended),
        resolve_fst_of_disposed ended disk identifier,
        resolve_fst_of_disposed (same.trans ended) disk identifier]
      exact .inl rfl
    · have used : plain.use.1 = .ok short := use_of_chain known complete ended
      have used' : full.use.1 = .ok long :=
        use_of_chain more (same ▸ complete) (same ▸ ended)
      rw [resolve_fst_of_use used, resolve_fst_of_use used']
      by_cases named : EntryDocument.IsNamed directory identifier
      · rw [if_pos ⟨same ▸ ended, named⟩, (chains.resolve_of_named named).1]
        rfl
      · rw [if_neg fun both => named both.2]
        have alike : Chain.Alike first rest (short.resolve disk identifier).1
            (long.resolve disk identifier).1 := (chains.resolve_of_not_named named names names').1
        generalize (short.resolve disk identifier).1 = answer at alike
        generalize (long.resolve disk identifier).1 = answer' at alike
        cases alike with
        | same => exact .inl rfl
        | unclaimed => exact .inr ⟨rfl, rfl⟩

end WithEntry

end Context

/-! ## Creation -/

namespace Configuration

variable {input : ConfigurationInput} {off : Option Bool}

variable [Host]

/-- The entry of an entry document is given, and may be given without it. -/
theorem checkEntry_of_implicit (implicit : input.useImplicitEntry = some true)
    {choice : EntryChoice} (chosen : (checkEntry input directory).choice = some choice)
    (without : off ≠ some true) :
    ∃ entry, input.entryPointFile = some entry ∧
      choice = .implicit (Path.resolve directory entry) ∧
      checkEntry { input with useImplicitEntry := off } directory =
        .chosen (.explicit (some (Path.resolve directory entry))) := by
  simp only [checkEntry, if_pos implicit] at chosen
  simp only [checkEntry, if_neg without]
  cases given : input.entryPointFile with
  | none =>
      rw [given] at chosen
      cases chosen
  | some entry =>
      rw [given] at chosen
      by_cases blank : Text.isAllBlank entry
      · rw [Option.bind_some, if_pos blank] at chosen
        cases chosen
      · rw [Option.bind_some, if_neg blank] at chosen ⊢
        cases chosen
        exact ⟨entry, rfl, rfl, rfl⟩

/-- An input that asks for the entry document is valid without asking for it, and describes the same
configuration but for the entry. -/
theorem validate_without_entry (implicit : input.useImplicitEntry = some true)
    {configuration : Configuration} (valid : validate input directory = .ok configuration)
    (without : off ≠ some true) :
    ∃ entry, input.entryPointFile = some entry ∧
      configuration.entry = .implicit (Path.resolve directory entry) ∧
      validate { input with useImplicitEntry := off } directory =
        .ok { configuration with entry := .explicit (some (Path.resolve directory entry)) } := by
  unfold validate at valid
  dsimp only at valid
  split at valid
  · next sound runtime packages chosen =>
      cases valid
      obtain ⟨entry, given, rfl, checked⟩ := checkEntry_of_implicit implicit chosen without
      refine ⟨entry, given, rfl, ?_⟩
      obtain ⟨front, _⟩ := List.append_eq_nil_iff.mp sound
      have runtime' : checkRuntime { input with useImplicitEntry := off } directory =
          checkRuntime input directory := rfl
      have packages' : checkPackages { input with useImplicitEntry := off } directory =
          checkPackages input directory := rfl
      unfold validate
      rw [runtime', packages', checked]
      simp only [Checked.chosen, front, runtime, packages, List.append_nil]
  · cases valid

end Configuration

namespace Context

section

variable [Host]

variable {η ρ : Type} {overrides : Overrides η ρ}

theorem withEntry_chainFor
    (runtime : ∀ r ∈ overrides.runtimeResolver, ∀ u, r.claims u →
      Identifier.scheme? u = some "rt")
    {configuration : Configuration} (implicit : configuration.entry = .implicit file)
    (explicit : Option String) :
    Chain.WithEntry file overrides.directory
      (chainFor { configuration with entry := .explicit explicit } overrides)
      (chainFor configuration overrides) := by
  refine ⟨overrides.runtimeResolver.getD
      (.ofRuntimeChoice configuration.verbose configuration.runtime),
    overrides.fileResolvers.getD [.file, .ofPackageChoice configuration.packages], ?_, ?_, ?_⟩
  · intro u claimed
    cases given : overrides.runtimeResolver with
    | none =>
        rw [given] at claimed
        exact Resolver.claims_ofRuntimeChoice.mp claimed
    | some r =>
        rw [given] at claimed
        exact runtime r given u claimed
  · exact resolvers_of_chainFor _ overrides
  · rw [resolvers_of_chainFor, Configuration.entryResolvers, implicit]
    rfl

/-- An entry document is a conservative extension. With it, a context answers for the identifiers
that name it with the document, whatever the disk is, and for all others exactly as the context for
the same input without it, however both have been used before. Only the resolvers that an unclaimed
identifier is told about have one more among them. The resolvers of files may have been replaced. -/
theorem resolve_withEntry (standardHook : Configuration → η) (input : ConfigurationInput)
    (overrides : Overrides η ρ)
    (runtime : ∀ r ∈ overrides.runtimeResolver, ∀ u, r.claims u →
      Identifier.scheme? u = some "rt")
    (implicit : input.useImplicitEntry = some true) {full : Context η ρ} {log : List String}
    (created : create standardHook input overrides = .created full log) (off : Option Bool)
    (without : off ≠ some true) :
    ∃ entry plain plainLog, input.entryPointFile = some entry ∧
      create standardHook { input with useImplicitEntry := off } overrides =
        .created plain plainLog ∧
      ∀ (uses : List Use) (disk : Disk) (identifier : String), ∃ first rest,
        (plain.afterUses uses).chainNames? = some (first :: rest) ∧
        (full.afterUses uses).chainNames? = some (first :: "implicit-entry" :: rest) ∧
        let plainAnswer := ((plain.afterUses uses).resolve disk identifier).1
        let answer := ((full.afterUses uses).resolve disk identifier).1
        if (full.afterUses uses).stage ≠ .disposed ∧
            EntryDocument.IsNamed overrides.directory identifier then
          answer = ⟨.ok (.ok (EntryDocument.source entry overrides.directory identifier)), []⟩
        else
          answer = plainAnswer ∨
          plainAnswer =
              ⟨.ok (.error ((SourceFault.unclaimed (first :: rest)).diagnostic identifier)), []⟩ ∧
            answer =
              ⟨.ok (.error ((SourceFault.unclaimed
                (first :: "implicit-entry" :: rest)).diagnostic identifier)), []⟩ := by
  obtain ⟨configuration, valid, known, stage⟩ := complete_of_create created
  obtain ⟨entry, given, chosen, valid'⟩ :=
    Configuration.validate_without_entry implicit valid without
  obtain ⟨_, mutable⟩ :=
    (ends_create standardHook input overrides).exists_created_iff.mp ⟨full, log, created⟩
  obtain ⟨plain, plainLog, created'⟩ :=
    (ends_create standardHook _ overrides).exists_created_iff.mpr ⟨⟨_, valid'⟩, mutable⟩
  obtain ⟨configuration', valid'', known', stage'⟩ := complete_of_create created'
  cases valid'.symm.trans valid''
  refine ⟨entry, plain, plainLog, given, created', fun uses disk identifier => ?_⟩
  have start : WithEntry (Path.resolve overrides.directory entry) overrides.directory plain full :=
    ⟨stage.trans stage'.symm, _, _, known', known, withEntry_chainFor runtime chosen _⟩
  have complete : (plain.afterUses uses).stage ≠ .unconfigured := by
    apply stage_afterUses
    rw [stage']
    exact nofun
  have answers := (start.afterUses uses).answers complete disk identifier
  rwa [EntryDocument.source_resolve] at answers

end

/-- An input with an entry document. -/
def entryInput : ConfigurationInput where
  useMockRuntime := some true
  mockRuntime := some []
  useImplicitEntry := some true
  entryPointFile := some "main.ts"

/-- The overrides for a context in a directory. -/
def entryOverrides : Overrides Strategy Strategy where
  directory := "/p"

/-- A disk with a file in the place of the entry document. -/
def coveredDisk : Disk := .ofEntries [("/p/__implicit_entry__.html", .file "<body></body>")]

/-- An identifier that names that place, and is not written like the one of the entry document. -/
def coveredName : String := "file:///p/%5F_implicit_entry__.html"

set_option maxRecDepth 4000 in
/-- The entry document stands in front of a file on the disk. -/
theorem resolve_withEntry_of_covered :
    ∃ full plain log plainLog source,
      create Strategy.inference entryInput entryOverrides = .created full log ∧
      create Strategy.inference { entryInput with useImplicitEntry := none } entryOverrides =
        .created plain plainLog ∧
      (full.resolve coveredDisk coveredName).1.outcome =
        .ok (.ok (EntryDocument.source "main.ts" "/p" coveredName)) ∧
      (plain.resolve coveredDisk coveredName).1.outcome = .ok (.ok source) ∧
      source.contents = "<body></body>" := by
  obtain ⟨full, log, created⟩ : ∃ full log,
      create Strategy.inference entryInput entryOverrides = .created full log := ⟨_, _, rfl⟩
  obtain ⟨entry, plain, plainLog, given, created', answers⟩ :=
    resolve_withEntry Strategy.inference entryInput entryOverrides nofun rfl created none nofun
  cases given
  obtain ⟨_, _, _, _, answer⟩ := answers [] coveredDisk coveredName
  obtain ⟨_, _, _, stage⟩ := complete_of_create created
  have alive : full.stage ≠ .disposed := by
    rw [stage]
    exact nofun
  have named : EntryDocument.IsNamed "/p" coveredName := by decide +kernel
  rw [if_pos ⟨alive, named⟩] at answer
  refine ⟨full, plain, log, plainLog,
    ⟨coveredName, "<body></body>", some "/p/__implicit_entry__.html"⟩, created, created',
    congrArg Answer.outcome answer, ?_, rfl⟩
  cases created'
  decide +kernel

end Context

end UnitResolution
