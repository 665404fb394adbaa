import UnitResolution.Proofs.CommandLine.ExitCode
import UnitResolution.Proofs.Context.Log
import UnitResolution.Proofs.Library.Verbosity

/-!
# Quiet and verbose runs

Beside a run stand the run of the same words that has been told to be quiet, and the one that has
been told to be verbose. Both end like the first one and print the same on the standard error. All
that they change is the standard output: a quiet run leaves out the closing line
(`UnitResolution.CommandLine.Quieter`), and a verbose one puts lines of the log in front
(`UnitResolution.CommandLine.Louder`). The theorem `UnitResolution.CommandLine.run_observed` says so
for all runs.

The flags go the same way at first: reading the words, looking for a project file and reading it do
not depend on them (`UnitResolution.CommandLine.Flag`). Then they part. That a quiet run shows all
that others show is because nothing is reported but errors. That a verbose run does what others do
is because its context has the same sources, and its library the same answers.
-/

namespace UnitResolution.CommandLine

/-! ## Two runs -/

/-- A quiet run beside a run: it leaves out the closing line, if there is one. -/
structure Quieter (plain quiet : Outcome) : Prop where
  exit : quiet.exit = plain.exit
  err : quiet.printed.err = plain.printed.err
  out : ∃ summary, plain.printed.out = quiet.printed.out ++ closing false summary

/-- A verbose run beside a run: it prints lines of the log in front of everything else. -/
structure Louder (plain verbose : Outcome) : Prop where
  exit : verbose.exit = plain.exit
  err : verbose.printed.err = plain.printed.err
  out : ∃ added, (∀ line ∈ added, IsLogLine line) ∧
    verbose.printed.out = added ++ plain.printed.out

theorem Quieter.refl (o : Outcome) : Quieter o o := ⟨rfl, rfl, none, (List.append_nil _).symm⟩

theorem Louder.refl (o : Outcome) : Louder o o := ⟨rfl, rfl, [], List.forall_mem_nil _, rfl⟩

/-! ## Flags -/

/-- A change of the options that a flag makes. It interferes with no other option, and neither the
project file nor the runtime library hangs on it. -/
structure Flag (change : Options → Options) : Prop where
  flag : ∀ {word set}, flag? word = some set → ∀ o, set (change o) = change (set o)
  setting : ∀ {word set}, setting? word = some set →
    ∀ value o, set value (change o) = change (set value o)
  config : ∀ o, (change o).config = o.config
  runtime : ∀ o, (change o).runtime = o.runtime

theorem flag_quiet : Flag fun o => { o with quiet := true } where
  flag {word set} known o := by
    unfold flag? at known
    split at known <;> cases known <;> rfl
  setting {word set} known value o := by
    unfold setting? at known
    split at known <;> cases known <;> rfl
  config _ := rfl
  runtime _ := rfl

theorem flag_verbose : Flag fun o => { o with verbose := true } where
  flag {word set} known o := by
    unfold flag? at known
    split at known <;> cases known <;> rfl
  setting {word set} known value o := by
    unfold setting? at known
    split at known <;> cases known <;> rfl
  config _ := rfl
  runtime _ := rfl

/-- Arguments with changed options. -/
def Arguments.changed (change : Options → Options) (a : Arguments) : Arguments :=
  { a with options := change a.options }

/-- Arguments that differ in what a flag changes, unless they ask for help or for the version. -/
inductive Changed (change : Options → Options) : Arguments → Arguments → Prop
  | told {command : String} (kind : command = "help" ∨ command = "version") :
      Changed change { command } { command }
  | changed (a : Arguments) : Changed change a (a.changed change)

theorem told_of_command? {word command : String} (stands : command? word = some command) :
    command = "help" ∨ command = "version" := by
  unfold command? at stands
  split at stands <;> cases stands
  · exact .inl rfl
  · exact .inl rfl
  · exact .inr rfl
  · exact .inr rfl

section

variable {change : Options → Options} (flag : Flag change)
include flag

/-- Words are read to arguments that differ in the same way as those read before. -/
theorem Flag.readFrom (words : List String) (a : Arguments) :
    Changed change (a.readFrom words) ((a.changed change).readFrom words) := by
  -- which word is next is decided by the command and the identifier so far, which are the same
  fun_induction Arguments.readFrom a words with
  | case1 a => exact .changed a
  | case2 a word rest empty ih => simpa only [Arguments.readFrom, if_pos empty] using ih
  | case3 a word rest some plain first ih =>
      simpa only [Arguments.readFrom, if_neg some, if_pos plain, Arguments.changed, if_pos first]
        using ih
  | case4 a word rest some plain later second ih =>
      simpa only [Arguments.readFrom, if_neg some, if_pos plain, Arguments.changed, if_neg later,
        if_pos second] using ih
  | case5 a word rest some plain later further ih =>
      simpa only [Arguments.readFrom, if_neg some, if_pos plain, Arguments.changed, if_neg later,
        if_neg further] using ih
  | case6 a word rest some option command stands =>
      simp only [Arguments.readFrom, if_neg some, if_neg option, stands]
      exact .told (told_of_command? stands)
  | case7 a word some option other set known =>
      simp only [Arguments.readFrom, if_neg some, if_neg option, other, known, Arguments.changed,
        flag.setting known]
      exact .changed { a with options := set "" a.options }
  | case8 a word some option other set known value rest ih =>
      simpa only [Arguments.readFrom, if_neg some, if_neg option, other, known, Arguments.changed,
        flag.setting known] using ih
  | case9 a word rest some option other alone set known ih =>
      simpa only [Arguments.readFrom, if_neg some, if_neg option, other, alone, known,
        Arguments.changed, flag.flag known] using ih
  | case10 a word rest some option other alone unknown ih =>
      simpa only [Arguments.readFrom, if_neg some, if_neg option, other, alone, unknown] using ih

variable {disk : Disk} {directory : String} {R : Outcome → Outcome → Prop}

/-- A run depends on a flag only through what it does to an input, once there is one. -/
theorem Flag.related_run [Host] (refl : ∀ o, R o o)
    (related : ∀ a command input root, R (runOn disk directory a command input root)
      (runOn disk directory (a.changed change) command input root))
    {words flagged : List String}
    (first : Arguments.read flagged = (({} : Arguments).changed change).readFrom words) :
    R (run disk directory words) (run disk directory flagged) := by
  have arguments : Changed change (Arguments.read words) (Arguments.read flagged) := by
    rw [first]
    exact flag.readFrom words {}
  unfold run
  generalize Arguments.read words = a at arguments
  generalize Arguments.read flagged = b at arguments
  cases arguments with
  | told kind => rcases kind with rfl | rfl <;> exact refl _
  | changed a =>
      have project : projectFile? disk directory (change a.options) =
          projectFile? disk directory a.options := by
        unfold projectFile?
        rw [flag.config]
      -- where one run stops early, the other one stops in the same way
      have either {p : Prop} [Decidable p] {stop x y : Outcome} (so : R x y) :
          R (if p then stop else x) (if p then stop else y) := by
        split
        · exact refl stop
        · exact so
      simp only [Arguments.changed]
      refine either (either ?_)
      cases Command.ofName? a.command with
      | none => exact refl _
      | some command =>
          refine either ?_
          simp only [runCommand, project, flag.runtime]
          refine either ?_
          split
          · exact refl _
          · exact related _ _ _ _

end

/-! ## Quiet runs -/

section

variable [Host]

variable {disk : Disk} {directory : String}

/-- In a session with a context that a run has created, all diagnostics are errors, which are shown
also where the run is quiet. -/
theorem Ready.quieter_runIn {s : Session} (ready : Ready s) (command : Command)
    (identifier : String) (quiet : Bool) :
    Quieter (runIn s command identifier quiet) (runIn s command identifier true) := by
  unfold runIn
  cases answer : command.output identifier s with
  | mk outcome after =>
      have answer : (command.output identifier s).1 = outcome := by rw [answer]
      cases outcome with
      | error i => exact .refl _
      | ok found =>
          have reports := ready.reports_output answer
          cases found with
          | error report => exact .refl _
          | ok output =>
              obtain ⟨errors, _⟩ := reports
              refine ⟨rfl, ?_, if quiet then none else output.summary, ?_⟩
              · change shown true output.diagnostics = shown quiet output.diagnostics
                rw [shown_of_errors errors, shown_of_errors errors]
              · change after.scene.log ++ output.text :: closing quiet output.summary =
                  (after.scene.log ++ output.text :: closing true output.summary) ++ closing false _
                cases quiet <;> cases output.summary <;> simp [closing]

theorem quieter_runOn (a : Arguments) (command : Command) (input : ConfigurationInput)
    (root : String) :
    Quieter (runOn disk directory a command input root)
      (runOn disk directory (a.changed fun o => { o with quiet := true }) command input root) := by
  have same : (a.changed fun o => { o with quiet := true }).options.applyTo directory input =
      a.options.applyTo directory input := rfl
  unfold runOn
  rw [same]
  split
  · exact .refl _
  · exact .refl _
  · next context log created =>
      exact (ready_of_create created disk).quieter_runIn command _ _

/-! ## Verbose runs -/

/-- The session of a new context for a configuration. -/
def sessionFor (disk : Disk) (configuration : Configuration) (root : String)
    (log : List String) : Session :=
  .start (Context.ofConfiguration configuration root) disk log

theorem chainOutput_eq (configuration : Configuration) (verbose : Bool) (root : String)
    (log log' : List String) :
    chainOutput (sessionFor disk { configuration with verbose } root log) =
      chainOutput (sessionFor disk configuration root log') := by
  have listed (c : Configuration) (log : List String) : chainOutput (sessionFor disk c root log) =
      .ok { text := lines (resolverLines 1
        (Context.chainFor c ({ directory := root } : Overrides Strategy Strategy)).resolvers) } :=
    rfl
  rw [listed, listed, Context.resolvers_chainFor rfl rfl, Context.resolvers_chainFor rfl rfl,
    resolverLines, resolverLines, Resolver.name_ofRuntimeChoice verbose configuration.verbose,
    Resolver.scheme_ofRuntimeChoice verbose configuration.verbose]
  rfl

theorem analyzeOutput_eq {s s' t t' : Session} {configuration other : Configuration}
    (known : s.libraryStrategy = (.ok (.inference configuration), s'))
    (known' : t.libraryStrategy = (.ok (.inference other), t'))
    (inference : configuration.inference = other.inference)
    (sources : s'.scene.sources = t'.scene.sources) {bound : Int}
    (fresh : s'.memory = .empty bound) (fresh' : t'.memory = .empty bound) (entry : String) :
    (analyzeOutput entry s).1 = (analyzeOutput entry t).1 := by
  rw [analyzeOutput_fst known, analyzeOutput_fst known',
    Session.resolveProgram_eq_of_sources inference sources fresh fresh']

/-- A command yields the same in new contexts for a configuration, be it verbose or not. -/
theorem output_eq (disk : Disk) (configuration : Configuration) (verbose : Bool) (root : String)
    (log log' : List String) (command : Command) (identifier : String) :
    (command.output identifier (sessionFor disk { configuration with verbose } root log)).1 =
      (command.output identifier (sessionFor disk configuration root log')).1 := by
  have sources : (sessionFor disk { configuration with verbose } root log).scene.sources =
      (sessionFor disk configuration root log').scene.sources :=
    Context.sources_ofConfiguration configuration verbose root disk log log'
  cases command with
  | chain => exact congrArg Except.ok (chainOutput_eq configuration verbose root log log')
  | resolve =>
      change (resolveOutput identifier _).1 = (resolveOutput identifier _).1
      rw [resolveOutput_eq, resolveOutput_eq, sources]
  | analyze =>
      -- to look up how libraries are resolved seals the context, and leaves the sources as they are
      have known (c : Configuration) (log : List String) :
          ∃ s, (sessionFor disk c root log).libraryStrategy = (.ok (.inference c), s) ∧
            s.scene.sources = (sessionFor disk c root log).scene.sources ∧
            s.memory = .empty AnalysisOptions.standardCacheSize := ⟨_, rfl, rfl, rfl⟩
      obtain ⟨s, looked, kept, fresh⟩ := known { configuration with verbose } log
      obtain ⟨t, looked', kept', fresh'⟩ := known configuration log'
      refine analyzeOutput_eq looked looked' rfl ?_ fresh fresh' identifier
      rw [kept, kept', sources]

/-- A command logs nothing but marked lines, and nothing at all in a context that is not verbose. -/
theorem logs_output (disk : Disk) (configuration : Configuration) (root : String)
    {log : List String} (begun : ∀ line ∈ log, configuration.verbose = true ∧ IsLogLine line)
    (command : Command) (identifier : String) :
    (command.output identifier (sessionFor disk configuration root log)).2.scene.Logs
      configuration.verbose := by
  have logs : (sessionFor disk configuration root log).scene.Logs configuration.verbose :=
    ⟨begun, Context.isVerbose_ofConfiguration⟩
  cases command with
  | chain => exact logs
  | resolve =>
      change (resolveOutput identifier _).2.scene.Logs _
      rw [resolveOutput_eq]
      exact logs.resolve identifier
  | analyze =>
      have sealed : (sessionFor disk configuration root log).libraryStrategy.2.scene.Logs
          configuration.verbose := ⟨logs.lines, logs.context⟩
      have maintains := Library.Reader.Maintains.resolveProgram (Scene.invariant_logs configuration)
        identifier
      exact (maintains ((sessionFor disk configuration root log).memory, _) sealed).1

/-- A run prints what its command has logged, and then what it would print without a log. -/
theorem runIn_eq (s : Session) (command : Command) (identifier : String) (quiet : Bool) :
    let found := (command.output identifier s).1
    (runIn s command identifier quiet).exit = (conclude quiet [] found).exit ∧
    (runIn s command identifier quiet).printed.err = (conclude quiet [] found).printed.err ∧
    (runIn s command identifier quiet).printed.out =
      (command.output identifier s).2.scene.log ++ (conclude quiet [] found).printed.out := by
  unfold runIn
  obtain ⟨found, after⟩ := command.output identifier s
  cases found with
  | error i => exact ⟨rfl, rfl, (List.append_nil _).symm⟩
  | ok found =>
      cases found with
      | error report => exact ⟨rfl, rfl, (List.append_nil _).symm⟩
      | ok output => exact ⟨rfl, rfl, rfl⟩

/-- A command does the same in a new context for a configuration that is not verbose and in one that
is, but for what the latter logs. -/
theorem louder_runIn {configuration : Configuration} (plain : configuration.verbose = false)
    {root : String} {log : List String} (begun : ∀ line ∈ log, IsLogLine line) (command : Command)
    (identifier : String) (quiet : Bool) :
    Louder (runIn (sessionFor disk configuration root []) command identifier quiet)
      (runIn (sessionFor disk { configuration with verbose := true } root log) command identifier
        quiet) := by
  let verbose : Configuration := { configuration with verbose := true }
  have same := output_eq disk configuration true root log [] command identifier
  have marked := (logs_output disk verbose root (fun line member => ⟨rfl, begun line member⟩)
    command identifier).lines
  have silent : (command.output identifier (sessionFor disk configuration root [])).2.scene.log =
      [] := by
    have lines := (logs_output disk configuration root (List.forall_mem_nil _) command
      identifier).lines
    apply List.eq_nil_iff_forall_not_mem.mpr
    intro line member
    rw [plain] at lines
    cases (lines line member).1
  obtain ⟨exit, err, out⟩ := runIn_eq (sessionFor disk configuration root []) command identifier
    quiet
  obtain ⟨exit', err', out'⟩ := runIn_eq (sessionFor disk verbose root log) command identifier quiet
  rw [same] at exit' err' out'
  rw [silent, List.nil_append] at out
  rw [← out] at out'
  exact ⟨exit'.trans exit.symm, err'.trans err.symm, _, fun line member => (marked line member).2,
    out'⟩

theorem applyTo_verbose (o : Options) (directory : String) (input : ConfigurationInput) :
    ({ o with verbose := true } : Options).applyTo directory input =
      { o.applyTo directory input with verbose := some true } := by
  unfold Options.applyTo
  dsimp only
  cases o.verbose <;> rfl

theorem validate_applyTo_verbose (o : Options) (directory : String) (input : ConfigurationInput)
    (root : String) :
    Configuration.validate (({ o with verbose := true } : Options).applyTo directory input) root =
      (Configuration.validate (o.applyTo directory input) root).map
        fun c => { c with verbose := true } := by
  rw [applyTo_verbose]
  exact Configuration.validate_verbose (o.applyTo directory input) root (some true)

/-- What the creation of a context for a configuration logs. -/
def creationLog (configuration : Configuration) (root : String) : List String :=
  if configuration.verbose then
    [Context.chainLine
      (Context.chainFor configuration ({ directory := root } : Overrides Strategy Strategy))]
  else []

theorem runOn_eq (disk : Disk) (directory : String) (a : Arguments) (command : Command)
    (input : ConfigurationInput) (root : String) :
    runOn disk directory a command input root =
      match Configuration.validate (a.options.applyTo directory input) root with
      | .error violations => failWith 1 (Configuration.reportOf violations)
      | .ok configuration =>
          runIn (sessionFor disk configuration root (creationLog configuration root)) command
            (Identifier.ofArgument (a.identifier.getD "") directory) a.options.quiet := by
  unfold runOn
  rw [Context.create_eq]
  cases Configuration.validate (a.options.applyTo directory input) root <;> rfl

theorem louder_runOn (a : Arguments) (command : Command) (input : ConfigurationInput)
    (root : String) :
    Louder (runOn disk directory a command input root)
      (runOn disk directory (a.changed fun o => { o with verbose := true }) command input
        root) := by
  have valid := validate_applyTo_verbose a.options directory input root
  rw [runOn_eq, runOn_eq, Arguments.changed, valid]
  cases Configuration.validate (a.options.applyTo directory input) root with
  | error violations => exact .refl _
  | ok configuration =>
      let verbose : Configuration := { configuration with verbose := true }
      change Louder (runIn (sessionFor disk configuration root _) command _ _)
        (runIn (sessionFor disk verbose root (creationLog verbose root)) command _ _)
      cases chosen : configuration.verbose with
      | true =>
          -- the project file or the words ask for it already
          have same : verbose = configuration := by
            cases configuration
            cases chosen
            rfl
          rw [same]
          exact .refl _
      | false =>
          have silent : creationLog configuration root = [] := by
            rw [creationLog, chosen]
            rfl
          rw [silent]
          apply louder_runIn chosen
          intro line member
          rw [List.mem_singleton.mp member]
          exact Context.isLogLine_chainLine _

end

/-- Quiet and verbose runs only observe. A run that is told to be quiet ends like the run of the
same words and prints the same on the standard error; on the standard output it leaves out the
closing line at most. A run that is told to be verbose does so too, and on the standard output it
prints lines of the log in front of everything else at most. -/
theorem run_observed [Host] (disk : Disk) (directory : String) (words : List String) :
    Quieter (run disk directory words) (run disk directory ("-q" :: words)) ∧
      Louder (run disk directory words) (run disk directory ("-V" :: words)) := by
  constructor
  · apply flag_quiet.related_run Quieter.refl quieter_runOn
    rfl
  · apply flag_verbose.related_run Louder.refl louder_runOn
    rfl

/-- A disk with one script. -/
def scriptDisk : Disk := .ofEntries [("/p/a.ts", .file "export const x = 1;\n")]

set_option maxRecDepth 8000 in
/-- The quiet run of an analysis leaves out how many units there are, and the verbose one tells the
order of the resolvers and what has been read. -/
example :
    let words := ["analyze", "a.ts", "--runtime", "lib"]
    let shown := ["file:///p/a.ts (script)\n  export const x: number"]
    (run scriptDisk "/p" ("-q" :: words)).printed.out = shown ∧
    (run scriptDisk "/p" words).printed.out =
      shown ++ ["\n✓ Analyzed 1 unit from file:///p/a.ts"] ∧
    (run scriptDisk "/p" ("-V" :: words)).printed.out =
      ["[unitgraph] Resolver chain: runtime-path -> file -> package",
        "[unitgraph] Resolved script file:///p/a.ts: 0 imports, 1 declarations"] ++ shown ++
      ["\n✓ Analyzed 1 unit from file:///p/a.ts"] := by
  decide +kernel

end UnitResolution.CommandLine
