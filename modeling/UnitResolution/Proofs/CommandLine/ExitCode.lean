import UnitResolution.CommandLine.Run
import UnitResolution.Proofs.Context.Creation
import UnitResolution.Proofs.Library.Changing

/-!
# Exit codes

What a run prints and how it ends tell the same (`UnitResolution.CommandLine.run_exit`): it prints
on the standard error exactly if it does not end with 0, and nothing on the standard output before
there is a context. A context that has been created is disposed of in the end.

The reason is that nothing reports without an error. A command that fails tells one, and so does
every diagnostic of a program, and every failure before there is a context.
-/

namespace UnitResolution

/-! ## Sources and libraries -/

section

variable [Host]

theorem Context.isError_of_resolve {η ρ : Type} {c : Context η ρ} {disk : Disk}
    {identifier : String} {d : Diagnostic}
    (failed : (c.resolve disk identifier).1.outcome = .ok (.error d)) : d.isError = true := by
  unfold resolve at failed
  rcases c.use_cases with ⟨refusal, used⟩ | ⟨chain, _, _, used⟩
  · rw [used] at failed
    cases failed
    exact refusal.isError_diagnostic
  · rw [used] at failed
    obtain ⟨found, _, same⟩ := map_eq_ok.mp failed
    cases found with
    | ok source => cases same
    | error fault =>
        cases same
        exact fault.isError_diagnostic identifier

theorem Context.ne_nil_of_create {η ρ : Type} {standardHook : Configuration → η}
    {input : ConfigurationInput} {overrides : Overrides η ρ} {violations : List Violation}
    (wrong : create standardHook input overrides = .invalid violations) : violations ≠ [] := by
  have ends := ends_create standardHook input overrides
  rw [wrong] at ends
  cases ends with
  | invalid wrong => exact (Configuration.of_validate_eq_error wrong).2

theorem Scene.isError_of_sources {s : Scene} {identifier : String} {d : Diagnostic}
    (failed : s.sources identifier = .ok (.error d)) : d.isError = true :=
  Context.isError_of_resolve failed

/-- A new library tells one error if it has no program, and nothing but errors otherwise. -/
theorem Session.reports_resolveProgram {s : Session} {configuration : Configuration}
    {entry : String} {found : Except Report Program}
    (answer : (Session.resolveProgram (.inference configuration) entry s).1 = .ok found)
    {bound : Int} (fresh : s.memory = .empty bound) :
    match found with
    | .error report => ∃ d, report = .single d ∧ d.isError = true
    | .ok program => ∀ d ∈ program.report.diagnostics, d.isError = true := by
  have sound : s.memory.Sound fun _ => False := fresh ▸ .empty _ bound
  have maintains := Library.Reader.Maintains.resolveProgram
    (Library.Since.invariant (reader configuration) s.scene.sources s.memory) entry
  obtain ⟨_, answers⟩ := maintains (s.memory, s.scene) (.refl sound s.scene.serves)
  have known := answers found answer
  cases found with
  | error report =>
      obtain ⟨d, same, failed⟩ := known
      exact ⟨d, same, Scene.isError_of_sources (Library.Since.eq_of_fails failed)⟩
  | ok program =>
      intro d member
      obtain ⟨units, blamed⟩ := known
      obtain ⟨unit, walked, blames⟩ := blamed d member
      cases blames with
      | text member =>
          obtain ⟨identifier, held⟩ := units unit walked
          exact ((Library.Since.of_holds held).2.2 d member).isError
      | imported taken followed same =>
          rw [same]
          exact Diagnostic.isError_error _ _ _

/-- What is wrong with a project file is listed. -/
theorem ProjectFile.ne_nil_of_load {disk : Disk} {path : String} {faults : List Fault}
    (wrong : load disk path = .error faults) : faults ≠ [] := by
  unfold load at wrong
  split at wrong
  · cases wrong
    exact List.cons_ne_nil _ _
  · split at wrong
    · cases wrong
      exact List.cons_ne_nil _ _
    · split at wrong
      · cases wrong
        exact List.cons_ne_nil _ _
      · unfold read at wrong
        split at wrong
        · split at wrong
          · cases wrong
          · next input found some _ =>
              cases wrong
              rintro rfl
              exact some rfl
        · cases wrong
          exact List.cons_ne_nil _ _

end

namespace CommandLine

/-! ## Commands -/

section

variable [Host]

/-- The command has resolved a program in a session. -/
def Resolved (s : Session) (entry : String) (program : Program) : Prop :=
  ∃ strategy, s.libraryStrategy.1 = .ok strategy ∧
    (Session.resolveProgram strategy entry s.libraryStrategy.2).1 = .ok (.ok program)

/-- The context of a session is complete, and resolves libraries by inference; nothing has been
read yet. -/
structure Ready (s : Session) : Prop where
  chain : ∃ chain, s.scene.context.chain = some chain
  stage : s.scene.context.stage = .configured
  hook : ∃ configuration, s.scene.context.hook = some (.inference configuration)
  made : s.scene.context.made = none
  fresh : ∃ bound, s.memory = .empty bound

/-- A context that a run creates is ready. -/
theorem ready_of_create {input : ConfigurationInput} {root : String}
    {context : Context Strategy Strategy} {log : List String}
    (created : Context.create Strategy.inference input { directory := root } =
      .created context log) (disk : Disk) : Ready (.start context disk log) := by
  obtain ⟨configuration, chain, _, same, _⟩ :=
    (Context.ends_create Strategy.inference input _).of_created created
  subst same
  exact ⟨⟨chain, rfl⟩, rfl, ⟨configuration, rfl⟩, rfl, ⟨_, rfl⟩⟩

omit [Host] in
theorem Ready.libraryStrategy {s : Session} (ready : Ready s) :
    ∃ configuration context, s.libraryStrategy =
      (.ok (.inference configuration), { s with scene := { s.scene with context } }) := by
  obtain ⟨⟨⟨options, stage, chain, hook, made⟩, disk, log⟩, memory⟩ := s
  obtain ⟨⟨chain, rfl⟩, rfl, ⟨configuration, rfl⟩, rfl, _⟩ := ready
  exact ⟨configuration, _, rfl⟩

/-- To show a source is to resolve it, and to read nothing else. -/
theorem resolveOutput_eq (identifier : String) (s : Session) :
    resolveOutput identifier s =
      ((s.scene.sources identifier).map fun found =>
        match found with
        | .error d => .error (.single d)
        | .ok source => .ok { text := source.contents },
      { s with scene := (Scene.resolve identifier s.scene).2 }) := by
  unfold Scene.sources
  simp only [resolveOutput, bind, ExceptT.bind, ExceptT.mk, StateT.bind, Session.resolve]
  generalize Scene.resolve identifier s.scene = answer
  obtain ⟨outcome, scene⟩ := answer
  cases outcome with
  | error i => rfl
  | ok found => cases found <;> rfl

/-- What showing a program comes to, where there is a way of resolving libraries. -/
theorem analyzeOutput_fst {s after : Session} {strategy : Strategy}
    (known : s.libraryStrategy = (.ok strategy, after)) (entry : String) :
    (analyzeOutput entry s).1 =
      (Session.resolveProgram strategy entry after).1.map (·.map (programOutput entry)) := by
  rw [analyzeOutput, known]
  rfl

/-- What comes of a command in such a session tells an error if it is a failure. Otherwise there
are diagnostics only if a program has been resolved, whose they are, and all of them are errors. -/
theorem Ready.reports_output {s : Session} (ready : Ready s) {command : Command}
    {identifier : String} {found : Except Report Output}
    (answer : (command.output identifier s).1 = .ok found) :
    match found with
    | .error report => ∃ d, report = .single d ∧ d.isError = true
    | .ok output => (∀ d ∈ output.diagnostics, d.isError = true) ∧
        (output.diagnostics ≠ [] → command = .analyze ∧ ∃ program, Resolved s identifier program ∧
          output.diagnostics = program.report.diagnostics) := by
  cases command with
  | resolve =>
      have answer : (resolveOutput identifier s).1 = .ok found := answer
      rw [resolveOutput_eq] at answer
      obtain ⟨source, served, same⟩ := map_eq_ok.mp answer
      cases source with
      | error d =>
          cases same
          exact ⟨d, rfl, Scene.isError_of_sources served⟩
      | ok source =>
          cases same
          exact ⟨List.forall_mem_nil _, fun some => absurd rfl some⟩
  | chain =>
      obtain ⟨chain, known⟩ := ready.chain
      have listed : chainOutput s = found := Except.ok.inj answer
      rw [chainOutput, known] at listed
      subst listed
      exact ⟨List.forall_mem_nil _, fun some => absurd rfl some⟩
  | analyze =>
      obtain ⟨configuration, context, known⟩ := ready.libraryStrategy
      obtain ⟨bound, fresh⟩ := ready.fresh
      obtain ⟨program, resolved, same⟩ :=
        map_eq_ok.mp ((analyzeOutput_fst known identifier).symm.trans answer)
      have reports := Session.reports_resolveProgram resolved fresh
      cases program with
      | error report =>
          cases same
          exact reports
      | ok program =>
          cases same
          refine ⟨reports, fun _ => ⟨rfl, program, ⟨.inference configuration, ?_, ?_⟩, rfl⟩⟩
          · rw [known]
          · rw [known]
            exact resolved

/-! ## Runs -/

/-- The identifier that a command line names. -/
def identifierOf (directory : String) (words : List String) : String :=
  Identifier.ofArgument ((Arguments.read words).identifier.getD "") directory

/-- A run comes to where it creates a context for a command. -/
structure Creates (disk : Disk) (directory : String) (words : List String) (command : Command)
    (context : Context Strategy Strategy) (log : List String) : Prop where
  named : Command.ofName? (Arguments.read words).command = some command
  identified : command.needsIdentifier → (Arguments.read words).identifier.isSome
  project : (projectFile? disk directory (Arguments.read words).options).isSome ∨
    (Arguments.read words).options.runtime.isSome
  created : ∃ input root,
    inputOf disk directory (projectFile? disk directory (Arguments.read words).options) =
      .ok (input, root) ∧
    Context.create Strategy.inference ((Arguments.read words).options.applyTo directory input)
      { directory := root } = .created context log

/-- The ways in which a run goes. -/
inductive Goes (disk : Disk) (directory : String) (words : List String) : Outcome → Prop
  /-- It tells the version or how it is used. -/
  | told (text : String) : Goes disk directory words (exitWith 0 [text] [])
  /-- It tells what is wrong before there is a context. -/
  | stopped {code : Nat} {lines : List String} (kind : code = 1 ∨ code = 3)
      (some : lines ≠ []) : Goes disk directory words (exitWith code [] lines)
  /-- It creates a context, and runs the command in it. -/
  | used {command : Command} {context : Context Strategy Strategy} {log : List String}
      (creates : Creates disk directory words command context log) :
      Goes disk directory words (runIn (.start context disk log) command
        (identifierOf directory words) (Arguments.read words).options.quiet)

section

variable {disk : Disk} {directory : String} {words : List String} {command : Command}

theorem ne_nil_of_inputOf {project : Option String} {faults : List ProjectFile.Fault}
    (wrong : inputOf disk directory project = .error faults) : faults ≠ [] := by
  cases project with
  | none => cases wrong
  | some path =>
      cases loaded : ProjectFile.load disk path with
      | ok input =>
          rw [inputOf, loaded] at wrong
          cases wrong
      | error others =>
          rw [inputOf, loaded] at wrong
          cases wrong
          exact ProjectFile.ne_nil_of_load loaded

/-- A report with a diagnostic stops a run. -/
theorem goes_failWith {report : Report} (some : report.diagnostics ≠ []) :
    Goes disk directory words (failWith 1 report) := by
  apply Goes.stopped (.inl rfl)
  rwa [ne_eq, List.map_eq_nil_iff]

theorem goes_runCommand (named : Command.ofName? (Arguments.read words).command = some command)
    (identified : command.needsIdentifier → (Arguments.read words).identifier.isSome) :
    Goes disk directory words (runCommand disk directory (Arguments.read words) command) := by
  unfold runCommand
  dsimp only
  split
  · exact .stopped (.inr rfl) (List.cons_ne_nil _ _)
  · next project =>
      split
      · next faults wrong =>
          apply goes_failWith
          rw [ProjectFile.reportOf, ne_eq, List.map_eq_nil_iff]
          exact ne_nil_of_inputOf wrong
      · next input root found =>
          unfold runOn
          split
          · next violations wrong =>
              apply goes_failWith
              rw [Configuration.reportOf, ne_eq, List.map_eq_nil_iff]
              exact Context.ne_nil_of_create wrong
          · exact goes_failWith (List.cons_ne_nil _ _)
          · next context log created =>
              refine .used ⟨named, identified, ?_, input, root, found, created⟩
              simpa [Option.isSome_iff_ne_none, or_iff_not_imp_left] using project

theorem goes_run (disk : Disk) (directory : String) (words : List String) :
    Goes disk directory words (run disk directory words) := by
  unfold run
  dsimp only
  split
  · exact .told versionLine
  · split
    · exact .told helpText
    · split
      · exact .stopped (.inl rfl) (List.cons_ne_nil _ _)
      · next command named =>
          split
          · exact .stopped (.inl rfl) (List.cons_ne_nil _ _)
          · next identified =>
              apply goes_runCommand named
              simpa [Option.isSome_iff_ne_none] using identified

omit [Host] in
/-- A word that is the name of a command is none of those that tell something. -/
theorem not_told_of_ofName {word : String} (named : Command.ofName? word = some command) :
    word ≠ "version" ∧ ¬ (word = "help" ∨ word.isEmpty) := by
  refine ⟨?_, ?_⟩
  · rintro rfl
    cases named
  · rintro (rfl | empty)
    · cases named
    · rw [String.isEmpty_iff.mp empty] at named
      cases named

theorem run_of_creates {context : Context Strategy Strategy} {log : List String}
    (creates : Creates disk directory words command context log) :
    run disk directory words = runIn (.start context disk log) command
      (identifierOf directory words) (Arguments.read words).options.quiet := by
  obtain ⟨named, identified, project, input, root, found, created⟩ := creates
  obtain ⟨notVersion, notHelp⟩ := not_told_of_ofName named
  have given : ¬ (command.needsIdentifier && (Arguments.read words).identifier.isNone) := by
    simpa [Option.isSome_iff_ne_none] using identified
  have started : ¬ ((projectFile? disk directory (Arguments.read words).options).isNone &&
      (Arguments.read words).options.runtime.isNone) := by
    simpa [Option.isSome_iff_ne_none, or_iff_not_imp_left] using project
  unfold run
  dsimp only
  rw [if_neg notVersion, if_neg notHelp, named]
  dsimp only
  rw [if_neg given]
  unfold runCommand
  dsimp only
  rw [if_neg started, found]
  dsimp only
  rw [runOn, created]
  rfl

end

/-! ## What is printed -/

/-- Among the lines that are printed is an error: one that a command tells because it has failed, or
one of the program that it has resolved. -/
inductive TellsError (s : Session) (command : Command) (identifier : String)
    (lines : List String) : Prop
  | failed {report : Report} {d : Diagnostic}
      (answer : (command.output identifier s).1 = .ok (.error report))
      (member : d ∈ report.diagnostics) (isError : d.isError = true) (printed : d.format ∈ lines)
  | resolved {program : Program} {d : Diagnostic} (analyzed : command = .analyze)
      (resolved : Resolved s identifier program) (member : d ∈ program.report.diagnostics)
      (isError : d.isError = true) (printed : d.format ∈ lines)

omit [Host] in
/-- All errors are shown, also in a quiet run. -/
theorem shown_of_errors {quiet : Bool} {diagnostics : List Diagnostic}
    (errors : ∀ d ∈ diagnostics, d.isError = true) :
    shown quiet diagnostics = diagnostics.map Diagnostic.format := by
  rw [shown, List.filter_eq_self.mpr]
  intro d member
  rw [errors d member, Bool.or_true]

/-- A run that comes to its command ends with 0 or 2, with 0 exactly if it prints nothing on the
standard error, and otherwise an error is among that. -/
theorem Ready.exit_runIn {s : Session} (ready : Ready s) {command : Command} {identifier : String}
    {quiet : Bool} {code : Nat} (ends : (runIn s command identifier quiet).exit = .ok code) :
    (code = 0 ∧ (runIn s command identifier quiet).printed.err = []) ∨
    (code = 2 ∧ (runIn s command identifier quiet).printed.err ≠ [] ∧
      TellsError s command identifier (runIn s command identifier quiet).printed.err) := by
  unfold runIn at ends ⊢
  cases answer : command.output identifier s with
  | mk outcome after =>
      rw [answer] at ends
      have answer : (command.output identifier s).1 = outcome := by rw [answer]
      cases outcome with
      | error i => cases ends
      | ok found =>
          have reports := ready.reports_output answer
          cases found with
          | error report =>
              obtain ⟨d, rfl, isError⟩ := reports
              cases ends
              refine .inr ⟨rfl, List.cons_ne_nil _ _, ?_⟩
              exact .failed answer List.mem_cons_self isError List.mem_cons_self
          | ok output =>
              obtain ⟨errors, whose⟩ := reports
              have code' : (if output.diagnostics.any Diagnostic.isError then 2 else 0) = code :=
                Except.ok.inj ends
              change (code = 0 ∧ shown quiet output.diagnostics = []) ∨
                (code = 2 ∧ shown quiet output.diagnostics ≠ [] ∧
                  TellsError s command identifier (shown quiet output.diagnostics))
              rw [shown_of_errors errors]
              by_cases none : output.diagnostics = []
              · rw [none] at code' ⊢
                exact .inl ⟨code'.symm, rfl⟩
              · obtain ⟨analyzed, program, resolved, same⟩ := whose none
                obtain ⟨d, member⟩ := List.exists_mem_of_ne_nil _ none
                have some : output.diagnostics.any Diagnostic.isError = true :=
                  List.any_eq_true.mpr ⟨d, member, errors d member⟩
                rw [if_pos some] at code'
                refine .inr ⟨code'.symm, mt List.map_eq_nil_iff.mp none, ?_⟩
                exact .resolved analyzed resolved (same ▸ member) (errors d member)
                  (List.mem_map_of_mem member)

/-- How a run ends and what it prints agree. It prints nothing on the standard error exactly if it
ends with 0. Where it ends with 1 or 3, it prints nothing on the standard output. It ends with 2
only if it has created a context, and then the command has failed and tells an error, or an error of
the program is printed. A context that has been created is disposed of, however the run ends. -/
theorem run_exit (disk : Disk) (directory : String) (words : List String) :
    let o := run disk directory words
    (∀ code, o.exit = .ok code →
      (code = 0 ↔ o.printed.err = []) ∧
      (code = 1 ∨ code = 3 → o.printed.out = []) ∧
      (code = 2 → ∃ command context log, Creates disk directory words command context log ∧
        TellsError (.start context disk log) command (identifierOf directory words)
          o.printed.err)) ∧
    (∀ command context log, Creates disk directory words command context log →
      ∃ last, o.context = some last ∧ last.stage = .disposed ∧ last.made = none) ∧
    (o.context.isSome → ∃ command context log,
      Creates disk directory words command context log) := by
  intro o
  have goes : Goes disk directory words o := goes_run disk directory words
  refine ⟨fun code ends => ?_, fun command context log creates => ?_, fun some => ?_⟩
  · generalize o = o at goes ends
    cases goes with
    | told text =>
        cases ends
        exact ⟨iff_of_true rfl rfl, nofun, nofun⟩
    | @stopped code lines kind some =>
        cases ends
        refine ⟨iff_of_false ?_ some, fun _ => rfl, ?_⟩
        · rcases kind with rfl | rfl <;> decide
        · rcases kind with rfl | rfl <;> exact nofun
    | @used command context log creates =>
        obtain ⟨_, _, _, input, root, _, created⟩ := id creates
        rcases (ready_of_create created disk).exit_runIn ends with
          ⟨rfl, none⟩ | ⟨rfl, some, tells⟩
        · exact ⟨iff_of_true rfl none, nofun, nofun⟩
        · refine ⟨iff_of_false nofun some, nofun, fun _ => ?_⟩
          exact ⟨command, context, log, creates, tells⟩
  · have same : o = _ := run_of_creates creates
    rw [same]
    exact ⟨_, rfl, rfl, rfl⟩
  · generalize o = o at goes some
    cases goes with
    | told | stopped => cases some
    | @used command context log creates => exact ⟨command, context, log, creates⟩

end

set_option maxRecDepth 8000 in
/-- A quiet run that does not find a file ends with 2, prints that, and disposes of its context. -/
theorem run_exit_of_missing :
    let o := run {} "/p" ["-q", "resolve", "gone.ts", "--runtime", "lib"]
    o.exit = .ok 2 ∧ o.printed.err ≠ [] ∧
      ∃ last, o.context = some last ∧ last.stage = .disposed := by
  intro o
  have ends : o.exit = .ok 2 := by decide +kernel
  obtain ⟨agree, disposed, _⟩ := run_exit {} "/p" ["-q", "resolve", "gone.ts", "--runtime", "lib"]
  obtain ⟨zero, _, two⟩ := agree 2 ends
  obtain ⟨command, context, log, creates, _⟩ := two rfl
  obtain ⟨last, known, stage, _⟩ := disposed command context log creates
  exact ⟨ends, mt zero.mpr nofun, last, known, stage⟩

end CommandLine

end UnitResolution
