import UnitResolution.Proofs.Context.Reach
import UnitResolution.Proofs.Library.Invariance
import UnitResolution.Proofs.Severity

/-!
# Sources that change

A library outlives changes of its sources: it is called, the sources change, and it is called again
(`UnitResolution.Library.Phase`). Between two changes the sources stay as they are. Of all its
memory holds, no more is certain then than that it has been right before
(`UnitResolution.Memory.Sound`).

So an import that is reported as unresolved need not be without a source. It may be that another of
its identifiers has served it before, and that this one has lost its source
(`UnitResolution.Library.Reader.resolveProgram_unresolved`).
-/

namespace UnitResolution

open Library Script

/-- What a memory holds is about identifiers of a kind: it keeps their units, and of the identifiers
that an import may stand for it remembers one of them. -/
structure Memory.Sound (had : String → Prop) (m : Memory) : Prop where
  unit : ∀ entry ∈ m.units.entries,
    had entry.1 ∧ entry.2.identifier = entry.1 ∧ ∀ d ∈ entry.2.diagnostics, d.OfText
  served : ∀ {imported identifier}, m.aliases.lookup imported = some identifier →
    had identifier ∧ identifier ∈ Identifier.candidates imported

theorem Memory.Sound.imp {had more : String → Prop} {m : Memory} (sound : m.Sound had)
    (weaker : ∀ identifier, had identifier → more identifier) : m.Sound more where
  unit entry member := (sound.unit entry member).imp_left (weaker _)
  served found := (sound.served found).imp_left (weaker _)

theorem Memory.Sound.empty (had : String → Prop) (bound : Int) :
    (Memory.empty bound).Sound had where
  unit _ member := (List.not_mem_nil member).elim
  served found := nomatch found

namespace Library

variable {σ : Type}

/-! ## What is certain in a call -/

/-- A state on the way from a memory, while the sources stay as they are. -/
structure Since (r : Reader σ) (sources : Sources) (start : Memory) (state : Memory × σ) :
    Prop where
  serves : r.surroundings.Serves state.2 sources
  unit : ∀ entry ∈ state.1.units.entries,
    (sources.Has entry.1 ∨ start.units.contains entry.1) ∧ entry.2.identifier = entry.1 ∧
      ∀ d ∈ entry.2.diagnostics, d.OfText
  /-- What has been remembered of an import is not replaced. -/
  stays : ∀ {imported identifier}, start.aliases.lookup imported = some identifier →
    state.1.aliases.lookup imported = some identifier
  served : ∀ {imported identifier}, state.1.aliases.lookup imported = some identifier →
    start.aliases.lookup imported = some identifier ∨
    start.aliases.lookup imported = none ∧ identifier ∈ Identifier.candidates imported ∧
      (sources.Has identifier ∨ start.units.contains identifier)

namespace Since

variable {r : Reader σ} {sources : Sources} {start m : Memory} {s : σ} {had : String → Prop}

theorem refl (sound : start.Sound had) (serves : r.surroundings.Serves s sources) :
    Since r sources start (start, s) where
  serves := serves
  unit entry member := ⟨.inr (Cache.contains_of_mem member), (sound.unit entry member).2⟩
  stays found := found
  served found := .inl found

/-- An identifier fails for the reason that its sources tell. -/
theorem eq_of_fails {identifier : String} {d : Diagnostic}
    (failed : r.Fails (Since r sources start) identifier d) :
    sources identifier = .ok (.error d) := by
  obtain ⟨m, s, since, answer⟩ := failed
  exact (since.serves s .refl identifier).symm.trans answer

theorem of_holds {identifier : String} {unit : LibraryUnit}
    (held : Reader.Holds (Since r sources start) identifier unit) :
    (sources.Has identifier ∨ start.units.contains identifier) ∧ unit.identifier = identifier ∧
      ∀ d ∈ unit.diagnostics, d.OfText := by
  obtain ⟨m, s, since, found⟩ := held
  exact since.unit (identifier, unit) (Table.mem_of_lookup found)

/-- What is tried for an import is what is remembered of it, or else what it may stand for. -/
theorem served_of_tried {imported identifier : String} (since : Since r sources start (m, s))
    (tried : identifier ∈ m.tried imported)
    (here : sources.Has identifier ∨ start.units.contains identifier) :
    start.aliases.lookup imported = some identifier ∨
    start.aliases.lookup imported = none ∧ identifier ∈ Identifier.candidates imported ∧
      (sources.Has identifier ∨ start.units.contains identifier) := by
  unfold Memory.tried at tried
  split at tried
  · next known =>
      rw [List.mem_singleton.mp tried]
      exact since.served known
  · next unknown =>
      refine .inr ⟨Option.eq_none_iff_forall_ne_some.mpr fun known remembered => ?_, tried, here⟩
      cases unknown.symm.trans (since.stays remembered)

/-- Every access of a library to its state keeps this. -/
theorem invariant (r : Reader σ) (sources : Sources) (start : Memory) :
    r.Invariant (Since r sources start) where
  get identifier since :=
    { since with unit := fun entry member => since.unit entry (Cache.mem_entries_get member) }
  source {m s} identifier since :=
    have course : r.surroundings.Course (fun _ => True) s (r.surroundings.source identifier s).2 :=
      .source identifier .refl trivial
    { since with serves := since.serves.later course }
  log {m s} unit _ since :=
    have course : r.surroundings.Course (fun _ => True) s
        (r.surroundings.log (resolvedLine unit) s) := .log _ .refl
    { since with serves := since.serves.later course }
  keep {m s unit} since stems := by
    refine { since with unit := fun entry member => ?_ }
    rcases Cache.mem_entries_set member with old | rfl
    · exact since.unit entry old
    · obtain ⟨_, s', source, since', answer, text⟩ := stems
      have has : sources.Has unit.identifier :=
        ⟨source, (since'.serves s' .refl _).symm.trans answer⟩
      exact ⟨.inl has, rfl, fun d member => ofText_of_readUnit text member⟩
  remember {m s imported identifier unit} since tried held := by
    obtain ⟨m', s', since', tried⟩ := tried
    refine { since with
      stays := fun {other known} found => ?_, served := fun {other known} found => ?_ }
    · by_cases same : other = imported
      · subst same
        have only : m'.tried other = [known] := by
          rw [Memory.tried, since'.stays found]
        rw [only] at tried
        rw [List.mem_singleton.mp tried]
        exact Table.lookup_set_self ..
      · exact (Table.lookup_set_of_ne same _ _).trans (since.stays found)
    · by_cases same : other = imported
      · subst same
        cases (Table.lookup_set_self _ _ _).symm.trans found
        exact since'.served_of_tried tried (of_holds held).1
      · exact since.served ((Table.lookup_set_of_ne same _ _).symm.trans found)

/-- A sound memory stays sound. -/
theorem sound {state : Memory × σ} (since : Since r sources start state) (sound : start.Sound had)
    (known : ∀ identifier, sources.Has identifier → had identifier) : state.1.Sound had := by
  have here {identifier : String}
      (found : sources.Has identifier ∨ start.units.contains identifier) : had identifier := by
    rcases found with has | kept
    · exact known identifier has
    · obtain ⟨unit, member⟩ := Cache.exists_mem_of_contains kept
      exact (sound.unit _ member).1
  constructor
  · intro entry member
    exact (since.unit entry member).imp_left here
  · intro imported identifier found
    rcases since.served found with old | ⟨_, among, kept⟩
    · exact sound.served old
    · exact ⟨here kept, among⟩

end Since

/-! ## Phases -/

/-- The calls of a library between two changes of its sources. -/
structure Phase (r : Reader σ) where
  start : σ
  sources : Sources
  serves : r.surroundings.Serves start sources
  calls : List Call

/-- The state after the calls of a phase. -/
def Phase.after {r : Reader σ} (phase : Phase r) (m : Memory) : Memory × σ :=
  r.after phase.calls (m, phase.start)

/-- What a library remembers after several phases. -/
def memoryAfter {r : Reader σ} (bound : Int) (phases : List (Phase r)) : Memory :=
  phases.foldl (fun m phase => (phase.after m).1) (.empty bound)

namespace Reader

variable {r : Reader σ} {had : String → Prop} {sources : Sources}

theorem since_perform {state : Memory × σ} (sound : state.1.Sound had)
    (serves : r.surroundings.Serves state.2 sources) (call : Call) :
    Since r sources state.1 (r.perform state call) := by
  have invariant := Since.invariant r sources state.1
  cases call with
  | library identifier =>
      exact (Maintains.resolveLibrary invariant identifier state (.refl sound serves)).1
  | program entry =>
      exact (Maintains.resolveProgram invariant entry state (.refl sound serves)).1

/-- Calls keep memories sound, while the sources stay as they are. -/
theorem sound_after {state : Memory × σ} (sound : state.1.Sound had)
    (serves : r.surroundings.Serves state.2 sources)
    (known : ∀ identifier, sources.Has identifier → had identifier) (calls : List Call) :
    (r.after calls state).1.Sound had ∧ r.surroundings.Serves (r.after calls state).2 sources := by
  induction calls generalizing state with
  | nil => exact ⟨sound, serves⟩
  | cons call rest ih =>
      have since := since_perform sound serves call
      exact ih (since.sound sound known) since.serves

/-- After the calls of a phase, what a memory holds had a source before or has one. -/
theorem sound_phase {m : Memory} (sound : m.Sound had) (now : Phase r) :
    ((now.after m).1.Sound fun identifier => had identifier ∨ now.sources.Has identifier) ∧
      r.surroundings.Serves (now.after m).2 now.sources :=
  sound_after (sound.imp fun _ => .inl) now.serves (fun _ => .inr) now.calls

/-- After several phases, what a memory holds had a source in one of them. -/
theorem sound_memoryAfter (bound : Int) (phases : List (Phase r)) :
    (memoryAfter bound phases).Sound fun identifier =>
      ∃ phase ∈ phases, phase.sources.Has identifier := by
  induction phases using List.reverseRecOn with
  | nil => exact .empty _ bound
  | append_singleton past now ih =>
      rw [memoryAfter, List.foldl_concat]
      refine (sound_phase ih now).1.imp fun identifier known => ?_
      rcases known with ⟨phase, member, has⟩ | has
      · exact ⟨phase, List.mem_append_left _ member, has⟩
      · exact ⟨now, List.mem_append_right _ List.mem_cons_self, has⟩

/-- What follows of an import that is not served: each of its identifiers has no source, or the one
that has served it before has none any more. -/
theorem Followed.unresolved {start : Memory} (sound : start.Sound had) {imported : String}
    {reason : Diagnostic}
    (followed : r.Followed (Since r sources start) imported (.failed reason)) :
    (sources.leadsTo imported = .ok none ∧ sources.failure? imported = some reason) ∨
    ∃ served ∈ Identifier.candidates imported, had served ∧
      sources served = .ok (.error reason) ∧
      (start.aliases.lookup imported = some served ∨
        start.aliases.lookup imported = none ∧ start.units.contains served) := by
  cases followed with
  | @failed m s first rest reason since tried failed others =>
      have answer := Since.eq_of_fails failed
      unfold Memory.tried at tried
      split at tried
      · next known =>
          cases tried
          refine .inr ⟨first, ?_⟩
          rcases since.served known with old | ⟨new, among, has | kept⟩
          · exact ⟨(sound.served old).2, (sound.served old).1, answer, .inl old⟩
          · obtain ⟨source, has⟩ := has
            cases has.symm.trans answer
          · obtain ⟨unit, member⟩ := Cache.exists_mem_of_contains kept
            exact ⟨among, (sound.unit _ member).1, answer, .inr ⟨new, kept⟩⟩
      · refine .inl ⟨?_, ?_⟩
        · rw [Sources.leadsTo, tried]
          refine Sources.firstServed_eq_none (List.forall_mem_cons.mpr ⟨⟨_, answer⟩, ?_⟩)
          exact fun c member => (others c member).imp fun _ => Since.eq_of_fails
        · simp only [Sources.failure?, tried, List.head?_cons, answer, bind, Option.bind]

/-- Whatever a library has been called for while its sources changed, an import that it reports as
unresolved is one of a unit of the program, and the reason is one of these: None of the identifiers
that the import may stand for has a source, and the first one has none for this reason. Or one of
them has served the import before, or has been kept since it had a source, and has none any more for
this reason, and then another one may have a source. -/
theorem resolveProgram_unresolved (r : Reader σ) (bound : Int) (past : List (Phase r))
    (now : Phase r) (entry : String) (program : Program)
    (answer : (resolveProgram r entry (now.after (memoryAfter bound past))).1 =
      .ok (.ok program))
    (d : Diagnostic) (member : d ∈ program.report.diagnostics)
    (code : d.code = Diagnostic.Code.importUnresolved.name) :
    let before := (now.after (memoryAfter bound past)).1
    ∃ unit ∈ program.units, ∃ imported ∈ unit.imports, ∃ reason,
      d = unresolvedImport imported unit.identifier (some reason) ∧
      ((now.sources.leadsTo imported = .ok none ∧
          now.sources.failure? imported = some reason) ∨
        ∃ served ∈ Identifier.candidates imported,
          (∃ phase ∈ past, phase.sources.Has served) ∧
          now.sources served = .ok (.error reason) ∧
          (before.aliases.lookup imported = some served ∨
            before.aliases.lookup imported = none ∧ before.units.contains served)) := by
  intro before
  obtain ⟨sound, serves⟩ := sound_phase (sound_memoryAfter bound past) now
  obtain ⟨units, blamed⟩ := (Maintains.resolveProgram (Since.invariant r now.sources before) entry
    _ (.refl sound serves)).2 _ answer
  obtain ⟨unit, walked, blames⟩ := blamed d member
  cases blames with
  | text member =>
      obtain ⟨identifier, held⟩ := units unit walked
      have text := ((Since.of_holds held).2.2 d member).code
      exact absurd (text.symm.trans code) (by decide)
  | @imported imported reason taken followed same =>
      refine ⟨unit, walked, imported, taken, reason, same, ?_⟩
      refine (followed.unresolved sound).imp_right fun ⟨served, among, has, failed, known⟩ => ?_
      refine ⟨served, among, has.resolve_right fun ⟨source, has⟩ => ?_, failed, known⟩
      cases has.symm.trans failed

/-! ## A file that moves -/

/-- The scene of some files, of which one imports another. -/
def movingScene (place : String) : Scene :=
  .ofFiles [("/p/main.ts", "import \"./util\";\n"), (place, "export const x = 1;\n")]

/-- The reader of these files. -/
def movingReader : Reader Scene := Session.reader (.ofMock [])

/-- The calls for the program of these files, while the imported one is at a place. -/
def movingPhase (place : String) (calls : List Call) : Phase movingReader where
  start := movingScene place
  sources := (movingScene place).sources
  serves := (movingScene place).serves
  calls := calls

/-- What becomes of the program when the imported file has moved. -/
def movedProgram : Except Interruption (Except Report Program) :=
  (resolveProgram movingReader "file:///p/main.ts"
    ((movingPhase "/p/util/index.ts" []).after
      (memoryAfter 1 [movingPhase "/p/util.ts" [.program "file:///p/main.ts"]]))).1

set_option maxRecDepth 8000 in
/-- When the file has moved to another place at which the import finds it, the import is reported as
unresolved, for the reason that nothing lies at the old place. -/
theorem resolveProgram_unresolved_of_moved :
    ∃ program d reason, movedProgram = .ok (.ok program) ∧ d ∈ program.report.diagnostics ∧
      d = unresolvedImport "file:///p/util" "file:///p/main.ts" (some reason) ∧
      (movingScene "/p/util/index.ts").sources "file:///p/util.ts" = .ok (.error reason) ∧
      (movingScene "/p/util/index.ts").sources.leadsTo "file:///p/util" =
        .ok (some "file:///p/util/index.ts") := by
  have leads : (movingScene "/p/util/index.ts").sources.leadsTo "file:///p/util" =
      .ok (some "file:///p/util/index.ts") := by decide +kernel
  have old : ∀ c ∈ Identifier.candidates "file:///p/util",
      (movingScene "/p/util.ts").sources.Has c → c = "file:///p/util.ts" := by decide +kernel
  have found : (found? movedProgram).map (fun program =>
      (program.units.map fun u => (u.identifier, u.imports),
        program.report.diagnostics.map (·.code))) =
      some ([("file:///p/main.ts", ["file:///p/util"])],
        [Diagnostic.Code.importUnresolved.name]) := by decide +kernel
  obtain ⟨program, answered, same⟩ := Option.map_eq_some_iff.mp found
  obtain ⟨units, codes⟩ := Prod.mk.inj same
  obtain ⟨d, reported, code⟩ : ∃ d ∈ program.report.diagnostics,
      d.code = Diagnostic.Code.importUnresolved.name :=
    List.mem_map.mp (codes ▸ List.mem_cons_self)
  have answer := found?_eq_some answered
  obtain ⟨unit, walked, imported, taken, reason, same, why⟩ :=
    resolveProgram_unresolved movingReader 1
      [movingPhase "/p/util.ts" [.program "file:///p/main.ts"]] (movingPhase "/p/util/index.ts" [])
      "file:///p/main.ts" program answer d reported code
  obtain ⟨main, only, same'⟩ := List.map_eq_singleton_iff.mp units
  obtain ⟨name, imports⟩ := Prod.mk.inj same'
  rw [only, List.mem_singleton] at walked
  subst walked
  rw [imports, List.mem_singleton] at taken
  subst taken
  refine ⟨program, d, reason, answer, reported, name ▸ same, ?_, leads⟩
  rcases why with ⟨none, _⟩ | ⟨served, among, ⟨phase, member, has⟩, failed, _⟩
  · cases leads.symm.trans none
  · rw [List.mem_singleton.mp member] at has
    exact old served among has ▸ failed

end Reader

end Library

end UnitResolution
