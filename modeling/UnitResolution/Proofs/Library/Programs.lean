import UnitResolution.Proofs.Library.History
import UnitResolution.Proofs.Session

/-!
# Programs of a library in use

The units of a program are those that can be reached from the entry, each once, and a unit comes
behind what it imports where that is possible (`UnitResolution.Library.InOrder`).

Its report has what is wrong with the texts of the units, and every import without a source once. So
an import without a source that two units have is missing in the report of one of them, and the
report is not full (`UnitResolution.Library.fullReport`).
-/

namespace UnitResolution.Library

/-! ## A library with shared imports -/

/-- The texts of some units, of which two import one without a source, and two import each other. -/
def sharedTexts : List (String × String) :=
  [("rt:main", "import \"rt:one\";\nimport \"rt:two\";\n"),
    ("rt:one", "import \"rt:gone\";\n"),
    ("rt:two", "import \"rt:gone\";\nimport \"rt:one\";\nimport \"rt:main\";\n")]

/-- A scene with these units. -/
def sharedScene : Scene := .ofMock sharedTexts

/-- The reader of these units. -/
def sharedReader : Reader Scene := Session.reader (.ofMock sharedTexts)

variable {σ : Type} {sources : Sources} {entry : String}

/-! ## Units -/

/-- Identifiers are those of the units that can be reached from an entry, in an order in which units
come behind what they import. -/
structure InOrder (sources : Sources) (entry : String) (list : List String) : Prop where
  nodup : list.Nodup
  mem_iff : ∀ v, v ∈ list ↔ sources.Reaches entry v
  last : list.getLast? = some entry
  /-- Where that is possible, an imported unit comes first. -/
  first : ∀ a ∈ list, ∀ b, sources.Edge a b → ¬ sources.Reaches b a → [b, a].Sublist list

theorem Walked.inOrder {options : Script.InferenceOptions} {reported : List (String × String)}
    {w : Walk} (walked : Walked sources options entry [] reported w)
    (plain : Identifier.endsWith "/" entry.toList = false) (has : sources.Has entry)
    (last : ∃ before unit, w.units = before ++ [unit] ∧ unit.identifier = entry) :
    InOrder sources entry (identifiers w.units) := by
  have all : w.begun [] = w.units := List.append_nil w.units
  have itself : sources.leadsTo entry = .ok (some entry) := Sources.leadsTo_self plain has
  have known (u : LibraryUnit) (member : u ∈ w.units) : u ∈ w.begun [] := all.symm ▸ member
  have imports (u : LibraryUnit) (member : u ∈ w.units) :
      u.imports = (sources.surface u.identifier).imports :=
    congrArg Script.Surface.imports
      (Sources.surface_of_possibleUnit (walked.possible u (known u member)))
  constructor
  case nodup => exact all ▸ walked.distinct
  case mem_iff =>
    intro v
    constructor
    · intro member
      obtain ⟨u, among, rfl⟩ := List.mem_map.mp member
      exact walked.reached u (known u among)
    · intro reaches
      induction reaches with
      | refl => exact all ▸ walked.entered
      | tail _ edge ih =>
          obtain ⟨u, among, rfl⟩ := List.mem_map.mp ih
          obtain ⟨imported, member, leads⟩ := edge
          by_cases same : imported = entry
          · subst same
            rw [itself] at leads
            cases leads
            exact all ▸ walked.entered
          · have visited := walked.imports u among imported (imports u among ▸ member)
            exact all ▸ walked.followed imported visited same _ leads
  case last =>
    obtain ⟨before, unit, split, rfl⟩ := last
    rw [split, identifiers, List.map_append]
    exact List.getLast?_concat ..
  case first =>
    intro a member b edge apart
    obtain ⟨u, among, rfl⟩ := List.mem_map.mp member
    obtain ⟨imported, taken, leads⟩ := edge
    obtain ⟨front, back, split⟩ := List.append_of_mem among
    have differs : imported ≠ entry := by
      rintro rfl
      rw [itself] at leads
      cases leads
      exact apart (walked.reached u (known u among))
    rcases walked.ordered front u back split imported (imports u among ▸ taken) differs b leads with
      earlier | back
    · rw [split, identifiers, List.map_append]
      refine (List.singleton_sublist.mpr earlier).append ?_
      exact List.singleton_sublist.mpr List.mem_cons_self
    · exact absurd back apart

namespace Reader

/-- A library that has been called for anything before resolves the program of an entry to the units
that can be reached from it, in their order. Meanwhile it asks for no identifier that has a source
and is not of such a unit. -/
theorem resolveProgram_units (r : Reader σ) (sources : Sources) {s : σ}
    (serves : r.surroundings.Serves s sources) (bound : Int) (calls : List Call) (entry : String)
    (plain : Identifier.endsWith "/" entry.toList = false) (has : sources.Has entry)
    (finite : (sources.closure entry).Finite) :
    let state := r.after calls (fresh bound s)
    let outcome := r.programAfter bound s calls entry
    (∃ program : Program, outcome = .ok (.ok program) ∧ program.entry = entry ∧
      InOrder sources entry (identifiers program.units) ∧
      r.surroundings.Course (fun c => sources.Has c → c ∈ identifiers program.units) state.2
        (resolveProgram r entry state).2.2) ∨
    (∃ i, outcome = .error i ∧
      (Stopping sources entry i ∨ i = .tooDeep ∧ r.depthLimit < sources.room entry)) := by
  intro state outcome
  obtain ⟨allowed, course⟩ := (ensures_resolveProgram entry).after serves bound calls
  change Allowed _ _ _ outcome at allowed
  generalize outcome = outcome at allowed
  cases allowed with
  | answer reached =>
      cases reached with
      | failed failed =>
          obtain ⟨source, answer⟩ := has
          rw [answer] at failed
          cases failed
      | @made w reported _ walked last =>
          have ordered := walked.inOrder plain has last
          refine .inl ⟨_, rfl, rfl, ordered, course.surroundings.mono fun c asked has => ?_⟩
          exact (ordered.mem_iff c).mpr (asked.resolve_right (not_not_intro has))
  | stopped _ excuse => exact .inr ⟨_, rfl, .inl excuse⟩
  | tooDeep excess => exact .inr ⟨_, rfl, .inr ⟨rfl, not_enough_iff.mp excess finite⟩⟩

set_option maxRecDepth 4000 in
/-- The program of units that share an import and are in a cycle, behind another call. -/
theorem resolveProgram_of_shared :
    ∃ program, sharedReader.programAfter 1 sharedScene [.library "rt:two"] "rt:main" =
        .ok (.ok program) ∧
      InOrder sharedScene.sources "rt:main" (identifiers program.units) ∧
      identifiers program.units = ["rt:one", "rt:two", "rt:main"] := by
  have found : (found? (sharedReader.programAfter 1 sharedScene [.library "rt:two"] "rt:main")).map
      (fun program => identifiers program.units) = some ["rt:one", "rt:two", "rt:main"] := by
    decide +kernel
  have closed : sharedScene.sources.Closed ["rt:main", "rt:one", "rt:two"] := by decide +kernel
  obtain ⟨program, found, listed⟩ := Option.map_eq_some_iff.mp found
  have answered := resolveProgram_units sharedReader _ sharedScene.serves 1 [.library "rt:two"]
    "rt:main" (by decide) (by decide +kernel) (closed.finite List.mem_cons_self)
  rcases answered with ⟨other, same, _, ordered, _⟩ | ⟨i, stopped, _⟩
  · cases (found?_eq_some found).symm.trans same
    exact ⟨program, same, ordered, listed⟩
  · cases (found?_eq_some found).symm.trans stopped

end Reader

/-! ## Reports -/

/-- The imports of units that have no source, each with the unit. -/
def missingImports (sources : Sources) (units : List LibraryUnit) : List (String × String) :=
  units.flatMap fun u =>
    (u.imports.filter fun imported => sources.leadsTo imported = .ok none).map
      fun imported => (imported, u.identifier)

theorem mem_missingImports {units : List LibraryUnit} {p : String × String} :
    p ∈ missingImports sources units ↔
      sources.leadsTo p.1 = .ok none ∧ ∃ u ∈ units, u.identifier = p.2 ∧ p.1 ∈ u.imports := by
  unfold missingImports
  rw [List.mem_flatMap]
  constructor
  · rintro ⟨u, member, listed⟩
    obtain ⟨imported, kept, rfl⟩ := List.mem_map.mp listed
    obtain ⟨taken, none⟩ := List.mem_filter.mp kept
    exact ⟨of_decide_eq_true none, u, member, rfl, taken⟩
  · rintro ⟨none, u, member, same, taken⟩
    refine ⟨u, member, List.mem_map.mpr ⟨p.1, List.mem_filter.mpr ⟨taken, ?_⟩, ?_⟩⟩
    · exact decide_eq_true none
    · rw [same]

theorem nodup_missingImports {units : List LibraryUnit} (distinct : (identifiers units).Nodup)
    (once : ∀ u ∈ units, u.imports.Nodup) : (missingImports sources units).Nodup := by
  unfold missingImports
  refine List.nodup_flatMap.mpr ⟨fun u member => ?_, ?_⟩
  · exact ((once u member).filter _).map fun a b same => congrArg Prod.fst same
  · refine (List.pairwise_map.mp distinct).imp fun {u v} differ p left right => differ ?_
    obtain ⟨_, _, rfl⟩ := List.mem_map.mp left
    obtain ⟨_, _, same⟩ := List.mem_map.mp right
    exact (congrArg Prod.snd same).symm

/-- Of reported imports, each once, all are reported on every unit that has them if and only if only
one has. -/
theorem perm_missingImports_iff {units : List LibraryUnit} {reported : List (String × String)}
    (among : ∀ p ∈ reported, p ∈ missingImports sources units)
    (distinct : (missingImports sources units).Nodup) (once : (reported.map (·.1)).Nodup)
    (complete : ∀ imported, imported ∈ reported.map (·.1) ↔
      imported ∈ (missingImports sources units).map (·.1) ∧ imported ≠ entry) :
    reported.Perm (missingImports sources units) ↔
      ∀ p ∈ missingImports sources units, p.1 ≠ entry ∧
        ∀ q ∈ missingImports sources units, q.1 = p.1 → q = p := by
  constructor
  · intro same p member
    refine ⟨((complete p.1).mp (List.mem_map_of_mem (same.mem_iff.mpr member))).2, ?_⟩
    intro q other equal
    exact List.inj_on_of_nodup_map once (same.mem_iff.mpr other) (same.mem_iff.mpr member) equal
  · intro exclusive
    refine (List.perm_ext_iff_of_nodup once.of_map distinct).mpr fun p => ⟨among p, ?_⟩
    intro member
    obtain ⟨differs, unique⟩ := exclusive p member
    have found := (complete p.1).mpr ⟨List.mem_map_of_mem member, differs⟩
    obtain ⟨q, listed, equal⟩ := List.mem_map.mp found
    rw [← unique q (among q listed) equal]
    exact listed

section Reported

variable {options : Script.InferenceOptions} {reported : List (String × String)} {w : Walk}

/-- A finished walk has reported imports of its units that have no source. -/
theorem Walked.reported_mem (walked : Walked sources options entry [] reported w)
    (p : String × String) (member : p ∈ reported) : p ∈ missingImports sources w.units := by
  obtain ⟨_, _, none, u, among, same⟩ := walked.blamed p member
  rw [Walk.begun, List.append_nil] at among
  exact mem_missingImports.mpr ⟨none, u, among, same⟩

/-- A finished walk has reported all imports of its units that have no source, but for one that is
written like the entry. -/
theorem Walked.reported_iff (walked : Walked sources options entry [] reported w)
    (imported : String) : imported ∈ reported.map (·.1) ↔
      imported ∈ (missingImports sources w.units).map (·.1) ∧ imported ≠ entry := by
  constructor
  · intro found
    obtain ⟨p, member, rfl⟩ := List.mem_map.mp found
    exact ⟨List.mem_map_of_mem (walked.reported_mem p member), (walked.blamed p member).2.1⟩
  · rintro ⟨found, differs⟩
    obtain ⟨p, member, rfl⟩ := List.mem_map.mp found
    obtain ⟨none, u, among, _, taken⟩ := mem_missingImports.mp member
    exact walked.missing p.1 (walked.imports u among p.1 taken) differs none

theorem Walked.nodup_missingImports (walked : Walked sources options entry [] reported w) :
    (missingImports sources w.units).Nodup := by
  have distinct := walked.distinct
  have possible := walked.possible
  rw [Walk.begun, List.append_nil] at distinct possible
  refine Library.nodup_missingImports distinct fun u member => ?_
  rw [LibraryUnit.imports, Sources.surface_of_possibleUnit (possible u member)]
  exact (Sources.imported_surface u.identifier).nodup

end Reported

/-- The report of a program that has every import without a source on every unit that has it. -/
def fullReport (sources : Sources) (units : List LibraryUnit) : List Diagnostic :=
  units.flatMap (·.diagnostics) ++ (missingImports sources units).map (missingImport sources)

namespace Reader

/-- A library that has been called for anything before resolves the program of an entry with what is
wrong with the texts of its units, and with every import without a source once, on a unit that has
it. So the report has such an import on every unit that has it if and only if no two units share
one, and none is written like the entry. -/
theorem resolveProgram_report (r : Reader σ) (sources : Sources) {s : σ}
    (serves : r.surroundings.Serves s sources) (bound : Int) (calls : List Call) (entry : String)
    (has : sources.Has entry) :
    let outcome := r.programAfter bound s calls entry
    (∃ (program : Program) (reported : List (String × String)), outcome = .ok (.ok program) ∧
      (identifiers program.units).Nodup ∧
      (∀ p ∈ reported, p ∈ missingImports sources program.units) ∧
      (reported.map (·.1)).Nodup ∧
      (∀ imported, imported ∈ reported.map (·.1) ↔
        imported ∈ (missingImports sources program.units).map (·.1) ∧ imported ≠ entry) ∧
      program.report.diagnostics.Perm
        (program.units.flatMap (·.diagnostics) ++ reported.map (missingImport sources)) ∧
      (program.report.diagnostics.Perm (fullReport sources program.units) ↔
        ∀ p ∈ missingImports sources program.units, p.1 ≠ entry ∧
          ∀ q ∈ missingImports sources program.units, q.1 = p.1 → q = p)) ∨
    (∃ i, outcome = .error i ∧
      (Stopping sources entry i ∨ i = .tooDeep ∧ ¬ r.Enough sources entry)) := by
  intro outcome
  have allowed := ((ensures_resolveProgram entry).after serves bound calls).1
  change Allowed _ _ _ outcome at allowed
  generalize outcome = o at allowed
  cases allowed with
  | answer reached =>
      cases reached with
      | failed failed =>
          obtain ⟨source, answer⟩ := has
          rw [answer] at failed
          cases failed
      | @made w reported _ walked last =>
          have distinct := walked.distinct
          have report := walked.report
          rw [Walk.begun, List.append_nil] at distinct report
          have among := walked.reported_mem
          have exclusive := perm_missingImports_iff among walked.nodup_missingImports walked.once
            walked.reported_iff
          refine .inl ⟨_, reported, rfl, distinct, among, walked.once, walked.reported_iff, report,
            Iff.trans ⟨fun full => ?_, fun same => ?_⟩ exclusive⟩
          · have same := (List.perm_append_left_iff _).mp (report.symm.trans full)
            have equal := same.length_eq
            rw [List.length_map, List.length_map] at equal
            exact (walked.once.of_map.subperm among).perm_of_length_le equal.ge
          · exact report.trans ((same.map _).append_left _)
  | stopped _ excuse => exact .inr ⟨_, rfl, .inl excuse⟩
  | tooDeep excess => exact .inr ⟨_, rfl, .inr ⟨rfl, excess⟩⟩

set_option maxRecDepth 4000 in
/-- An import without a source that two units share is reported on one of them. -/
theorem resolveProgram_of_shared_missing :
    ∃ program, sharedReader.programAfter 512 sharedScene [] "rt:main" = .ok (.ok program) ∧
      program.report.diagnostics = [missingImport sharedScene.sources ("rt:gone", "rt:one")] ∧
      ¬ program.report.diagnostics.Perm (fullReport sharedScene.sources program.units) := by
  have found : (found? (sharedReader.programAfter 512 sharedScene [] "rt:main")).map
      (fun program =>
        (program.report.diagnostics, missingImports sharedScene.sources program.units)) =
      some ([missingImport sharedScene.sources ("rt:gone", "rt:one")],
        [("rt:gone", "rt:one"), ("rt:gone", "rt:two")]) := by
    decide +kernel
  obtain ⟨program, found, same⟩ := Option.map_eq_some_iff.mp found
  obtain ⟨report, missing⟩ := Prod.mk.inj same
  have answered := resolveProgram_report sharedReader _ sharedScene.serves 512 [] "rt:main"
    (by decide +kernel)
  rcases answered with ⟨other, _, same, _, _, _, _, _, full⟩ | ⟨i, stopped, _⟩
  · cases (found?_eq_some found).symm.trans same
    refine ⟨program, same, report, fun all => ?_⟩
    rw [missing] at full
    have unique := (full.mp all ("rt:gone", "rt:one") List.mem_cons_self).2 ("rt:gone", "rt:two")
      (List.mem_cons_of_mem _ List.mem_cons_self) rfl
    exact absurd unique (by decide)
  · cases (found?_eq_some found).symm.trans stopped

end Reader

end UnitResolution.Library
