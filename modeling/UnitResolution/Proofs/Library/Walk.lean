import UnitResolution.Proofs.Library.Reading
import UnitResolution.Library.Program

/-!
# Walks along imports

While a program is made, some units have been walked, and others are active: their walk has begun
and not ended. `UnitResolution.Library.Walked` says what holds of the walk then. It is kept by every
step: an import without a source is reported (`UnitResolution.Library.Walked.fail`), a unit that has
been met is passed over (`UnitResolution.Library.Walked.skip`), a new one becomes active
(`UnitResolution.Library.Walked.enter`), and one all of whose imports have been met is done
(`UnitResolution.Library.Walked.leave`).
-/

namespace UnitResolution

open Script
open scoped List

namespace Library

/-- The units whose walk has begun, if some are active. -/
def Walk.begun (w : Walk) (active : List LibraryUnit) : List LibraryUnit := w.units ++ active

theorem Walk.begun_cons (w : Walk) (unit : LibraryUnit) (active : List LibraryUnit) :
    w.begun (unit :: active) ~ unit :: w.begun active :=
  List.perm_middle

theorem Walk.mem_begun_cons {w : Walk} {unit other : LibraryUnit} {active : List LibraryUnit} :
    other ∈ w.begun (unit :: active) ↔ other = unit ∨ other ∈ w.begun active :=
  (w.begun_cons unit active).mem_iff.trans List.mem_cons

/-- The identifiers of units. -/
abbrev identifiers (units : List LibraryUnit) : List String := units.map (·.identifier)

theorem Walk.identifiers_begun_cons (w : Walk) (unit : LibraryUnit) (active : List LibraryUnit) :
    identifiers (w.begun (unit :: active)) ~ unit.identifier :: identifiers (w.begun active) :=
  (w.begun_cons unit active).map _

theorem Walk.mem_identifiers_begun_cons {w : Walk} {unit : LibraryUnit} {active : List LibraryUnit}
    {v : String} : v ∈ identifiers (w.begun (unit :: active)) ↔
      v = unit.identifier ∨ v ∈ identifiers (w.begun active) :=
  (w.identifiers_begun_cons unit active).mem_iff.trans List.mem_cons

/-- The diagnostic of an import without a source, which a unit has. -/
def missingImport (sources : Sources) (p : String × String) : Diagnostic :=
  unresolvedImport p.1 p.2 (sources.failure? p.1)

/-- What holds of a walk from an entry, while units are active, the innermost first, and imports
have been reported on units. -/
structure Walked (sources : Sources) (options : InferenceOptions) (entry : String)
    (active : List LibraryUnit) (reported : List (String × String)) (w : Walk) : Prop where
  possible : ∀ u ∈ w.begun active, sources.possibleUnit options u.identifier (.ok (.ok u))
  reached : ∀ u ∈ w.begun active, sources.Reaches entry u.identifier
  distinct : (identifiers (w.begun active)).Nodup
  met : ∀ v ∈ identifiers (w.begun active), v ∈ w.visited
  entered : entry ∈ identifiers (w.begun active)
  path : active.Pairwise fun inner outer => sources.Reaches outer.identifier inner.identifier
  /-- What a met import leads to is a unit whose walk has begun. The entry is met without having
  been followed. -/
  followed : ∀ imported ∈ w.visited, imported ≠ entry → ∀ v,
    sources.leadsTo imported = .ok (some v) → v ∈ identifiers (w.begun active)
  imports : ∀ u ∈ w.units, ∀ imported ∈ u.imports, imported ∈ w.visited
  /-- A unit comes behind what it imports, unless that imports it in turn. -/
  ordered : ∀ before u after, w.units = before ++ u :: after → ∀ imported ∈ u.imports,
    imported ≠ entry → ∀ v, sources.leadsTo imported = .ok (some v) →
      v ∈ identifiers before ∨ sources.Reaches v u.identifier
  missing : ∀ imported ∈ w.visited, imported ≠ entry → sources.leadsTo imported = .ok none →
    imported ∈ reported.map (·.1)
  blamed : ∀ p ∈ reported, p.1 ∈ w.visited ∧ p.1 ≠ entry ∧ sources.leadsTo p.1 = .ok none ∧
    ∃ u ∈ w.begun active, u.identifier = p.2 ∧ p.1 ∈ u.imports
  once : (reported.map (·.1)).Nodup
  report : w.report.diagnostics.Perm
    ((w.begun active).flatMap (·.diagnostics) ++ reported.map (missingImport sources))

namespace Walked

variable {sources : Sources} {options : InferenceOptions} {entry imported v : String}
  {active : List LibraryUnit} {unit : LibraryUnit} {reported : List (String × String)} {w : Walk}

theorem entry_mem (walked : Walked sources options entry active reported w) :
    entry ∈ w.visited :=
  walked.met entry walked.entered

/-- What has been met is the entry, or leads to a unit whose walk has begun. -/
theorem mem_of_visited (walked : Walked sources options entry active reported w)
    (visited : v ∈ w.visited) (leads : sources.leadsTo v = .ok (some v)) :
    v ∈ identifiers (w.begun active) := by
  by_cases same : v = entry
  · rw [same]
    exact walked.entered
  · exact walked.followed v visited same v leads

/-- The innermost active unit is one whose walk has begun. -/
theorem mem_begun (w : Walk) (unit : LibraryUnit) (active : List LibraryUnit) :
    unit ∈ w.begun (unit :: active) :=
  List.mem_append_right _ List.mem_cons_self

theorem mem_imports (walked : Walked sources options entry (unit :: active) reported w)
    (member : imported ∈ unit.imports) :
    imported ∈ (sources.surface unit.identifier).imports := by
  rw [← Sources.surface_of_possibleUnit (walked.possible unit (mem_begun w unit active))]
  exact member

/-- What an import of the innermost active unit leads to is reached from all active units. -/
theorem edge (walked : Walked sources options entry (unit :: active) reported w)
    (member : imported ∈ unit.imports) (leads : sources.leadsTo imported = .ok (some v)) :
    sources.Edge unit.identifier v ∧
      ∀ outer ∈ unit :: active, sources.Reaches outer.identifier v := by
  have edge : sources.Edge unit.identifier v := ⟨imported, walked.mem_imports member, leads⟩
  refine ⟨edge, List.forall_mem_cons.mpr ⟨.single edge, fun outer among => ?_⟩⟩
  exact ((List.pairwise_cons.mp walked.path).1 outer among).tail edge

/-- The report of a walk with what is wrong with the text of one more unit. -/
theorem report_merge (walked : Walked sources options entry active reported w)
    (unit : LibraryUnit) :
    (w.report.merge ⟨unit.diagnostics⟩).diagnostics ~
      (w.begun (unit :: active)).flatMap (·.diagnostics) ++
        reported.map (missingImport sources) := by
  calc w.report.diagnostics ++ unit.diagnostics
    _ ~ ((w.begun active).flatMap (·.diagnostics) ++ reported.map (missingImport sources)) ++
          unit.diagnostics := walked.report.append_right _
    _ ~ unit.diagnostics ++ ((w.begun active).flatMap (·.diagnostics) ++
          reported.map (missingImport sources)) := List.perm_append_comm
    _ = (unit :: w.begun active).flatMap (·.diagnostics) ++
          reported.map (missingImport sources) := by
        rw [List.flatMap_cons, List.append_assoc]
    _ ~ _ := ((w.begun_cons unit active).flatMap_right _).symm.append_right _

/-- An import without a source is reported on the innermost active unit. -/
theorem fail (walked : Walked sources options entry (unit :: active) reported w)
    (member : imported ∈ unit.imports) (new : imported ∉ w.visited)
    (leads : sources.leadsTo imported = .ok none) :
    Walked sources options entry (unit :: active) ((imported, unit.identifier) :: reported)
      { w with
        visited := imported :: w.visited
        report := w.report.add (missingImport sources (imported, unit.identifier)) } where
  possible := walked.possible
  reached := walked.reached
  distinct := walked.distinct
  met v begun := List.mem_cons_of_mem imported (walked.met v begun)
  entered := walked.entered
  path := walked.path
  followed other visited differs v found := by
    rcases List.mem_cons.mp visited with rfl | visited
    · rw [leads] at found
      cases found
    · exact walked.followed other visited differs v found
  imports u done other imports :=
    List.mem_cons_of_mem imported (walked.imports u done other imports)
  ordered := walked.ordered
  missing other visited differs none := by
    rcases List.mem_cons.mp visited with rfl | visited
    · exact List.mem_cons_self
    · exact List.mem_cons_of_mem _ (walked.missing other visited differs none)
  blamed p old := by
    rcases List.mem_cons.mp old with rfl | old
    · refine ⟨List.mem_cons_self, fun same => new ?_, leads, unit, ?_, rfl, member⟩
      · rw [show imported = entry from same]
        exact walked.entry_mem
      · exact mem_begun w unit active
    · obtain ⟨visited, rest⟩ := walked.blamed p old
      exact ⟨List.mem_cons_of_mem imported visited, rest⟩
  once := by
    refine List.nodup_cons.mpr ⟨fun old => ?_, walked.once⟩
    obtain ⟨p, blamed, same⟩ := List.mem_map.mp old
    have visited : p.1 ∈ w.visited := (walked.blamed p blamed).1
    rw [show p.1 = imported from same] at visited
    exact new visited
  report := by
    refine (walked.report.append_right _).trans ?_
    rw [List.append_assoc]
    exact List.Perm.append_left _ (List.perm_append_singleton _ _)

/-- An import that leads to what has been met is passed over. -/
theorem skip (walked : Walked sources options entry active reported w)
    (leads : sources.leadsTo imported = .ok (some v)) (known : v ∈ w.visited) :
    Walked sources options entry active reported { w with visited := imported :: w.visited } where
  possible := walked.possible
  reached := walked.reached
  distinct := walked.distinct
  met v begun := List.mem_cons_of_mem imported (walked.met v begun)
  entered := walked.entered
  path := walked.path
  followed other visited differs u found := by
    rcases List.mem_cons.mp visited with rfl | visited
    · rw [leads] at found
      cases found
      exact walked.mem_of_visited known (Sources.leadsTo_target leads)
    · exact walked.followed other visited differs u found
  imports u done other imports :=
    List.mem_cons_of_mem imported (walked.imports u done other imports)
  ordered := walked.ordered
  missing other visited differs none := by
    rcases List.mem_cons.mp visited with rfl | visited
    · rw [leads] at none
      cases none
    · exact walked.missing other visited differs none
  blamed p old := by
    obtain ⟨visited, rest⟩ := walked.blamed p old
    exact ⟨List.mem_cons_of_mem imported visited, rest⟩
  once := walked.once
  report := walked.report

/-- A unit that has not been met becomes active. Then both the import and what serves it are met. -/
theorem enter {dependency : LibraryUnit} {visited : List String}
    (walked : Walked sources options entry (unit :: active) reported w)
    (member : imported ∈ unit.imports) (leads : sources.leadsTo imported = .ok (some v))
    (possible : sources.possibleUnit options v (.ok (.ok dependency))) (new : v ∉ w.visited)
    (covers : ∀ other, other ∈ visited ↔ other = v ∨ other = imported ∨ other ∈ w.visited) :
    Walked sources options entry (dependency :: unit :: active) reported
      { w with visited, report := w.report.merge ⟨dependency.diagnostics⟩ } := by
  have named : dependency.identifier = v := Sources.identifier_of_possibleUnit possible
  subst named
  obtain ⟨edge, reached⟩ := walked.edge member leads
  constructor
  case possible =>
    intro u among
    rcases Walk.mem_begun_cons.mp among with rfl | among
    · exact possible
    · exact walked.possible u among
  case reached =>
    intro u among
    rcases Walk.mem_begun_cons.mp among with rfl | among
    · exact (walked.reached unit (mem_begun w unit active)).tail edge
    · exact walked.reached u among
  case distinct =>
    refine (w.identifiers_begun_cons dependency (unit :: active)).nodup_iff.mpr ?_
    exact List.nodup_cons.mpr ⟨fun old => new (walked.met _ old), walked.distinct⟩
  case met =>
    intro other found
    rcases Walk.mem_identifiers_begun_cons.mp found with same | found
    · exact (covers other).mpr (.inl same)
    · exact (covers other).mpr (.inr (.inr (walked.met other found)))
  case entered => exact Walk.mem_identifiers_begun_cons.mpr (.inr walked.entered)
  case path => exact List.pairwise_cons.mpr ⟨reached, walked.path⟩
  case followed =>
    intro other visited differs u found
    refine Walk.mem_identifiers_begun_cons.mpr ?_
    rcases (covers other).mp visited with rfl | rfl | visited
    · rw [Sources.leadsTo_target leads] at found
      cases found
      exact .inl rfl
    · rw [leads] at found
      cases found
      exact .inl rfl
    · exact .inr (walked.followed other visited differs u found)
  case imports =>
    intro u done other imports
    exact (covers other).mpr (.inr (.inr (walked.imports u done other imports)))
  case ordered => exact walked.ordered
  case missing =>
    intro other visited differs none
    rcases (covers other).mp visited with rfl | rfl | visited
    · rw [Sources.leadsTo_target leads] at none
      cases none
    · rw [leads] at none
      cases none
    · exact walked.missing other visited differs none
  case blamed =>
    intro p old
    obtain ⟨visited, differs, none, u, among, same⟩ := walked.blamed p old
    exact ⟨(covers p.1).mpr (.inr (.inr visited)), differs, none, u,
      Walk.mem_begun_cons.mpr (.inr among), same⟩
  case once => exact walked.once
  case report => exact walked.report_merge dependency

/-- A unit all of whose imports have been met is done. -/
theorem leave (walked : Walked sources options entry (unit :: active) reported w)
    (all : ∀ imported ∈ unit.imports, imported ∈ w.visited) :
    Walked sources options entry active reported { w with units := w.units ++ [unit] } := by
  have same : Walk.begun { w with units := w.units ++ [unit] } active =
      w.begun (unit :: active) := List.append_cons _ _ _ |>.symm
  constructor
  case possible => rw [same]; exact walked.possible
  case reached => rw [same]; exact walked.reached
  case distinct => rw [same]; exact walked.distinct
  case met => rw [same]; exact walked.met
  case entered => rw [same]; exact walked.entered
  case path => exact (List.pairwise_cons.mp walked.path).2
  case followed => rw [same]; exact walked.followed
  case imports =>
    intro u done
    rcases List.mem_append.mp done with done | last
    · exact walked.imports u done
    · rw [List.mem_singleton.mp last]
      exact all
  case ordered =>
    intro before u after split imported member differs v leads
    rcases after.eq_nil_or_concat with rfl | ⟨rest, last, rfl⟩
    · obtain ⟨rfl, single⟩ := List.append_inj' split rfl
      cases single
      have begun := walked.followed imported (all imported member) differs v leads
      obtain ⟨u, among, rfl⟩ := List.mem_map.mp begun
      rcases List.mem_append.mp among with done | among
      · exact .inl (List.mem_map_of_mem done)
      · rcases List.mem_cons.mp among with rfl | among
        · exact .inr .refl
        · exact .inr ((List.pairwise_cons.mp walked.path).1 u among)
    · have front : w.units ++ [unit] = (before ++ u :: rest) ++ [last] := by
        rw [List.append_assoc, List.cons_append]
        exact split.trans (by rw [List.concat_eq_append])
      exact walked.ordered before u rest (List.append_inj' front rfl).1 imported member differs v
        leads
  case missing => exact walked.missing
  case blamed => rw [same]; exact walked.blamed
  case once => exact walked.once
  case report => rw [same]; exact walked.report

end Walked

/-! ## The walk -/

namespace Reader

variable {σ : Type} {r : Reader σ} {sources : Sources} {entry : String}
  {active : List LibraryUnit} {unit : LibraryUnit}

/-- A walk has gone on from another one, with the same active units. -/
def Continues (sources : Sources) (options : InferenceOptions) (entry : String)
    (active : List LibraryUnit) (w w' : Walk) : Prop :=
  (∃ reported, Walked sources options entry active reported w') ∧ w.visited ⊆ w'.visited ∧
    w.units ⊆ w'.units

/-- There is depth for the units whose walk has not begun. -/
def Room (r : Reader σ) (sources : Sources) (entry : String) (active : List LibraryUnit) (w : Walk)
    (depth : Nat) : Prop :=
  r.Enough sources entry →
    (sources.closure entry \ {v | v ∈ identifiers (w.begun active)}).ncard < depth

theorem Room.mono {w w' : Walk} {depth : Nat} (room : r.Room sources entry active w depth)
    (kept : w.units ⊆ w'.units) : r.Room sources entry active w' depth := by
  intro enough
  refine Nat.lt_of_le_of_lt (Sources.ncard_diff_le_of_subset enough.1 fun v old => ?_) (room enough)
  obtain ⟨u, among, same⟩ := List.mem_map.mp old
  rw [← same]
  rcases List.mem_append.mp among with done | started
  · exact List.mem_map_of_mem (List.mem_append_left active (kept done))
  · exact List.mem_map_of_mem (List.mem_append_right w'.units started)

/-- To walk along a unit that has not been met goes on with the walk, with the same active units. -/
def Visits (r : Reader σ) (sources : Sources) (entry : String) (active : List LibraryUnit)
    (depth : Nat) (visit : LibraryUnit → Walk → Operation σ Walk) : Prop :=
  ∀ dependency w reported,
    Walked sources r.configuration.inference entry (dependency :: active) reported
      { w with report := w.report.merge ⟨dependency.diagnostics⟩ } →
    r.Room sources entry active w depth →
    r.Ensures sources (Asked sources entry) (visit dependency w)
      (Allowed (¬ r.Enough sources entry) (Stopping sources entry)
        (Answering (Continues sources r.configuration.inference entry active w)))

/-- An operation goes on with a walk until all imports of a list have been met, with the same active
units. -/
def Meets (r : Reader σ) (sources : Sources) (entry : String) (active : List LibraryUnit)
    (list : List String) (w : Walk) (x : Operation σ Walk) : Prop :=
  r.Ensures sources (Asked sources entry) x
    (Allowed (¬ r.Enough sources entry) (Stopping sources entry)
      (Answering fun w' => list ⊆ w'.visited ∧
        Continues sources r.configuration.inference entry active w w'))

namespace Meets

variable {imported : String} {rest : List String} {w w' : Walk}

/-- The imports that are met from a later state of the walk on are met from its start on, together
with one that has been met in between. -/
theorem along {x : Operation σ Walk} (meets : r.Meets sources entry active rest w' x)
    (met : imported ∈ w'.visited) (grown : w.visited ⊆ w'.visited) (kept : w.units ⊆ w'.units) :
    r.Meets sources entry active (imported :: rest) w x := by
  refine meets.imp fun o allowed => allowed.imp fun o answering last same => ?_
  obtain ⟨all, further, later, longer⟩ := answering last same
  exact ⟨List.cons_subset.mpr ⟨later met, all⟩, further, List.Subset.trans grown later,
    List.Subset.trans kept longer⟩

/-- What an import leads to is walked along if it has not been met, and then the walk goes on. -/
theorem enter {visit : LibraryUnit → Walk → Operation σ Walk} {depth : Nat}
    {dependency : LibraryUnit} {reported : List (String × String)}
    (visits : r.Visits sources entry (unit :: active) depth visit)
    (walked : Walked sources r.configuration.inference entry (unit :: active) reported w)
    (room : r.Room sources entry (unit :: active) w depth) (member : imported ∈ unit.imports)
    (leads : sources.leadsTo imported = .ok (some dependency.identifier))
    (possible : sources.possibleUnit r.configuration.inference dependency.identifier
      (.ok (.ok dependency)))
    (new : dependency.identifier ∉ w.visited) {front : List String}
    (covers : ∀ other, other ∈ front ↔
      other = dependency.identifier ∨ other = imported ∨ other ∈ w.visited)
    {next : Walk → Operation σ Walk}
    (further : ∀ w', Continues sources r.configuration.inference entry (unit :: active) w w' →
      r.Meets sources entry (unit :: active) rest w' (next w')) :
    r.Meets sources entry (unit :: active) (imported :: rest) w
      (visit dependency { w with visited := front } >>= next) := by
  have entered := walked.enter member leads possible new covers
  refine (visits dependency { w with visited := front } reported entered room).andThen
    fun w' ⟨still, grown, kept⟩ => ?_
  have old : w.visited ⊆ w'.visited := fun other met =>
    grown ((covers other).mpr (.inr (.inr met)))
  exact (further w' ⟨still, old, kept⟩).along (grown ((covers imported).mpr (.inr (.inl rfl)))) old
    kept

end Meets

/-- Walking along imports of a unit meets all of them, and keeps what holds of the walk, if walking
along a unit that has not been met keeps it. -/
theorem meets_visitImports {visit : LibraryUnit → Walk → Operation σ Walk} {depth : Nat}
    (visits : r.Visits sources entry (unit :: active) depth visit) (list : List String)
    (members : list ⊆ unit.imports) {w : Walk} {reported : List (String × String)}
    (walked : Walked sources r.configuration.inference entry (unit :: active) reported w)
    (room : r.Room sources entry (unit :: active) w depth) :
    r.Meets sources entry (unit :: active) list w
      (visitImports r visit unit.identifier list w) := by
  induction list generalizing w reported with
  | nil =>
      exact .pure (.answering ⟨List.nil_subset _, ⟨reported, walked⟩, List.Subset.refl _,
        List.Subset.refl _⟩)
  | cons imported rest ih =>
      obtain ⟨member, members⟩ := List.cons_subset.mp members
      unfold visitImports
      by_cases met : imported ∈ w.visited
      · rw [if_pos met]
        exact (ih members walked room).along met (List.Subset.refl _) (List.Subset.refl _)
      · rw [if_neg met]
        refine (ensures_resolveImport (walked.reached unit (Walked.mem_begun w unit active))
          (walked.mem_imports member)).proceed (fun found come => ?_)
          fun i _ excuse => ⟨nofun, excuse⟩
        cases come with
        | pending impossible _ => cases impossible
        | failed leads reason =>
            have walked := walked.fail member met leads
            rw [missingImport, reason] at walked
            exact Meets.along (ih members walked room) List.mem_cons_self
              (List.subset_cons_self _ _) (List.Subset.refl _)
        | @served v dependency leads possible =>
            have named : dependency.identifier = v :=
              Sources.identifier_of_possibleUnit possible
            subst named
            have further (w' : Walk) (continues : Continues sources r.configuration.inference entry
                (unit :: active) w w') : r.Meets sources entry (unit :: active) rest w'
                  (visitImports r visit unit.identifier rest w') := by
              obtain ⟨⟨reported', walked'⟩, _, kept⟩ := continues
              exact ih members walked' (room.mono kept)
            dsimp only
            split
            · next same =>
                refine Meets.enter visits walked room member leads possible (same ▸ met)
                  (fun other => ?_) further
                rw [List.mem_cons, same, or_self_left]
            · next differs =>
                split
                · next known =>
                    have known : dependency.identifier ∈ w.visited :=
                      (List.mem_cons.mp known).resolve_left differs
                    exact Meets.along (ih members (walked.skip leads known) room)
                      List.mem_cons_self (List.subset_cons_self _ _) (List.Subset.refl _)
                · next unknown =>
                    refine Meets.enter visits walked room member leads possible
                      (fun known => unknown (List.mem_cons_of_mem _ known)) (fun other => ?_)
                      further
                    rw [List.mem_cons, List.mem_cons]

/-- Walking along a unit does all that it leads to, and then the unit. -/
theorem ensures_visitUnit (depth : Nat) {active : List LibraryUnit} {unit : LibraryUnit} {w : Walk}
    {reported : List (String × String)}
    (walked : Walked sources r.configuration.inference entry (unit :: active) reported
      { w with report := w.report.merge ⟨unit.diagnostics⟩ })
    (room : r.Room sources entry active w depth) :
    r.Ensures sources (Asked sources entry) (visitUnit r depth unit w)
      (Allowed (¬ r.Enough sources entry) (Stopping sources entry)
        (Answering fun w' =>
          Continues sources r.configuration.inference entry active w w' ∧
            ∃ before, w'.units = before ++ [unit])) := by
  induction depth generalizing active unit w reported with
  | zero => exact .interrupt (.tooDeep fun enough => Nat.not_lt_zero _ (room enough))
  | succ depth ih =>
      unfold visitUnit
      have less : r.Room sources entry (unit :: active)
          { w with report := w.report.merge ⟨unit.diagnostics⟩ } depth := by
        intro enough
        have shape := w.identifiers_begun_cons unit active
        have new : unit.identifier ∉ identifiers (w.begun active) :=
          (List.nodup_cons.mp (shape.nodup_iff.mp walked.distinct)).1
        have reached := walked.reached unit (Walked.mem_begun w unit active)
        refine Nat.lt_of_le_of_lt (Sources.ncard_diff_le_of_subset enough.1 shape.symm.subset) ?_
        exact Nat.lt_of_lt_of_le (Sources.ncard_diff_cons_lt enough.1 reached new)
          (Nat.le_of_lt_succ (room enough))
      refine (meets_visitImports (fun dependency w' reported' walked' room' => ?_) unit.imports
        (List.Subset.refl _) walked less).andThen fun w' continues => ?_
      · refine (ih walked' room').imp fun o allowed => allowed.imp fun o answering last same => ?_
        exact (answering last same).1
      · obtain ⟨all, ⟨reported', walked'⟩, grown, kept⟩ := continues
        refine .pure (.answering ⟨⟨⟨reported', walked'.leave fun imported member => all member⟩,
          grown, List.Subset.trans kept (List.subset_append_left _ _)⟩, _, rfl⟩)

/-- What resolving a program may come to: the report of why the entry has no source, or all that has
been walked from the entry, which is done last. -/
inductive Programs (sources : Sources) (options : InferenceOptions) (entry : String) :
    Possibly (Except Report Program)
  | failed {d : Diagnostic} (failed : sources entry = .ok (.error d)) :
      Programs sources options entry (.ok (.error (.single d)))
  | made {w : Walk} {reported : List (String × String)} (has : sources.Has entry)
      (walked : Walked sources options entry [] reported w)
      (last : ∃ before unit, w.units = before ++ [unit] ∧ unit.identifier = entry) :
      Programs sources options entry
        (.ok (.ok { entry, units := w.units, report := w.report }))
  | stopped (i : Interruption) : Programs sources options entry (.error i)

theorem walked_entry {options : InferenceOptions}
    (possible : sources.possibleUnit options entry (.ok (.ok unit))) :
    Walked sources options entry [unit] []
      { visited := [entry], report := Report.merge {} ⟨unit.diagnostics⟩ } := by
  have named : unit.identifier = entry := Sources.identifier_of_possibleUnit possible
  subst named
  constructor
  case possible => exact List.forall_mem_singleton.mpr possible
  case reached => exact List.forall_mem_singleton.mpr .refl
  case distinct => exact List.nodup_singleton _
  case met => exact List.forall_mem_singleton.mpr List.mem_cons_self
  case entered => exact List.mem_cons_self
  case path => exact List.pairwise_singleton _ _
  case followed =>
    intro imported visited differs
    exact absurd (List.mem_singleton.mp visited) differs
  case imports => exact List.forall_mem_nil _
  case ordered =>
    intro before u after split
    exact absurd split.symm (List.append_ne_nil_of_right_ne_nil _ (List.cons_ne_nil _ _))
  case missing =>
    intro imported visited differs
    exact absurd (List.mem_singleton.mp visited) differs
  case blamed => exact List.forall_mem_nil _
  case once => exact List.nodup_nil
  case report =>
    change ([] ++ unit.diagnostics).Perm (unit.diagnostics ++ [] ++ [])
    rw [List.nil_append, List.append_nil, List.append_nil]

/-- Resolving a program comes to what it may come to. -/
theorem ensures_resolveProgram (entry : String) :
    r.Ensures sources (Asked sources entry) (resolveProgram r entry)
      (Allowed (¬ r.Enough sources entry) (Stopping sources entry)
        (Programs sources r.configuration.inference entry)) := by
  unfold resolveProgram
  refine (ensures_resolveLibrary entry).proceed (fun found reached => ?_)
    fun i _ excuse => ⟨.stopped i, excuse⟩
  cases reached with
  | failed failed => exact .pure (.answer (.failed failed))
  | @read unit possible =>
      have next : r.Next sources entry r.depthLimit [] entry :=
        next_outermost fun _ => Sources.mem_closure_self entry
      have room : r.Room sources entry [] { visited := [entry] } r.depthLimit := next.room
      refine (ensures_visitUnit r.depthLimit (walked_entry possible) room).proceed
        (fun w reached => ?_) fun i _ excuse => ⟨.stopped i, excuse⟩
      obtain ⟨⟨⟨reported, walked⟩, _, _⟩, before, last⟩ := reached w rfl
      exact .pure (.answer (.made (Sources.has_of_possibleUnit possible) walked
        ⟨before, unit, last, Sources.identifier_of_possibleUnit possible⟩))

end Reader

end Library

end UnitResolution
