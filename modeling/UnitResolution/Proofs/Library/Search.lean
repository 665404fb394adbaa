import UnitResolution.Proofs.Identifier.Scheme
import UnitResolution.Proofs.Library.Invariance
import UnitResolution.Proofs.Library.Nesting
import UnitResolution.Proofs.Library.Trails

/-!
# Searching exported names

Among units that are kept, the search for an exported name is a search of a graph
(`UnitResolution.Memory.exportGraph`). Its places are names in imported units. A name that the unit
exports itself leads nowhere else; any other one leads to the name that the unit passes on under
it, or else to the same name in all units all of whose exports it passes on. Following an import
changes how recently units have been touched and what is remembered of imports, but not to which
kept unit an import leads (`UnitResolution.Library.Reader.Upholds.followImport`), so the search goes
through one and the same graph to its end.

The keys by which the search knows names again join the import and the name by `#`. They can be the
same for different names, and then a name may not be looked for because another one has been. Where
they are not, nothing is left out (`UnitResolution.Library.Reader.importedType_complete`).
-/

namespace UnitResolution

open Library

/-! ## The graph of exported names -/

namespace LibraryUnit

/-- The type that a unit gives to an exported name by itself. -/
def ownType? (u : LibraryUnit) (name : String) : Option String :=
  (u.surface.exports.lookup name).bind u.typeOf?

/-- From where a unit takes an exported name that it does not export itself. -/
def passedFrom (u : LibraryUnit) (name : String) : List (String × String) :=
  match u.surface.exports.lookup name with
  | some _ => []
  | none =>
      match u.surface.reExports.find? (·.exportedName == name) with
      | some reExport => [(reExport.source, reExport.importedName)]
      | none =>
          if name = "default" then [] else u.surface.starExports.map fun source => (source, name)

theorem mem_passedFrom {u : LibraryUnit} {name : String} {p : String × String}
    (member : p ∈ u.passedFrom name) :
    (∃ e ∈ u.surface.reExports, p = (e.source, e.importedName)) ∨
      ∃ source ∈ u.surface.starExports, p = (source, name) := by
  unfold passedFrom at member
  split at member
  · cases member
  · split at member
    · next reExport found =>
        exact .inl ⟨reExport, List.mem_of_find?_eq_some found, List.mem_singleton.mp member⟩
    · split at member
      · cases member
      · obtain ⟨source, among, same⟩ := List.mem_map.mp member
        exact .inr ⟨source, among, same.symm⟩

end LibraryUnit

namespace Memory

/-- The unit to which an identifier of a list leads, if only kept units can be had: that of the
first one that is kept, unless one that is being read comes before. -/
def firstKept? (m : Memory) (pending list : List String) : Option LibraryUnit :=
  (list.find? fun c => decide (c ∈ pending) || m.units.contains c).bind fun c =>
    if c ∈ pending then none else m.units.find? c

/-- The unit to which an import leads, if only kept units can be had. -/
def imported? (m : Memory) (pending : List String) (imported : String) : Option LibraryUnit :=
  m.firstKept? pending (m.tried imported)

/-- The graph of the names in imported units. -/
def exportGraph (m : Memory) (pending : List String) : SearchGraph (String × String) String where
  next p := ((m.imported? pending p.1).map (·.passedFrom p.2)).getD []
  has? p := (m.imported? pending p.1).bind (·.ownType? p.2)
  key p := searchKey p.1 p.2

variable {m m' : Memory} {pending : List String} {c : String} {rest : List String}

theorem firstKept?_cons_of_pending (member : c ∈ pending) :
    m.firstKept? pending (c :: rest) = none := by
  simp [firstKept?, member]

theorem firstKept?_cons_of_kept {unit : LibraryUnit} (free : c ∉ pending)
    (kept : m.units.find? c = some unit) : m.firstKept? pending (c :: rest) = some unit := by
  simp [firstKept?, free, Cache.contains, kept]

theorem firstKept?_cons_of_none (free : c ∉ pending) (missing : m.units.find? c = none) :
    m.firstKept? pending (c :: rest) = m.firstKept? pending rest := by
  simp [firstKept?, free, Cache.contains, missing]

theorem firstKept?_congr (same : ∀ c, m'.units.find? c = m.units.find? c) (list : List String) :
    m'.firstKept? pending list = m.firstKept? pending list := by
  simp only [firstKept?, Cache.contains, same]

section ExportGraph

variable {imported : String}

theorem has?_exportGraph_of_some {unit : LibraryUnit}
    (leads : m.imported? pending imported = some unit) (name : String) :
    (m.exportGraph pending).has? (imported, name) = unit.ownType? name := by
  simp [exportGraph, leads]

theorem next_exportGraph_of_some {unit : LibraryUnit}
    (leads : m.imported? pending imported = some unit) (name : String) :
    (m.exportGraph pending).next (imported, name) = unit.passedFrom name := by
  simp [exportGraph, leads]

theorem has?_exportGraph_of_none (nowhere : m.imported? pending imported = none) (name : String) :
    (m.exportGraph pending).has? (imported, name) = none := by
  simp [exportGraph, nowhere]

theorem next_exportGraph_of_none (nowhere : m.imported? pending imported = none) (name : String) :
    (m.exportGraph pending).next (imported, name) = [] := by
  simp [exportGraph, nowhere]

end ExportGraph

end Memory

/-! ## Only finitely many names are within reach -/

namespace Memory

/-- The imports from which kept units pass on names. -/
def passingFrom (m : Memory) : List String :=
  m.units.entries.flatMap fun entry =>
    entry.2.surface.reExports.map (·.source) ++ entry.2.surface.starExports

/-- The names that kept units take from others to pass them on. -/
def passedNames (m : Memory) : List String :=
  m.units.entries.flatMap fun entry => entry.2.surface.reExports.map (·.importedName)

variable {m : Memory} {pending : List String} {imported name : String}

theorem exists_entry_of_imported? {unit : LibraryUnit}
    (leads : m.imported? pending imported = some unit) : ∃ c, (c, unit) ∈ m.units.entries := by
  obtain ⟨c, _, kept⟩ := Option.bind_eq_some_iff.mp leads
  split at kept
  · cases kept
  · exact ⟨c, Table.mem_of_lookup kept⟩

theorem mem_of_step {p q : String × String} (step : q ∈ (m.exportGraph pending).next p) :
    q.1 ∈ m.passingFrom ∧ (q.2 ∈ m.passedNames ∨ q.2 = p.2) := by
  cases leads : m.imported? pending p.1 with
  | none =>
      rw [next_exportGraph_of_none leads] at step
      cases step
  | some unit =>
      rw [next_exportGraph_of_some leads] at step
      obtain ⟨c, entry⟩ := exists_entry_of_imported? leads
      rcases LibraryUnit.mem_passedFrom step with ⟨e, member, rfl⟩ | ⟨source, member, rfl⟩
      · constructor
        · exact List.mem_flatMap.mpr ⟨_, entry, List.mem_append_left _ (List.mem_map_of_mem member)⟩
        · exact .inl (List.mem_flatMap.mpr ⟨_, entry, List.mem_map_of_mem member⟩)
      · constructor
        · exact List.mem_flatMap.mpr ⟨_, entry, List.mem_append_right _ member⟩
        · exact .inr rfl

theorem reach_finite : ((m.exportGraph pending).reach (imported, name)).Finite := by
  have all := (List.finite_toSet (imported :: m.passingFrom)).prod
    (List.finite_toSet (name :: m.passedNames))
  apply all.subset
  intro p reached
  induction reached with
  | refl => exact ⟨List.mem_cons_self, List.mem_cons_self⟩
  | tail _ step ih =>
      obtain ⟨source, taken | same⟩ := mem_of_step step
      · exact ⟨List.mem_cons_of_mem _ source, List.mem_cons_of_mem _ taken⟩
      · refine ⟨List.mem_cons_of_mem _ source, ?_⟩
        rw [same]
        exact ih.2

end Memory

/-! ## Keys -/

/-- Keys of names without the mark that joins them are different. -/
theorem Library.eq_of_searchKey {p q : String × String} (plain : '#' ∉ p.2.toList)
    (plain' : '#' ∉ q.2.toList) (same : searchKey p.1 p.2 = searchKey q.1 q.2) : p = q := by
  have text : p.1.toList ++ '#' :: p.2.toList = q.1.toList ++ '#' :: q.2.toList := by
    have whole := congrArg String.toList same
    simpa [searchKey] using whole
  -- read backwards, the mark is the first one
  have backwards := congrArg List.reverse text
  simp only [List.reverse_append, List.reverse_cons, List.append_assoc,
    List.singleton_append] at backwards
  have name := List.reverse_inj.mp
    (Identifier.eq_of_append_cons (by simpa using plain) (by simpa using plain') backwards)
  rw [name] at text
  exact Prod.ext (String.toList_inj.mp (List.append_cancel_right text)) (String.toList_inj.mp name)

theorem Memory.distinct_of_plain {m : Memory} {pending : List String} {start : String × String}
    (plain : ∀ p ∈ (m.exportGraph pending).reach start, '#' ∉ p.2.toList) :
    (m.exportGraph pending).Distinct start := by
  intro p reached q reached' same
  exact eq_of_searchKey (plain p reached) (plain q reached') same

namespace Library.Reader

variable {σ : Type}

/-! ## Operations beside computations without a state -/

/-- From states that satisfy a condition, an operation comes to such states, and to the same as a
computation without a state. -/
def Upholds {α β : Type} (inv : Memory × σ → Prop) (V : α → β → Prop) (x : Operation σ α)
    (o : Except Interruption β) : Prop :=
  ∀ state, inv state → inv (x state).2 ∧ Alike V (x state).1 o

namespace Upholds

variable {α β γ δ : Type} {inv : Memory × σ → Prop} {V : α → β → Prop} {W : γ → δ → Prop}
  {x : Operation σ α} {o : Except Interruption β} {f : α → Operation σ γ}
  {f' : β → Except Interruption δ}

protected theorem pure {a : α} {b : β} (related : V a b) :
    Upholds inv V (pure a : Operation σ α) (.ok b) :=
  fun _ state => ⟨state, .ok related⟩

theorem interrupt (i : Interruption) :
    Upholds inv V (Library.interrupt i : Operation σ α) (.error i) :=
  fun _ state => ⟨state, .error⟩

protected theorem bind (first : Upholds inv V x o)
    (second : ∀ a b, V a b → Upholds inv W (f a) (f' b)) :
    Upholds inv W (x >>= f) (o >>= f') := by
  intro state holds
  rw [run_bind]
  obtain ⟨between, alike⟩ := first state holds
  generalize x state = run at between alike
  obtain ⟨result, middle⟩ := run
  cases alike with
  | ok related => exact second _ _ related middle between
  | error => exact ⟨between, .error⟩

/-- Where it is known what the first operation comes to, the rest is told from there. -/
theorem bind_ok {o : Except Interruption δ} {b : β} (first : Upholds inv V x (.ok b))
    (second : ∀ a, V a b → Upholds inv W (f a) o) : Upholds inv W (x >>= f) o := by
  intro state holds
  rw [run_bind]
  obtain ⟨between, alike⟩ := first state holds
  generalize x state = run at between alike
  obtain ⟨result, middle⟩ := run
  cases alike with
  | ok related => exact second _ related middle between

end Upholds

/-! ## Following imports to kept units -/

section Kept

variable {r : Reader σ} {sources : Sources} {m : Memory} {pending : List String}

/-- The memory keeps the same units, and imports lead to the same of them. -/
structure Keeping (r : Reader σ) (sources : Sources) (m : Memory) (pending : List String)
    (state : Memory × σ) : Prop where
  kept : ∀ c, state.1.units.find? c = m.units.find? c
  leads : ∀ imported, state.1.imported? pending imported = m.imported? pending imported
  serves : r.surroundings.Serves state.2 sources

/-- What following an import comes to, and the unit to which the import leads. -/
def LeadsTo (found : Imported) (unit? : Option LibraryUnit) : Prop :=
  match found with
  | .served unit => unit? = some unit
  | .pending | .failed _ => unit? = none

namespace Upholds

variable {state : Memory × σ}

theorem keptUnit (c : String) :
    Upholds (Keeping r sources m pending) Eq (Library.keptUnit c) (.ok (m.units.find? c)) := by
  intro (m', s) holds
  have found : (m'.units.get c).1 = m.units.find? c := (Cache.get_fst _ _).trans (holds.kept c)
  have kept : ∀ other, (m'.units.get c).2.find? other = m.units.find? other :=
    fun other => (Cache.find?_get _ _ _).trans (holds.kept other)
  refine ⟨⟨kept, fun imported => ?_, holds.serves⟩, ?_⟩
  · rw [← holds.leads imported]
    exact Memory.firstKept?_congr (fun other => Cache.find?_get _ _ _) _
  · exact .ok found

theorem source (c : String) :
    Upholds (Keeping r sources m pending) Eq (inSurroundings (r.surroundings.source c))
      (sources c) := by
  intro (m', s) holds
  have answer := holds.serves s .refl c
  refine ⟨⟨holds.kept, holds.leads, ?_⟩, ?_⟩
  · have course : r.surroundings.Course (fun _ => True) s (r.surroundings.source c s).2 :=
      .source c .refl trivial
    exact holds.serves.later course
  · change Alike Eq (r.surroundings.source c s).1 (sources c)
    rw [answer]
    exact .refl _

/-- To remember the identifier that has served an import changes nothing about where it leads. -/
theorem rememberAlias {imported c : String} {unit : LibraryUnit} (free : c ∉ pending)
    (kept : m.units.find? c = some unit) (leads : m.imported? pending imported = some unit) :
    Upholds (Keeping r sources m pending) (fun _ _ => True) (Library.rememberAlias imported c)
      (.ok ()) := by
  intro (m', s) holds
  refine ⟨⟨holds.kept, fun other => ?_, holds.serves⟩, .ok trivial⟩
  have tried : ∀ list, (Library.rememberAlias imported c (m', s)).2.1.firstKept? pending list =
      m.firstKept? pending list := Memory.firstKept?_congr holds.kept
  rw [Memory.imported?, tried]
  by_cases same : other = imported
  · subst same
    simp only [Memory.tried, Library.rememberAlias, Table.lookup_set_self]
    rw [Memory.firstKept?_cons_of_kept free kept, leads]
  · rw [← holds.leads other, Memory.imported?, Memory.firstKept?_congr holds.kept]
    simp only [Memory.tried, Library.rememberAlias, Table.lookup_set_of_ne same]

/-- An identifier has the unit that is kept for it, or none. -/
theorem resolveUnit (closed : ∀ c, m.units.contains c = false → ∃ d, sources c = .ok (.error d))
    (depth : Nat) (c : String) :
    Upholds (Keeping r sources m pending) (fun found unit? => found.toOption = unit?)
      (Library.resolveUnit r (depth + 1) pending c) (.ok (m.units.find? c)) := by
  rw [resolveUnit_succ]
  refine (keptUnit c).bind_ok fun _ same => ?_
  subst same
  cases missing : m.units.find? c with
  | some unit => exact .pure rfl
  | none =>
      obtain ⟨d, failed⟩ := closed c (by simp [Cache.contains, missing])
      have answer : Upholds (Keeping r sources m pending) Eq
          (inSurroundings (r.surroundings.source c)) (sources c) := source c
      rw [failed] at answer
      refine answer.bind_ok fun _ same => ?_
      subst same
      exact .pure rfl

theorem tryCandidates (closed : ∀ c, m.units.contains c = false → ∃ d, sources c = .ok (.error d))
    (depth : Nat) {imported : String} {list : List String}
    (leads : m.imported? pending imported = m.firstKept? pending list)
    (reason : Option Diagnostic) :
    Upholds (Keeping r sources m pending) LeadsTo
      (Library.tryCandidates (Library.resolveUnit r (depth + 1) pending) pending imported list
        reason)
      (.ok (m.imported? pending imported)) := by
  induction list generalizing reason with
  | nil =>
      rw [leads]
      cases reason with
      | none => exact .pure rfl
      | some d => exact .pure rfl
  | cons c rest ih =>
      unfold Library.tryCandidates
      split
      · next member =>
          rw [leads, Memory.firstKept?_cons_of_pending member]
          exact .pure rfl
      · next free =>
          refine (resolveUnit closed depth c).bind_ok fun found same => ?_
          cases found with
          | ok unit =>
              have kept : m.units.find? c = some unit := same.symm
              have reached : m.imported? pending imported = some unit :=
                leads.trans (Memory.firstKept?_cons_of_kept free kept)
              rw [reached]
              exact (rememberAlias free kept reached).bind_ok fun _ _ => .pure rfl
          | error d =>
              have missing : m.units.find? c = none := same.symm
              exact ih (leads.trans (Memory.firstKept?_cons_of_none free missing)) _

/-- Following an import comes to the unit to which the import leads. -/
theorem followImport (closed : ∀ c, m.units.contains c = false → ∃ d, sources c = .ok (.error d))
    (depth : Nat) (imported : String) :
    Upholds (Keeping r sources m pending) LeadsTo
      (Library.followImport (Library.resolveUnit r (depth + 1) pending) pending imported)
      (.ok (m.imported? pending imported)) := by
  intro (m', s) holds
  have leads : m.imported? pending imported = m.firstKept? pending (m'.tried imported) := by
    rw [← holds.leads imported, Memory.imported?, Memory.firstKept?_congr holds.kept]
  have candidates :
      Library.candidatesOf imported (m', s) = (.ok (m'.tried imported), (m', s)) := by
    simp only [Library.candidatesOf, Memory.tried]
    cases m'.aliases.lookup imported <;> rfl
  unfold Library.followImport
  rw [run_bind, candidates]
  exact tryCandidates closed depth leads none (m', s) holds

/-- Among what a unit exports, an operation searches as a computation does to which it corresponds
for every name that is passed on. -/
theorem searchUnit {inv : Memory × σ → Prop}
    {search : String → String → List String → Operation σ (Option String × List String)}
    (seek : String × String → List String → Except Interruption (Option String × List String))
    (same : ∀ p seen, Upholds inv Eq (search p.1 p.2 seen) (seek p seen)) (unit : LibraryUnit)
    (name : String) (seen : List String) :
    Upholds inv Eq (Library.searchUnit search unit name seen)
      (match unit.ownType? name with
      | some type => .ok (some type, seen)
      | none => SearchGraph.first seek (unit.passedFrom name) seen) := by
  unfold Library.searchUnit LibraryUnit.ownType? LibraryUnit.passedFrom
  cases unit.surface.exports.lookup name with
  | some localName =>
      cases declared : unit.typeOf? localName with
      | some type =>
          simp only [Option.bind_some, declared]
          exact .pure rfl
      | none =>
          simp only [Option.bind_some, declared]
          exact .pure rfl
  | none =>
      cases unit.surface.reExports.find? (·.exportedName == name) with
      | some reExport =>
          have passed := same (reExport.source, reExport.importedName) seen
          dsimp only [Option.bind_none]
          rwa [SearchGraph.first_singleton]
      | none =>
          dsimp only [Option.bind_none]
          by_cases unnamed : name = "default"
          · rw [if_pos unnamed, if_pos unnamed]
            exact .pure rfl
          · rw [if_neg unnamed, if_neg unnamed]
            generalize unit.surface.starExports = list
            induction list generalizing seen with
            | nil => exact .pure rfl
            | cons source rest ih =>
                refine (same (source, name) seen).bind fun found _ equal => ?_
                subst equal
                obtain ⟨type, later⟩ := found
                cases type with
                | some type => exact .pure rfl
                | none => exact ih later

/-- The search for an exported name goes through the graph of exported names. -/
theorem typeOfExport {follow : String → Operation σ Imported}
    (follows : ∀ imported, Upholds (Keeping r sources m pending) LeadsTo (follow imported)
      (.ok (m.imported? pending imported)))
    (limit : Nat) (imported name : String) (seen : List String) :
    Upholds (Keeping r sources m pending) Eq (Library.typeOfExport follow limit imported name seen)
      ((m.exportGraph pending).seek limit (imported, name) seen) := by
  induction limit generalizing imported name seen with
  | zero => exact interrupt .tooDeep
  | succ limit ih =>
      unfold Library.typeOfExport
      by_cases known : searchKey imported name ∈ seen
      · rw [if_pos known, SearchGraph.seek_of_seen known]
        exact .pure rfl
      · rw [if_neg known]
        refine (follows imported).bind_ok fun found leads => ?_
        rw [SearchGraph.seek_of_unseen known]
        cases found with
        | pending =>
            rw [Memory.has?_exportGraph_of_none leads, Memory.next_exportGraph_of_none leads]
            exact .pure rfl
        | failed reason =>
            rw [Memory.has?_exportGraph_of_none leads, Memory.next_exportGraph_of_none leads]
            exact .pure rfl
        | served unit =>
            rw [Memory.has?_exportGraph_of_some leads, Memory.next_exportGraph_of_some leads]
            have searched := searchUnit ((m.exportGraph pending).seek limit)
              (fun p seen => ih p.1 p.2 seen) unit name (searchKey imported name :: seen)
            cases own : unit.ownType? name with
            | some type =>
                rw [own] at searched
                exact searched
            | none =>
                rw [own] at searched
                exact searched

end Upholds

end Kept

/-- Among kept units, in whatever way they pass on names to each other, looking for the type of an
exported name ends, and what it finds is the type that some unit within reach gives to the name it
goes by there. If the keys of the names within reach are different, as they are where no name has
the mark of keys in it, then a type is found whenever there is one, and it is the first one in the
order in which units pass on names. -/
theorem importedType_complete (r : Reader σ) {sources : Sources} {m : Memory} {s : σ}
    (serves : r.surroundings.Serves s sources)
    (closed : ∀ c, m.units.contains c = false → ∃ d, sources c = .ok (.error d))
    (pending : List String) (depth : Nat) (imported name : String) :
    let graph := m.exportGraph pending
    (graph.reach (imported, name)).Finite ∧
      ((∀ p ∈ graph.reach (imported, name), '#' ∉ p.2.toList) →
        graph.Distinct (imported, name)) ∧
      ∀ limit, (graph.key '' graph.reach (imported, name)).ncard < limit → ∃ found,
        (importedType (Library.followImport (Library.resolveUnit r (depth + 1) pending) pending)
          limit imported name (m, s)).1 = .ok found ∧
        (∀ type, found = some type →
          ∃ p ∈ graph.reach (imported, name), graph.has? p = some type) ∧
        (graph.Distinct (imported, name) →
          (found.isSome ↔ ∃ p ∈ graph.reach (imported, name), (graph.has? p).isSome) ∧
          ∀ type, found = some type → graph.First (imported, name) type) := by
  intro graph
  have finite : (graph.reach (imported, name)).Finite := Memory.reach_finite
  refine ⟨finite, Memory.distinct_of_plain, fun limit room => ?_⟩
  have start : Keeping r sources m pending (m, s) := ⟨fun _ => rfl, fun _ => rfl, serves⟩
  have ends : ∃ result, graph.seek limit (imported, name) [] = .ok result :=
    SearchGraph.seek_ends (finite.image graph.key) .refl (by simpa using room)
  obtain ⟨⟨found, seen⟩, run⟩ := ends
  have looked := (Upholds.typeOfExport (Upholds.followImport closed depth) limit imported name []
    (m, s) start).2
  rw [run] at looked
  refine ⟨found, ?_, ?_, ?_⟩
  · unfold importedType
    rw [run_bind]
    generalize Library.typeOfExport _ limit imported name [] (m, s) = result at looked
    obtain ⟨outcome, later⟩ := result
    cases looked.eq
    rfl
  · rintro type rfl
    exact SearchGraph.seek_sound run
  · intro distinct
    cases found with
    | none =>
        have nothing := SearchGraph.seek_none distinct run
        refine ⟨iff_of_false nofun ?_, nofun⟩
        rintro ⟨p, reached, provides⟩
        rw [nothing p reached] at provides
        cases provides
    | some type =>
        obtain ⟨p, reached, here⟩ := SearchGraph.seek_sound run
        refine ⟨iff_of_true rfl ⟨p, reached, by rw [here]; rfl⟩, ?_⟩
        rintro _ ⟨⟩
        exact SearchGraph.seek_first distinct run

/-- A reader that has no sources. -/
def bareReader : Reader Unit where
  configuration :=
    { runtime := .mock [], packages := .single "/", entry := .explicit none, inference := {}
      verbose := false }
  surroundings :=
    { source := fun _ s => (.ok (.error (.error .sourceNotFound "")), s), log := fun _ s => s }

/-- A memory that keeps scripts. -/
def memoryOf (units : List (String × Script.Surface)) : Memory where
  units :=
    { bound := 8
      entries := units.map fun (identifier, surface) =>
        (identifier,
          { identifier, kind := .script, surface
            declarations := surface.exports.map fun e => ⟨e.2, .const, "number", true, true⟩
            diagnostics := [] }) }

/-- Units that pass on each other's names in a cycle, beside one that has a name itself. -/
def cyclicMemory : Memory :=
  memoryOf [("rt:a", { starExports := ["rt:b", "rt:c"] }),
    ("rt:b", { starExports := ["rt:a"], reExports := [⟨"y", "x", "rt:a"⟩] }),
    ("rt:c", { exports := [("x", "x")] })]

/-- Through a cycle, a name is found on the way that leads out of the cycle. -/
theorem importedType_complete_of_cycle :
    (cyclicMemory.exportGraph []).First ("rt:b", "y") "number" := by
  let names := [("rt:b", "y"), ("rt:a", "x"), ("rt:b", "x"), ("rt:c", "x")]
  have within : (cyclicMemory.exportGraph []).reach ("rt:b", "y") ⊆ {p | p ∈ names} :=
    SearchGraph.reach_subset (by decide) (by decide +kernel)
  have few : ((cyclicMemory.exportGraph []).key ''
      (cyclicMemory.exportGraph []).reach ("rt:b", "y")).ncard < 6 := by
    have keys : (cyclicMemory.exportGraph []).key ''
        (cyclicMemory.exportGraph []).reach ("rt:b", "y") ⊆
          {k | k ∈ names.map (cyclicMemory.exportGraph []).key} := by
      rintro _ ⟨p, reached, rfl⟩
      exact List.mem_map_of_mem (within reached)
    exact Nat.lt_of_le_of_lt (Sources.ncard_le_length keys) (by decide)
  have serves : bareReader.surroundings.Serves () fun _ =>
      .ok (.error (.error .sourceNotFound "")) := fun _ _ _ => rfl
  have closed : ∀ c, cyclicMemory.units.contains c = false → ∃ d,
      (.ok (.error (.error .sourceNotFound "")) : Except Interruption (Except Diagnostic Source)) =
        .ok (.error d) := fun _ _ => ⟨_, rfl⟩
  obtain ⟨_, distinct, ends⟩ := importedType_complete bareReader serves closed [] 0 "rt:b" "y"
  obtain ⟨found, run, _, complete⟩ := ends 6 few
  have plain : ∀ p ∈ names, '#' ∉ p.2.toList := by decide
  obtain ⟨_, first⟩ := complete (distinct fun p reached => plain p (within reached))
  refine first "number" ?_
  have outcome : (importedType (Library.followImport (Library.resolveUnit bareReader 1 []) []) 6
      "rt:b" "y" (cyclicMemory, ())).1 = .ok (some "number") := by decide +kernel
  exact Except.ok.inj (run.symm.trans outcome)

/-- Where two names have the same key, one of them hides the other. -/
theorem importedType_of_shared_key :
    let m := memoryOf [("rt:a", { reExports := [⟨"b#c", "c", "rt:a#b"⟩] }),
      ("rt:a#b", { exports := [("c", "c")] })]
    (importedType (Library.followImport (Library.resolveUnit bareReader 1 []) []) 6
        "rt:a" "b#c" (m, ())).1 = .ok none ∧
      ("rt:a#b", "c") ∈ (m.exportGraph []).reach ("rt:a", "b#c") ∧
      (m.exportGraph []).has? ("rt:a#b", "c") = some "number" := by
  intro m
  refine ⟨by decide +kernel, Relation.ReflTransGen.single ?_, by decide +kernel⟩
  have step : ("rt:a#b", "c") ∈ (m.exportGraph []).next ("rt:a", "b#c") := by decide +kernel
  exact step

end Library.Reader

end UnitResolution
