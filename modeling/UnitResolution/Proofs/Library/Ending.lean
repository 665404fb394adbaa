import UnitResolution.Proofs.Context.Origin
import UnitResolution.Proofs.Library.Answers
import UnitResolution.Proofs.Library.Nesting
import Mathlib.Data.List.ProdSigma

/-!
# Finitely many sources

The depth limit of a library is there for readings that would nest without end. Where only finitely
many identifiers have a source, it has nothing to interrupt: from a limit on that hangs on nothing
but the sources (`UnitResolution.Sources.capacity`), every call of a library ends, and does the same
under every limit (`UnitResolution.Library.Reader.resolve_ends`).
-/

namespace UnitResolution

open Library Script

namespace Sources

variable (sources : Sources)

/-- The keys of the searches that reading any unit with a source can begin. -/
def allKeys : Set String :=
  Set.image2 searchKey
    (⋃ v ∈ {v | sources.Has v}, {imported | imported ∈ (sources.surface v).imports})
    (⋃ v ∈ {v | sources.Has v}, {name | name ∈ namesTaken (sources.surface v)})

/-- How deep readings, walks and searches may have to nest from any unit. -/
noncomputable def capacity : Nat :=
  {v | sources.Has v}.ncard + sources.allKeys.ncard + 2

variable {sources}

theorem allKeys_finite (finite : {v | sources.Has v}.Finite) : sources.allKeys.Finite := by
  refine Set.Finite.image2 _ ?_ ?_
  · exact finite.biUnion fun v _ => List.finite_toSet _
  · exact finite.biUnion fun v _ => List.finite_toSet _

theorem searchKeys_subset_allKeys (u : String) : sources.searchKeys u ⊆ sources.allKeys := by
  refine Set.image2_subset (fun imported among => ?_) fun name among => ?_
  · obtain ⟨v, _, member⟩ := Set.mem_iUnion₂.mp among
    by_cases has : sources.Has v
    · exact Set.mem_biUnion has member
    · simp [surface_of_not_has has] at member
  · obtain ⟨v, _, member⟩ := Set.mem_iUnion₂.mp among
    by_cases has : sources.Has v
    · exact Set.mem_biUnion has member
    · simp [surface_of_not_has has, namesTaken] at member

theorem closure_subset_insert (u : String) :
    sources.closure u ⊆ insert u {v | sources.Has v} := by
  intro v reached
  rcases Relation.ReflTransGen.cases_tail reached with rfl | ⟨w, _, edge⟩
  · exact Set.mem_insert _ _
  · exact Set.mem_insert_of_mem _ edge.has

theorem room_le_capacity (finite : {v | sources.Has v}.Finite) (u : String) :
    (sources.closure u).Finite ∧ sources.room u ≤ sources.capacity := by
  have units : (sources.closure u).ncard ≤ {v | sources.Has v}.ncard + 1 :=
    (Set.ncard_le_ncard (closure_subset_insert u) (finite.insert u)).trans (Set.ncard_insert_le _ _)
  have keys : (sources.searchKeys u).ncard ≤ sources.allKeys.ncard :=
    Set.ncard_le_ncard (searchKeys_subset_allKeys u) (allKeys_finite finite)
  refine ⟨(finite.insert u).subset (closure_subset_insert u), ?_⟩
  unfold room capacity
  omega

/-- Where all that has a source is listed, the capacity can be computed. -/
theorem capacity_le {list : List String} (all : {v | sources.Has v} ⊆ {v | v ∈ list}) :
    sources.capacity ≤ list.length +
      (list.flatMap fun v => (sources.surface v).imports).length *
        (list.flatMap fun v => namesTaken (sources.surface v)).length + 2 := by
  have units : {v | sources.Has v}.ncard ≤ list.length := ncard_le_length all
  have keys : sources.allKeys ⊆ {key | key ∈
      ((list.flatMap fun v => (sources.surface v).imports) ×ˢ
        (list.flatMap fun v => namesTaken (sources.surface v))).map fun p =>
          searchKey p.1 p.2} := by
    refine Set.image2_subset_iff.mpr fun imported among name taken => ?_
    obtain ⟨v, has, member⟩ := Set.mem_iUnion₂.mp among
    obtain ⟨w, has', member'⟩ := Set.mem_iUnion₂.mp taken
    refine List.mem_map.mpr ⟨(imported, name), List.pair_mem_product.mpr ⟨?_, ?_⟩, rfl⟩
    · exact List.mem_flatMap.mpr ⟨v, all has, member⟩
    · exact List.mem_flatMap.mpr ⟨w, all has', member'⟩
  have many := ncard_le_length keys
  rw [List.length_map, List.length_product] at many
  unfold capacity
  omega

end Sources

namespace Library.Reader

variable {σ : Type} {r : Reader σ} {sources : Sources}

/-- Sources that are never too deep themselves do not stop a reading for that reason. -/
theorem not_stopping_tooDeep (shallow : ∀ v, sources v ≠ .error .tooDeep) (u : String) :
    ¬ Stopping sources u .tooDeep := by
  rintro ⟨v, _, stops⟩
  generalize same : Interruption.tooDeep = i at stops
  cases stops with
  | source stops => exact shallow v (same ▸ stops)
  | text _ _ => cases same
  | @imported imported i _ stops =>
      subst same
      unfold Sources.leadsTo at stops
      generalize Identifier.candidates imported = list at stops
      induction list with
      | nil => cases stops
      | cons c rest ih =>
          unfold Sources.firstServed at stops
          split at stops
          · next answer =>
              cases stops
              exact shallow c answer
          · cases stops
          · exact ih stops

theorem ne_tooDeep {α : Type} {possible : Possibly α} {u : String} {o : Except Interruption α}
    (allowed : Allowed (¬ r.Enough sources u) (Stopping sources u) possible o)
    (shallow : ∀ v, sources v ≠ .error .tooDeep) (enough : r.Enough sources u) :
    o ≠ .error .tooDeep := by
  rintro rfl
  cases allowed with
  | stopped _ excuse => exact not_stopping_tooDeep shallow u excuse
  | tooDeep excess => exact excess enough

theorem coherent_withLimit {limit : Nat} {m : Memory} :
    (r.withLimit limit).Coherent sources m ↔ r.Coherent sources m :=
  ⟨fun coherent => ⟨coherent.units, coherent.aliases⟩,
    fun coherent => ⟨coherent.units, coherent.aliases⟩⟩

theorem enough_withLimit (finite : {v | sources.Has v}.Finite) {limit : Nat}
    (enough : sources.capacity ≤ limit) (u : String) : (r.withLimit limit).Enough sources u :=
  ⟨(Sources.room_le_capacity finite u).1, (Sources.room_le_capacity finite u).2.trans enough⟩

section Ends

variable {limit other : Nat} {state : Memory × σ} (finite : {v | sources.Has v}.Finite)
  (shallow : ∀ v, sources v ≠ .error .tooDeep) (enough : sources.capacity ≤ limit)
  (coherent : r.Coherent sources state.1) (serves : r.surroundings.Serves state.2 sources)

include finite shallow enough coherent serves

/-- Under a limit that leaves room, resolving a unit is not nested too deeply. -/
theorem resolveLibrary_ne_tooDeep (u : String) :
    (resolveLibrary (r.withLimit limit) u state).1 ≠ .error .tooDeep := by
  have ensures : (r.withLimit limit).Ensures sources (Asked sources u)
      (resolveLibrary (r.withLimit limit) u) _ := ensures_resolveLibrary u
  have allowed := (ensures state.1 state.2 (coherent_withLimit.mpr coherent) serves).1
  exact ne_tooDeep allowed shallow (enough_withLimit finite enough u)

/-- Under a limit that leaves room, resolving a program is not nested too deeply. -/
theorem resolveProgram_ne_tooDeep (entry : String) :
    (resolveProgram (r.withLimit limit) entry state).1 ≠ .error .tooDeep := by
  have ensures : (r.withLimit limit).Ensures sources (Asked sources entry)
      (resolveProgram (r.withLimit limit) entry) _ := ensures_resolveProgram entry
  have allowed := (ensures state.1 state.2 (coherent_withLimit.mpr coherent) serves).1
  exact ne_tooDeep allowed shallow (enough_withLimit finite enough entry)

theorem resolveLibrary_eq (le : limit ≤ other) (u : String) :
    resolveLibrary (r.withLimit limit) u state = resolveLibrary (r.withLimit other) u state :=
  (Steps.resolveLibrary le u).eq_of_ne serves
    (resolveLibrary_ne_tooDeep finite shallow enough coherent serves u)

theorem resolveProgram_eq (le : limit ≤ other) (entry : String) :
    resolveProgram (r.withLimit limit) entry state =
      resolveProgram (r.withLimit other) entry state :=
  (Steps.resolveProgram le entry).eq_of_ne serves
    (resolveProgram_ne_tooDeep finite shallow enough coherent serves entry)

theorem perform_eq (le : limit ≤ other) (call : Call) :
    (r.withLimit limit).perform state call = (r.withLimit other).perform state call := by
  cases call with
  | library u =>
      exact congrArg Prod.snd (resolveLibrary_eq finite shallow enough coherent serves le u)
  | program entry =>
      exact congrArg Prod.snd (resolveProgram_eq finite shallow enough coherent serves le entry)

theorem after_eq (le : limit ≤ other) (calls : List Call) :
    (r.withLimit limit).after calls state = (r.withLimit other).after calls state := by
  induction calls generalizing state with
  | nil => simp only [after, List.foldl_nil]
  | cons call rest ih =>
      have limited : (r.withLimit limit).Coherent sources state.1 := coherent_withLimit.mpr coherent
      obtain ⟨after, course⟩ := coherent_perform limited serves call
      have still : r.surroundings.Serves ((r.withLimit limit).perform state call).2 sources :=
        serves.later course.surroundings
      have further := ih (coherent_withLimit.mp after) still
      rw [after_cons, after_cons, further, perform_eq finite shallow enough coherent serves le call]

end Ends

/-- Where finitely many identifiers have a source, every call of a library ends, whatever the
library has been called for before, and however many units it may keep. How deep it may nest does
not matter as long as there is room for the sources. No more units are built inside each other than
there are identifiers with a source, neither for a unit nor for what an import leads to. -/
theorem resolve_ends (r : Reader σ) (sources : Sources) {s : σ}
    (serves : r.surroundings.Serves s sources) (finite : {v | sources.Has v}.Finite)
    (shallow : ∀ v, sources v ≠ .error .tooDeep) {limit : Nat} (enough : sources.capacity ≤ limit)
    (bound : Int) (calls : List Call) :
    let limited := r.withLimit limit
    let state := limited.after calls (fresh bound s)
    (∀ u, limited.answerAfter bound s calls u ≠ .error .tooDeep ∧
      limited.programAfter bound s calls u ≠ .error .tooDeep) ∧
    (∀ other, sources.capacity ≤ other →
      (r.withLimit other).after calls (fresh bound s) = state ∧
      ∀ u, resolveLibrary (r.withLimit other) u state = resolveLibrary limited u state ∧
        resolveProgram (r.withLimit other) u state = resolveProgram limited u state) ∧
    ∀ later, r.surroundings.Serves later.2 sources → ∀ u,
      let nested := resolveNested limited {v | sources.Has v}.ncard []
      resolveUnit limited limit [] u later = nested u later ∧
        resolveImport limited u later = followImport nested [] u later := by
  intro limited state
  have empty : limited.Coherent sources (fresh bound s).1 := coherent_empty bound
  obtain ⟨coherent, course⟩ := coherent_after empty serves calls
  have coherent : r.Coherent sources state.1 := coherent_withLimit.mp coherent
  have still : r.surroundings.Serves state.2 sources := serves.later course.surroundings
  have deep : {v | sources.Has v}.ncard < limit := by
    unfold Sources.capacity at enough
    omega
  refine ⟨fun u => ⟨?_, ?_⟩, fun other room => ?_, fun later serving u => ⟨?_, ?_⟩⟩
  · exact resolveLibrary_ne_tooDeep finite shallow enough coherent still u
  · exact resolveProgram_ne_tooDeep finite shallow enough coherent still u
  · -- the run under the smaller limit does not meet it, so the greater one changes nothing
    rcases Nat.le_total limit other with le | le
    · refine ⟨(after_eq finite shallow enough (coherent_empty bound) serves le calls).symm,
        fun u => ⟨?_, ?_⟩⟩
      · exact (resolveLibrary_eq finite shallow enough coherent still le u).symm
      · exact (resolveProgram_eq finite shallow enough coherent still le u).symm
    · refine ⟨after_eq finite shallow room (coherent_empty bound) serves le calls,
        fun u => ⟨?_, ?_⟩⟩
      · exact resolveLibrary_eq finite shallow room coherent still le u
      · exact resolveProgram_eq finite shallow room coherent still le u
  · exact resolveUnit_eq_resolveNested limited finite deep u serving
  · have same : limited.Steps sources False Eq (resolveImport limited u)
        (followImport (resolveNested limited {v | sources.Has v}.ncard []) [] u) :=
      Steps.followImport (fun c fresh => steps_resolveNested limited finite deep fresh
        (Set.ncard_le_ncard Set.sdiff_subset finite)) u
    rcases same later.1 later.2 serving with ⟨impossible, _⟩ | ⟨alike, same, _⟩
    · exact impossible.elim
    · exact Prod.ext alike.eq same

end Library.Reader

/-! ## Mock runtime libraries -/

/-- With nothing but a mock runtime library, a scene has only sources for what is listed there. -/
theorem Scene.has_ofMock [Host] (texts : List (String × String)) :
    {v | (Scene.ofMock texts).sources.Has v} ⊆ {v | v ∈ texts.map Prod.fst} := by
  rintro v ⟨source, served⟩
  have follows : (Scene.ofMock texts).context.Follows (.ofMock texts)
      ({} : Overrides Strategy Strategy) := ⟨_, rfl, rfl⟩
  cases Scene.origin_of_source follows rfl rfl served with
  | mock choice _ found =>
      cases choice
      exact List.mem_map.mpr ⟨_, Table.mem_of_lookup found, rfl⟩
  | runtime known => cases known
  | entry choice => cases choice
  | file _ found => cases Disk.mem_of_find? found
  | package _ _ _ found => cases Disk.mem_of_find? found

namespace Library.Reader

set_option maxRecDepth 4000 in
theorem capacity_cycleScene : cycleScene.sources.capacity ≤ 60 := by
  refine (Sources.capacity_le (Scene.has_ofMock cycleTexts)).trans ?_
  decide +kernel

/-- Reading a cycle with room for one unit ends, and nests no more than five builds. -/
theorem resolve_ends_in_cycle :
    let limited := cycleReader.withLimit 60
    let state := limited.after [.library "rt:b", .program "rt:c"] (fresh 1 cycleScene)
    limited.programAfter 1 cycleScene [.library "rt:b", .program "rt:c"] "rt:a" ≠
        .error .tooDeep ∧
      cycleReader.after [.library "rt:b", .program "rt:c"] (fresh 1 cycleScene) = state ∧
      resolveUnit limited 60 [] "rt:a" (fresh 1 cycleScene) =
        resolveNested limited {v | cycleScene.sources.Has v}.ncard [] "rt:a"
          (fresh 1 cycleScene) := by
  have finite : {v | cycleScene.sources.Has v}.Finite :=
    (List.finite_toSet _).subset (Scene.has_ofMock cycleTexts)
  obtain ⟨ends, same, nested⟩ := resolve_ends cycleReader _ cycleScene.serves finite
    cycleScene.sources_ne_tooDeep capacity_cycleScene 1 [.library "rt:b", .program "rt:c"]
  have standard : cycleScene.sources.capacity ≤ 6000 := capacity_cycleScene.trans (by decide)
  exact ⟨(ends "rt:a").2, (same 6000 standard).1,
    (nested (fresh 1 cycleScene) cycleScene.serves "rt:a").1⟩

end Library.Reader

end UnitResolution
