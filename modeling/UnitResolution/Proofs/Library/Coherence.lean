import UnitResolution.Proofs.Library.Meaning

/-!
# Coherent memories

A library remembers units and the identifiers that have served imports. Its memory is coherent
(`UnitResolution.Library.Reader.Coherent`) if every unit it keeps is one that its identifier may
stand for, and if imports lead where it remembers that they do. What an operation does from coherent
memories is said by `UnitResolution.Library.Reader.Ensures`: its memories stay coherent, it asks for
nothing but certain identifiers, and its outcome satisfies a condition. This composes
(`UnitResolution.Library.Reader.Ensures.bind`), and has a rule for every access to the state.
-/

namespace UnitResolution

open Library Script

namespace Library.Reader

variable {σ : Type} (r : Reader σ)

/-- A library comes from one state to another by asking its surroundings for identifiers of a kind,
by getting and keeping units with such identifiers that have a source, by remembering what has
served imports, and by logging. -/
inductive Course (sources : Sources) (asked : String → Prop) (start : Memory × σ) :
    Memory × σ → Prop
  | refl : Course sources asked start start
  | get {m : Memory} {s : σ} (identifier : String) (before : Course sources asked start (m, s))
      (permitted : asked identifier) (has : sources.Has identifier) :
      Course sources asked start ({ m with units := (m.units.get identifier).2 }, s)
  | source {m : Memory} {s : σ} (identifier : String) (before : Course sources asked start (m, s))
      (permitted : asked identifier) :
      Course sources asked start (m, (r.surroundings.source identifier s).2)
  | keep {m : Memory} {s : σ} (unit : LibraryUnit) (before : Course sources asked start (m, s))
      (permitted : asked unit.identifier) (has : sources.Has unit.identifier) :
      Course sources asked start ({ m with units := m.units.set unit.identifier unit }, s)
  | remember {m : Memory} {s : σ} (imported identifier : String)
      (before : Course sources asked start (m, s)) :
      Course sources asked start ({ m with aliases := Table.set imported identifier m.aliases }, s)
  | log {m : Memory} {s : σ} (line : String) (before : Course sources asked start (m, s)) :
      Course sources asked start (m, r.surroundings.log line s)

/-- Everything that a memory holds is right: a kept unit is one that its identifier may stand for,
and imports lead to what they are remembered to lead to. -/
structure Coherent (sources : Sources) (m : Memory) : Prop where
  units : ∀ entry ∈ m.units.entries,
    sources.possibleUnit r.configuration.inference entry.1 (.ok (.ok entry.2))
  aliases : ∀ entry ∈ m.aliases, sources.leadsTo entry.1 = .ok (some entry.2)

/-- From a coherent memory, and with surroundings that have the given sources, an operation comes to
a coherent memory, asks for nothing but certain identifiers, and has an outcome that satisfies a
condition. -/
def Ensures (sources : Sources) (asked : String → Prop) {α : Type} (x : Operation σ α)
    (post : Except Interruption α → Prop) : Prop :=
  ∀ m s, r.Coherent sources m → r.surroundings.Serves s sources →
    post (x (m, s)).1 ∧ r.Coherent sources (x (m, s)).2.1 ∧
      r.Course sources asked (m, s) (x (m, s)).2

variable {r} {sources : Sources} {asked other : String → Prop} {start middle last : Memory × σ}

/-! ## Courses -/

namespace Course

theorem mono (course : r.Course sources asked start last) (weaker : ∀ c, asked c → other c) :
    r.Course sources other start last := by
  induction course with
  | refl => exact .refl
  | get identifier _ permitted has ih => exact .get identifier ih (weaker _ permitted) has
  | source identifier _ permitted ih => exact .source identifier ih (weaker _ permitted)
  | keep unit _ permitted has ih => exact .keep unit ih (weaker _ permitted) has
  | remember imported identifier _ ih => exact .remember imported identifier ih
  | log line _ ih => exact .log line ih

theorem trans (first : r.Course sources asked start middle)
    (second : r.Course sources asked middle last) :
    r.Course sources asked start last := by
  induction second with
  | refl => exact first
  | get identifier _ permitted has ih => exact .get identifier ih permitted has
  | source identifier _ permitted ih => exact .source identifier ih permitted
  | keep unit _ permitted has ih => exact .keep unit ih permitted has
  | remember imported identifier _ ih => exact .remember imported identifier ih
  | log line _ ih => exact .log line ih

/-- What becomes of the surroundings. -/
theorem surroundings (course : r.Course sources asked start last) :
    r.surroundings.Course asked start.2 last.2 := by
  induction course with
  | refl => exact .refl
  | get _ _ _ _ ih => exact ih
  | source identifier _ permitted ih => exact .source identifier ih permitted
  | keep _ _ _ _ ih => exact ih
  | remember _ _ _ ih => exact ih
  | log line _ ih => exact .log line ih

end Course

theorem coherent_empty (bound : Int) : r.Coherent sources (.empty bound) where
  units _ member := (List.not_mem_nil member).elim
  aliases _ member := (List.not_mem_nil member).elim

/-! ## Composition -/

theorem run_bind {α β : Type} (x : Operation σ α) (f : α → Operation σ β)
    (state : Memory × σ) :
    (x >>= f) state = match x state with
      | (.ok a, next) => f a next
      | (.error i, next) => (.error i, next) := by
  simp only [bind, ExceptT.bind, ExceptT.mk, StateT.bind]
  obtain ⟨o, next⟩ := x state
  cases o with
  | ok a => rfl
  | error i => rfl

namespace Ensures

variable {α β : Type} {x : Operation σ α} {f : α → Operation σ β}
  {post stronger : Except Interruption α → Prop} {final : Except Interruption β → Prop}

theorem imp (ensures : r.Ensures sources asked x stronger) (weaker : ∀ o, stronger o → post o) :
    r.Ensures sources asked x post := by
  intro m s coherent serves
  obtain ⟨outcome, rest⟩ := ensures m s coherent serves
  exact ⟨weaker _ outcome, rest⟩

theorem mono (ensures : r.Ensures sources asked x post) (weaker : ∀ c, asked c → other c) :
    r.Ensures sources other x post := by
  intro m s coherent serves
  obtain ⟨outcome, after, course⟩ := ensures m s coherent serves
  exact ⟨outcome, after, course.mono weaker⟩

protected theorem pure {a : α} (holds : post (.ok a)) :
    r.Ensures sources asked (pure a) post :=
  fun _ _ coherent _ => ⟨holds, coherent, .refl⟩

theorem interrupt {i : Interruption} (holds : post (.error i)) :
    r.Ensures sources asked (interrupt i) post :=
  fun _ _ coherent _ => ⟨holds, coherent, .refl⟩

theorem lift {outcome : Except Interruption α} (holds : post outcome) :
    r.Ensures sources asked (liftM outcome) post := by
  cases outcome with
  | ok a => exact Ensures.pure holds
  | error i => exact interrupt holds

/-- What is done in a row ensures what the last step does, unless an earlier one is interrupted. -/
protected theorem bind (first : r.Ensures sources asked x post)
    (next : ∀ a, post (.ok a) → r.Ensures sources asked (f a) final)
    (stopped : ∀ i, post (.error i) → final (.error i)) :
    r.Ensures sources asked (x >>= f) final := by
  intro m s coherent serves
  obtain ⟨outcome, between, course⟩ := first m s coherent serves
  rw [run_bind]
  generalize x (m, s) = result at outcome between course
  obtain ⟨o, m', s'⟩ := result
  cases o with
  | error i => exact ⟨stopped i outcome, between, course⟩
  | ok a =>
      obtain ⟨holds, after, rest⟩ :=
        next a outcome m' s' between (serves.later course.surroundings)
      exact ⟨holds, after, course.trans rest⟩

/-! ## Access to the state -/

section Access

variable {unit : LibraryUnit} {identifier imported : String}

/-- A kept unit is one that its identifier may stand for. -/
theorem keptUnit (permitted : asked identifier) :
    r.Ensures sources asked (keptUnit identifier) fun o =>
      o = .ok none ∨ ∃ unit, o = .ok (some unit) ∧
        sources.possibleUnit r.configuration.inference identifier (.ok (.ok unit)) := by
  intro m s coherent _
  cases found : (m.units.get identifier).1 with
  | none =>
      have run : Library.keptUnit identifier (m, s) = (.ok none, (m, s)) := by
        simp only [Library.keptUnit, Cache.get_of_none found]
      rw [run]
      exact ⟨.inl rfl, coherent, .refl⟩
  | some unit =>
      have run : Library.keptUnit identifier (m, s) =
          (.ok (some unit), ({ m with units := (m.units.get identifier).2 }, s)) := by
        simp only [Library.keptUnit, found]
      have possible := coherent.units _ (Cache.mem_of_get found)
      rw [run]
      exact ⟨.inr ⟨unit, rfl, possible⟩,
        ⟨fun entry member => coherent.units entry (Cache.mem_entries_get member),
          coherent.aliases⟩, .get identifier .refl permitted (Sources.has_of_possibleUnit possible)⟩

theorem source (permitted : asked identifier) :
    r.Ensures sources asked (inSurroundings (r.surroundings.source identifier)) fun o =>
      o = sources identifier :=
  fun _ s coherent serves =>
    ⟨serves s .refl identifier, coherent, .source identifier .refl permitted⟩

theorem logResolved (unit : LibraryUnit) :
    r.Ensures sources asked (logResolved r unit) fun o => o = .ok () := by
  intro m s coherent _
  refine ⟨rfl, coherent, ?_⟩
  change r.Course sources asked (m, s)
    (m, if r.configuration.verbose then r.surroundings.log (resolvedLine unit) s else s)
  split
  · exact .log _ .refl
  · exact .refl

theorem keep (permitted : asked unit.identifier)
    (possible : sources.possibleUnit r.configuration.inference unit.identifier (.ok (.ok unit))) :
    r.Ensures sources asked (keep unit) fun o => o = .ok () := by
  intro m s coherent _
  refine ⟨rfl, ⟨fun entry member => ?_, coherent.aliases⟩,
    .keep unit .refl permitted (Sources.has_of_possibleUnit possible)⟩
  rcases Cache.mem_entries_set member with member | rfl
  · exact coherent.units entry member
  · exact possible

theorem rememberAlias (leads : sources.leadsTo imported = .ok (some identifier)) :
    r.Ensures sources asked (rememberAlias imported identifier) fun o => o = .ok () := by
  intro m s coherent _
  refine ⟨rfl, ⟨coherent.units, fun entry member => ?_⟩, .remember imported identifier .refl⟩
  rcases Table.mem_set member with member | rfl
  · exact coherent.aliases entry member
  · exact leads

/-- The candidates of an import are all that it may stand for, or just the one that it leads to. -/
theorem candidatesOf (imported : String) :
    r.Ensures sources asked (candidatesOf imported) fun o =>
      o = .ok (Identifier.candidates imported) ∨
        ∃ c, o = .ok [c] ∧ sources.leadsTo imported = .ok (some c) := by
  intro m s coherent _
  unfold Library.candidatesOf
  dsimp only
  cases found : m.aliases.lookup imported with
  | none => exact ⟨.inl rfl, coherent, .refl⟩
  | some c =>
      exact ⟨.inr ⟨c, rfl, coherent.aliases _ (Table.mem_of_lookup found)⟩, coherent, .refl⟩

end Access

end Ensures

end Library.Reader

end UnitResolution
