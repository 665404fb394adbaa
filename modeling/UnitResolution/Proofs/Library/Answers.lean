import UnitResolution.Proofs.Library.History
import UnitResolution.Proofs.Library.Lockstep
import UnitResolution.Proofs.Session

/-!
# Answers of a library in use

A unit that does not lead into cycles gets the same answer from every library with the same sources,
which is what it means. What the library has been called for before, and how many units it may keep,
do not matter.

They do matter for a unit that leads into a cycle. A unit that is read inside another one of its
cycle is kept the way it comes out there, without the types of what it takes from that other one.
Nothing but inferred types depends on it, and they only where something is imported through the
cycle. With enough room, libraries come to different answers only if they have kept different units
of those that lead into cycles.
-/

namespace UnitResolution.Library

/-! ## A library with a cycle -/

/-- The texts of some units, of which two import each other. -/
def cycleTexts : List (String × String) :=
  [("rt:a", "import { y } from \"rt:b\";\nexport const x = 1;\nexport const fromB = y;\n"),
    ("rt:b", "import { x } from \"rt:a\";\nexport const y = x;\n"),
    ("rt:c", "import \"rt:a\";\nimport { z } from \"rt:d\";\nexport const w = z;\n"),
    ("rt:d", "import { v } from \"rt:e\";\nexport const z = v;\n"),
    ("rt:e", "export const v = 1;\n")]

/-- A scene with these units. -/
def cycleScene : Scene := .ofMock cycleTexts

/-- The reader of these units. -/
def cycleReader : Reader Scene := Session.reader (.ofMock cycleTexts)

/-- What a library of these units answers after several calls. -/
abbrev cycleAnswer (bound : Int) (calls : List Call) (u : String) :
    Except Interruption (Except Report LibraryUnit) :=
  cycleReader.answerAfter bound cycleScene calls u

set_option maxRecDepth 4000 in
theorem layered_cycleScene : cycleScene.sources.Layered ["rt:d", "rt:e"] := by decide +kernel

set_option maxRecDepth 4000 in
theorem closed_cycleScene : cycleScene.sources.Closed ["rt:b", "rt:a"] := by decide +kernel

/-- The type of a declaration of the unit that has been found. -/
def typeFound? (name : String) (outcome : Except Interruption (Except Report LibraryUnit)) :
    Option String := do
  (← found? outcome).typeOf? name

theorem ok_of_typeFound {name type : String} {o : Except Interruption (Except Report LibraryUnit)}
    (found : typeFound? name o = some type) :
    ∃ unit, o = .ok (.ok unit) ∧ unit.typeOf? name = some type := by
  obtain ⟨unit, found, typed⟩ := Option.bind_eq_some_iff.mp found
  exact ⟨unit, found?_eq_some found, typed⟩

namespace Reader

variable {σ : Type} {r : Reader σ} {sources : Sources} {u : String}

/-- A library that has been called for anything before answers for a unit without reachable cycles
what the unit means, with nothing remembered. It reports a failure if and only if the identifier has
no source, and only lack of depth keeps it from an answer that the sources do not refuse. -/
theorem resolveLibrary_eq_answer (r : Reader σ) (sources : Sources) {s : σ}
    (serves : r.surroundings.Serves s sources) (bound : Int) (calls : List Call) (u : String)
    (finite : (sources.closure u).Finite)
    (acyclic : ∀ v, sources.Reaches u v → ¬ Relation.TransGen sources.Edge v v) :
    let outcome := r.answerAfter bound s calls u
    (∃ d, sources u = .ok (.error d) ∧ outcome = .ok (.error (.single d))) ∨
    (∃ unit, sources.Has u ∧ sources.answer r.configuration.inference u = .ok (.ok unit) ∧
      outcome = .ok (.ok unit)) ∨
    (∃ i, sources.answer r.configuration.inference u = .error i ∧ Stopping sources u i ∧
      outcome = .error i) ∨
    (outcome = .error .tooDeep ∧ r.depthLimit < sources.room u) := by
  intro outcome
  have grounded : sources.Grounded u := Sources.acc_of_finite finite acyclic
  have allowed := ((ensures_resolveLibrary u).after serves bound calls).1
  change Allowed _ _ _ outcome at allowed
  generalize outcome = o at allowed
  cases allowed with
  | answer reached =>
      cases reached with
      | failed failed => exact .inl ⟨_, failed, rfl⟩
      | read possible =>
          exact .inr (.inl ⟨_, Sources.has_of_possibleUnit possible,
            (Sources.eq_answer grounded possible).symm, rfl⟩)
  | stopped reached excuse =>
      cases reached with
      | stopped possible =>
          exact .inr (.inr (.inl ⟨_, (Sources.eq_answer grounded possible).symm, excuse, rfl⟩))
  | tooDeep excess => exact .inr (.inr (.inr ⟨rfl, not_enough_iff.mp excess finite⟩))

set_option maxRecDepth 4000 in
/-- A unit beside a cycle has a meaning, and gets it as its answer when the cycle has been read. -/
theorem resolveLibrary_beside_cycle :
    ∃ unit, cycleScene.sources.answer {} "rt:d" = .ok (.ok unit) ∧
      cycleAnswer 1 [.library "rt:a", .program "rt:b"] "rt:d" = .ok (.ok unit) ∧
      unit.typeOf? "z" = some "number" := by
  have found : typeFound? "z" (cycleAnswer 1 [.library "rt:a", .program "rt:b"] "rt:d") =
      some "number" := by decide +kernel
  have member : "rt:d" ∈ ["rt:d", "rt:e"] := List.mem_cons_self
  obtain ⟨unit, outcome, type⟩ := ok_of_typeFound found
  have answered := resolveLibrary_eq_answer cycleReader _
    cycleScene.serves 1 [.library "rt:a", .program "rt:b"] "rt:d"
    (layered_cycleScene.closed.finite member) (layered_cycleScene.acyclic member)
  rcases answered with ⟨d, _, failed⟩ | ⟨other, _, answer, same⟩ | ⟨i, _, _, stopped⟩ | ⟨deep, _⟩
  · cases outcome.symm.trans failed
  · cases outcome.symm.trans same
    exact ⟨unit, answer, outcome, type⟩
  · cases outcome.symm.trans stopped
  · cases outcome.symm.trans deep

/-! ## Two histories -/

/-- A cache may keep everything that can be reached from a unit, besides what it keeps already or
without having kept anything that leads into a cycle. -/
def Roomy (sources : Sources) (u : String) (c : Cache LibraryUnit) : Prop :=
  ((sources.closure u).ncard + c.size : Int) ≤ c.bound ∨
    ((sources.closure u).ncard : Int) ≤ c.bound ∧ ∀ v, Entangled sources u v → c.find? v = none

/-- Two answers for a unit are the same failure, or are both units that it may stand for. -/
theorem Resolved.both {options : Script.InferenceOptions} {a b : Except Report LibraryUnit}
    (first : Resolved sources options u (.ok a)) (second : Resolved sources options u (.ok b)) :
    (∃ d, sources u = .ok (.error d) ∧ a = .error (.single d) ∧ b = a) ∨
    (∃ unit other, a = .ok unit ∧ b = .ok other ∧
      sources.possibleUnit options u (.ok (.ok unit)) ∧
      sources.possibleUnit options u (.ok (.ok other))) := by
  have apart {d : Diagnostic} {unit : LibraryUnit} (failed : sources u = .ok (.error d))
      (possible : sources.possibleUnit options u (.ok (.ok unit))) : False := by
    obtain ⟨source, answer⟩ := Sources.has_of_possibleUnit possible
    rw [answer] at failed
    cases failed
  cases first with
  | @failed d failed =>
      cases second with
      | failed failed' =>
          rw [failed] at failed'
          cases failed'
          exact .inl ⟨d, failed, rfl, rfl⟩
      | read possible => exact (apart failed possible).elim
  | @read unit possible =>
      cases second with
      | failed failed => exact (apart failed possible).elim
      | @read other possible' => exact .inr ⟨unit, other, rfl, rfl, possible, possible'⟩

theorem ready_after {s : σ} (serves : r.surroundings.Serves s sources) {bound : Int}
    {calls : List Call} (finite : (sources.closure u).Finite)
    (roomy : Roomy sources u (r.after calls (fresh bound s)).1.units) :
    r.Ready sources u (r.after calls (fresh bound s)) := by
  obtain ⟨coherent, course⟩ : r.Coherent sources (r.after calls (fresh bound s)).1 ∧
      r.Course sources (fun _ => True) (fresh bound s) (r.after calls (fresh bound s)) :=
    coherent_after (coherent_empty bound) serves calls
  obtain ⟨distinct, _⟩ := course.distinct List.nodup_nil
  refine ⟨coherent, serves.later course.surroundings, finite, ?_, distinct, _, [],
    (List.append_nil _).symm, ?_, List.forall_mem_nil _⟩
  · rcases roomy with space | ⟨large, _⟩
    · omega
    · exact large
  · rcases roomy with space | ⟨_, untouched⟩
    · exact .inr space
    · refine .inl fun entry member entangled => ?_
      have missing := List.lookup_eq_none_iff.mp (untouched entry.1 entangled) entry member
      exact (bne_iff_ne.mp missing) rfl

/-- Two libraries that have been called for anything before, and may keep any numbers of units,
answer for a unit with the same failure, or with units that have the same names, kinds, flags and
stated types. Inferred types are the same too where the unit binds its local names to nothing that
is imported through a cycle. They are the same altogether where both libraries have room, and have
kept the same of what leads into cycles. -/
theorem resolveLibrary_alike (r : Reader σ) (sources : Sources) {s t : σ}
    (serves : r.surroundings.Serves s sources) (serves' : r.surroundings.Serves t sources)
    (bound bound' : Int) (calls calls' : List Call) (u : String) :
    let first := r.after calls (fresh bound s)
    let second := r.after calls' (fresh bound' t)
    let o := r.answerAfter bound s calls u
    let p := r.answerAfter bound' t calls' u
    ((∃ d, sources u = .ok (.error d) ∧ o = .ok (.error (.single d)) ∧ p = o) ∨
      (∃ a b, o = .ok (.ok a) ∧ p = .ok (.ok b) ∧ a.Like (fun _ _ => True) b ∧
        ((∀ binding ∈ (sources.surface u).bindings, ¬ sources.Cyclic binding.source) → a = b)) ∨
      (∃ i, (o = .error i ∨ p = .error i) ∧
        (Stopping sources u i ∨ i = .tooDeep ∧ ¬ r.Enough sources u))) ∧
    ((sources.closure u).Finite → Roomy sources u first.1.units → Roomy sources u second.1.units →
      (∀ v, Entangled sources u v → first.1.units.find? v = second.1.units.find? v) →
      o = p ∨ ((o = .error .tooDeep ∨ p = .error .tooDeep) ∧ r.depthLimit < sources.room u)) := by
  intro first second o p
  constructor
  · have left := ((ensures_resolveLibrary u).after serves bound calls).1
    have right := ((ensures_resolveLibrary u).after serves' bound' calls').1
    rcases left.answered_or_excused with ⟨a, answer, reached⟩ | ⟨i, stopped, excuse⟩
    · rcases right.answered_or_excused with ⟨b, answer', reached'⟩ | ⟨i, stopped, excuse⟩
      · rcases reached.both reached' with ⟨d, failed, single, same⟩ |
            ⟨unit, other, first, second, possible, possible'⟩
        · exact .inl ⟨d, failed, answer.trans (congrArg _ single),
            answer'.trans (answer.trans (congrArg _ same.symm)).symm⟩
        · refine .inr (.inl ⟨unit, other, answer.trans (congrArg _ first),
            answer'.trans (congrArg _ second),
            Sources.like_of_possibleUnit possible possible', fun straight => ?_⟩)
          have same := (Sources.eq_of_straight straight possible).trans
            (Sources.eq_of_straight straight possible').symm
          cases same
          rfl
      · exact .inr (.inr ⟨i, .inr stopped, excuse⟩)
    · exact .inr (.inr ⟨i, .inl stopped, excuse⟩)
  · intro finite roomy roomy' same
    have level : r.Level sources u first second :=
      ⟨ready_after serves finite roomy, ready_after serves' finite roomy', same⟩
    rcases lockstep_resolveLibrary u first second level with ⟨excess, deep⟩ | ⟨alike, _⟩
    · exact .inr ⟨deep, not_enough_iff.mp excess finite⟩
    · exact .inl alike.eq

set_option maxRecDepth 4000 in
/-- A unit of a cycle is kept without a type that it has in a library that has not been called
before. It gets the same answer where it has not been kept, and so does a unit that imports nothing
through the cycle. -/
theorem resolveLibrary_in_cycle :
    (∃ kept read, cycleAnswer 512 [.library "rt:a"] "rt:b" = .ok (.ok kept) ∧
      cycleAnswer 512 [] "rt:b" = .ok (.ok read) ∧ kept.Like (fun _ _ => True) read ∧
      kept.typeOf? "y" = some "unknown" ∧ read.typeOf? "y" = some "number") ∧
    cycleAnswer 2 [.library "rt:e"] "rt:b" = cycleAnswer 512 [] "rt:b" ∧
    cycleAnswer 1 [.library "rt:b"] "rt:c" = cycleAnswer 512 [] "rt:c" := by
  have inCycle : typeFound? "y" (cycleAnswer 512 [.library "rt:a"] "rt:b") = some "unknown" ∧
      typeFound? "y" (cycleAnswer 512 [] "rt:b") = some "number" ∧
      typeFound? "y" (cycleAnswer 2 [.library "rt:e"] "rt:b") = some "number" := by
    decide +kernel
  have beside : typeFound? "w" (cycleAnswer 1 [.library "rt:b"] "rt:c") = some "number" ∧
      typeFound? "w" (cycleAnswer 512 [] "rt:c") = some "number" := by decide +kernel
  have leads : ∀ binding ∈ (cycleScene.sources.surface "rt:c").bindings,
      cycleScene.sources.leadsTo binding.source = .ok (some "rt:d") := by decide +kernel
  have unkept : (cycleReader.after [.library "rt:e"] (fresh 2 cycleScene)).1.units.bound = 2 ∧
      ∀ v ∈ ["rt:b", "rt:a"],
        (cycleReader.after [.library "rt:e"] (fresh 2 cycleScene)).1.units.find? v = none := by
    decide +kernel
  obtain ⟨kept, keptOutcome, keptType⟩ := ok_of_typeFound inCycle.1
  obtain ⟨read, readOutcome, readType⟩ := ok_of_typeFound inCycle.2.1
  obtain ⟨late, lateOutcome, _⟩ := ok_of_typeFound inCycle.2.2
  have serves := cycleScene.serves
  refine ⟨⟨kept, read, keptOutcome, readOutcome, ?_, keptType, readType⟩, ?_, ?_⟩
  · have compared := (resolveLibrary_alike cycleReader _ serves serves 512 512 [.library "rt:a"] []
      "rt:b").1
    rcases compared with ⟨d, _, failed, _⟩ | ⟨a, b, first, second, like, _⟩ | ⟨i, stopped, _⟩
    · cases keptOutcome.symm.trans failed
    · cases keptOutcome.symm.trans first
      cases readOutcome.symm.trans second
      exact like
    · rcases stopped with stopped | stopped
      · cases keptOutcome.symm.trans stopped
      · cases readOutcome.symm.trans stopped
  · have small : (cycleScene.sources.closure "rt:b").ncard ≤ 2 :=
      closed_cycleScene.ncard_le List.mem_cons_self
    have untouched : ∀ v, Entangled cycleScene.sources "rt:b" v →
        (cycleReader.after [.library "rt:e"] (fresh 2 cycleScene)).1.units.find? v = none := by
      intro v entangled
      exact unkept.2 v (closed_cycleScene.closure_subset List.mem_cons_self entangled.1)
    have roomy : Roomy cycleScene.sources "rt:b"
        (cycleReader.after [.library "rt:e"] (fresh 2 cycleScene)).1.units :=
      .inr ⟨(Int.ofNat_le.mpr small).trans unkept.1.ge, untouched⟩
    have roomy' : Roomy cycleScene.sources "rt:b"
        (cycleReader.after [] (fresh 512 cycleScene)).1.units :=
      .inr ⟨(Int.ofNat_le.mpr small).trans (by decide), fun _ _ => rfl⟩
    have same := (resolveLibrary_alike cycleReader _ serves serves 2 512 [.library "rt:e"] []
      "rt:b").2 (closed_cycleScene.finite List.mem_cons_self) roomy roomy' untouched
    rcases same with same | ⟨deep | deep, _⟩
    · exact same
    · cases lateOutcome.symm.trans deep
    · cases readOutcome.symm.trans deep
  · obtain ⟨first, firstOutcome, _⟩ := ok_of_typeFound beside.1
    obtain ⟨second, secondOutcome, _⟩ := ok_of_typeFound beside.2
    have straight : ∀ binding ∈ (cycleScene.sources.surface "rt:c").bindings,
        ¬ cycleScene.sources.Cyclic binding.source := by
      rintro binding member ⟨c, other, cyclic⟩
      cases (leads binding member).symm.trans other
      exact cyclic (layered_cycleScene.grounded List.mem_cons_self)
    have compared := (resolveLibrary_alike cycleReader _ serves serves 1 512 [.library "rt:b"] []
      "rt:c").1
    rcases compared with ⟨d, _, failed, _⟩ | ⟨a, b, left, right, _, same⟩ | ⟨i, stopped, _⟩
    · cases firstOutcome.symm.trans failed
    · exact left.trans ((same straight) ▸ right.symm)
    · rcases stopped with stopped | stopped
      · cases firstOutcome.symm.trans stopped
      · cases secondOutcome.symm.trans stopped

end Reader

end UnitResolution.Library
