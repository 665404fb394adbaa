import UnitResolution.Proofs.Correspondence
import UnitResolution.Proofs.Library.Graph

/-!
# The meaning of a unit

Where every import leads to an end, what a unit is can be said by recursion along its imports, with
nothing remembered and nothing cut off (`UnitResolution.Sources.meaning`): the declarations are
inferred from the text, and the type of an imported name is looked for in the meaning of the unit
that the import leads to. `UnitResolution.Sources.meaning_eq` is the equation of this recursion.

Where imports form a cycle, nothing is fixed in that way. What a unit may be is then a set
(`UnitResolution.Sources.possibleUnit`): what is imported from a unit with a meaning has the type
that the meaning gives it, and what is imported from other units may have any type. A unit with a
meaning may be nothing else (`UnitResolution.Sources.eq_answer`), and two units that an identifier
may stand for differ in nothing but inferred types (`UnitResolution.Sources.like_of_possibleUnit`).
-/

namespace UnitResolution

open Library Script

/-! ## Computations with several outcomes -/

/-- Computations that may have any outcome of a set. -/
def Possibly (α : Type) : Type := Except Interruption α → Prop

namespace Possibly

instance : Monad Possibly where
  pure a := fun o => o = .ok a
  bind x f := fun o => (∃ a, x (.ok a) ∧ f a o) ∨ ∃ i, x (.error i) ∧ o = .error i

instance : MonadLift (Except Interruption) Possibly where
  monadLift outcome := fun o => o = outcome

/-- All outcomes of one computation are like the one outcome of another. -/
def exact : Correspondence Possibly (Except Interruption) where
  rel V x outcome := ∀ o, x o → Alike V o outcome
  imp same weaker o answer := (same o answer).imp weaker
  pure related o answer := by
    cases answer
    exact .ok related
  bind {_ _ _ _ _ _ _ y _ _} first second o reached := by
    rcases reached with ⟨a, before, after⟩ | ⟨i, stopped, rfl⟩
    · have alike := first _ before
      cases y with
      | error i => cases alike
      | ok b =>
          cases alike with
          | ok related => exact second a b related o after
    · have alike := first _ stopped
      cases y with
      | ok b => cases alike
      | error i =>
          cases alike
          exact .error

/-- All answers of one computation are in a relation to all answers of another. -/
def alike : Correspondence Possibly Possibly where
  rel V x y := ∀ a b, x (.ok a) → y (.ok b) → V a b
  imp same weaker a b first second := weaker a b (same a b first second)
  pure related a b first second := by
    cases first
    cases second
    exact related
  bind first second a b left right := by
    rcases left with ⟨a', before, after⟩ | ⟨i, _, impossible⟩
    · rcases right with ⟨b', before', after'⟩ | ⟨i, _, impossible⟩
      · exact second a' b' (first a' b' before before') a b after after'
      · cases impossible
    · cases impossible

variable {α : Type}

theorem exact_lift (o : Except Interruption α) :
    exact.rel (fun a b => a = b ∧ o = .ok a) (liftM o) (liftM o) := by
  intro p same
  cases same
  cases o with
  | ok a => exact Alike.ok ⟨rfl, rfl⟩
  | error i => exact Alike.error

theorem alike_lift (o : Except Interruption α) :
    alike.rel (fun a b => a = b ∧ o = .ok a) (liftM o) (liftM o) := by
  rintro a b rfl same
  cases same
  exact ⟨rfl, rfl⟩

end Possibly

/-! ## Meanings -/

/-- What a unit means to the units that import it. -/
structure Meaning where
  unit : LibraryUnit
  /-- Look for the type of an exported name, with the keys of the searches begun so far. -/
  typeOfExport : String → List String → Except Interruption (Option String × List String)

namespace Sources

variable (sources : Sources) (options : InferenceOptions)

/-! ## The recursion -/

/-- Look for an exported name in what an import leads to. -/
def search (meaning : String → Except Interruption (Except Diagnostic Meaning))
    (imported name : String) (seen : List String) :
    Except Interruption (Option String × List String) := do
  if searchKey imported name ∈ seen then return (none, seen)
  let seen := searchKey imported name :: seen
  match ← sources.leadsTo imported with
  | none => return (none, seen)
  | some target =>
      match ← meaning target with
      | .error _ => return (none, seen)
      | .ok found => found.typeOfExport name seen

/-- The type of an exported name in what an import leads to. -/
def typeBy (meaning : String → Except Interruption (Except Diagnostic Meaning))
    (imported name : String) : Except Interruption (Option String) := do
  let (type, _) ← sources.search meaning imported name []
  return type

/-- The unit of an identifier, with imported names typed by `typeOfExport`, or why it has no
source. -/
def unitBy {m : Type → Type} [Monad m] [MonadLiftT (Except Interruption) m]
    (typeOfExport : String → String → m (Option String)) (identifier : String) :
    m (Except Diagnostic LibraryUnit) := do
  match ← liftM (sources identifier) with
  | .error d => return .error d
  | .ok source => do
      let unit ← readUnit options typeOfExport identifier source.contents
      return .ok unit

/-- What a unit means, in terms of what the units mean that its imports lead to. -/
def meaningBy (meaning : String → Except Interruption (Except Diagnostic Meaning))
    (identifier : String) : Except Interruption (Except Diagnostic Meaning) := do
  let read ← sources.unitBy options (sources.typeBy meaning) identifier
  return read.map fun unit => { unit, typeOfExport := searchUnit (sources.search meaning) unit }

open Classical in
/-- What a unit means, by recursion along its imports. A unit from which an import leads into a
cycle has no meaning. -/
noncomputable def meaning (identifier : String) : Except Interruption (Except Diagnostic Meaning) :=
  if grounded : sources.Grounded identifier then
    WellFounded.fixF (fun unit rest => sources.meaningBy options
      (fun target => if edge : sources.Edge unit target then rest target edge else .error .tooDeep)
      unit) identifier grounded
  else .error .tooDeep

open Classical in
/-- What the units mean that the imports of a unit lead to. -/
noncomputable def importedMeaning (unit target : String) :
    Except Interruption (Except Diagnostic Meaning) :=
  if sources.Edge unit target then sources.meaning options target else .error .tooDeep

variable {sources options} {u v : String}

/-- Searches that correspond for what a unit binds its local names to read the unit
correspondingly. -/
theorem rel_unitBy {m n : Type → Type} [Monad m] [Monad n]
    [MonadLiftT (Except Interruption) m] [MonadLiftT (Except Interruption) n]
    (c : Correspondence m n) {T : String → String → Prop} (t : Compatible T)
    (options : InferenceOptions) (lifts : ∀ {α : Type} (o : Except Interruption α),
      c.rel (fun a b => a = b ∧ o = .ok a) (liftM o) (liftM o))
    {first : String → String → m (Option String)} {second : String → String → n (Option String)}
    (same : ∀ b ∈ (sources.surface u).bindings,
      c.rel (OnAnswers T) (first b.source b.importedName) (second b.source b.importedName)) :
    c.rel (Alike (LibraryUnit.Like T)) (sources.unitBy options first u)
      (sources.unitBy options second u) := by
  refine c.bind (lifts (sources u)) ?_
  rintro found _ ⟨rfl, answer⟩
  cases found with
  | error d => exact c.pure .error
  | ok source =>
      refine c.bind (c.readUnit t options (fun read _ => ?_) ?_) fun _ _ like => c.pure (.ok like)
      · exact c.of_orInterrupt (lifts (orInterrupt read))
      · intro script read plain b member
        rw [← surface_of_script answer plain read] at member
        exact same b member

/-- The equation of the recursion. -/
theorem meaning_eq (grounded : sources.Grounded u) :
    sources.meaning options u =
      sources.meaningBy options (sources.importedMeaning options u) u := by
  classical
  unfold meaning
  rw [dif_pos grounded, WellFounded.fixF_eq]
  congr 1
  funext target
  unfold importedMeaning
  by_cases edge : sources.Edge u target
  · rw [dif_pos edge, if_pos edge, meaning, dif_pos (grounded.inv edge)]
  · rw [dif_neg edge, if_neg edge]

theorem importedMeaning_of_edge (edge : sources.Edge u v) :
    sources.importedMeaning options u v = sources.meaning options v := by
  classical
  exact if_pos edge

/-- What an import of a unit leads to means to the unit what it means by itself. -/
theorem search_importedMeaning {imported : String}
    (member : imported ∈ (sources.surface u).imports) (name : String) (seen : List String) :
    sources.search (sources.importedMeaning options u) imported name seen =
      sources.search (sources.meaning options) imported name seen := by
  unfold search
  cases leads : sources.leadsTo imported with
  | error i => rfl
  | ok found =>
      cases found with
      | none => rfl
      | some target =>
          have edge : sources.Edge u target := ⟨imported, member, leads⟩
          simp only [bind, Except.bind, importedMeaning_of_edge edge]

/-- The unit that an identifier means, or why it has no source. -/
noncomputable def answer (sources : Sources) (options : InferenceOptions) (identifier : String) :
    Except Interruption (Except Diagnostic LibraryUnit) := do
  return (← sources.meaning options identifier).map (·.unit)

/-! ## What a unit may be -/

variable (sources options)

/-- An import leads into a cycle, or to a unit from which an import does. -/
def Cyclic (imported : String) : Prop :=
  ∃ target, sources.leadsTo imported = .ok (some target) ∧ ¬ sources.Grounded target

/-- What a search for an exported name may find: what the meaning has, or anything if the import
leads into a cycle. -/
def possibleSearch (imported name : String) (seen : List String) :
    Possibly (Option String × List String) := fun o =>
  sources.Cyclic imported ∨ o = sources.search (sources.meaning options) imported name seen

/-- What the type of an exported name may be. -/
def possibleType (imported name : String) : Possibly (Option String) := do
  let (type, _) ← sources.possibleSearch options imported name []
  return type

/-- What the unit of an identifier may be. -/
def possibleUnit (identifier : String) : Possibly (Except Diagnostic LibraryUnit) :=
  sources.unitBy options (sources.possibleType options) identifier

variable {sources options}

theorem possibleType_of_not_cyclic {imported : String} (straight : ¬ sources.Cyclic imported)
    (name : String) :
    Possibly.exact.rel Eq (sources.possibleType options imported name)
      (sources.typeBy (sources.meaning options) imported name) := by
  refine Possibly.exact.bind (V := Eq) (fun o possible => ?_) ?_
  · rcases possible with cyclic | rfl
    · exact absurd cyclic straight
    · cases sources.search (sources.meaning options) imported name [] with
      | ok found => exact .ok rfl
      | error i => exact .error
  · rintro ⟨type, seen⟩ _ rfl
    exact Possibly.exact.pure rfl

/-- No import of a unit with a meaning leads into a cycle. -/
theorem Grounded.not_cyclic (grounded : sources.Grounded u) {imported : String}
    (member : imported ∈ (sources.surface u).imports) : ¬ sources.Cyclic imported := by
  rintro ⟨target, leads, cyclic⟩
  exact cyclic (grounded.inv ⟨imported, member, leads⟩)

/-- A unit with a meaning is searched through what the units mean that its imports lead to. -/
theorem meaning_of_answer (grounded : sources.Grounded u) {unit : LibraryUnit}
    (answered : sources.answer options u = .ok (.ok unit)) :
    sources.meaning options u = .ok (.ok
      ⟨unit, searchUnit (sources.search (sources.importedMeaning options u)) unit⟩) := by
  unfold answer at answered
  rw [meaning_eq grounded, meaningBy] at answered ⊢
  cases read : sources.unitBy options (sources.typeBy (sources.importedMeaning options u)) u with
  | error i => rw [read] at answered; cases answered
  | ok found =>
      rw [read] at answered
      cases found with
      | error d => cases answered
      | ok unit => cases answered; rfl

/-- The unit that an identifier means is read from its source, with the types of imported names
looked for in what the imports mean. -/
theorem answer_eq (grounded : sources.Grounded u) :
    sources.answer options u =
      sources.unitBy options (sources.typeBy (sources.meaning options)) u := by
  have within : sources.answer options u =
      sources.unitBy options (sources.typeBy (sources.importedMeaning options u)) u := by
    unfold answer
    rw [meaning_eq grounded, meaningBy]
    cases sources.unitBy options (sources.typeBy (sources.importedMeaning options u)) u with
    | error i => rfl
    | ok read =>
        cases read with
        | error d => rfl
        | ok unit => rfl
  have typed (b : ImportBinding) (member : b ∈ (sources.surface u).bindings) : Alike (OnAnswers Eq)
      (sources.typeBy (sources.importedMeaning options u) b.source b.importedName)
      (sources.typeBy (sources.meaning options) b.source b.importedName) := by
    unfold typeBy
    rw [search_importedMeaning ((imported_surface u).bindings b member)]
    exact (Alike.refl _).imp fun a b same => by rw [same]; rfl
  have lifted {α : Type} (o : Except Interruption α) :
      Alike (fun a b => a = b ∧ o = .ok a) o o := by
    cases o with
    | ok a => exact .ok ⟨rfl, rfl⟩
    | error i => exact .error
  rw [within]
  have same := rel_unitBy Correspondence.outcomes compatible_eq options lifted typed
  exact (same.imp fun _ _ like => (like.imp fun _ _ => LibraryUnit.Like.eq).eq).eq

/-- A unit that binds its local names to nothing that is imported through a cycle may be only what
is read with the types that these names have in what the imports mean. -/
theorem eq_of_straight
    (straight : ∀ b ∈ (sources.surface u).bindings, ¬ sources.Cyclic b.source)
    {o : Except Interruption (Except Diagnostic LibraryUnit)}
    (possible : sources.possibleUnit options u o) :
    o = sources.unitBy options (sources.typeBy (sources.meaning options)) u := by
  have typed (b : ImportBinding) (member : b ∈ (sources.surface u).bindings) :
      Possibly.exact.rel (OnAnswers Eq)
        (sources.possibleType options b.source b.importedName)
        (sources.typeBy (sources.meaning options) b.source b.importedName) :=
    Possibly.exact.imp (possibleType_of_not_cyclic (straight b member) b.importedName)
      fun a b same => by rw [same]; rfl
  have same := rel_unitBy Possibly.exact compatible_eq options Possibly.exact_lift typed o possible
  exact (same.imp fun _ _ like => (like.imp fun _ _ => LibraryUnit.Like.eq).eq).eq

/-- A unit with a meaning may be nothing else than that. -/
theorem eq_answer (grounded : sources.Grounded u)
    {o : Except Interruption (Except Diagnostic LibraryUnit)}
    (possible : sources.possibleUnit options u o) : o = sources.answer options u := by
  rw [answer_eq grounded]
  exact eq_of_straight
    (fun b member => grounded.not_cyclic ((imported_surface u).bindings b member)) possible

variable {o : Except Interruption (Except Diagnostic LibraryUnit)} {unit : LibraryUnit}

theorem possibleUnit_of_failed {d : Diagnostic} (failed : sources u = .ok (.error d)) :
    sources.possibleUnit options u o ↔ o = .ok (.error d) := by
  unfold possibleUnit unitBy
  rw [failed]
  constructor
  · rintro (⟨found, same, answer⟩ | ⟨i, impossible, _⟩)
    · cases same
      exact answer
    · cases impossible
  · intro same
    exact .inl ⟨.error d, rfl, same⟩

theorem possibleUnit_of_stopped {i : Interruption} (stopped : sources u = .error i) :
    sources.possibleUnit options u o ↔ o = .error i := by
  unfold possibleUnit unitBy
  rw [stopped]
  constructor
  · rintro (⟨found, impossible, _⟩ | ⟨j, same, answer⟩)
    · cases impossible
    · cases same
      exact answer
  · intro same
    exact .inr ⟨i, rfl, same⟩

theorem failed_of_possibleUnit {d : Diagnostic}
    (possible : sources.possibleUnit options u (.ok (.error d))) : sources u = .ok (.error d) := by
  rcases possible with ⟨found, lifted, answer⟩ | ⟨i, _, impossible⟩
  · cases found with
    | error e =>
        cases answer
        exact Eq.symm lifted
    | ok source =>
        rcases answer with ⟨read, _, impossible⟩ | ⟨i, _, impossible⟩
        · cases impossible
        · cases impossible
  · cases impossible

theorem possibleUnit_of_readUnit {source : Source} (served : sources u = .ok (.ok source))
    (read : readUnit options (sources.possibleType options) u source.contents (.ok unit)) :
    sources.possibleUnit options u (.ok (.ok unit)) :=
  .inl ⟨.ok source, served.symm, .inl ⟨unit, read, rfl⟩⟩

theorem possibleUnit_of_readUnit_stopped {source : Source} {i : Interruption}
    (served : sources u = .ok (.ok source))
    (read : readUnit options (sources.possibleType options) u source.contents (.error i)) :
    sources.possibleUnit options u (.error i) :=
  .inl ⟨.ok source, served.symm, .inr ⟨i, read, rfl⟩⟩

/-- What a unit exchanges with other units is what its text does, whatever it imports. -/
theorem surfaceIn_of_readUnit {typeOf : String → String → Possibly (Option String)}
    {contents : String} (read : readUnit options typeOf u contents (.ok unit)) :
    surfaceIn u contents = .ok unit.surface ∧ unit.identifier = u := by
  unfold readUnit at read
  unfold surfaceIn
  split
  · next host =>
      rw [if_pos host] at read
      rcases read with ⟨scripts, lifted, done⟩ | ⟨i, _, impossible⟩
      · cases found : Markup.scriptImports u contents with
        | error e => rw [found] at lifted; cases lifted
        | ok imports =>
            rw [found] at lifted
            cases lifted
            cases done
            exact ⟨rfl, rfl⟩
      · cases impossible
  · next plain =>
      rw [if_neg plain] at read
      rcases read with ⟨script, lifted, done⟩ | ⟨i, _, impossible⟩
      · cases found : Script.read u contents with
        | error e => rw [found] at lifted; cases lifted
        | ok contained =>
            rw [found] at lifted
            cases lifted
            rcases done with ⟨declarations, _, typed⟩ | ⟨i, _, impossible⟩
            · cases typed
              exact ⟨rfl, rfl⟩
            · cases impossible
      · cases impossible

theorem surfaceIn_of_possibleUnit (possible : sources.possibleUnit options u (.ok (.ok unit))) :
    ∃ source, sources u = .ok (.ok source) ∧ surfaceIn u source.contents = .ok unit.surface ∧
      unit.identifier = u := by
  rcases possible with ⟨found, lifted, answer⟩ | ⟨i, _, impossible⟩
  · cases found with
    | error d => cases answer
    | ok source =>
        rcases answer with ⟨read, typed, same⟩ | ⟨i, _, impossible⟩
        · cases same
          exact ⟨source, Eq.symm lifted, surfaceIn_of_readUnit typed⟩
        · cases impossible
  · cases impossible

theorem has_of_possibleUnit (possible : sources.possibleUnit options u (.ok (.ok unit))) :
    sources.Has u := by
  obtain ⟨source, answer, _⟩ := surfaceIn_of_possibleUnit possible
  exact ⟨source, answer⟩

theorem surface_of_possibleUnit (possible : sources.possibleUnit options u (.ok (.ok unit))) :
    unit.surface = sources.surface u := by
  obtain ⟨source, answer, exchanged, _⟩ := surfaceIn_of_possibleUnit possible
  exact (surface_eq answer exchanged).symm

theorem identifier_of_possibleUnit (possible : sources.possibleUnit options u (.ok (.ok unit))) :
    unit.identifier = u := by
  obtain ⟨_, _, _, same⟩ := surfaceIn_of_possibleUnit possible
  exact same

/-! ## Searches in units with a meaning -/

section Search

variable {imported name : String} {seen : List String}
  {meaning : String → Except Interruption (Except Diagnostic Meaning)}

theorem search_of_mem (begun : searchKey imported name ∈ seen) :
    sources.search meaning imported name seen = .ok (none, seen) :=
  if_pos begun

theorem search_of_stopped (new : searchKey imported name ∉ seen) {i : Interruption}
    (leads : sources.leadsTo imported = .error i) :
    sources.search meaning imported name seen = .error i := by
  unfold search
  rw [if_neg new, leads]
  rfl

theorem search_of_none (new : searchKey imported name ∉ seen)
    (leads : sources.leadsTo imported = .ok none) :
    sources.search meaning imported name seen =
      .ok (none, searchKey imported name :: seen) := by
  unfold search
  rw [if_neg new, leads]
  rfl

theorem search_of_interrupted (new : searchKey imported name ∉ seen)
    (leads : sources.leadsTo imported = .ok (some v)) (grounded : sources.Grounded v)
    {i : Interruption} (possible : sources.possibleUnit options v (.error i)) :
    sources.search (sources.meaning options) imported name seen = .error i := by
  have same := eq_answer grounded possible
  unfold answer at same
  unfold search
  rw [if_neg new, leads]
  cases means : sources.meaning options v with
  | ok found => rw [means] at same; cases same
  | error j =>
      rw [means] at same
      cases same
      simp only [bind, Except.bind, means]

/-- A search in what has a meaning searches its unit, and goes on to what that unit imports. -/
theorem search_of_served (new : searchKey imported name ∉ seen)
    (leads : sources.leadsTo imported = .ok (some v)) (grounded : sources.Grounded v)
    (possible : sources.possibleUnit options v (.ok (.ok unit))) :
    sources.search (sources.meaning options) imported name seen =
      searchUnit (sources.search (sources.meaning options)) unit name
        (searchKey imported name :: seen) := by
  have means := meaning_of_answer grounded (eq_answer grounded possible).symm
  have further : searchUnit (sources.search (sources.importedMeaning options v)) unit name
        (searchKey imported name :: seen) =
      searchUnit (sources.search (sources.meaning options)) unit name
        (searchKey imported name :: seen) := by
    have surface := surface_of_possibleUnit possible
    have exchanged : (sources.surface v).Imported := imported_surface v
    suffices same : Alike (Correspondence.SameFound fun _ => True) _ _ from
      (same.imp fun _ _ found => found.1).eq
    refine Correspondence.outcomes.searchUnit unit name trivial (fun e member => ?_)
      fun source member seen _ => ?_
    · rw [surface] at member
      rw [search_importedMeaning (exchanged.reExports e member)]
      exact (Alike.refl _).imp fun _ _ same => ⟨same, trivial⟩
    · rw [surface] at member
      rw [search_importedMeaning (exchanged.starExports source member)]
      exact (Alike.refl _).imp fun _ _ same => ⟨same, trivial⟩
  unfold search
  rw [if_neg new, leads]
  simp only [bind, Except.bind, means]
  exact further

/-- What a search may find in a unit with a meaning is what it finds there. -/
theorem possibleSearch_exact (grounded : sources.Grounded u)
    (possible : sources.possibleUnit options u (.ok (.ok unit))) :
    Possibly.exact.rel Eq (searchUnit (sources.possibleSearch options) unit name seen)
      (searchUnit (sources.search (sources.meaning options)) unit name seen) := by
  have straight (imported : String) (member : imported ∈ unit.surface.imports) (name : String)
      (seen : List String) : Possibly.exact.rel (Correspondence.SameFound fun _ => True)
        (sources.possibleSearch options imported name seen)
        (sources.search (sources.meaning options) imported name seen) := by
    rw [surface_of_possibleUnit possible] at member
    rintro o (cyclic | rfl)
    · exact absurd cyclic (grounded.not_cyclic member)
    · exact (Alike.refl _).imp fun _ _ same => ⟨same, trivial⟩
  have exchanged : unit.surface.Imported := by
    rw [surface_of_possibleUnit possible]
    exact imported_surface u
  suffices same : Possibly.exact.rel (Correspondence.SameFound fun _ => True) _ _ from
    Possibly.exact.imp same fun _ _ found => found.1
  exact Possibly.exact.searchUnit unit name trivial
    (fun e member => straight e.source (exchanged.reExports e member) _ _)
    (fun source member _ _ => straight source (exchanged.starExports source member) _ _)

/-- What may be found in a unit that serves an import may be found for the import. -/
theorem possibleSearch_of_served (new : searchKey imported name ∉ seen)
    (leads : sources.leadsTo imported = .ok (some v))
    (possible : sources.possibleUnit options v (.ok (.ok unit)))
    {found : Except Interruption (Option String × List String)}
    (inside : searchUnit (sources.possibleSearch options) unit name
      (searchKey imported name :: seen) found) :
    sources.possibleSearch options imported name seen found := by
  by_cases grounded : sources.Grounded v
  · right
    rw [search_of_served new leads grounded possible]
    exact (possibleSearch_exact grounded possible found inside).eq
  · exact .inl ⟨v, leads, grounded⟩

theorem possibleSearch_of_interrupted (new : searchKey imported name ∉ seen)
    (leads : sources.leadsTo imported = .ok (some v)) {i : Interruption}
    (possible : sources.possibleUnit options v (.error i)) :
    sources.possibleSearch options imported name seen (.error i) := by
  by_cases grounded : sources.Grounded v
  · exact .inr (search_of_interrupted new leads grounded possible).symm
  · exact .inl ⟨v, leads, grounded⟩

end Search

/-- Units that an identifier may stand for differ in nothing but inferred types. -/
theorem like_of_possibleUnit {a b : LibraryUnit}
    (first : sources.possibleUnit options u (.ok (.ok a)))
    (second : sources.possibleUnit options u (.ok (.ok b))) : a.Like (fun _ _ => True) b := by
  have typed (b : ImportBinding) (_ : b ∈ (sources.surface u).bindings) :
      Possibly.alike.rel (OnAnswers fun _ _ => True)
        (sources.possibleType options b.source b.importedName)
        (sources.possibleType options b.source b.importedName) := fun _ _ _ _ => trivial
  have same := rel_unitBy Possibly.alike compatible_true options Possibly.alike_lift typed _ _
    first second
  cases same with
  | ok like => exact like

end Sources

end UnitResolution
