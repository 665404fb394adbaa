import UnitResolution.Proofs.Library.History
import UnitResolution.Proofs.Session

/-!
# How deep readings nest

The depth limit of a library interrupts readings that nest too deeply. What it does not interrupt is
the same under every greater limit (`UnitResolution.Library.Reader.Steps.eq_of_ne`).

`UnitResolution.Library.Reader.Steps` compares two runs from the same state. They come to the same
outcome and the same state, or else the first is nested too deeply, where that is allowed. This is a
correspondence of computations, so it goes through inference, searching and reading.

A unit is never built inside itself. So there are at most as many builds inside each other as there
are identifiers with a source (`UnitResolution.Library.Reader.resolveUnit_eq_resolveNested`).
-/

namespace UnitResolution

open Library Script

namespace Library.Reader

variable {σ : Type}

/-! ## Building -/

/-- The type of an exported name, for a unit that is being built. -/
def importedType (follow : String → Operation σ Imported) (limit : Nat) (imported name : String) :
    Operation σ (Option String) := do
  let (type, _) ← typeOfExport follow limit imported name []
  return type

/-- Build the unit of a source, and keep it. Other units are resolved by `resolve`, except for those
of a list, which are being built. -/
def build (r : Reader σ) (resolve : String → Operation σ (Except Diagnostic LibraryUnit))
    (inside : List String) (identifier : String) (source : Source) : Operation σ LibraryUnit := do
  let typeOf := importedType (followImport resolve inside) r.depthLimit
  let unit ← readUnit r.configuration.inference typeOf identifier source.contents
  logResolved r unit
  keep unit
  return unit

/-- The unit of an identifier: the one that is kept, or what `build` makes of the source. -/
def resolveBy (r : Reader σ) (identifier : String) (build : Source → Operation σ LibraryUnit) :
    Operation σ (Except Diagnostic LibraryUnit) := do
  match ← keptUnit identifier with
  | some unit => return .ok unit
  | none =>
      match ← inSurroundings (r.surroundings.source identifier) with
      | .error d => return .error d
      | .ok source => return .ok (← build source)

/-- The unit of an identifier, with at most `builds` units built inside each other. -/
def resolveNested (r : Reader σ) : (builds : Nat) → (pending : List String) →
    (identifier : String) → Operation σ (Except Diagnostic LibraryUnit)
  | 0, _, identifier => resolveBy r identifier fun _ => interrupt .tooDeep
  | builds + 1, pending, identifier =>
      let inside := identifier :: pending
      resolveBy r identifier (build r (resolveNested r builds inside) inside identifier)

theorem resolveUnit_succ (r : Reader σ) (depth : Nat) (pending : List String)
    (identifier : String) :
    resolveUnit r (depth + 1) pending identifier = resolveBy r identifier
      (build r (resolveUnit r depth (identifier :: pending)) (identifier :: pending)
        identifier) := by
  simp only [resolveUnit, resolveBy, build, bind_assoc, pure_bind]
  rfl

/-! ## Two runs from the same state -/

/-- With surroundings that have the given sources, two operations come from every state to the same
state and to related outcomes, unless the first one is nested too deeply, which is allowed only if
there is `much` to do. -/
def Steps (r : Reader σ) (sources : Sources) (much : Prop) {α β : Type} (V : α → β → Prop)
    (x : Operation σ α) (y : Operation σ β) : Prop :=
  ∀ m s, r.surroundings.Serves s sources →
    (much ∧ (x (m, s)).1 = .error .tooDeep) ∨
    (Alike V (x (m, s)).1 (y (m, s)).1 ∧ (x (m, s)).2 = (y (m, s)).2 ∧
      r.surroundings.Serves (y (m, s)).2.2 sources)

variable {r : Reader σ} {sources : Sources} {much : Prop}

namespace Steps

variable {α β γ δ : Type} {V W : α → β → Prop} {x : Operation σ α} {y : Operation σ β}

theorem imp (steps : r.Steps sources much V x y) (weaker : ∀ a b, V a b → W a b) :
    r.Steps sources much W x y := by
  intro m s serves
  rcases steps m s serves with deep | ⟨alike, same, later⟩
  · exact .inl deep
  · exact .inr ⟨alike.imp weaker, same, later⟩

protected theorem pure {a : α} {b : β} (related : V a b) :
    r.Steps sources much V (pure a) (pure b) :=
  fun _ _ serves => .inr ⟨.ok related, rfl, serves⟩

protected theorem bind {U : γ → δ → Prop} {f : α → Operation σ γ} {g : β → Operation σ δ}
    (first : r.Steps sources much V x y)
    (second : ∀ a b, V a b → r.Steps sources much U (f a) (g b)) :
    r.Steps sources much U (x >>= f) (y >>= g) := by
  intro m s serves
  rw [run_bind, run_bind]
  rcases first m s serves with ⟨excess, deep⟩ | ⟨alike, same, later⟩
  · generalize x (m, s) = run at deep
    obtain ⟨o, state⟩ := run
    cases deep
    exact .inl ⟨excess, rfl⟩
  · generalize x (m, s) = run at alike same
    generalize y (m, s) = run' at alike same later
    obtain ⟨o, m', s'⟩ := run
    obtain ⟨o', state⟩ := run'
    cases same
    cases alike with
    | ok related => exact second _ _ related m' s' later
    | error => exact .inr ⟨.error, rfl, later⟩

/-- Two runs that step along each other. -/
def correspondence (r : Reader σ) (sources : Sources) (much : Prop) :
    Correspondence (Operation σ) (Operation σ) where
  rel V x y := r.Steps sources much V x y
  imp := imp
  pure := Steps.pure
  bind := Steps.bind

theorem lift (outcome : Except Interruption α) :
    r.Steps sources much (fun a b => a = b ∧ outcome = .ok a) (liftM outcome) (liftM outcome) := by
  intro m s serves
  cases outcome with
  | ok a => exact .inr ⟨.ok ⟨rfl, rfl⟩, rfl, serves⟩
  | error i => exact .inr ⟨.error, rfl, serves⟩

/-- An operation steps along itself if the surroundings keep their sources meanwhile. -/
theorem itself (kept : ∀ m s, r.surroundings.Serves s sources →
    r.surroundings.Serves (x (m, s)).2.2 sources) : r.Steps sources much Eq x x :=
  fun m s serves => .inr ⟨.refl _, rfl, kept m s serves⟩

theorem keptUnit (identifier : String) :
    r.Steps sources much Eq (Library.keptUnit identifier) (Library.keptUnit identifier) :=
  itself fun _ _ serves => serves

theorem candidatesOf (imported : String) :
    r.Steps sources much Eq (Library.candidatesOf imported) (Library.candidatesOf imported) := by
  refine itself fun m s serves => ?_
  unfold Library.candidatesOf
  dsimp only
  split <;> exact serves

theorem rememberAlias (imported identifier : String) :
    r.Steps sources much Eq (Library.rememberAlias imported identifier)
      (Library.rememberAlias imported identifier) :=
  itself fun _ _ serves => serves

theorem keep (unit : LibraryUnit) :
    r.Steps sources much Eq (Library.keep unit) (Library.keep unit) :=
  itself fun _ _ serves => serves

theorem logResolved (unit : LibraryUnit) :
    r.Steps sources much Eq (Library.logResolved r unit) (Library.logResolved r unit) := by
  refine itself fun m s serves => ?_
  unfold Library.logResolved
  dsimp only
  split
  · have course : r.surroundings.Course (fun _ => True) s
        (r.surroundings.log (resolvedLine unit) s) := .log _ .refl
    exact serves.later course
  · exact serves

theorem source (identifier : String) :
    r.Steps sources much (fun a b => a = b ∧ sources identifier = .ok a)
      (inSurroundings (r.surroundings.source identifier))
      (inSurroundings (r.surroundings.source identifier)) := by
  intro m s serves
  have answer : (inSurroundings (r.surroundings.source identifier) (m, s)).1 =
      sources identifier := serves s .refl identifier
  have course : r.surroundings.Course (fun _ => True) s
      (r.surroundings.source identifier s).2 := .source identifier .refl trivial
  refine .inr ⟨?_, rfl, serves.later course⟩
  rw [answer]
  cases sources identifier with
  | ok found => exact .ok ⟨rfl, rfl⟩
  | error i => exact .error

/-! ## Following, searching, building -/

variable {resolve other : String → Operation σ (Except Diagnostic LibraryUnit)}
  {pending : List String}

/-- Imports are followed alike if what is not pending is resolved alike. -/
theorem followImport
    (same : ∀ c, c ∉ pending → r.Steps sources much Eq (resolve c) (other c)) (imported : String) :
    r.Steps sources much Eq (Library.followImport resolve pending imported)
      (Library.followImport other pending imported) := by
  have tried (list : List String) (reason : Option Diagnostic) : r.Steps sources much Eq
      (tryCandidates resolve pending imported list reason)
      (tryCandidates other pending imported list reason) := by
    induction list generalizing reason with
    | nil =>
        unfold tryCandidates
        cases reason <;> exact Steps.pure rfl
    | cons c rest ih =>
        unfold tryCandidates
        by_cases member : c ∈ pending
        · rw [if_pos member, if_pos member]
          exact Steps.pure rfl
        · rw [if_neg member, if_neg member]
          refine (same c member).bind ?_
          rintro found _ rfl
          cases found with
          | ok unit => exact (rememberAlias imported c).bind fun _ _ _ => Steps.pure rfl
          | error d => exact ih _
  unfold Library.followImport
  refine (candidatesOf imported).bind ?_
  rintro list _ rfl
  exact tried list none

/-- Searches that follow imports alike find the same, if neither gives up, or both do alike. -/
theorem typeOfExport {follow follow' : String → Operation σ Imported}
    (same : ∀ imported, r.Steps sources much Eq (follow imported) (follow' imported))
    {limit limit' : Nat} (le : limit ≤ limit') (level : limit = limit' ∨ much)
    (imported name : String) (seen : List String) :
    r.Steps sources much (Correspondence.SameFound fun _ => True)
      (Library.typeOfExport follow limit imported name seen)
      (Library.typeOfExport follow' limit' imported name seen) := by
  induction limit generalizing limit' imported name seen with
  | zero =>
      rcases level with rfl | excess
      · exact fun m s serves => .inr ⟨.error, rfl, serves⟩
      · exact fun m s serves => .inl ⟨excess, rfl⟩
  | succ limit ih =>
      obtain ⟨limit', rfl⟩ := Nat.exists_eq_add_one_of_ne_zero (Nat.ne_zero_of_lt le)
      have le : limit ≤ limit' := Nat.le_of_succ_le_succ le
      have level : limit = limit' ∨ much := level.imp_left Nat.succ.inj
      unfold Library.typeOfExport
      split
      · exact Steps.pure ⟨rfl, trivial⟩
      · refine (same imported).bind ?_
        rintro found _ rfl
        cases found with
        | pending => exact Steps.pure ⟨rfl, trivial⟩
        | failed d => exact Steps.pure ⟨rfl, trivial⟩
        | served unit =>
            exact (correspondence r sources much).searchUnit unit name trivial
              (fun e _ => ih le level _ _ _) fun source _ seen _ => ih le level _ _ _

end Steps

/-- The library with another depth limit. -/
def withLimit (r : Reader σ) (limit : Nat) : Reader σ := { r with depthLimit := limit }

/-- Units are built alike if what is not being built is resolved alike. -/
theorem Steps.build {resolve other : String → Operation σ (Except Diagnostic LibraryUnit)}
    {inside : List String}
    (same : ∀ c, c ∉ inside → r.Steps sources much Eq (resolve c) (other c)) {limit limit' : Nat}
    (le : limit ≤ limit') (level : limit = limit' ∨ much) (identifier : String) (source : Source) :
    r.Steps sources much Eq ((r.withLimit limit).build resolve inside identifier source)
      ((r.withLimit limit').build other inside identifier source) := by
  have typed (imported name : String) : r.Steps sources much (OnAnswers Eq)
      (importedType (Library.followImport resolve inside) limit imported name)
      (importedType (Library.followImport other inside) limit' imported name) := by
    refine (typeOfExport (followImport same) le level imported name []).bind ?_
    rintro ⟨type, seen⟩ _ ⟨rfl, _⟩
    exact Steps.pure rfl
  have read : r.Steps sources much (LibraryUnit.Like Eq)
      (readUnit r.configuration.inference
        (importedType (Library.followImport resolve inside) limit) identifier source.contents)
      (readUnit r.configuration.inference
        (importedType (Library.followImport other inside) limit') identifier source.contents) :=
    (correspondence r sources much).readUnit compatible_eq r.configuration.inference
      (fun found _ => (correspondence r sources much).of_orInterrupt (lift (orInterrupt found)))
      fun _ _ _ b _ => typed b.source b.importedName
  unfold Reader.build
  refine read.bind fun unit unit' like => ?_
  cases like.eq
  exact (logResolved unit).bind fun _ _ _ => (keep unit).bind fun _ _ _ => Steps.pure rfl

theorem Steps.resolveBy {first second : Source → Operation σ LibraryUnit} {identifier : String}
    (same : ∀ source, sources identifier = .ok (.ok source) →
      r.Steps sources much Eq (first source) (second source)) :
    r.Steps sources much Eq (r.resolveBy identifier first) (r.resolveBy identifier second) := by
  unfold Reader.resolveBy
  refine (keptUnit identifier).bind ?_
  rintro kept _ rfl
  cases kept with
  | some unit => exact Steps.pure rfl
  | none =>
      refine (Steps.source identifier).bind ?_
      rintro found _ ⟨rfl, answer⟩
      cases found with
      | error d => exact Steps.pure rfl
      | ok source =>
          refine (same source answer).bind ?_
          rintro unit _ rfl
          exact Steps.pure rfl

/-! ## Other limits -/

namespace Steps

variable {limit limit' : Nat}

theorem resolveUnit (le : limit ≤ limit') {depth depth' : Nat} (deeper : depth ≤ depth')
    (pending : List String) (identifier : String) :
    r.Steps sources True Eq (Library.resolveUnit (r.withLimit limit) depth pending identifier)
      (Library.resolveUnit (r.withLimit limit') depth' pending identifier) := by
  induction depth generalizing depth' pending identifier with
  | zero => exact fun m s _ => .inl ⟨trivial, rfl⟩
  | succ depth ih =>
      obtain ⟨depth', rfl⟩ := Nat.exists_eq_add_one_of_ne_zero (Nat.ne_zero_of_lt deeper)
      rw [resolveUnit_succ, resolveUnit_succ]
      have deeper : depth ≤ depth' := Nat.le_of_succ_le_succ deeper
      exact resolveBy (r := r) fun source _ =>
        build (fun c _ => ih deeper _ c) le (.inr trivial) identifier source

theorem resolveImport (le : limit ≤ limit') (imported : String) :
    r.Steps sources True Eq (Library.resolveImport (r.withLimit limit) imported)
      (Library.resolveImport (r.withLimit limit') imported) :=
  followImport (fun c _ => resolveUnit le le [] c) imported

theorem resolveLibrary (le : limit ≤ limit') (identifier : String) :
    r.Steps sources True Eq (Library.resolveLibrary (r.withLimit limit) identifier)
      (Library.resolveLibrary (r.withLimit limit') identifier) := by
  unfold Library.resolveLibrary
  refine (resolveUnit le le [] identifier).bind ?_
  rintro found _ rfl
  exact Steps.pure rfl

theorem visitImports {visit other : LibraryUnit → Walk → Operation σ Walk} (le : limit ≤ limit')
    (same : ∀ unit w, r.Steps sources True Eq (visit unit w) (other unit w)) (unit : String)
    (list : List String) (w : Walk) :
    r.Steps sources True Eq (Library.visitImports (r.withLimit limit) visit unit list w)
      (Library.visitImports (r.withLimit limit') other unit list w) := by
  induction list generalizing w with
  | nil => exact Steps.pure rfl
  | cons imported rest ih =>
      have walk (dependency : LibraryUnit) (w : Walk) : r.Steps sources True Eq
          (visit dependency w >>= Library.visitImports (r.withLimit limit) visit unit rest)
          (other dependency w >>= Library.visitImports (r.withLimit limit') other unit rest) := by
        refine (same dependency w).bind ?_
        rintro w _ rfl
        exact ih w
      unfold Library.visitImports
      split
      · exact ih w
      · refine (resolveImport le imported).bind ?_
        rintro found _ rfl
        cases found with
        | pending => exact ih _
        | failed d => exact ih _
        | served dependency =>
            dsimp only
            split
            · exact walk dependency _
            · split
              · exact ih _
              · exact walk dependency _

theorem visitUnit (le : limit ≤ limit') {depth depth' : Nat} (deeper : depth ≤ depth')
    (unit : LibraryUnit) (w : Walk) :
    r.Steps sources True Eq (Library.visitUnit (r.withLimit limit) depth unit w)
      (Library.visitUnit (r.withLimit limit') depth' unit w) := by
  induction depth generalizing depth' unit w with
  | zero => exact fun m s _ => .inl ⟨trivial, rfl⟩
  | succ depth ih =>
      obtain ⟨depth', rfl⟩ := Nat.exists_eq_add_one_of_ne_zero (Nat.ne_zero_of_lt deeper)
      have deeper : depth ≤ depth' := Nat.le_of_succ_le_succ deeper
      unfold Library.visitUnit
      refine (visitImports le (fun unit w => ih deeper unit w) _ _ _).bind ?_
      rintro w _ rfl
      exact Steps.pure rfl

theorem resolveProgram (le : limit ≤ limit') (entry : String) :
    r.Steps sources True Eq (Library.resolveProgram (r.withLimit limit) entry)
      (Library.resolveProgram (r.withLimit limit') entry) := by
  unfold Library.resolveProgram
  refine (resolveLibrary le entry).bind ?_
  rintro found _ rfl
  cases found with
  | error report => exact Steps.pure rfl
  | ok unit =>
      refine (visitUnit le le unit _).bind ?_
      rintro w _ rfl
      exact Steps.pure rfl

/-- What is not nested too deeply under a limit is the same under greater limits. -/
theorem eq_of_ne {α : Type} {x y : Operation σ α} (steps : r.Steps sources True Eq x y)
    {state : Memory × σ} (serves : r.surroundings.Serves state.2 sources)
    (ended : (x state).1 ≠ .error .tooDeep) : x state = y state := by
  rcases steps state.1 state.2 serves with ⟨_, deep⟩ | ⟨alike, same, _⟩
  · exact absurd deep ended
  · exact Prod.ext alike.eq same

end Steps

/-! ## Builds inside each other -/

/-- A unit is built inside those that are pending only if it is another one with a source. So no
more builds are nested than there are identifiers with a source that are not pending. -/
theorem steps_resolveNested (r : Reader σ) (finite : {v | sources.Has v}.Finite)
    {builds depth : Nat} (deep : builds < depth) {pending : List String} {u : String}
    (new : u ∉ pending) (room : ({v | sources.Has v} \ {p | p ∈ pending}).ncard ≤ builds) :
    r.Steps sources False Eq (resolveUnit r depth pending u)
      (resolveNested r builds pending u) := by
  induction builds generalizing depth pending u with
  | zero =>
      obtain ⟨depth, rfl⟩ := Nat.exists_eq_add_one_of_ne_zero (Nat.ne_zero_of_lt deep)
      rw [resolveUnit_succ]
      refine Steps.resolveBy fun source answer => ?_
      -- all identifiers with a source are pending, so this one has none to be built from
      have less := Sources.ncard_diff_cons_lt finite (show sources.Has u from ⟨source, answer⟩) new
      exact absurd (Nat.lt_of_lt_of_le less room) (Nat.not_lt_zero _)
  | succ builds ih =>
      obtain ⟨depth, rfl⟩ := Nat.exists_eq_add_one_of_ne_zero (Nat.ne_zero_of_lt deep)
      rw [resolveUnit_succ]
      refine Steps.resolveBy fun source answer => ?_
      -- inside the build the identifier is pending too, which leaves room for one less
      have less := Sources.ncard_diff_cons_lt finite (show sources.Has u from ⟨source, answer⟩) new
      have room : ({v | sources.Has v} \ {p | p ∈ u :: pending}).ncard ≤ builds :=
        Nat.le_of_lt_succ (Nat.lt_of_lt_of_le less room)
      exact Steps.build (r := r) (fun c fresh => ih (Nat.lt_of_succ_lt_succ deep) fresh room)
        le_rfl (.inl rfl) u source

/-- Resolving a unit while nothing is being built nests at most as many builds as there are
identifiers with a source. -/
theorem resolveUnit_eq_resolveNested (r : Reader σ) (finite : {v | sources.Has v}.Finite)
    {depth : Nat} (deep : {v | sources.Has v}.ncard < depth) (u : String) {state : Memory × σ}
    (serves : r.surroundings.Serves state.2 sources) :
    resolveUnit r depth [] u state = resolveNested r {v | sources.Has v}.ncard [] u state := by
  have room : ({v | sources.Has v} \ {p | p ∈ ([] : List String)}).ncard ≤
      {v | sources.Has v}.ncard := Set.ncard_le_ncard Set.sdiff_subset finite
  rcases steps_resolveNested r finite deep (List.not_mem_nil) room state.1 state.2 serves with
    ⟨impossible, _⟩ | ⟨alike, same, _⟩
  · exact impossible.elim
  · exact Prod.ext alike.eq same

end Library.Reader

end UnitResolution
