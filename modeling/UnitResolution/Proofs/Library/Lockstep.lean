import UnitResolution.Proofs.Library.Eviction
import UnitResolution.Proofs.Library.Reading

/-!
# Operations in lockstep

Two libraries with the same sources are level for a unit (`UnitResolution.Library.Reader.Level`) if
both have space, and both keep the same units of those that lead into cycles. Then they read what
can be reached in lockstep (`UnitResolution.Library.Reader.Lockstep`): they come to the same
outcome, and are level again, unless one of them is nested too deeply.

Where an import leads to a unit with a meaning, one library may have kept the unit while the other
reads it. Both come to the meaning, and touch no unit that leads into a cycle
(`UnitResolution.Library.Reader.Lockstep.of_ensures`). Where an import leads into a cycle, the
libraries try different candidates at most in front of the one that it leads to, and then do the
same (`UnitResolution.Library.Reader.readsAlike`).
-/

namespace UnitResolution.Library.Reader

open Script

variable {σ : Type} (r : Reader σ) (sources : Sources) (root : String)

/-- A library whose memory is coherent and has space for a unit, with surroundings that have the
given sources. -/
structure Ready (state : Memory × σ) : Prop where
  coherent : r.Coherent sources state.1
  serves : r.surroundings.Serves state.2 sources
  spacious : Spacious sources root state.1.units

/-- Two libraries keep the same units of those that lead into cycles. -/
structure Level (s t : Memory × σ) : Prop where
  left : r.Ready sources root s
  right : r.Ready sources root t
  same : ∀ v, Entangled sources root v → s.1.units.find? v = t.1.units.find? v

/-- From libraries that are level, two operations come to related outcomes and to libraries that are
level again, unless there is too much to read for one of them. -/
def Lockstep {α β : Type} (V : α → β → Prop) (x : Operation σ α) (y : Operation σ β) : Prop :=
  ∀ s t, r.Level sources root s t →
    (¬ r.Enough sources root ∧ ((x s).1 = .error .tooDeep ∨ (y t).1 = .error .tooDeep)) ∨
    (Alike V (x s).1 (y t).1 ∧ r.Level sources root (x s).2 (y t).2)

variable {r sources root}

/-! ## One side -/

section

variable {α : Type} {x : Operation σ α} {asked : String → Prop}
  {post : Except Interruption α → Prop} {s t : Memory × σ}

/-- What an operation does to one library, if it asks for nothing but what can be reached. -/
theorem Ready.after (ready : r.Ready sources root s) (ensures : r.Ensures sources asked x post)
    (within : ∀ v, asked v → sources.Has v → v ∈ sources.closure root) :
    post (x s).1 ∧ r.Ready sources root (x s).2 ∧ r.Course sources asked s (x s).2 := by
  obtain ⟨holds, coherent, course⟩ := ensures s.1 s.2 ready.coherent ready.serves
  exact ⟨holds, ⟨coherent, ready.serves.later course.surroundings,
    course.spacious within ready.spacious⟩, course⟩

theorem Level.symm (level : r.Level sources root s t) : r.Level sources root t s :=
  ⟨level.right, level.left, fun v entangled => (level.same v entangled).symm⟩

/-- What an operation on one side does, if it asks for nothing that leads into a cycle. -/
theorem Level.after_left (level : r.Level sources root s t)
    (ensures : r.Ensures sources asked x post)
    (calm : ∀ v, asked v → sources.Has v → v ∈ sources.closure root ∧ sources.Grounded v) :
    post (x s).1 ∧ r.Level sources root (x s).2 t := by
  obtain ⟨holds, ready, course⟩ :=
    level.left.after ensures fun v permitted has => (calm v permitted has).1
  refine ⟨holds, ready, level.right, fun v entangled => ?_⟩
  rw [course.find?_of_entangled calm level.left.spacious entangled]
  exact level.same v entangled

end

/-! ## Both sides -/

namespace Lockstep

variable {α β γ : Type} {V W : α → β → Prop} {x : Operation σ α} {y : Operation σ β}

protected theorem pure {a : α} {b : β} (related : V a b) :
    r.Lockstep sources root V (pure a) (pure b) :=
  fun _ _ level => .inr ⟨.ok related, level⟩

theorem imp (lockstep : r.Lockstep sources root V x y) (weaker : ∀ a b, V a b → W a b) :
    r.Lockstep sources root W x y := by
  intro s t level
  rcases lockstep s t level with excess | ⟨alike, after⟩
  · exact .inl excess
  · exact .inr ⟨alike.imp weaker, after⟩

theorem symm (lockstep : r.Lockstep sources root V x y) :
    r.Lockstep sources root (fun b a => V a b) y x := by
  intro s t level
  rcases lockstep t s level.symm with ⟨excess, deep⟩ | ⟨alike, after⟩
  · exact .inl ⟨excess, deep.symm⟩
  · refine .inr ⟨?_, after.symm⟩
    generalize (x t).1 = o at alike
    generalize (y s).1 = p at alike
    cases alike with
    | ok related => exact .ok related
    | error => exact .error

/-- What is done in a row in lockstep. -/
protected theorem bind {δ : Type} {f : α → Operation σ γ} {g : β → Operation σ δ}
    {W : γ → δ → Prop} (first : r.Lockstep sources root V x y)
    (next : ∀ a b, V a b → r.Lockstep sources root W (f a) (g b)) :
    r.Lockstep sources root W (x >>= f) (y >>= g) := by
  intro s t level
  rw [run_bind, run_bind]
  rcases first s t level with ⟨excess, deep⟩ | ⟨alike, after⟩
  · left
    refine ⟨excess, deep.imp (fun same => ?_) fun same => ?_⟩
    · generalize x s = result at same
      obtain ⟨o, state⟩ := result
      cases same
      rfl
    · generalize y t = result at same
      obtain ⟨o, state⟩ := result
      cases same
      rfl
  · generalize x s = left at alike after
    generalize y t = right at alike after
    obtain ⟨o, s'⟩ := left
    obtain ⟨p, t'⟩ := right
    cases alike with
    | ok related => exact next _ _ related s' t' after
    | error => exact .inr ⟨.error, after⟩

/-- Operations that touch nothing that leads into a cycle, and whose outcomes are related whatever
they may be. -/
theorem of_ensures {asked other : String → Prop} {excused excused' : Interruption → Prop}
    {P : Possibly α} {Q : Possibly β}
    (first : r.Ensures sources asked x (Allowed (¬ r.Enough sources root) excused P))
    (second : r.Ensures sources other y (Allowed (¬ r.Enough sources root) excused' Q))
    (calm : ∀ v, asked v → sources.Has v → v ∈ sources.closure root ∧ sources.Grounded v)
    (calm' : ∀ v, other v → sources.Has v → v ∈ sources.closure root ∧ sources.Grounded v)
    (alike : ∀ o p, P o → Q p → Alike V o p) : r.Lockstep sources root V x y := by
  intro s t level
  obtain ⟨left, level⟩ := level.after_left first calm
  obtain ⟨right, level⟩ := level.symm.after_left second calm'
  have related (o : Except Interruption α) (p : Except Interruption β)
      (left : Allowed (¬ r.Enough sources root) excused P o)
      (right : Allowed (¬ r.Enough sources root) excused' Q p) :
      (¬ r.Enough sources root ∧ (o = .error .tooDeep ∨ p = .error .tooDeep)) ∨ Alike V o p := by
    cases left with
    | tooDeep excess => exact .inl ⟨excess, .inl rfl⟩
    | answer reached =>
        cases right with
        | tooDeep excess => exact .inl ⟨excess, .inr rfl⟩
        | answer reached' => exact .inr (alike _ _ reached reached')
        | stopped reached' _ => exact .inr (alike _ _ reached reached')
    | stopped reached _ =>
        cases right with
        | tooDeep excess => exact .inl ⟨excess, .inr rfl⟩
        | answer reached' => exact .inr (alike _ _ reached reached')
        | stopped reached' _ => exact .inr (alike _ _ reached reached')
  exact (related _ _ left right).imp_right fun alike => ⟨alike, level.symm⟩

/-- What one side ensures of its answer. -/
theorem and_ensures {asked : String → Prop} {much : Prop} {excused : Interruption → Prop}
    {P : Possibly α} (lockstep : r.Lockstep sources root V x y)
    (ensures : r.Ensures sources asked x (Allowed much excused P)) :
    r.Lockstep sources root (fun a b => V a b ∧ P (.ok a)) x y := by
  intro s t level
  refine (lockstep s t level).imp_right fun ⟨alike, after⟩ => ⟨?_, after⟩
  have holds := (ensures s.1 s.2 level.left.coherent level.left.serves).1
  change Allowed much excused P (x s).1 at holds
  generalize (x s).1 = o at alike holds
  generalize (y t).1 = p at alike
  cases alike with
  | error => exact .error
  | ok related =>
      cases holds with
      | answer reached => exact .ok ⟨related, reached⟩

/-- Something is done on one side first, which touches nothing that leads into a cycle. -/
theorem skip {asked : String → Prop} {excused : Interruption → Prop} {P : Possibly γ}
    {f : γ → Operation σ α} {x : Operation σ γ}
    (first : r.Ensures sources asked x (Allowed (¬ r.Enough sources root) excused P))
    (calm : ∀ v, asked v → sources.Has v → v ∈ sources.closure root ∧ sources.Grounded v)
    (answered : ∀ i, ¬ P (.error i))
    (next : ∀ a, P (.ok a) → r.Lockstep sources root V (f a) y) :
    r.Lockstep sources root V (x >>= f) y := by
  intro s t level
  obtain ⟨holds, level⟩ := level.after_left first calm
  rw [run_bind]
  generalize x s = result at holds level
  obtain ⟨o, state⟩ := result
  change Allowed (¬ r.Enough sources root) excused P o at holds
  cases holds with
  | answer reached => exact next _ reached state t level
  | stopped reached _ => exact absurd reached (answered _)
  | tooDeep excess => exact .inl ⟨excess, .inl rfl⟩

/-! ## Access to the state -/

section Access

variable {unit : LibraryUnit} {identifier imported : String}

/-- What leads into a cycle is kept on both sides, or on neither. -/
theorem keptUnit (entangled : Entangled sources root identifier) :
    r.Lockstep sources root Eq (keptUnit identifier) (keptUnit identifier) := by
  intro s t level
  have spacious {state : Memory × σ} (ready : r.Ready sources root state) :
      r.Ready sources root ({ state.1 with units := (state.1.units.get identifier).2 }, state.2) :=
    ⟨⟨fun entry member => ready.coherent.units entry (Cache.mem_entries_get member),
      ready.coherent.aliases⟩, ready.serves, ready.spacious.get entangled.1⟩
  refine .inr ⟨?_, spacious level.left, spacious level.right, fun v other => ?_⟩
  · have same : (s.1.units.get identifier).1 = (t.1.units.get identifier).1 := by
      rw [Cache.get_fst, Cache.get_fst]
      exact level.same identifier entangled
    exact .ok same
  · exact (Cache.find?_get _ _ _).trans ((level.same v other).trans (Cache.find?_get _ _ _).symm)

theorem source (identifier : String) :
    r.Lockstep sources root (fun a b => a = b ∧ sources identifier = .ok a)
      (inSurroundings (r.surroundings.source identifier))
      (inSurroundings (r.surroundings.source identifier)) := by
  intro s t level
  have ready {state : Memory × σ} (ready : r.Ready sources root state) :
      r.Ready sources root (state.1, (r.surroundings.source identifier state.2).2) := by
    have course : r.surroundings.Course (fun _ => True) state.2 _ :=
      .source identifier .refl trivial
    exact ⟨ready.coherent, ready.serves.later course, ready.spacious⟩
  refine .inr ⟨?_, ready level.left, ready level.right, level.same⟩
  have left : (r.surroundings.source identifier s.2).1 = sources identifier :=
    level.left.serves s.2 .refl identifier
  have right : (r.surroundings.source identifier t.2).1 = sources identifier :=
    level.right.serves t.2 .refl identifier
  change Alike _ (r.surroundings.source identifier s.2).1 (r.surroundings.source identifier t.2).1
  rw [left, right]
  cases sources identifier with
  | ok found => exact .ok ⟨rfl, rfl⟩
  | error i => exact .error

theorem logResolved (unit : LibraryUnit) :
    r.Lockstep sources root Eq (logResolved r unit) (logResolved r unit) := by
  intro s t level
  have ready {state : Memory × σ} (ready : r.Ready sources root state) :
      r.Ready sources root (Library.logResolved r unit state).2 :=
    (ready.after (Ensures.logResolved unit) fun _ impossible _ => False.elim impossible).2.1
  exact .inr ⟨.ok rfl, ready level.left, ready level.right, level.same⟩

/-- The same unit is kept on both sides. -/
theorem keep (reached : unit.identifier ∈ sources.closure root)
    (possible : sources.possibleUnit r.configuration.inference unit.identifier (.ok (.ok unit))) :
    r.Lockstep sources root Eq (keep unit) (keep unit) := by
  intro s t level
  have kept : r.Ensures sources (· = unit.identifier) (Library.keep unit) _ :=
    Ensures.keep rfl possible
  have ready {state : Memory × σ} (ready : r.Ready sources root state) :
      r.Ready sources root (Library.keep unit state).2 :=
    (ready.after kept fun v same _ => same ▸ reached).2.1
  refine .inr ⟨.ok rfl, ready level.left, ready level.right, fun v entangled => ?_⟩
  change (s.1.units.set unit.identifier unit).find? v = (t.1.units.set unit.identifier unit).find? v
  by_cases same : v = unit.identifier
  · rw [same, Cache.find?_set_self, Cache.find?_set_self]
  · rw [level.left.spacious.find?_set reached unit entangled same,
      level.right.spacious.find?_set reached unit entangled same]
    exact level.same v entangled

theorem rememberAlias (leads : sources.leadsTo imported = .ok (some identifier)) :
    r.Lockstep sources root Eq (rememberAlias imported identifier)
      (rememberAlias imported identifier) := by
  intro s t level
  have ready {state : Memory × σ} (ready : r.Ready sources root state) :
      r.Ready sources root (Library.rememberAlias imported identifier state).2 :=
    (ready.after (Ensures.rememberAlias leads) fun _ impossible _ => False.elim impossible).2.1
  exact .inr ⟨.ok rfl, ready level.left, ready level.right, level.same⟩

end Access

end Lockstep

/-- Operations in lockstep correspond. -/
def lockstep (r : Reader σ) (sources : Sources) (root : String) :
    Correspondence (Operation σ) (Operation σ) where
  rel := r.Lockstep sources root
  imp := .imp
  pure := .pure
  bind := .bind

/-! ## Following imports -/

section Following

variable {imported c : String} {pending : List String}
  {resolve : String → Operation σ (Except Diagnostic LibraryUnit)}

/-- Following an import comes to where it leads, and to what may be there. -/
theorem Led.eq_map {options : InferenceOptions} {o : Except Interruption Imported}
    (apart : ∀ c ∈ pending, sources.leadsTo imported ≠ .ok (some c))
    (led : Led sources options pending imported o) :
    (∃ i, sources.leadsTo imported = .error i ∧ o = .error i) ∨
    (∃ d, sources.leadsTo imported = .ok none ∧ sources.failure? imported = some d ∧
      o = .ok (.failed d)) ∨
    (∃ c p, sources.leadsTo imported = .ok (some c) ∧ sources.possibleUnit options c p ∧
      o = p.map fun found => match found with
        | .ok unit => .served unit
        | .error d => .failed d) := by
  cases led with
  | pending member leads => exact absurd leads (apart _ member)
  | failed leads reason => exact .inr (.inl ⟨_, leads, reason, rfl⟩)
  | served leads possible => exact .inr (.inr ⟨_, _, leads, possible, rfl⟩)
  | stopped leads => exact .inl ⟨_, leads, rfl⟩
  | interrupted leads possible => exact .inr (.inr ⟨_, _, leads, possible, rfl⟩)

/-- What following an import comes to is determined where it leads into no cycle. -/
theorem Led.eq_of_straight {options : InferenceOptions} {o p : Except Interruption Imported}
    (straight : ¬ sources.Cyclic imported)
    (apart : ∀ c ∈ pending, sources.leadsTo imported ≠ .ok (some c))
    (first : Led sources options pending imported o)
    (second : Led sources options pending imported p) : o = p := by
  rcases first.eq_map apart with ⟨i, leads, rfl⟩ | ⟨d, leads, reason, rfl⟩ |
      ⟨c, x, leads, possible, rfl⟩ <;>
    rcases second.eq_map apart with ⟨i', leads', rfl⟩ | ⟨d', leads', reason', rfl⟩ |
      ⟨c', x', leads', possible', rfl⟩ <;>
    rw [leads] at leads' <;> cases leads'
  · rfl
  · rw [reason] at reason'
    cases reason'
    rfl
  · have grounded : sources.Grounded c := by
      by_contra cyclic
      exact straight ⟨c, leads, cyclic⟩
    rw [Sources.eq_answer grounded possible, Sources.eq_answer grounded possible']

/-- The candidates in front of the one with a source are tried on one side. -/
theorem Lockstep.skipCandidates {β : Type} {V : Imported → β → Prop} {y : Operation σ β}
    (sourced : ∀ p ∈ pending, sources.Has p)
    (resolved : ∀ d, d ∉ pending → ¬ sources.Has d →
      r.Ensures sources (Asked sources d) (resolve d) (Allowed (¬ r.Enough sources root)
        (fun i => sources d = .error i ∨ Stopping sources root i)
        (sources.possibleUnit r.configuration.inference d)))
    (next : ∀ rest reason,
      r.Lockstep sources root V (tryCandidates resolve pending imported (c :: rest) reason) y)
    (list : List String) (reason : Option Diagnostic)
    (served : sources.firstServed list = .ok (some c)) :
    r.Lockstep sources root V (tryCandidates resolve pending imported list reason) y := by
  induction list generalizing reason with
  | nil => cases served
  | cons d rest ih =>
      unfold Sources.firstServed at served
      split at served
      · cases served
      · cases served
        exact next rest reason
      · next d' failed =>
          have missing : ¬ sources.Has d := by
            rintro ⟨source, answer⟩
            rw [failed] at answer
            cases answer
          have new : d ∉ pending := fun member => missing (sourced d member)
          unfold tryCandidates
          rw [if_neg new]
          refine Lockstep.skip (resolved d new missing) (fun v asked has => ?_)
            (fun i reached => ?_) fun found reached => ?_
          · rcases asked with reached | missing'
            · cases Sources.eq_of_reaches_of_not_has missing reached
              exact absurd has missing
            · exact absurd has missing'
          · rw [Sources.possibleUnit_of_failed failed] at reached
            cases reached
          · rw [Sources.possibleUnit_of_failed failed] at reached
            cases reached
            exact ih _ served

/-- An import that leads into a cycle is followed in lockstep, if the unit that it leads to is read
in lockstep. -/
theorem Lockstep.followImport (leads : sources.leadsTo imported = .ok (some c))
    (sourced : ∀ p ∈ pending, sources.Has p)
    (resolved : ∀ d, d ∉ pending → ¬ sources.Has d →
      r.Ensures sources (Asked sources d) (resolve d) (Allowed (¬ r.Enough sources root)
        (fun i => sources d = .error i ∨ Stopping sources root i)
        (sources.possibleUnit r.configuration.inference d)))
    (lockstep : c ∉ pending → r.Lockstep sources root
      (fun a b => a = b ∧ ∃ unit, a = .ok unit) (resolve c) (resolve c)) :
    r.Lockstep sources root Eq (followImport resolve pending imported)
      (followImport resolve pending imported) := by
  have tried (rest rest' : List String) (reason reason' : Option Diagnostic) :
      r.Lockstep sources root Eq (tryCandidates resolve pending imported (c :: rest) reason)
        (tryCandidates resolve pending imported (c :: rest') reason') := by
    unfold tryCandidates
    by_cases member : c ∈ pending
    · rw [if_pos member, if_pos member]
      exact .pure rfl
    · rw [if_neg member, if_neg member]
      refine (lockstep member).bind ?_
      rintro _ _ ⟨rfl, unit, rfl⟩
      exact (Lockstep.rememberAlias leads).bind fun _ _ _ => .pure rfl
  have skipped (list list' : List String) (reason reason' : Option Diagnostic)
      (served : sources.firstServed list = .ok (some c))
      (served' : sources.firstServed list' = .ok (some c)) :
      r.Lockstep sources root Eq (tryCandidates resolve pending imported list reason)
        (tryCandidates resolve pending imported list' reason') := by
    refine Lockstep.skipCandidates sourced resolved (fun rest reason => ?_) list reason served
    refine (Lockstep.skipCandidates sourced resolved (fun rest' reason' => ?_) list' reason'
      served').symm.imp fun _ _ same => same
    exact (tried rest rest' reason reason').symm
  have listed : r.Ensures sources (fun _ => False) (candidatesOf imported)
      (Allowed (¬ r.Enough sources root) (fun _ => False)
        fun o => ∃ list, o = .ok list ∧ sources.firstServed list = .ok (some c)) := by
    refine (Ensures.candidatesOf imported).imp fun o found => ?_
    rcases found with rfl | ⟨c', rfl, leads'⟩
    · exact .answer ⟨_, rfl, leads⟩
    · rw [leads] at leads'
      cases leads'
      exact .answer ⟨_, rfl, Sources.firstServed_cons_of_has (Sources.has_of_leadsTo leads) []⟩
  have lists : r.Lockstep sources root
      (fun a b => sources.firstServed a = .ok (some c) ∧ sources.firstServed b = .ok (some c))
      (candidatesOf imported) (candidatesOf imported) := by
    have calm (v : String) (impossible : False) (_ : sources.Has v) :
        v ∈ sources.closure root ∧ sources.Grounded v := impossible.elim
    refine .of_ensures listed listed calm calm ?_
    rintro _ _ ⟨list, rfl, served⟩ ⟨list', rfl, served'⟩
    exact .ok ⟨served, served'⟩
  refine lists.bind fun list list' served => ?_
  exact skipped list list' none none served.1 served.2

end Following

/-! ## Searching and reading -/

section Searching

variable {follow : String → Operation σ Imported} {u : String}

/-- Imports that are followed in lockstep are searched in lockstep. -/
theorem lockstep_typeOfExport
    (followed : ∀ w, sources.Reaches u w → ∀ imported ∈ (sources.surface w).imports,
      r.Lockstep sources root
        (fun a b => a = b ∧ ∀ unit, a = .served unit →
          ∃ c, sources.leadsTo imported = .ok (some c) ∧ unit.surface = sources.surface c)
        (follow imported) (follow imported))
    (limit : Nat) {w imported : String} (reaches : sources.Reaches u w)
    (member : imported ∈ (sources.surface w).imports) (name : String) (seen : List String) :
    r.Lockstep sources root (Correspondence.SameFound fun _ => True)
      (typeOfExport follow limit imported name seen)
      (typeOfExport follow limit imported name seen) := by
  induction limit generalizing w imported name seen with
  | zero => exact fun s t level => .inr ⟨.error, level⟩
  | succ limit ih =>
      unfold typeOfExport
      by_cases begun : searchKey imported name ∈ seen
      · rw [if_pos begun]
        exact .pure ⟨rfl, trivial⟩
      · rw [if_neg begun]
        refine (followed w reaches imported member).bind ?_
        rintro found _ ⟨rfl, come⟩
        cases found with
        | pending => exact .pure ⟨rfl, trivial⟩
        | failed reason => exact .pure ⟨rfl, trivial⟩
        | served unit =>
            obtain ⟨c, leads, surface⟩ := come unit rfl
            have further : sources.Reaches u c := reaches.tail ⟨imported, member, leads⟩
            have exchanged : unit.surface.Imported := surface ▸ Sources.imported_surface c
            refine (r.lockstep sources root).searchUnit unit name trivial (fun e passed => ?_)
              fun source passed seen _ => ?_
            · exact ih further (surface ▸ exchanged.reExports e passed) _ _
            · exact ih further (surface ▸ exchanged.starExports source passed) _ _

/-- Imports that are followed in lockstep are read in lockstep. -/
theorem lockstep_readUnit {source : Source} (served : sources u = .ok (.ok source))
    (followed : ∀ w, sources.Reaches u w → ∀ imported ∈ (sources.surface w).imports,
      r.Lockstep sources root
        (fun a b => a = b ∧ ∀ unit, a = .served unit →
          ∃ c, sources.leadsTo imported = .ok (some c) ∧ unit.surface = sources.surface c)
        (follow imported) (follow imported)) :
    let typeOf := fun imported name => do
      let (type, _) ← typeOfExport follow r.depthLimit imported name []
      return type
    r.Lockstep sources root Eq (readUnit r.configuration.inference typeOf u source.contents)
      (readUnit r.configuration.inference typeOf u source.contents) := by
  intro typeOf
  have lifted {α : Type} (read : Except Identifier.SpecifierError α)
      (_ : ∀ e, read = .error e → surfaceIn u source.contents = .error e) :
      r.Lockstep sources root (fun a b => a = b ∧ read = .ok a) (liftM (orInterrupt read))
        (liftM (orInterrupt read)) := by
    cases read with
    | ok a => exact .pure ⟨rfl, rfl⟩
    | error e => exact fun s t level => .inr ⟨.error, level⟩
  have typed (script : Contents) (read : Script.read u source.contents = .ok script)
      (plain : ¬ Identifier.isHostDocument u) (b : ImportBinding)
      (member : b ∈ script.surface.bindings) :
      r.Lockstep sources root (OnAnswers Eq) (typeOf b.source b.importedName)
        (typeOf b.source b.importedName) := by
    rw [← Sources.surface_of_script served plain read] at member
    refine (lockstep_typeOfExport followed r.depthLimit .refl
      ((Sources.imported_surface u).bindings b member) b.importedName []).bind ?_
    rintro ⟨type, seen⟩ _ ⟨rfl, _⟩
    exact .pure rfl
  have same := (r.lockstep sources root).readUnit compatible_eq r.configuration.inference lifted
    typed
  exact same.imp fun _ _ => LibraryUnit.Like.eq

end Searching

/-- An import without a cycle behind it leads to none of the units that are being read. -/
theorem Next.apart {depth : Nat} {pending : List String} {u w imported : String}
    (next : r.Next sources root depth pending u) (has : sources.Has u)
    (reaches : sources.Reaches u w) (member : imported ∈ (sources.surface w).imports)
    (straight : ¬ sources.Cyclic imported) (c : String) (inside : c ∈ u :: pending) :
    sources.leadsTo imported ≠ .ok (some c) := by
  intro leads
  refine straight ⟨c, leads, fun grounded => ?_⟩
  have above : sources.Reaches c u := by
    rcases List.mem_cons.mp inside with rfl | inside
    · exact .refl
    · exact next.below has c inside
  exact grounded.not_cycle (Relation.TransGen.tail' (above.trans reaches) ⟨imported, member, leads⟩)

/-- At some depth, every unit that leads into a cycle and is the next one is read in lockstep. -/
def ReadsAlike (r : Reader σ) (sources : Sources) (root : String) (depth : Nat) : Prop :=
  ∀ {pending u}, r.Next sources root depth pending u → Entangled sources root u → sources.Has u →
    r.Lockstep sources root (fun a b => a = b ∧ ∃ unit, a = .ok unit)
      (resolveUnit r depth pending u) (resolveUnit r depth pending u)

/-- While a unit that leads into a cycle is being read, imports of what can be reached from it are
followed in lockstep. -/
theorem ReadsAlike.follow {depth : Nat} {pending : List String} {u w imported : String}
    (alike : r.ReadsAlike sources root depth) (next : r.Next sources root (depth + 1) pending u)
    (entangled : Entangled sources root u) (has : sources.Has u) (reaches : sources.Reaches u w)
    (member : imported ∈ (sources.surface w).imports) :
    r.Lockstep sources root
      (fun a b => a = b ∧ ∀ unit, a = .served unit →
        ∃ c, sources.leadsTo imported = .ok (some c) ∧ unit.surface = sources.surface c)
      (followImport (resolveUnit r depth (u :: pending)) (u :: pending) imported)
      (followImport (resolveUnit r depth (u :: pending)) (u :: pending) imported) := by
  have reads : r.Reads sources root depth := r.reads sources root depth
  have led := reads.follow next has reaches member
  have within : w ∈ sources.closure root := Relation.ReflTransGen.trans entangled.1 reaches
  suffices same : r.Lockstep sources root Eq
      (followImport (resolveUnit r depth (u :: pending)) (u :: pending) imported)
      (followImport (resolveUnit r depth (u :: pending)) (u :: pending) imported) by
    refine (same.and_ensures led).imp ?_
    rintro found _ ⟨rfl, come⟩
    refine ⟨rfl, fun unit same => ?_⟩
    subst same
    cases come with
    | served leads possible => exact ⟨_, leads, Sources.surface_of_possibleUnit possible⟩
  by_cases cyclic : sources.Cyclic imported
  · obtain ⟨c, leads, cyclic⟩ := cyclic
    have edge : sources.Edge w c := ⟨imported, member, leads⟩
    refine Lockstep.followImport leads (List.forall_mem_cons.mpr ⟨has, next.sourced⟩)
      (fun d new missing => ?_) fun new => ?_
    · exact reads (next.inside has reaches member new fun has => absurd has missing)
    · exact alike (next.inside has reaches member new fun _ => leads)
        ⟨edge.mem_closure within, cyclic⟩ edge.has
  · have calm (v : String) (asked : AskedFor sources imported v) (hasSource : sources.Has v) :
        v ∈ sources.closure root ∧ sources.Grounded v := by
      obtain ⟨c, leads, reached⟩ := asked.resolve_right (not_not_intro hasSource)
      have edge : sources.Edge w c := ⟨imported, member, leads⟩
      have grounded : sources.Grounded c := by
        by_contra entangled
        exact cyclic ⟨c, leads, entangled⟩
      exact ⟨(edge.mem_closure within).trans reached, grounded.of_reaches reached⟩
    refine .of_ensures led led calm calm fun o p first second => ?_
    rw [first.eq_of_straight cyclic (next.apart has reaches member cyclic) second]
    exact .refl p

/-- At every depth, units that lead into cycles are read in lockstep. -/
theorem readsAlike (r : Reader σ) (sources : Sources) (root : String) (depth : Nat) :
    r.ReadsAlike sources root depth := by
  induction depth with
  | zero => exact fun _ _ _ s t level => .inr ⟨.error, level⟩
  | succ depth ih =>
      intro pending u next entangled has
      unfold resolveUnit
      refine (Lockstep.keptUnit entangled).bind ?_
      rintro kept _ rfl
      cases kept with
      | some unit => exact .pure ⟨rfl, unit, rfl⟩
      | none =>
          refine (Lockstep.source u).bind ?_
          rintro found _ ⟨rfl, answer⟩
          cases found with
          | error d =>
              obtain ⟨source, other⟩ := has
              rw [answer] at other
              cases other
          | ok source =>
              have reads : r.Reads sources root depth := r.reads sources root depth
              have read := ensures_readUnit answer (next.reached has)
                (List.forall_mem_cons.mpr ⟨.refl, next.below has⟩)
                fun w reaches imported member => (reads.follow next has reaches member).mono
                  fun _ asked => asked.below reaches member
              have alike := lockstep_readUnit answer fun w reaches imported member =>
                ih.follow next entangled has reaches member
              refine (alike.and_ensures read).bind ?_
              rintro unit _ ⟨rfl, reached⟩
              have possible := Sources.possibleUnit_of_readUnit answer reached
              have named := Sources.identifier_of_possibleUnit possible
              refine (Lockstep.logResolved unit).bind fun _ _ _ => ?_
              refine (Lockstep.keep (named ▸ entangled.1) (named ▸ possible)).bind fun _ _ _ => ?_
              exact .pure ⟨rfl, unit, rfl⟩

theorem Resolved.eq_map {options : InferenceOptions} {u : String}
    {o : Except Interruption (Except Report LibraryUnit)}
    (resolved : Resolved sources options u o) :
    ∃ p, sources.possibleUnit options u p ∧ o = p.map fun found => found.mapError .single := by
  cases resolved with
  | failed failed => exact ⟨_, (Sources.possibleUnit_of_failed failed).mpr rfl, rfl⟩
  | read possible => exact ⟨_, possible, rfl⟩
  | stopped possible => exact ⟨_, possible, rfl⟩

/-- Level libraries resolve a unit to the same, unless one of them is nested too deeply. -/
theorem lockstep_resolveLibrary (u : String) :
    r.Lockstep sources u Eq (resolveLibrary r u) (resolveLibrary r u) := by
  by_cases grounded : sources.Grounded u
  · have calm (v : String) (asked : Asked sources u v) (has : sources.Has v) :
        v ∈ sources.closure u ∧ sources.Grounded v := by
      have reached := asked.resolve_right (not_not_intro has)
      exact ⟨reached, grounded.of_reaches reached⟩
    refine .of_ensures (ensures_resolveLibrary u) (ensures_resolveLibrary u) calm calm ?_
    intro o p first second
    obtain ⟨x, possible, rfl⟩ := first.eq_map
    obtain ⟨y, possible', rfl⟩ := second.eq_map
    rw [Sources.eq_answer grounded possible, Sources.eq_answer grounded possible']
    exact .refl _
  · have has : sources.Has u := by
      by_contra missing
      exact grounded (Sources.Grounded.of_not_has missing)
    have reached : u ∈ sources.closure u := Sources.mem_closure_self u
    refine (r.readsAlike sources u r.depthLimit (next_outermost fun _ => reached)
      ⟨reached, grounded⟩ has).bind ?_
    rintro found _ ⟨rfl, _⟩
    exact .pure rfl

end UnitResolution.Library.Reader
