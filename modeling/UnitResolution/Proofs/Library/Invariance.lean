import UnitResolution.Proofs.Library.Nesting

/-!
# What a library keeps

A condition on states that every single access of a library keeps
(`UnitResolution.Library.Reader.Invariant`) is kept by everything that a library does. This needs
neither sources that stay as they are nor a memory that is right about them.

The facts that an outcome rests on are facts about states on the way, all of which satisfy the
condition: a failed unit had no source in one of them (`UnitResolution.Library.Reader.Fails`), and a
unit that has been found was kept in one of them (`UnitResolution.Library.Reader.Holds`). In these
terms `UnitResolution.Library.Reader.Maintains.resolveProgram` says what is in the report of a
program.
-/

namespace UnitResolution

open Library Script

/-- The identifiers that are tried for an import. -/
def Memory.tried (m : Memory) (imported : String) : List String :=
  match m.aliases.lookup imported with
  | some identifier => [identifier]
  | none => Identifier.candidates imported

theorem Memory.tried_ne_nil (m : Memory) (imported : String) : m.tried imported ≠ [] := by
  unfold tried
  split
  · exact List.cons_ne_nil _ _
  · exact Sources.candidates_ne_nil imported

namespace Library

/-- A unit is one that a text may stand for, whatever is imported. -/
def MayBe (options : InferenceOptions) (contents : String) (unit : LibraryUnit) : Prop :=
  readUnit (m := Possibly) options (fun _ _ _ => True) unit.identifier contents (.ok unit)

namespace Reader

variable {σ : Type}

/-! ## Conditions on states -/

section Facts

variable (r : Reader σ) (inv : Memory × σ → Prop)

/-- In some state that satisfies the condition, an identifier has no source, for a reason. -/
def Fails (identifier : String) (d : Diagnostic) : Prop :=
  ∃ m s, inv (m, s) ∧ (r.surroundings.source identifier s).1 = .ok (.error d)

/-- In some state that satisfies the condition, a unit is kept for an identifier. -/
def Holds (identifier : String) (unit : LibraryUnit) : Prop :=
  ∃ m s, inv (m, s) ∧ m.units.find? identifier = some unit

/-- In some state that satisfies the condition, the identifier of a unit has a source whose text the
unit may stand for. -/
def Stems (unit : LibraryUnit) : Prop :=
  ∃ m s source, inv (m, s) ∧ (r.surroundings.source unit.identifier s).1 = .ok (.ok source) ∧
    MayBe r.configuration.inference source.contents unit

/-- A condition on states that every access to them keeps. -/
structure Invariant : Prop where
  get : ∀ {m s} identifier, inv (m, s) →
    inv ({ m with units := (m.units.get identifier).2 }, s)
  source : ∀ {m s} identifier, inv (m, s) → inv (m, (r.surroundings.source identifier s).2)
  log : ∀ {m s} unit, r.configuration.verbose = true → inv (m, s) →
    inv (m, r.surroundings.log (resolvedLine unit) s)
  /-- A unit is kept that has been read from its source. -/
  keep : ∀ {m s unit}, inv (m, s) → r.Stems inv unit →
    inv ({ m with units := m.units.set unit.identifier unit }, s)
  /-- An identifier is remembered that has been tried for the import, and had a unit. -/
  remember : ∀ {m s imported identifier unit}, inv (m, s) →
    (∃ m' s', inv (m', s') ∧ identifier ∈ m'.tried imported) → Holds inv identifier unit →
    inv ({ m with aliases := Table.set imported identifier m.aliases }, s)

/-- From states that satisfy a condition, an operation comes to such states, and its answers satisfy
another one. -/
def Maintains {α : Type} (x : Operation σ α) (post : α → Prop) : Prop :=
  ∀ state, inv state → inv (x state).2 ∧ ∀ a, (x state).1 = .ok a → post a

/-- What resolving a unit may come to. -/
inductive Settled (u : String) : Except Diagnostic LibraryUnit → Prop
  | failed {d : Diagnostic} (failed : r.Fails inv u d) : Settled u (.error d)
  | held {unit : LibraryUnit} (held : Holds inv u unit) : Settled u (.ok unit)

/-- What following an import may come to while no unit is being read. -/
inductive Followed (imported : String) : Imported → Prop
  /-- Everything that is tried fails, and the first failure is the reason. -/
  | failed {m : Memory} {s : σ} {first : String} {rest : List String} {reason : Diagnostic}
      (state : inv (m, s)) (tried : m.tried imported = first :: rest)
      (failed : r.Fails inv first reason) (others : ∀ c ∈ rest, ∃ d, r.Fails inv c d) :
      Followed imported (.failed reason)
  | served {identifier : String} {unit : LibraryUnit} (held : Holds inv identifier unit) :
      Followed imported (.served unit)

/-- The diagnostic is one of the text of a unit, or tells that one of its imports has no source. -/
inductive Blames (unit : LibraryUnit) (d : Diagnostic) : Prop
  | text (member : d ∈ unit.diagnostics)
  | imported {imported : String} {reason : Diagnostic} (member : imported ∈ unit.imports)
      (followed : r.Followed inv imported (.failed reason))
      (same : d = unresolvedImport imported unit.identifier (some reason))

end Facts

variable {r : Reader σ} {inv : Memory × σ → Prop}

/-! ## Rules -/

namespace Maintains

variable {α β : Type} {x : Operation σ α} {f : α → Operation σ β} {post stronger : α → Prop}
  {final : β → Prop}

theorem imp (maintains : Maintains inv x stronger) (weaker : ∀ a, stronger a → post a) :
    Maintains inv x post := by
  intro state holds
  obtain ⟨after, answers⟩ := maintains state holds
  exact ⟨after, fun a answer => weaker a (answers a answer)⟩

protected theorem pure {a : α} (holds : post a) : Maintains inv (pure a) post :=
  fun _ state => ⟨state, fun _ same => Except.ok.inj same ▸ holds⟩

theorem interrupt (i : Interruption) : Maintains inv (Library.interrupt i) post :=
  fun _ state => ⟨state, nofun⟩

theorem lift (outcome : Except Interruption α) :
    Maintains inv (liftM outcome) fun a => outcome = .ok a := by
  cases outcome with
  | ok a => exact Maintains.pure rfl
  | error i => exact interrupt i

protected theorem bind (first : Maintains inv x post)
    (next : ∀ a, post a → Maintains inv (f a) final) : Maintains inv (x >>= f) final := by
  intro state holds
  obtain ⟨between, answers⟩ := first state holds
  rw [run_bind]
  generalize x state = run at between answers
  obtain ⟨o, middle⟩ := run
  cases o with
  | error i => exact ⟨between, nofun⟩
  | ok a => exact next a (answers a rfl) middle between

/-- What an operation maintains, beside what its answers may be. -/
def correspondence (inv : Memory × σ → Prop) : Correspondence (Operation σ) Possibly where
  rel V x y := Maintains inv x fun a => ∃ b, V a b ∧ y (.ok b)
  imp maintains weaker := maintains.imp fun _ ⟨b, related, possible⟩ =>
    ⟨b, weaker _ b related, possible⟩
  pure related := .pure ⟨_, related, rfl⟩
  bind first second := first.bind fun a ⟨b, related, before⟩ =>
    (second a b related).imp fun _ ⟨d, related', after⟩ => ⟨d, related', .inl ⟨b, before, after⟩⟩

/-! ## Access to the state -/

section Access

variable (invariant : r.Invariant inv)
include invariant

theorem keptUnit (identifier : String) :
    Maintains inv (Library.keptUnit identifier) fun kept =>
      ∀ unit, kept = some unit → Holds inv identifier unit := by
  rintro ⟨m, s⟩ state
  refine ⟨invariant.get identifier state, fun kept answer unit found => ?_⟩
  cases found
  refine ⟨m, s, state, ?_⟩
  rw [← Cache.get_fst]
  exact Except.ok.inj answer

theorem source (identifier : String) :
    Maintains inv (inSurroundings (r.surroundings.source identifier)) fun found =>
      ∃ m s, inv (m, s) ∧ (r.surroundings.source identifier s).1 = .ok found := by
  rintro ⟨m, s⟩ state
  exact ⟨invariant.source identifier state, fun found answer => ⟨m, s, state, answer⟩⟩

theorem logResolved (unit : LibraryUnit) :
    Maintains inv (Library.logResolved r unit) fun _ => True := by
  rintro ⟨m, s⟩ state
  refine ⟨?_, fun _ _ => trivial⟩
  change inv (m, if r.configuration.verbose then r.surroundings.log (resolvedLine unit) s else s)
  split
  · next verbose => exact invariant.log unit verbose state
  · exact state

theorem keep {unit : LibraryUnit} (stems : r.Stems inv unit) :
    Maintains inv (Library.keep unit) fun _ => Holds inv unit.identifier unit := by
  rintro ⟨m, s⟩ state
  have after := invariant.keep state stems
  exact ⟨after, fun _ _ => ⟨_, s, after, Cache.find?_set_self _ _ _⟩⟩

theorem rememberAlias {imported identifier : String} {unit : LibraryUnit}
    (tried : ∃ m s, inv (m, s) ∧ identifier ∈ m.tried imported)
    (held : Holds inv identifier unit) :
    Maintains inv (Library.rememberAlias imported identifier) fun _ => True :=
  fun _ state => ⟨invariant.remember state tried held, fun _ _ => trivial⟩

end Access

theorem candidatesOf (imported : String) :
    Maintains inv (Library.candidatesOf imported) fun list =>
      ∃ m s, inv (m, s) ∧ m.tried imported = list := by
  rintro ⟨m, s⟩ state
  have run : Library.candidatesOf imported (m, s) = (.ok (m.tried imported), (m, s)) := by
    simp only [Library.candidatesOf, Memory.tried]
    cases m.aliases.lookup imported <;> rfl
  rw [run]
  exact ⟨state, fun list answer => ⟨m, s, state, Except.ok.inj answer⟩⟩

/-! ## Following, searching, reading -/

section Following

variable {resolve : String → Operation σ (Except Diagnostic LibraryUnit)} {imported : String}

/-- Candidates are tried until one has a unit, and the first failure is remembered. -/
theorem tryCandidates (invariant : r.Invariant inv)
    (settled : ∀ c, Maintains inv (resolve c) (r.Settled inv c)) (pending : List String)
    {list : List String}
    (tried : ∀ c ∈ list, ∃ m s, inv (m, s) ∧ c ∈ m.tried imported) (reason : Option Diagnostic) :
    Maintains inv (Library.tryCandidates resolve pending imported list reason) fun found =>
      match found with
      | .pending => (∃ c ∈ list, c ∈ pending) ∨ list = [] ∧ reason = none
      | .failed d => (∀ c ∈ list, ∃ d, r.Fails inv c d) ∧
          (reason = some d ∨ reason = none ∧ ∃ c ∈ list.head?, r.Fails inv c d)
      | .served unit => ∃ identifier, Holds inv identifier unit := by
  induction list generalizing reason with
  | nil =>
      unfold Library.tryCandidates
      cases reason with
      | none => exact .pure (.inr ⟨rfl, rfl⟩)
      | some d => exact .pure ⟨List.forall_mem_nil _, .inl rfl⟩
  | cons c rest ih =>
      obtain ⟨here, others⟩ := List.forall_mem_cons.mp tried
      unfold Library.tryCandidates
      split
      · next member => exact .pure (.inl ⟨c, List.mem_cons_self, member⟩)
      · refine (settled c).bind fun found settled => ?_
        cases settled with
        | held held =>
            exact (rememberAlias invariant here held).bind fun _ _ => .pure ⟨c, held⟩
        | @failed d failed =>
            refine (ih others (some (reason.getD d))).imp fun found led => ?_
            cases found with
            | pending =>
                rcases led with ⟨e, member, open'⟩ | ⟨_, impossible⟩
                · exact .inl ⟨e, List.mem_cons_of_mem c member, open'⟩
                · cases impossible
            | served unit => exact led
            | failed e =>
                obtain ⟨all, why⟩ := led
                refine ⟨List.forall_mem_cons.mpr ⟨⟨d, failed⟩, all⟩, ?_⟩
                rcases why with same | ⟨impossible, _⟩
                · cases reason with
                  | some first => exact .inl same
                  | none =>
                      cases same
                      exact .inr ⟨rfl, c, rfl, failed⟩
                · cases impossible

theorem followImport (invariant : r.Invariant inv)
    (settled : ∀ c, Maintains inv (resolve c) (r.Settled inv c)) (pending : List String)
    (imported : String) :
    Maintains inv (Library.followImport resolve pending imported) fun found =>
      (pending = [] → r.Followed inv imported found) := by
  unfold Library.followImport
  refine (candidatesOf imported).bind fun list ⟨m, s, state, same⟩ => ?_
  subst same
  refine (tryCandidates invariant settled pending (fun c member => ⟨m, s, state, member⟩)
    none).imp fun found led => ?_
  rintro rfl
  cases found with
  | pending =>
      rcases led with ⟨_, _, impossible⟩ | ⟨impossible, _⟩
      · cases impossible
      · exact absurd impossible (m.tried_ne_nil imported)
  | served unit =>
      obtain ⟨identifier, held⟩ := led
      exact .served held
  | failed d =>
      obtain ⟨all, impossible | ⟨_, c, first, failed⟩⟩ := led
      · cases impossible
      · obtain ⟨rest, tried⟩ := List.head?_eq_some_iff.mp first
        refine .failed state tried failed fun e member => all e ?_
        rw [tried]
        exact List.mem_cons_of_mem c member

end Following

/-- A search asks for nothing but what following imports does. -/
theorem typeOfExport {follow : String → Operation σ Imported}
    (follows : ∀ imported, Maintains inv (follow imported) fun _ => True) (limit : Nat)
    (imported name : String) (seen : List String) :
    Maintains inv (Library.typeOfExport follow limit imported name seen) fun _ => True := by
  induction limit generalizing imported name seen with
  | zero => exact interrupt .tooDeep
  | succ limit ih =>
      unfold Library.typeOfExport
      split
      · exact .pure trivial
      · refine (follows imported).bind fun found _ => ?_
        cases found with
        | pending => exact .pure trivial
        | failed d => exact .pure trivial
        | served unit =>
            have searched : (correspondence inv).rel (Correspondence.SameFound fun _ => True)
                (Library.searchUnit (Library.typeOfExport follow limit) unit name
                  (searchKey imported name :: seen))
                (Library.searchUnit (fun _ _ _ _ => True) unit name
                  (searchKey imported name :: seen)) :=
              (correspondence inv).searchUnit unit name trivial
                (fun e _ => (ih _ _ _).imp fun a _ => ⟨a, ⟨rfl, trivial⟩, trivial⟩)
                fun source _ seen _ => (ih _ _ _).imp fun a _ => ⟨a, ⟨rfl, trivial⟩, trivial⟩
            exact searched.imp fun _ _ => trivial

/-- What has been read of a text is a unit that the text may stand for. -/
theorem readUnit {typeOf : String → String → Operation σ (Option String)}
    (typed : ∀ imported name, Maintains inv (typeOf imported name) fun _ => True)
    (options : InferenceOptions) (identifier contents : String) :
    Maintains inv (Library.readUnit options typeOf identifier contents) fun unit =>
      unit.identifier = identifier ∧ MayBe options contents unit := by
  have read : (correspondence inv).rel (LibraryUnit.Like Eq)
      (Library.readUnit options typeOf identifier contents)
      (Library.readUnit options (fun _ _ _ => True) identifier contents) := by
    refine (correspondence inv).readUnit compatible_eq options (fun text _ => ?_)
      fun _ _ _ b _ => (typed _ _).imp fun a _ => ⟨a, rfl, trivial⟩
    refine (correspondence inv).of_orInterrupt ((lift (orInterrupt text)).imp fun a done => ?_)
    exact ⟨a, ⟨rfl, done⟩, done.symm⟩
  refine read.imp fun unit ⟨other, like, possible⟩ => ?_
  cases like.eq
  have named : unit.identifier = identifier := (Sources.surfaceIn_of_readUnit possible).2
  refine ⟨named, ?_⟩
  unfold MayBe
  rwa [named]

/-- A unit is built of a source that its identifier has in some state, and is kept. -/
theorem build (invariant : r.Invariant inv)
    {resolve : String → Operation σ (Except Diagnostic LibraryUnit)}
    (settled : ∀ c, Maintains inv (resolve c) (r.Settled inv c)) (inside : List String) {u : String}
    {source : Source}
    (answer : ∃ m s, inv (m, s) ∧ (r.surroundings.source u s).1 = .ok (.ok source)) :
    Maintains inv (Reader.build r resolve inside u source) (Holds inv u) := by
  have typed (imported name : String) : Maintains inv
      (importedType (Library.followImport resolve inside) r.depthLimit imported name)
      fun _ => True := by
    refine (typeOfExport (fun imported => ?_) r.depthLimit imported name []).bind
      fun _ _ => .pure trivial
    exact (followImport invariant settled inside imported).imp fun _ _ => trivial
  unfold Reader.build
  refine (readUnit typed r.configuration.inference u source.contents).bind
    fun unit ⟨named, text⟩ => ?_
  subst named
  obtain ⟨m, s, state, answer⟩ := answer
  refine (logResolved invariant unit).bind fun _ _ => ?_
  exact (keep invariant ⟨m, s, source, state, answer, text⟩).bind fun _ held => .pure held

theorem resolveUnit (invariant : r.Invariant inv) (depth : Nat) (pending : List String)
    (u : String) : Maintains inv (Library.resolveUnit r depth pending u) (r.Settled inv u) := by
  induction depth generalizing pending u with
  | zero => exact interrupt .tooDeep
  | succ depth ih =>
      rw [resolveUnit_succ]
      unfold resolveBy
      refine (keptUnit invariant u).bind fun kept held => ?_
      cases kept with
      | some unit => exact .pure (.held (held unit rfl))
      | none =>
          refine (source invariant u).bind fun found answer => ?_
          cases found with
          | error d => exact .pure (.failed answer)
          | ok source =>
              exact (build invariant (ih (u :: pending)) (u :: pending) answer).bind
                fun _ held => .pure (.held held)

theorem resolveImport (invariant : r.Invariant inv) (imported : String) :
    Maintains inv (Library.resolveImport r imported) (r.Followed inv imported) :=
  (followImport invariant (resolveUnit invariant r.depthLimit []) [] imported).imp
    fun _ followed => followed rfl

/-- A unit is resolved to one that is kept, or to the report of why it has no source. -/
theorem resolveLibrary (invariant : r.Invariant inv) (u : String) :
    Maintains inv (Library.resolveLibrary r u) fun found =>
      match found with
      | .error report => ∃ d, report = .single d ∧ r.Fails inv u d
      | .ok unit => Holds inv u unit := by
  refine (resolveUnit invariant r.depthLimit [] u).bind fun found settled => .pure ?_
  cases settled with
  | failed failed => exact ⟨_, rfl, failed⟩
  | held held => exact held

end Maintains

/-! ## Walking -/

/-- A walk has gone on while units are active: what is new comes from units that are kept, and what
is new in its report is blamed on a unit whose walk has begun. -/
structure Extends (r : Reader σ) (inv : Memory × σ → Prop) (active : List LibraryUnit)
    (w w' : Walk) : Prop where
  units : w.units ⊆ w'.units
  held : ∀ u ∈ w'.units, u ∈ w.units ∨ ∃ identifier, Holds inv identifier u
  report : ∀ d ∈ w'.report.diagnostics, d ∈ w.report.diagnostics ∨
    ∃ u ∈ w'.begun active, r.Blames inv u d

namespace Extends

variable {active : List LibraryUnit} {unit : LibraryUnit} {w w' w'' : Walk}

theorem refl (w : Walk) : r.Extends inv active w w where
  units := List.Subset.refl _
  held _ member := .inl member
  report _ member := .inl member

theorem trans (first : r.Extends inv active w w') (second : r.Extends inv active w' w'') :
    r.Extends inv active w w'' where
  units := List.Subset.trans first.units second.units
  held u member := (second.held u member).elim (first.held u) .inr
  report d member := by
    rcases second.report d member with old | new
    · rcases first.report d old with old | ⟨u, begun, blames⟩
      · exact .inl old
      · refine .inr ⟨u, ?_, blames⟩
        rcases List.mem_append.mp begun with walked | active
        · exact List.mem_append_left _ (second.units walked)
        · exact List.mem_append_right _ active
    · exact .inr new

/-- What has gone on while no unit was active may have done so while one was. -/
theorem within (extends' : r.Extends inv [] w w') : r.Extends inv active w w' where
  units := extends'.units
  held := extends'.held
  report d member := (extends'.report d member).imp_right fun ⟨u, begun, blames⟩ =>
    ⟨u, List.mem_append_left _ (List.append_nil w'.units ▸ begun), blames⟩

/-- Meeting further imports changes nothing else. -/
theorem visit (visited : List String) (w : Walk) :
    r.Extends inv active w { w with visited } where
  units := List.Subset.refl _
  held _ member := .inl member
  report _ member := .inl member

/-- A diagnostic that is blamed on the active unit is added. -/
theorem add {d : Diagnostic} (blames : r.Blames inv unit d) (w : Walk) :
    r.Extends inv [unit] w { w with report := w.report.add d } where
  units := List.Subset.refl _
  held _ member := .inl member
  report e member := by
    rcases List.mem_append.mp member with old | new
    · exact .inl old
    · rw [List.mem_singleton.mp new]
      exact .inr ⟨unit, List.mem_append_right _ List.mem_cons_self, blames⟩

/-- A unit becomes active with the diagnostics of its text. -/
theorem enter (unit : LibraryUnit) (w : Walk) :
    r.Extends inv [unit] w { w with report := w.report.merge ⟨unit.diagnostics⟩ } where
  units := List.Subset.refl _
  held _ member := .inl member
  report _ member := (List.mem_append.mp member).imp_right fun text =>
    ⟨unit, List.mem_append_right _ List.mem_cons_self, .text text⟩

/-- The active unit is done. -/
theorem leave {identifier : String} (held : Holds inv identifier unit)
    (extends' : r.Extends inv [unit] w w') :
    r.Extends inv [] w { w' with units := w'.units ++ [unit] } where
  units := List.Subset.trans extends'.units (List.subset_append_left _ _)
  held u member := by
    rcases List.mem_append.mp member with walked | last
    · exact extends'.held u walked
    · rw [List.mem_singleton.mp last]
      exact .inr ⟨identifier, held⟩
  report d member := (extends'.report d member).imp_right fun ⟨u, begun, blames⟩ =>
    ⟨u, List.mem_append_left _ begun, blames⟩

end Extends

namespace Maintains

theorem visitImports (invariant : r.Invariant inv)
    {visit : LibraryUnit → Walk → Operation σ Walk}
    (visits : ∀ identifier u, Holds inv identifier u → ∀ w,
      Maintains inv (visit u w) (r.Extends inv [] w))
    (unit : LibraryUnit) (list : List String) (imports : list ⊆ unit.imports) (w : Walk) :
    Maintains inv (Library.visitImports r visit unit.identifier list w)
      (r.Extends inv [unit] w) := by
  induction list generalizing w with
  | nil => exact .pure (.refl w)
  | cons imported rest ih =>
      obtain ⟨member, others⟩ := List.cons_subset.mp imports
      have further {w₁ : Walk} (so : r.Extends inv [unit] w w₁) :
          Maintains inv (Library.visitImports r visit unit.identifier rest w₁)
            (r.Extends inv [unit] w) := (ih others w₁).imp fun _ => so.trans
      unfold Library.visitImports
      split
      · exact ih others w
      · refine (resolveImport invariant imported).bind fun found followed => ?_
        cases followed with
        | failed state tried failed rest =>
            refine further ((Extends.visit _ w).trans (.add ?_ _))
            exact .imported member (.failed state tried failed rest) rfl
        | @served identifier dependency held =>
            have visited (met : List String) :=
              (visits identifier dependency held { w with visited := met }).bind fun w₁ so =>
                further ((Extends.visit met w).trans so.within)
            dsimp only
            split
            · exact visited _
            · split
              · exact further (Extends.visit _ w)
              · exact visited _

theorem visitUnit (invariant : r.Invariant inv) (depth : Nat) {identifier : String}
    {unit : LibraryUnit} (held : Holds inv identifier unit) (w : Walk) :
    Maintains inv (Library.visitUnit r depth unit w) (r.Extends inv [] w) := by
  induction depth generalizing identifier unit w with
  | zero => exact interrupt .tooDeep
  | succ depth ih =>
      unfold Library.visitUnit
      refine (visitImports invariant (fun _ u held w => ih held w) unit unit.imports
        (List.Subset.refl _) _).bind fun w' so => .pure ?_
      exact ((Extends.enter unit w).trans so).leave held

/-- A program has units that are kept, and everything in its report is blamed on one of them. -/
theorem resolveProgram (invariant : r.Invariant inv) (entry : String) :
    Maintains inv (Library.resolveProgram r entry) fun found =>
      match found with
      | .error report => ∃ d, report = .single d ∧ r.Fails inv entry d
      | .ok program => (∀ u ∈ program.units, ∃ identifier, Holds inv identifier u) ∧
          ∀ d ∈ program.report.diagnostics, ∃ u ∈ program.units, r.Blames inv u d := by
  refine (resolveLibrary invariant entry).bind fun found resolved => ?_
  cases found with
  | error report => exact .pure resolved
  | ok unit =>
      refine (visitUnit invariant r.depthLimit resolved _).bind fun w so => .pure ⟨?_, ?_⟩
      · intro u member
        exact (so.held u member).resolve_left (List.not_mem_nil)
      · intro d member
        obtain ⟨u, begun, blames⟩ := (so.report d member).resolve_left List.not_mem_nil
        exact ⟨u, List.append_nil w.units ▸ begun, blames⟩

end Maintains
end Reader
end Library

end UnitResolution
