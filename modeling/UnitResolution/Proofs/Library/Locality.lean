import UnitResolution.Proofs.Library.Answers
import UnitResolution.Proofs.Library.Nesting

/-!
# Locality

What a library answers for a unit depends on few sources: that of the unit, and for every import of
a unit that matters, those of the candidates up to the first one that has a source. Two libraries
whose sources agree on a set that is closed in this way (`UnitResolution.Sources.AgreeOn`), and that
have remembered the same so far, answer the same and remember the same again
(`UnitResolution.Library.Reader.Together`).

The proof follows the code, like that for other depth limits, but for two libraries above different
surroundings. What carries it is that every import that is followed is one of a unit in the set
(`UnitResolution.Library.Reader.Inside`), whether the unit has been read just now or is kept from
before.

Where inference does not follow imports, no import is followed to read a unit, and just one source
matters (`UnitResolution.Library.Reader.resolveLibrary_alone`). The theorem
`UnitResolution.Library.Reader.resolve_local` states both.
-/

namespace UnitResolution

open Library Script

/-! ## What is asked for -/

namespace Sources

/-- The identifiers of a list up to the first one that does not just fail: that one has a source, or
it interrupts. -/
def probed (sources : Sources) : List String → List String
  | [] => []
  | c :: rest =>
      match sources c with
      | .ok (.error _) => c :: probed sources rest
      | _ => [c]

/-- Two kinds of sources agree on a set, which has every identifier that is asked for to follow the
imports of its units. -/
structure AgreeOn (sources other : Sources) (set : Set String) : Prop where
  same : ∀ v ∈ set, sources v = other v
  closed : ∀ v ∈ set, ∀ imported ∈ (sources.surface v).imports,
    ∀ c ∈ sources.probed (Identifier.candidates imported), c ∈ set

theorem mem_probed_cons (sources : Sources) (c : String) (rest : List String) :
    c ∈ sources.probed (c :: rest) := by
  unfold probed
  split <;> exact List.mem_cons_self

theorem mem_of_mem_probed {sources : Sources} {c : String} {list : List String}
    (member : c ∈ sources.probed list) : c ∈ list := by
  induction list with
  | nil => exact member
  | cons first rest ih =>
      unfold probed at member
      split at member
      · rcases List.mem_cons.mp member with rfl | later
        · exact List.mem_cons_self
        · exact List.mem_cons_of_mem first (ih later)
      · rw [List.mem_singleton.mp member]
        exact List.mem_cons_self

theorem probed_cons_of_failed {sources : Sources} {c : String} {d : Diagnostic}
    (failed : sources c = .ok (.error d)) (rest : List String) :
    sources.probed (c :: rest) = c :: sources.probed rest := by
  rw [probed, failed]

end Sources

/-- Logging leaves surroundings with their sources. -/
theorem Surroundings.Serves.logged {σ : Type} {w : Surroundings σ} {s : σ} {sources : Sources}
    (serves : w.Serves s sources) (verbose : Bool) (line : String) :
    w.Serves (if verbose then w.log line s else s) sources := by
  split
  · have course : w.Course (fun _ => True) s (w.log line s) := .log line .refl
    exact serves.later course
  · exact serves

/-- The surroundings, with a list of what they have been asked for. -/
def Surroundings.recorded {σ : Type} (w : Surroundings σ) : Surroundings (σ × List String) where
  source identifier := fun (s, asked) =>
    let (answer, s) := w.source identifier s
    (answer, (s, asked ++ [identifier]))
  log line := fun (s, asked) => (w.log line s, asked)

namespace Library.Reader

variable {σ τ : Type}

/-- The library above other surroundings. -/
def above (r : Reader σ) (w : Surroundings τ) : Reader τ where
  configuration := r.configuration
  surroundings := w
  depthLimit := r.depthLimit

/-- Everything that a memory holds leads to units of a set: what has served an import is one, and a
kept unit exchanges what its source does. -/
structure Inside (sources : Sources) (set : Set String) (m : Memory) : Prop where
  units : ∀ entry ∈ m.units.entries, entry.2.surface = sources.surface entry.1
  aliases : ∀ entry ∈ m.aliases, entry.2 ∈ set

/-- Two libraries remember the same, and both have their sources. -/
structure Abreast (r : Reader σ) (w : Surroundings τ) (sources other : Sources)
    (set : Set String) (s : Memory × σ) (t : Memory × τ) : Prop where
  memory : s.1 = t.1
  inside : Inside sources set s.1
  left : r.surroundings.Serves s.2 sources
  right : w.Serves t.2 other

/-- From libraries that remember the same, two operations come to related outcomes, and to libraries
that remember the same again. -/
def Together (r : Reader σ) (w : Surroundings τ) (sources other : Sources) (set : Set String)
    {α β : Type} (V : α → β → Prop) (x : Operation σ α) (y : Operation τ β) : Prop :=
  ∀ s t, Abreast r w sources other set s t →
    Alike V (x s).1 (y t).1 ∧ Abreast r w sources other set (x s).2 (y t).2

variable {r : Reader σ} {w : Surroundings τ} {sources other : Sources} {set : Set String}

/-- Every answer of an operation is related to one that is possible. -/
def answers (σ : Type) : Correspondence (Operation σ) Possibly where
  rel V x y := ∀ s a next, x s = (.ok a, next) → ∃ b, V a b ∧ y (.ok b)
  imp same weaker s a next run := by
    obtain ⟨b, related, possible⟩ := same s a next run
    exact ⟨b, weaker a b related, possible⟩
  pure related s a next run := by
    cases run
    exact ⟨_, related, rfl⟩
  bind {_ _ _ _ _ _ x _ _ _} first second s c next run := by
    rw [run_bind] at run
    cases ran : x s with
    | mk o s' =>
        rw [ran] at run
        cases o with
        | error i => cases run
        | ok a =>
            obtain ⟨b, related, before⟩ := first s a s' ran
            obtain ⟨d, related', after⟩ := second a b related s' c next run
            exact ⟨d, related', .inl ⟨b, before, after⟩⟩

/-- What a unit that has been read exchanges with other units is what its text does. -/
theorem surfaceIn_of_run {options : InferenceOptions}
    {typeOf : String → String → Operation σ (Option String)} {u contents : String}
    {unit : LibraryUnit} {s next : Memory × σ}
    (run : readUnit options typeOf u contents s = (.ok unit, next)) :
    surfaceIn u contents = .ok unit.surface ∧ unit.identifier = u := by
  have related : (answers σ).rel (LibraryUnit.Like fun _ _ => True)
      (readUnit options typeOf u contents) (readUnit options (fun _ _ _ => True) u contents) := by
    refine (answers σ).readUnit compatible_true options (fun read _ s a next run => ?_)
      fun _ _ _ _ _ _ _ _ _ => ⟨none, trivial, trivial⟩
    cases read with
    | error e => cases run
    | ok _ =>
        cases run
        exact ⟨_, ⟨rfl, rfl⟩, rfl⟩
  obtain ⟨other, like, possible⟩ := related s unit next run
  obtain ⟨exchanged, named⟩ := Sources.surfaceIn_of_readUnit possible
  exact ⟨like.surface ▸ exchanged, like.identifier.trans named⟩

namespace Together

variable {α β γ δ : Type} {V W : α → β → Prop} {x : Operation σ α} {y : Operation τ β}

theorem imp (together : Together r w sources other set V x y) (weaker : ∀ a b, V a b → W a b) :
    Together r w sources other set W x y := by
  intro s t abreast
  obtain ⟨alike, after⟩ := together s t abreast
  exact ⟨alike.imp weaker, after⟩

protected theorem pure {a : α} {b : β} (related : V a b) :
    Together r w sources other set V (pure a) (pure b) :=
  fun _ _ abreast => ⟨.ok related, abreast⟩

protected theorem bind {U : γ → δ → Prop} {f : α → Operation σ γ} {g : β → Operation τ δ}
    (first : Together r w sources other set V x y)
    (second : ∀ a b, V a b → Together r w sources other set U (f a) (g b)) :
    Together r w sources other set U (x >>= f) (y >>= g) := by
  intro s t abreast
  rw [run_bind, run_bind]
  obtain ⟨alike, after⟩ := first s t abreast
  generalize x s = run at alike after
  generalize y t = run' at alike after
  obtain ⟨o, s'⟩ := run
  obtain ⟨p, t'⟩ := run'
  cases alike with
  | ok related => exact second _ _ related s' t' after
  | error => exact ⟨.error, after⟩

/-- Two libraries that run together. -/
def correspondence (r : Reader σ) (w : Surroundings τ) (sources other : Sources)
    (set : Set String) : Correspondence (Operation σ) (Operation τ) where
  rel V x y := Together r w sources other set V x y
  imp := imp
  pure := Together.pure
  bind := Together.bind

theorem interrupt (i : Interruption) :
    Together r w sources other set V (Library.interrupt i) (Library.interrupt i) :=
  fun _ _ abreast => ⟨.error, abreast⟩

theorem lift (outcome : Except Interruption α) :
    Together r w sources other set (fun a b => a = b ∧ outcome = .ok a) (liftM outcome)
      (liftM outcome) := by
  cases outcome with
  | ok a => exact Together.pure ⟨rfl, rfl⟩
  | error i => exact interrupt i

/-- What holds of every answer of the first operation. -/
theorem and_left {P : α → Prop} (together : Together r w sources other set V x y)
    (holds : ∀ s a next, x s = (.ok a, next) → P a) :
    Together r w sources other set (fun a b => V a b ∧ P a) x y := by
  intro s t abreast
  obtain ⟨alike, after⟩ := together s t abreast
  refine ⟨?_, after⟩
  have answer := holds s
  generalize x s = run at alike answer
  generalize (y t).1 = p at alike
  obtain ⟨o, next⟩ := run
  cases alike with
  | ok related => exact .ok ⟨related, answer _ _ rfl⟩
  | error => exact .error

/-! ## Access to the state -/

theorem keptUnit (identifier : String) :
    Together r w sources other set
      (fun a b => a = b ∧ ∀ unit, a = some unit → unit.surface = sources.surface identifier)
      (Library.keptUnit identifier) (Library.keptUnit identifier) := by
  rintro ⟨m, s⟩ ⟨m', t⟩ ⟨rfl, inside, left, right⟩
  refine ⟨.ok ⟨rfl, fun unit found => inside.units _ (Cache.mem_of_get found)⟩, rfl, ?_, left,
    right⟩
  exact ⟨fun entry member => inside.units entry (Cache.mem_entries_get member), inside.aliases⟩

theorem candidatesOf (imported : String) :
    Together r w sources other set
      (fun a b => a = b ∧ (a = Identifier.candidates imported ∨ ∃ c ∈ set, a = [c]))
      (Library.candidatesOf imported) (Library.candidatesOf imported) := by
  rintro ⟨m, s⟩ ⟨m', t⟩ ⟨rfl, inside, left, right⟩
  unfold Library.candidatesOf
  dsimp only
  cases found : m.aliases.lookup imported with
  | none => exact ⟨.ok ⟨rfl, .inl rfl⟩, rfl, inside, left, right⟩
  | some c =>
      have member : c ∈ set := inside.aliases _ (Table.mem_of_lookup found)
      exact ⟨.ok ⟨rfl, .inr ⟨c, member, rfl⟩⟩, rfl, inside, left, right⟩

theorem rememberAlias (imported : String) {identifier : String} (member : identifier ∈ set) :
    Together r w sources other set Eq (Library.rememberAlias imported identifier)
      (Library.rememberAlias imported identifier) := by
  rintro ⟨m, s⟩ ⟨m', t⟩ ⟨rfl, inside, left, right⟩
  refine ⟨.ok rfl, rfl, ⟨inside.units, fun entry among => ?_⟩, left, right⟩
  rcases Table.mem_set among with among | rfl
  · exact inside.aliases entry among
  · exact member

theorem keep {unit : LibraryUnit} (exchanged : unit.surface = sources.surface unit.identifier) :
    Together r w sources other set Eq (Library.keep unit) (Library.keep unit) := by
  rintro ⟨m, s⟩ ⟨m', t⟩ ⟨rfl, inside, left, right⟩
  refine ⟨.ok rfl, rfl, ⟨fun entry among => ?_, inside.aliases⟩, left, right⟩
  rcases Cache.mem_entries_set among with among | rfl
  · exact inside.units entry among
  · exact exchanged

theorem logResolved (unit : LibraryUnit) :
    Together r w sources other set Eq (Library.logResolved r unit)
      (Library.logResolved (r.above w) unit) := by
  rintro ⟨m, s⟩ ⟨m', t⟩ ⟨rfl, inside, left, right⟩
  exact ⟨.ok rfl, rfl, inside, left.logged _ _, right.logged _ _⟩

theorem source {identifier : String} (same : sources identifier = other identifier) :
    Together r w sources other set (fun a b => a = b ∧ sources identifier = .ok a)
      (inSurroundings (r.surroundings.source identifier))
      (inSurroundings (w.source identifier)) := by
  rintro ⟨m, s⟩ ⟨m', t⟩ ⟨rfl, inside, left, right⟩
  have course : r.surroundings.Course (fun _ => True) s (r.surroundings.source identifier s).2 :=
    .source identifier .refl trivial
  have course' : w.Course (fun _ => True) t (w.source identifier t).2 :=
    .source identifier .refl trivial
  refine ⟨?_, rfl, inside, left.later course, right.later course'⟩
  have answer : (r.surroundings.source identifier s).1 = sources identifier :=
    left s .refl identifier
  have answer' : (w.source identifier t).1 = other identifier := right t .refl identifier
  change Alike _ (r.surroundings.source identifier s).1 (w.source identifier t).1
  rw [answer, answer', ← same]
  cases sources identifier with
  | ok found => exact .ok ⟨rfl, rfl⟩
  | error i => exact .error

/-! ## Following, searching, building -/

section Following

variable {resolve : String → Operation σ (Except Diagnostic LibraryUnit)}
  {resolve' : String → Operation τ (Except Diagnostic LibraryUnit)} {pending : List String}

/-- Resolving an identifier comes to the same on both sides: to why it has no source, or to a unit
that exchanges what the source does. -/
def SameUnit (sources : Sources) (identifier : String)
    (a b : Except Diagnostic LibraryUnit) : Prop :=
  a = b ∧ match a with
    | .error d => sources identifier = .ok (.error d)
    | .ok unit => unit.surface = sources.surface identifier

/-- Following an import comes to the same on both sides, and if it is a unit, to one that exchanges
what some source of the set does. -/
def SameImported (sources : Sources) (set : Set String) (a b : Imported) : Prop :=
  a = b ∧ ∀ unit, a = .served unit → ∃ c ∈ set, unit.surface = sources.surface c

/-- Candidates are tried until one has a source, so no others are asked for than those that are
probed. -/
theorem tryCandidates
    (same : ∀ c ∈ set, Together r w sources other set (SameUnit sources c) (resolve c)
      (resolve' c))
    (imported : String) (list : List String) (probed : ∀ c ∈ sources.probed list, c ∈ set)
    (reason : Option Diagnostic) :
    Together r w sources other set (SameImported sources set)
      (Library.tryCandidates resolve pending imported list reason)
      (Library.tryCandidates resolve' pending imported list reason) := by
  induction list generalizing reason with
  | nil =>
      unfold Library.tryCandidates
      cases reason <;>
      · refine Together.pure ⟨rfl, ?_⟩
        rintro _ ⟨⟩
  | cons c rest ih =>
      have member : c ∈ set := probed c (sources.mem_probed_cons c rest)
      unfold Library.tryCandidates
      split
      · refine Together.pure ⟨rfl, ?_⟩
        rintro _ ⟨⟩
      · refine (same c member).bind ?_
        rintro found _ ⟨rfl, what⟩
        cases found with
        | ok unit =>
            refine (rememberAlias imported member).bind fun _ _ _ => Together.pure ⟨rfl, ?_⟩
            rintro _ ⟨⟩
            exact ⟨c, member, what⟩
        | error d =>
            rw [Sources.probed_cons_of_failed what] at probed
            exact ih (fun c' among => probed c' (List.mem_cons_of_mem c among)) _

theorem followImport (agree : sources.AgreeOn other set)
    (same : ∀ c ∈ set, Together r w sources other set (SameUnit sources c) (resolve c)
      (resolve' c))
    {v imported : String} (member : v ∈ set) (imports : imported ∈ (sources.surface v).imports) :
    Together r w sources other set (SameImported sources set)
      (Library.followImport resolve pending imported)
      (Library.followImport resolve' pending imported) := by
  unfold Library.followImport
  refine (candidatesOf imported).bind ?_
  rintro list _ ⟨rfl, which⟩
  refine tryCandidates same imported list ?_ none
  rcases which with rfl | ⟨c, among, rfl⟩
  · exact agree.closed v member imported imports
  · intro c' single
    rw [List.mem_singleton.mp (Sources.mem_of_mem_probed single)]
    exact among

/-- Searches that follow the imports of units of the set together find the same. -/
theorem typeOfExport {follow : String → Operation σ Imported}
    {follow' : String → Operation τ Imported}
    (same : ∀ v ∈ set, ∀ imported ∈ (sources.surface v).imports,
      Together r w sources other set (SameImported sources set) (follow imported)
        (follow' imported))
    (limit : Nat) {v imported : String} (member : v ∈ set)
    (imports : imported ∈ (sources.surface v).imports) (name : String) (seen : List String) :
    Together r w sources other set (Correspondence.SameFound fun _ => True)
      (Library.typeOfExport follow limit imported name seen)
      (Library.typeOfExport follow' limit imported name seen) := by
  induction limit generalizing v imported name seen with
  | zero => exact interrupt _
  | succ limit ih =>
      unfold Library.typeOfExport
      split
      · exact Together.pure ⟨rfl, trivial⟩
      · refine (same v member imported imports).bind ?_
        rintro found _ ⟨rfl, what⟩
        cases found with
        | pending => exact Together.pure ⟨rfl, trivial⟩
        | failed d => exact Together.pure ⟨rfl, trivial⟩
        | served unit =>
            obtain ⟨c, among, surface⟩ := what unit rfl
            have exchanged : unit.surface.Imported := surface ▸ Sources.imported_surface c
            refine (correspondence r w sources other set).searchUnit unit name trivial
              (fun e passed => ?_) fun source passed seen _ => ?_
            · exact ih among (surface ▸ exchanged.reExports e passed) _ _
            · exact ih among (surface ▸ exchanged.starExports source passed) _ _

/-- The text of a unit of the set is read to the same unit, which exchanges what the text does. -/
theorem readUnit {options : InferenceOptions}
    {typeOf : String → String → Operation σ (Option String)}
    {typeOf' : String → String → Operation τ (Option String)} {u : String} {source : Source}
    (served : sources u = .ok (.ok source))
    (same : ∀ imported ∈ (sources.surface u).imports, ∀ name,
      Together r w sources other set (OnAnswers Eq) (typeOf imported name)
        (typeOf' imported name)) :
    Together r w sources other set
      (fun a b => a = b ∧ a.surface = sources.surface u ∧ a.identifier = u)
      (Library.readUnit options typeOf u source.contents)
      (Library.readUnit options typeOf' u source.contents) := by
  have read : Together r w sources other set (LibraryUnit.Like Eq)
      (Library.readUnit options typeOf u source.contents)
      (Library.readUnit options typeOf' u source.contents) := by
    let c := correspondence r w sources other set
    refine c.readUnit compatible_eq options (fun found _ => ?_) fun script read plain b member => ?_
    · exact c.of_orInterrupt (lift (orInterrupt found))
    rw [← Sources.surface_of_script served plain read] at member
    exact same b.source ((Sources.imported_surface u).bindings b member) b.importedName
  refine (and_left read fun s unit next done => surfaceIn_of_run done).imp ?_
  rintro unit unit' ⟨like, exchanged, named⟩
  cases like.eq
  exact ⟨rfl, (Sources.surface_eq served exchanged).symm, named⟩

theorem build (agree : sources.AgreeOn other set)
    (same : ∀ c ∈ set, Together r w sources other set (SameUnit sources c) (resolve c)
      (resolve' c))
    {u : String} (member : u ∈ set) {source : Source} (served : sources u = .ok (.ok source)) :
    Together r w sources other set (fun a b => a = b ∧ a.surface = sources.surface u)
      (r.build resolve pending u source) ((r.above w).build resolve' pending u source) := by
  have typed (imported : String) (imports : imported ∈ (sources.surface u).imports)
      (name : String) : Together r w sources other set (OnAnswers Eq)
      (importedType (Library.followImport resolve pending) r.depthLimit imported name)
      (importedType (Library.followImport resolve' pending) r.depthLimit imported name) := by
    refine (typeOfExport (fun v member imported imports => followImport agree same member imports)
      r.depthLimit member imports name []).bind ?_
    rintro ⟨type, seen⟩ _ ⟨rfl, _⟩
    exact Together.pure rfl
  unfold Reader.build
  refine (readUnit served typed).bind ?_
  rintro unit _ ⟨rfl, surface, named⟩
  refine (logResolved unit).bind fun _ _ _ => ?_
  have exchanged : unit.surface = sources.surface unit.identifier := named ▸ surface
  exact (keep exchanged).bind fun _ _ _ => Together.pure ⟨rfl, surface⟩

end Following

/-- At every depth, the units of the set are read together. -/
theorem resolveUnit (agree : sources.AgreeOn other set) (depth : Nat) (pending : List String)
    {u : String} (member : u ∈ set) :
    Together r w sources other set (SameUnit sources u)
      (Library.resolveUnit r depth pending u)
      (Library.resolveUnit (r.above w) depth pending u) := by
  induction depth generalizing pending u with
  | zero => exact interrupt _
  | succ depth ih =>
      rw [resolveUnit_succ, resolveUnit_succ]
      unfold resolveBy
      refine (keptUnit u).bind ?_
      rintro kept _ ⟨rfl, exchanged⟩
      cases kept with
      | some unit => exact Together.pure ⟨rfl, exchanged unit rfl⟩
      | none =>
          refine (source (agree.same u member)).bind ?_
          rintro found _ ⟨rfl, answer⟩
          cases found with
          | error d => exact Together.pure ⟨rfl, answer⟩
          | ok source =>
              refine (build agree (fun _ among => ih (u :: pending) among) member answer).bind ?_
              rintro unit _ ⟨rfl, surface⟩
              exact Together.pure ⟨rfl, surface⟩

theorem resolveImport (agree : sources.AgreeOn other set) {v imported : String} (member : v ∈ set)
    (imports : imported ∈ (sources.surface v).imports) :
    Together r w sources other set (SameImported sources set)
      (Library.resolveImport r imported) (Library.resolveImport (r.above w) imported) :=
  followImport agree (fun _ among => resolveUnit agree r.depthLimit [] among) member imports

theorem resolveLibrary (agree : sources.AgreeOn other set) {u : String} (member : u ∈ set) :
    Together r w sources other set
      (fun a b => a = b ∧ ∀ unit, a = .ok unit → unit.surface = sources.surface u)
      (Library.resolveLibrary r u) (Library.resolveLibrary (r.above w) u) := by
  unfold Library.resolveLibrary
  refine (resolveUnit agree r.depthLimit [] member).bind ?_
  rintro found _ ⟨rfl, what⟩
  refine Together.pure ⟨rfl, fun unit same => ?_⟩
  cases found with
  | error d => cases same
  | ok unit =>
      cases same
      exact what

/-! ## Walking -/

theorem visitImports (agree : sources.AgreeOn other set)
    {visit : LibraryUnit → Walk → Operation σ Walk} {visit' : LibraryUnit → Walk → Operation τ Walk}
    (same : ∀ c ∈ set, ∀ unit : LibraryUnit, unit.surface = sources.surface c → ∀ walk,
      Together r w sources other set Eq (visit unit walk) (visit' unit walk))
    {v : String} (member : v ∈ set) (unit : String) (list : List String)
    (imports : ∀ imported ∈ list, imported ∈ (sources.surface v).imports) (walk : Walk) :
    Together r w sources other set Eq (Library.visitImports r visit unit list walk)
      (Library.visitImports (r.above w) visit' unit list walk) := by
  induction list generalizing walk with
  | nil => exact Together.pure rfl
  | cons imported rest ih =>
      obtain ⟨first, others⟩ := List.forall_mem_cons.mp imports
      have further {c : String} (among : c ∈ set) {dependency : LibraryUnit}
          (surface : dependency.surface = sources.surface c) (walk : Walk) :
          Together r w sources other set Eq
            (visit dependency walk >>= Library.visitImports r visit unit rest)
            (visit' dependency walk >>= Library.visitImports (r.above w) visit' unit rest) := by
        refine (same c among dependency surface walk).bind ?_
        rintro walk _ rfl
        exact ih others walk
      unfold Library.visitImports
      split
      · exact ih others walk
      · refine (resolveImport agree member first).bind ?_
        rintro found _ ⟨rfl, what⟩
        cases found with
        | pending => exact ih others _
        | failed d => exact ih others _
        | served dependency =>
            obtain ⟨c, among, surface⟩ := what dependency rfl
            dsimp only
            split
            · exact further among surface _
            · split
              · exact ih others _
              · exact further among surface _

theorem visitUnit (agree : sources.AgreeOn other set) (depth : Nat) {v : String} (member : v ∈ set)
    {unit : LibraryUnit} (surface : unit.surface = sources.surface v) (walk : Walk) :
    Together r w sources other set Eq (Library.visitUnit r depth unit walk)
      (Library.visitUnit (r.above w) depth unit walk) := by
  induction depth generalizing v unit walk with
  | zero => exact interrupt _
  | succ depth ih =>
      unfold Library.visitUnit
      refine (visitImports agree (fun _ among unit surface walk => ih among surface walk) member
        unit.identifier unit.imports (fun imported imports => ?_) _).bind ?_
      · rwa [LibraryUnit.imports, surface] at imports
      · rintro walk _ rfl
        exact Together.pure rfl

theorem resolveProgram (agree : sources.AgreeOn other set) {u : String} (member : u ∈ set) :
    Together r w sources other set Eq (Library.resolveProgram r u)
      (Library.resolveProgram (r.above w) u) := by
  unfold Library.resolveProgram
  refine (resolveLibrary agree member).bind ?_
  rintro found _ ⟨rfl, surface⟩
  cases found with
  | error report => exact Together.pure rfl
  | ok unit =>
      refine (visitUnit agree r.depthLimit member (surface unit rfl) _).bind ?_
      rintro walk _ rfl
      exact Together.pure rfl

end Together

/-! ## Inference that does not follow imports -/

/-- The operation leaves the state as it is, and comes to the same as a computation without one. -/
def Steady {α β : Type} (V : α → β → Prop) (x : Operation σ α) (o : Except Interruption β) : Prop :=
  ∀ s, (x s).2 = s ∧ Alike V (x s).1 o

/-- Computations with and without a state. -/
def steady (σ : Type) : Correspondence (Operation σ) (Except Interruption) where
  rel V x o := Steady V x o
  imp same weaker := fun s => ⟨(same s).1, (same s).2.imp weaker⟩
  pure related := fun _ => ⟨rfl, .ok related⟩
  bind {_ _ _ _ V W x y f g} first second := by
    intro s
    rw [run_bind]
    obtain ⟨kept, alike⟩ := first s
    generalize x s = run at kept alike
    obtain ⟨o, s'⟩ := run
    cases kept
    cases alike with
    | ok related => exact second _ _ related _
    | error => exact ⟨rfl, .error⟩

/-- Without following imports, nothing is asked to read a text. -/
theorem readUnit_of_not_followImports {m : Type → Type} [Monad m]
    [MonadLiftT (Except Interruption) m] {options : InferenceOptions}
    (off : options.followImports = false) (typeOf : String → String → m (Option String))
    (u contents : String) :
    readUnit options typeOf u contents = readUnit options (fun _ _ => pure none) u contents := by
  simp only [readUnit, typeScript, off, Bool.false_eq_true, if_false]

/-- The outcome of reading a unit by its source alone. -/
def readAlone (options : InferenceOptions) (u : String) :
    Except Interruption (Except Diagnostic Source) →
      Except Interruption (Except Report LibraryUnit)
  | .error i => .error i
  | .ok (.error d) => .ok (.error (.single d))
  | .ok (.ok source) => do
      return .ok (← readUnit options (fun _ _ => pure none) u source.contents)

theorem steady_readUnit {options : InferenceOptions} (off : options.followImports = false)
    (typeOf : String → String → Operation σ (Option String)) (u contents : String)
    (s : Memory × σ) :
    readUnit options typeOf u contents s =
      (readUnit (m := Except Interruption) options (fun _ _ => pure none) u contents, s) := by
  rw [readUnit_of_not_followImports off]
  have same : Steady (LibraryUnit.Like Eq)
      (readUnit options (fun _ _ => pure none) u contents : Operation σ LibraryUnit)
      (readUnit options (fun _ _ => pure none) u contents) := by
    refine (steady σ).readUnit compatible_eq options (fun read _ => ?_) fun _ _ _ _ _ =>
      (steady σ).pure rfl
    cases read with
    | ok a => exact (steady σ).pure ⟨rfl, rfl⟩
    | error e => exact fun _ => ⟨rfl, .error⟩
  obtain ⟨kept, alike⟩ := same s
  exact Prod.ext (alike.imp fun _ _ like => like.eq).eq kept

/-- Where inference does not follow imports, a unit that is not kept is read by its source alone,
and beside that no more than one line is logged. -/
theorem resolveLibrary_alone (off : r.configuration.inference.followImports = false)
    (deep : r.depthLimit ≠ 0) {m : Memory} {u : String} (new : (m.units.get u).1 = none) (s : σ) :
    (resolveLibrary r u (m, s)).1 =
        readAlone r.configuration.inference u (r.surroundings.source u s).1 ∧
      ((resolveLibrary r u (m, s)).2.2 = (r.surroundings.source u s).2 ∨
        ∃ line, (resolveLibrary r u (m, s)).2.2 =
          r.surroundings.log line (r.surroundings.source u s).2) := by
  obtain ⟨depth, limit⟩ := Nat.exists_eq_succ_of_ne_zero deep
  have absent : keptUnit u (m, s) = (.ok none, (m, s)) := by
    simp only [keptUnit, Cache.get_of_none new]
  unfold resolveLibrary
  rw [limit, resolveUnit_succ, resolveBy]
  simp only [run_bind, absent, inSurroundings]
  cases r.surroundings.source u s with
  | mk answer asked =>
      cases answer with
      | error i => exact ⟨rfl, .inl rfl⟩
      | ok found =>
          cases found with
          | error d => exact ⟨rfl, .inl rfl⟩
          | ok source =>
              simp only [run_bind, build, steady_readUnit off, readAlone]
              cases readUnit (m := Except Interruption) r.configuration.inference
                (fun _ _ => pure none) u source.contents with
              | error i => exact ⟨rfl, .inl rfl⟩
              | ok unit =>
                  refine ⟨rfl, ?_⟩
                  by_cases verbose : r.configuration.verbose
                  · refine .inr ⟨resolvedLine unit, ?_⟩
                    simp only [logResolved, verbose, if_true]
                    rfl
                  · refine .inl ?_
                    simp only [logResolved, verbose]
                    rfl

/-- A library whose depth limit is zero asks for nothing. -/
theorem resolveLibrary_of_limit_eq_zero (shallow : r.depthLimit = 0) (u : String)
    (s : Memory × σ) : resolveLibrary r u s = (.error .tooDeep, s) := by
  unfold resolveLibrary
  rw [shallow]
  rfl

/-- Answers are local. A library that has not been called before answers alike for a unit and for
its program above all surroundings whose sources agree on a set that has the unit, and whatever is
asked for to follow the imports of its units. Where inference does not follow imports, the source of
the unit decides the answer for it, and to read a unit that is not kept nothing else is asked
for. -/
theorem resolve_local (r : Reader σ) (w : Surroundings τ) {sources other : Sources} {s : σ} {t : τ}
    (serves : r.surroundings.Serves s sources) (serves' : w.Serves t other) (bound : Int)
    (u : String) :
    (∀ set : Set String, u ∈ set → sources.AgreeOn other set →
      (resolveLibrary r u (fresh bound s)).1 =
        (resolveLibrary (r.above w) u (fresh bound t)).1 ∧
      (resolveProgram r u (fresh bound s)).1 =
        (resolveProgram (r.above w) u (fresh bound t)).1) ∧
    (r.configuration.inference.followImports = false →
      (sources u = other u → (resolveLibrary r u (fresh bound s)).1 =
        (resolveLibrary (r.above w) u (fresh bound t)).1) ∧
      ∀ m : Memory, (m.units.get u).1 = none →
        (resolveLibrary (r.above r.surroundings.recorded) u (m, s, [])).2.2.2 =
          if r.depthLimit = 0 then [] else [u]) := by
  refine ⟨fun set member agree => ?_, fun off => ⟨fun same => ?_, fun m new => ?_⟩⟩
  · have abreast : Abreast r w sources other set (fresh bound s) (fresh bound t) :=
      ⟨rfl, ⟨nofun, nofun⟩, serves, serves'⟩
    have library := (Together.resolveLibrary agree member _ _ abreast).1
    exact ⟨(library.imp fun _ _ both => both.1).eq,
      (Together.resolveProgram agree member _ _ abreast).1.eq⟩
  · by_cases deep : r.depthLimit = 0
    · rw [resolveLibrary_of_limit_eq_zero deep,
        resolveLibrary_of_limit_eq_zero (r := r.above w) deep]
    · have new : ((Memory.empty bound).units.get u).1 = none := rfl
      have answer : (r.surroundings.source u s).1 = sources u := serves s .refl u
      have answer' : (w.source u t).1 = other u := serves' t .refl u
      calc (resolveLibrary r u (fresh bound s)).1
        _ = readAlone r.configuration.inference u (r.surroundings.source u s).1 :=
          (resolveLibrary_alone off deep new s).1
        _ = readAlone r.configuration.inference u (w.source u t).1 := by
          rw [answer, answer', same]
        _ = (resolveLibrary (r.above w) u (fresh bound t)).1 :=
          (resolveLibrary_alone (r := r.above w) off deep new t).1.symm
  · split
    · next shallow =>
        rw [resolveLibrary_of_limit_eq_zero (r := r.above r.surroundings.recorded) shallow]
    · next deep =>
        rcases (resolveLibrary_alone (r := r.above r.surroundings.recorded) off deep new
          (s, [])).2 with same | ⟨line, same⟩ <;>
        · rw [same]
          rfl

/-- The texts of `UnitResolution.Library.cycleTexts` beside the cycle. -/
def textsBesideCycle : List (String × String) := cycleTexts.drop 3

/-- The reader of the units with the cycle that does not follow imports. -/
def plainReader : Reader Scene :=
  Session.reader { Configuration.ofMock cycleTexts with inference := { followImports := false } }

set_option maxRecDepth 4000 in
/-- A unit beside a cycle gets the same answer where there is no such cycle. If imports are not
followed, it gets the same answer where there is no other unit at all. -/
theorem resolve_local_beside_cycle :
    (resolveLibrary cycleReader "rt:d" (fresh 512 cycleScene)).1 =
      (resolveLibrary cycleReader "rt:d" (fresh 512 (Scene.ofMock textsBesideCycle))).1 ∧
    (resolveProgram cycleReader "rt:d" (fresh 512 cycleScene)).1 =
      (resolveProgram cycleReader "rt:d" (fresh 512 (Scene.ofMock textsBesideCycle))).1 ∧
    typeFound? "z" (resolveLibrary cycleReader "rt:d" (fresh 512 cycleScene)).1 = some "number" ∧
    (resolveLibrary plainReader "rt:d" (fresh 512 cycleScene)).1 =
      (resolveLibrary plainReader "rt:d" (fresh 512 (Scene.ofMock (textsBesideCycle.take 1)))).1 ∧
    typeFound? "z" (resolveLibrary plainReader "rt:d" (fresh 512 cycleScene)).1 =
      some "unknown" := by
  have agree : cycleScene.sources.AgreeOn (Scene.ofMock textsBesideCycle).sources
      {v | v ∈ ["rt:d", "rt:e"]} := by
    have listed : ∀ v ∈ ["rt:d", "rt:e"], cycleTexts.lookup v = textsBesideCycle.lookup v := by
      decide +kernel
    have closed : ∀ v ∈ ["rt:d", "rt:e"], ∀ imported ∈ (cycleScene.sources.surface v).imports,
        ∀ c ∈ cycleScene.sources.probed (Identifier.candidates imported),
          c ∈ ["rt:d", "rt:e"] := by decide +kernel
    exact ⟨fun v member => Scene.sources_ofMock_congr (listed v member), closed⟩
  have alone : cycleScene.sources "rt:d" =
      (Scene.ofMock (textsBesideCycle.take 1)).sources "rt:d" :=
    Scene.sources_ofMock_congr (by decide +kernel)
  obtain ⟨following, _⟩ := resolve_local cycleReader Scene.surroundings cycleScene.serves
    (Scene.ofMock textsBesideCycle).serves 512 "rt:d"
  obtain ⟨library, program⟩ := following _ List.mem_cons_self agree
  obtain ⟨_, plain⟩ := resolve_local plainReader Scene.surroundings cycleScene.serves
    (Scene.ofMock (textsBesideCycle.take 1)).serves 512 "rt:d"
  exact ⟨library, program, by decide +kernel, (plain rfl).1 alone, by decide +kernel⟩

end Library.Reader

end UnitResolution
