import UnitResolution.Proofs.Library.Usage

/-!
# Building units once

A library whose cache has room for everything that it reads builds no unit twice. The theorem
`UnitResolution.Library.Reader.built_once` says so of all its calls, whatever they are.

Whether there is room is known in the end only. But what has been read grows, so what fits in the
end has fitted all the time, and an operation need account for what it leaves behind only if that
fits (`UnitResolution.Library.Accounts`). This composes (`UnitResolution.Library.Accounts.bind`),
and is a correspondence of computations, so it goes through inference, searching and reading. The
only step in which more has been read than is kept is the reading of a unit, with other readings
inside (`UnitResolution.Library.Accounts.read`).
-/

namespace UnitResolution

open Library Script

variable {σ : Type}

namespace Library

variable {a b : Memory × σ × Usage} {u : String} {verbose : Bool} {pending : List String}

/-! ## Rules -/

/-- A run has come from one state to another, and to an outcome. If the first state was sound and
kept the given units, and there is room for everything that has been read in the end, then the last
one is sound, and no identifier has been read twice. If the run has not been interrupted, all that
it has read is kept, and so are the units that its answer brings. -/
def Account (verbose : Bool) (pending : List String) (given : List LibraryUnit) {α : Type}
    (brings : α → List LibraryUnit) (a : Memory × σ × Usage) (o : Except Interruption α)
    (b : Memory × σ × Usage) : Prop :=
  (Fits a → Sound pending a ∧ KeepsAll a.1 given) → Fits b →
    Fits a ∧ Sound pending b ∧ ∃ new built, Grown verbose pending a b new built ∧ new.Nodup ∧
      ∀ v, o = .ok v → (∀ c ∈ new, b.1.units.contains c) ∧ KeepsAll b.1 (brings v)

/-- A run that changes nothing that is kept accounts for units that are kept before. -/
theorem Account.of_still {α : Type} {given : List LibraryUnit} {brings : α → List LibraryUnit}
    {o : Except Interruption α} (still : Still a b)
    (keeps : Sound pending a → KeepsAll a.1 given → ∀ v, o = .ok v → KeepsAll a.1 (brings v)) :
    Account verbose pending given brings a o b := by
  intro ready fits
  have grown := still.grown verbose pending
  have before : Fits a := fits.of_grown grown
  obtain ⟨sound, given⟩ := ready before
  refine ⟨before, still.sound sound, [], [], grown, List.nodup_nil, fun v answer => ?_⟩
  exact ⟨List.forall_mem_nil _, grown.keepsAll (keeps sound given v answer)⟩

/-- What an outcome says about another one. -/
theorem Account.map {α β : Type} {given more : List LibraryUnit} {brings : α → List LibraryUnit}
    {fewer : β → List LibraryUnit} {o : Except Interruption α} {o' : Except Interruption β}
    (account : Account verbose pending given brings a o b) (subset : given ⊆ more)
    (answers : ∀ w, o' = .ok w → ∃ v, o = .ok v ∧ fewer w ⊆ brings v) :
    Account verbose pending more fewer a o' b := by
  intro ready fits
  have ready' : Fits a → Sound pending a ∧ KeepsAll a.1 given := fun before =>
    ⟨(ready before).1, fun unit member => (ready before).2 unit (subset member)⟩
  obtain ⟨before, sound, new, built, grown, nodup, answered⟩ := account ready' fits
  refine ⟨before, sound, new, built, grown, nodup, fun w answer => ?_⟩
  obtain ⟨v, same, fewer⟩ := answers w answer
  obtain ⟨kept, keeps⟩ := answered v same
  exact ⟨kept, fun unit member => keeps unit (fewer member)⟩

/-- All runs of an operation account for what they read. -/
def Accounts (verbose : Bool) (pending : List String) (given : List LibraryUnit) {α : Type}
    (x : Operation (σ × Usage) α) (brings : α → List LibraryUnit) : Prop :=
  ∀ a, Account verbose pending given brings a (x a).1 (x a).2

namespace Accounts

variable {α β : Type} {x : Operation (σ × Usage) α} {f : α → Operation (σ × Usage) β}
  {given more : List LibraryUnit} {brings : α → List LibraryUnit} {brings' : β → List LibraryUnit}

theorem mono (accounts : Accounts verbose pending given x brings) (subset : given ⊆ more)
    {fewer : α → List LibraryUnit} (subset' : ∀ v, fewer v ⊆ brings v) :
    Accounts verbose pending more x fewer :=
  fun a => (accounts a).map subset fun v answer => ⟨v, answer, subset' v⟩

protected theorem pure {v : α} (subset : brings v ⊆ given) :
    Accounts verbose pending given (pure v : Operation (σ × Usage) α) brings := fun a =>
  .of_still (.refl a) fun _ keeps _ answer =>
    Except.ok.inj answer ▸ fun unit member => keeps unit (subset member)

theorem interrupt (i : Interruption) :
    Accounts verbose pending given (Library.interrupt i : Operation (σ × Usage) α) brings :=
  fun a => .of_still (.refl a) fun _ _ => nofun

theorem lift (outcome : Except Interruption α) :
    Accounts verbose pending given (liftM outcome : Operation (σ × Usage) α) fun _ => [] := by
  cases outcome with
  | ok v => exact Accounts.pure (List.nil_subset _)
  | error i => exact interrupt i

/-- What is given stays kept, so it need not be brought along. -/
protected theorem bind (first : Accounts verbose pending given x brings)
    (next : ∀ a v after, x a = (.ok v, after) →
      Accounts verbose pending (brings v ++ given) (f v) brings') :
    Accounts verbose pending given (x >>= f) brings' := by
  intro a ready fits
  have first := first a ready
  rw [Reader.run_bind] at fits ⊢
  cases run : x a with
  | mk o middle =>
      rw [run] at fits first
      cases o with
      | error i =>
          obtain ⟨before, sound, new, built, grown, nodup, _⟩ := first fits
          exact ⟨before, sound, new, built, grown, nodup, nofun⟩
      | ok v =>
          have ready' (fits : Fits middle) :
              Sound pending middle ∧ KeepsAll middle.1 (brings v ++ given) := by
            obtain ⟨before, sound, new, built, grown, _, answered⟩ := first fits
            refine ⟨sound, List.forall_mem_append.mpr ⟨(answered v rfl).2, ?_⟩⟩
            exact grown.keepsAll (ready before).2
          obtain ⟨fits, sound, new', built', grown', nodup', answered'⟩ :=
            next a v middle run middle ready' fits
          obtain ⟨before, _, new, built, grown, nodup, answered⟩ := first fits
          obtain ⟨kept, _⟩ := answered v rfl
          have apart : ∀ c ∈ new, ∀ d ∈ new', c ≠ d := by
            rintro c member _ member' rfl
            have missing := (grown'.fresh c member').1
            have found := kept c member
            rw [Cache.contains, missing] at found
            cases found
          refine ⟨before, sound, new ++ new', built ++ built', grown.trans grown',
            List.nodup_append.mpr ⟨nodup, nodup', apart⟩, fun w answer => ?_⟩
          obtain ⟨kept', keeps⟩ := answered' w answer
          refine ⟨List.forall_mem_append.mpr ⟨fun c member => ?_, kept'⟩, keeps⟩
          obtain ⟨unit, found⟩ := Option.isSome_iff_exists.mp (kept c member)
          exact Option.isSome_iff_exists.mpr ⟨unit, grown'.kept c unit found⟩

/-- Operations that account for what they read, beside the answers that are possible. -/
def correspondence (σ : Type) (verbose : Bool) (pending : List String) :
    Correspondence (Operation (σ × Usage)) Possibly where
  rel V x y := Accounts verbose pending [] x (fun _ => []) ∧
    (Reader.answers (σ × Usage)).rel V x y
  imp both weaker := ⟨both.1, (Reader.answers _).imp both.2 weaker⟩
  pure related := ⟨.pure (List.nil_subset _), (Reader.answers _).pure related⟩
  bind first second := by
    refine ⟨first.1.bind fun a v after run => ?_, (Reader.answers _).bind first.2 fun v w related =>
      (second v w related).2⟩
    obtain ⟨w, related, _⟩ := first.2 a v after run
    exact (second v w related).1

/-- Whatever is answered is possible if everything is. -/
theorem beside_anything (accounts : Accounts verbose pending [] x fun _ => [])
    {V : α → α → Prop} (refl : ∀ v, V v v) :
    (correspondence σ verbose pending).rel V x fun _ => True :=
  ⟨accounts, fun _ v _ _ => ⟨v, refl v, trivial⟩⟩

/-! ## Following, searching, reading -/

theorem candidatesOf (imported : String) :
    Accounts verbose pending given
      (Library.candidatesOf imported : Operation (σ × Usage) (List String)) fun _ => [] := by
  refine fun a => .of_still ?_ fun _ _ _ _ => List.forall_mem_nil _
  unfold Library.candidatesOf
  dsimp only
  split <;> exact .refl a

theorem rememberAlias (imported identifier : String) :
    Accounts verbose pending given
      (Library.rememberAlias imported identifier : Operation (σ × Usage) Unit) fun _ => [] :=
  fun _ => .of_still ⟨rfl, rfl, fun _ => rfl, id⟩ fun _ _ _ _ => List.forall_mem_nil _

/-- The units that an import brings. -/
def served : Imported → List LibraryUnit
  | .served unit => [unit]
  | .pending | .failed _ => []

section Following

variable {resolve : String → Operation (σ × Usage) (Except Diagnostic LibraryUnit)}

/-- Only what is not pending is resolved. -/
theorem followImport
    (resolves : ∀ c, c ∉ pending →
      Accounts verbose pending [] (resolve c) fun found => found.toOption.toList)
    (imported : String) :
    Accounts verbose pending [] (Library.followImport resolve pending imported) served := by
  have tried (list : List String) (reason : Option Diagnostic) :
      Accounts verbose pending [] (tryCandidates resolve pending imported list reason) served := by
    induction list generalizing reason with
    | nil =>
        unfold tryCandidates
        cases reason <;> exact Accounts.pure (List.nil_subset _)
    | cons c rest ih =>
        unfold tryCandidates
        split
        · exact Accounts.pure (List.nil_subset _)
        · next free =>
            refine (resolves c free).bind fun _ found _ _ => ?_
            cases found with
            | error d => exact (ih _).mono (List.nil_subset _) fun _ => List.Subset.refl _
            | ok unit =>
                refine (rememberAlias imported c).bind fun _ _ _ _ => Accounts.pure ?_
                exact List.Subset.refl _
  unfold Library.followImport
  refine (candidatesOf imported).bind fun _ list _ _ => ?_
  exact tried list none

/-- A search reads nothing but to follow imports. -/
theorem typeOfExport {follow : String → Operation (σ × Usage) Imported}
    (follows : ∀ imported, Accounts verbose pending [] (follow imported) served) (limit : Nat)
    (imported name : String) (seen : List String) :
    Accounts verbose pending [] (Library.typeOfExport follow limit imported name seen)
      fun _ => [] := by
  induction limit generalizing imported name seen with
  | zero => exact interrupt .tooDeep
  | succ limit ih =>
      unfold Library.typeOfExport
      split
      · exact Accounts.pure (List.nil_subset _)
      · refine (follows imported).bind fun _ found _ _ => ?_
        cases found with
        | pending => exact Accounts.pure (List.nil_subset _)
        | failed d => exact Accounts.pure (List.nil_subset _)
        | served unit =>
            have searched : (correspondence σ verbose pending).rel
                (Correspondence.SameFound fun _ => True)
                (Library.searchUnit (Library.typeOfExport follow limit) unit name
                  (searchKey imported name :: seen))
                (Library.searchUnit (fun _ _ _ _ => True) unit name
                  (searchKey imported name :: seen)) :=
              (correspondence σ verbose pending).searchUnit unit name trivial
                (fun e _ => beside_anything (ih _ _ _) fun _ => ⟨rfl, trivial⟩)
                fun source _ seen _ => beside_anything (ih _ _ _) fun _ => ⟨rfl, trivial⟩
            exact searched.1.mono (List.nil_subset _) fun _ => List.Subset.refl _

/-- To read a text, nothing is read but to type what it imports. -/
theorem readUnit {typeOf : String → String → Operation (σ × Usage) (Option String)}
    (typed : ∀ imported name, Accounts verbose pending [] (typeOf imported name) fun _ => [])
    (options : InferenceOptions) (u contents : String) :
    Accounts verbose pending [] (Library.readUnit options typeOf u contents) fun _ => [] := by
  have read : (correspondence σ verbose pending).rel (LibraryUnit.Like fun _ _ => True)
      (Library.readUnit options typeOf u contents)
      (Library.readUnit options (fun _ _ _ => True) u contents) := by
    refine (correspondence σ verbose pending).readUnit compatible_true options
      (fun text _ => ⟨lift _, fun a v after run => ?_⟩) fun _ _ _ _ _ =>
        beside_anything (typed _ _) fun _ => trivial
    cases text with
    | error e => cases run
    | ok _ =>
        cases run
        exact ⟨_, ⟨rfl, rfl⟩, rfl⟩
  exact read.1

end Following

/-! ## Resolving -/

section Resolving

variable {r : Reader σ}

theorem run_logResolved (r : Reader σ) (unit : LibraryUnit) (m : Memory) (s : σ) (usage : Usage) :
    ∃ s', Library.logResolved r.observed unit (m, s, usage) = (.ok (), (m, s',
      usage.logs (if r.configuration.verbose then [resolvedLine unit] else []))) := by
  cases verbose : r.configuration.verbose with
  | false =>
      refine ⟨s, ?_⟩
      simp [Library.logResolved, Reader.observed, Reader.above, verbose, Usage.logs]
  | true =>
      refine ⟨r.surroundings.log (resolvedLine unit) s, ?_⟩
      simp [Library.logResolved, Reader.observed, Reader.above, verbose, Surroundings.observed]

/-- Getting a source is what is taken for reading it. -/
theorem run_source (r : Reader σ) (c : String) (m : Memory) (s : σ) (usage : Usage) :
    ∃ o s', inSurroundings (r.observed.surroundings.source c) (m, s, usage) = (o, (m, s',
      match o with
      | .ok (.ok _) => usage.reads c
      | _ => usage)) := by
  simp only [inSurroundings, Reader.observed, Reader.above, Surroundings.observed]
  obtain ⟨_ | _ | source, s'⟩ := r.surroundings.source c s
  all_goals exact ⟨_, s', rfl⟩

/-- A unit is read: its source has been got, and it is built. Unless that is interrupted, it is kept
in the end. -/
theorem read {resolve : String → Operation (σ × Usage) (Except Diagnostic LibraryUnit)}
    (resolves : ∀ c, c ∉ u :: pending → Accounts r.configuration.verbose (u :: pending) []
      (resolve c) fun found => found.toOption.toList)
    (free : u ∉ pending) (missing : a.1.units.find? u = none) {s : σ} {source : Source}
    {o : Except Interruption LibraryUnit}
    (run : r.observed.build resolve (u :: pending) u source
      (a.1, s, a.2.2.reads u) = (o, b)) :
    Account r.configuration.verbose pending [] (fun unit => [unit]) a o b := by
  intro ready fits
  have typed (imported name : String) : Accounts r.configuration.verbose (u :: pending) []
      (Reader.importedType (Library.followImport resolve (u :: pending)) r.observed.depthLimit
        imported name) fun _ => [] :=
    (typeOfExport (followImport resolves) _ imported name []).bind fun _ _ _ _ =>
      Accounts.pure (List.nil_subset _)
  have earlier (fits : Fits (a.1, s, a.2.2.reads u)) : Fits a :=
    fits.of_read rfl rfl
  have inside := readUnit typed r.observed.configuration.inference u source.contents _
    fun fits => ⟨(ready (earlier fits)).1.enter missing s, List.forall_mem_nil _⟩
  unfold Reader.build at run
  rw [Reader.run_bind] at run
  cases ran : Library.readUnit r.observed.configuration.inference
    (Reader.importedType (Library.followImport resolve (u :: pending)) r.observed.depthLimit) u
    source.contents (a.1, s, a.2.2.reads u) with
  | mk answer middle =>
      rw [ran] at run inside
      cases answer with
      | error i =>
          cases run
          obtain ⟨before, sound, new, built, grown, distinct, _⟩ := inside fits
          exact ⟨earlier before, sound.mono, u :: new, built, grown.enclose missing free,
            grown.nodup_cons distinct, nofun⟩
      | ok unit =>
          have named : unit.identifier = u := (Reader.surfaceIn_of_run ran).2
          subst named
          obtain ⟨m, t, usage⟩ := middle
          obtain ⟨t', logged⟩ := run_logResolved r unit m t usage
          simp only [Reader.run_bind, logged] at run
          cases run
          -- what fits once the unit is kept has fitted before, as no more has been read
          have fits' : Fits (m, t, usage) := fits
          obtain ⟨before, sound, new, built, grown, distinct, answered⟩ := inside fits'
          obtain ⟨after, grown', kept, keeps⟩ := grown.finish (z := (_, t', _)) missing free sound
            fits' (answered unit rfl).1 rfl rfl
          refine ⟨earlier before, after, _, _, grown', grown.nodup_cons distinct, ?_⟩
          rintro _ ⟨⟩
          exact ⟨kept, keeps⟩

/-- A unit is kept, or has no source, or is read, which does not happen inside itself. -/
theorem resolveUnit (r : Reader σ) (depth : Nat) {pending : List String} (free : u ∉ pending) :
    Accounts r.configuration.verbose pending [] (Library.resolveUnit r.observed depth pending u)
      fun found => found.toOption.toList := by
  induction depth generalizing pending u with
  | zero => exact interrupt .tooDeep
  | succ depth ih =>
      rw [Reader.resolveUnit_succ]
      intro (m, s, usage)
      unfold Reader.resolveBy
      have got : keptUnit u (m, s, usage) =
          (.ok (m.units.get u).1, ({ m with units := (m.units.get u).2 }, s, usage)) := rfl
      rw [Reader.run_bind, got]
      cases kept : (m.units.get u).1 with
      | some unit =>
          refine .of_still (still_get m (s, usage) u) fun sound _ _ answer => ?_
          cases answer
          have found : m.units.find? u = some unit := (Cache.get_fst _ _).symm.trans kept
          refine List.forall_mem_singleton.mpr ?_
          rw [(sound.kept u unit found).2]
          exact found
      | none =>
          have missing : m.units.find? u = none := (Cache.get_fst _ _).symm.trans kept
          obtain ⟨o, t, asked⟩ := run_source r u m s usage
          rw [Cache.get_of_none kept]
          dsimp only
          rw [Reader.run_bind, asked]
          match o with
          | .error i => exact .of_still ⟨rfl, rfl, fun _ => rfl, id⟩ fun _ _ => nofun
          | .ok (.error d) =>
              refine .of_still ⟨rfl, rfl, fun _ => rfl, id⟩ fun _ _ _ answer => ?_
              cases answer
              exact List.forall_mem_nil _
          | .ok (.ok source) =>
              dsimp only
              rw [Reader.run_bind]
              cases ran : r.observed.build (Library.resolveUnit r.observed depth (u :: pending))
                (u :: pending) u source (m, t, usage.reads u) with
              | mk answer b =>
                  have account := read (a := (m, s, usage)) (fun _ other => ih other) free missing
                    ran
                  cases answer with
                  | error i => exact account.map (List.Subset.refl _) fun _ => nofun
                  | ok unit =>
                      refine account.map (List.Subset.refl _) fun v same => ⟨unit, rfl, ?_⟩
                      cases same
                      exact List.Subset.refl _

theorem resolveImport (r : Reader σ) (imported : String) :
    Accounts r.configuration.verbose [] [] (Library.resolveImport r.observed imported) served :=
  followImport (fun _ free => resolveUnit r _ free) imported

theorem resolveLibrary (r : Reader σ) (u : String) :
    Accounts r.configuration.verbose [] [] (Library.resolveLibrary r.observed u)
      fun found => found.toOption.toList := by
  refine (resolveUnit r _ List.not_mem_nil).bind fun _ found _ _ => ?_
  cases found <;> exact Accounts.pure (List.subset_append_left _ _)

/-! ## Walking -/

/-- The units of a walk stay kept while the walk goes on. -/
theorem visitImports {visit : LibraryUnit → Walk → Operation (σ × Usage) Walk}
    (visits : ∀ unit w, Accounts r.configuration.verbose [] (unit :: w.units) (visit unit w)
      Walk.units) (unit : String) (list : List String) (w : Walk) :
    Accounts r.configuration.verbose [] w.units
      (Library.visitImports r.observed visit unit list w) Walk.units := by
  induction list generalizing w with
  | nil => exact Accounts.pure (List.Subset.refl _)
  | cons imported rest ih =>
      have further (w' : Walk) (same : w'.units = w.units) (more : List LibraryUnit) :
          Accounts r.configuration.verbose [] (more ++ w.units)
            (Library.visitImports r.observed visit unit rest w') Walk.units :=
        (ih w').mono (same ▸ List.subset_append_right more w.units) fun _ => List.Subset.refl _
      have walked (dependency : LibraryUnit) (w' : Walk) (same : w'.units = w.units) :
          Accounts r.configuration.verbose [] ([dependency] ++ w.units)
            (visit dependency w' >>= Library.visitImports r.observed visit unit rest)
            Walk.units := by
        rw [← same]
        exact (visits dependency w').bind fun _ w'' _ _ =>
          (ih w'').mono (List.subset_append_left _ _) fun _ => List.Subset.refl _
      unfold Library.visitImports
      split
      · exact ih w
      · refine ((resolveImport r imported).mono (List.nil_subset _)
          fun _ => List.Subset.refl _).bind fun _ found _ _ => ?_
        cases found with
        | pending => exact further _ (by rfl) []
        | failed d => exact further _ (by rfl) []
        | served dependency =>
            dsimp only
            split
            · exact walked dependency _ (by rfl)
            · split
              · exact further _ (by rfl) [dependency]
              · exact walked dependency _ (by rfl)

theorem visitUnit (r : Reader σ) (depth : Nat) (unit : LibraryUnit) (w : Walk) :
    Accounts r.configuration.verbose [] (unit :: w.units)
      (Library.visitUnit r.observed depth unit w) Walk.units := by
  induction depth generalizing unit w with
  | zero => exact interrupt .tooDeep
  | succ depth ih =>
      unfold Library.visitUnit
      have imports := visitImports ih unit.identifier unit.imports
        { w with report := w.report.merge ⟨unit.diagnostics⟩ }
      have given : w.units ⊆ unit :: w.units := List.subset_cons_self _ _
      refine (imports.mono given fun _ => List.Subset.refl _).bind fun _ w' _ _ =>
        Accounts.pure ?_
      intro u member
      rcases List.mem_append.mp member with walked | last
      · exact List.mem_append_left _ walked
      · rw [List.mem_singleton.mp last]
        exact List.mem_append_right _ List.mem_cons_self

theorem resolveProgram (r : Reader σ) (entry : String) :
    Accounts r.configuration.verbose [] [] (Library.resolveProgram r.observed entry)
      fun found => (found.toOption.map Program.units).getD [] := by
  refine (resolveLibrary r entry).bind fun _ found _ _ => ?_
  cases found with
  | error report => exact Accounts.pure (List.nil_subset _)
  | ok unit =>
      refine Accounts.bind (visitUnit r r.observed.depthLimit unit { visited := [entry] })
        fun _ w _ _ => Accounts.pure ?_
      exact List.subset_append_left _ _

/-- A call accounts for the units that it returns. -/
theorem respond (r : Reader σ) (call : Call) :
    Accounts r.configuration.verbose [] [] (r.observed.respond call) id := by
  cases call with
  | library u =>
      refine (resolveLibrary r u).bind fun _ found _ _ => ?_
      cases found <;> exact Accounts.pure (List.subset_append_left _ _)
  | program entry =>
      refine (resolveProgram r entry).bind fun _ found _ _ => ?_
      cases found <;> exact Accounts.pure (List.subset_append_left _ _)

end Resolving

end Accounts

/-! ## Calls -/

namespace Reader

variable {r : Reader σ}

/-- How often calls may read an identifier: once, and once more for each of them that is
interrupted, but not at all if it is kept. -/
def readings (r : Reader σ) (calls : List Call) (a : Memory × σ) (c : String) : Nat :=
  if a.1.units.contains c then 0 else r.interruptions calls a + 1

/-- The first of several calls reads nothing twice. What it reads is kept then unless it is
interrupted, so that an identifier is read again only after an interruption. -/
theorem count_le_readings {a : Memory × σ} {call : Call} {rest : List Call}
    {new new' : List String} (unkept : ∀ c ∈ new ++ new', a.1.units.find? c = none)
    (nodup : new.Nodup)
    (kept : ∀ units, (r.respond call a).1 = .ok units →
      ∀ c ∈ new, (r.respond call a).2.1.units.contains c)
    (later : ∀ c, new'.count c ≤ r.readings rest (r.respond call a).2 c) (c : String) :
    (new ++ new').count c ≤ r.readings (call :: rest) a c := by
  have once := List.nodup_iff_count_le_one.mp nodup c
  have later := later c
  unfold readings at later ⊢
  split
  · next found =>
      have unread : c ∉ new ++ new' := fun member => by
        rw [Cache.contains, unkept c member] at found
        cases found
      rw [List.count_eq_zero_of_not_mem unread]
  · rw [List.count_append, interruptions_cons]
    cases answer : (r.respond call a).1 with
    | error i =>
        simp only [Except.toOption, Option.isNone_none, if_true]
        split at later <;> omega
    | ok units =>
        simp only [Except.toOption, Option.isNone_some, Bool.false_eq_true, if_false]
        by_cases member : c ∈ new
        · rw [if_pos (kept units answer c member)] at later
          omega
        · rw [List.count_eq_zero_of_not_mem member]
          split at later <;> omega

/-- What several calls leave behind. -/
theorem account_after (r : Reader σ) (calls : List Call) (a : Memory × σ × Usage)
    (ready : Fits a → Sound [] a) (fits : Fits (r.observed.after calls a)) :
    Fits a ∧ Sound [] (r.observed.after calls a) ∧ ∃ new built,
      Grown r.configuration.verbose [] a (r.observed.after calls a) new built ∧
      (∀ c, new.count c ≤ r.observed.readings calls a c) ∧
      KeepsAll (r.observed.after calls a).1 (r.observed.returned calls a) := by
  induction calls generalizing a with
  | nil =>
      exact ⟨fits, ready fits, [], [], (Still.refl a).grown _ _, fun c => Nat.zero_le _,
        List.forall_mem_nil _⟩
  | cons call rest ih =>
      rw [after_cons, perform_eq_respond] at fits ⊢
      have first := Accounts.respond r call a fun before => ⟨ready before, List.forall_mem_nil _⟩
      obtain ⟨between, sound, new', built', grown', counts', keeps'⟩ :=
        ih _ (fun fits => (first fits).2.1) fits
      obtain ⟨before, _, new, built, grown, nodup, answered⟩ := first between
      have after := grown.trans grown'
      refine ⟨before, sound, new ++ new', built ++ built', after, ?_, ?_⟩
      · exact count_le_readings (fun c member => (after.fresh c member).1) nodup
          (fun units answer => (answered units answer).1) counts'
      · rw [returned_cons]
        refine List.forall_mem_append.mpr ⟨?_, keeps'⟩
        cases answer : (r.observed.respond call a).1 with
        | error i => exact List.forall_mem_nil _
        | ok units => exact grown'.keepsAll (answered units answer).2

/-- A kept unit is returned at once. -/
theorem resolveLibrary_of_kept {state : Memory × σ} {c : String} {unit : LibraryUnit}
    (deep : r.depthLimit ≠ 0) (kept : state.1.units.find? c = some unit) :
    resolveLibrary r c state =
      (.ok (.ok unit), ({ state.1 with units := (state.1.units.get c).2 }, state.2)) := by
  obtain ⟨depth, limit⟩ := Nat.exists_eq_succ_of_ne_zero deep
  have got : keptUnit c state =
      (.ok (some unit), ({ state.1 with units := (state.1.units.get c).2 }, state.2)) := by
    rw [← kept, ← Cache.get_fst]
    rfl
  unfold resolveLibrary
  rw [limit, resolveUnit_succ, resolveBy]
  simp only [run_bind, got]
  rfl

/-- A library whose depth limit is zero does nothing. -/
theorem after_of_limit_eq_zero (shallow : r.depthLimit = 0) (calls : List Call)
    (state : Memory × σ) : r.after calls state = state := by
  induction calls with
  | nil => rfl
  | cons call rest ih =>
      have idle : r.perform state call = state := by
        cases call with
        | library u => rw [perform, resolveLibrary_of_limit_eq_zero shallow]
        | program entry =>
            rw [perform, resolveProgram, run_bind, resolveLibrary_of_limit_eq_zero shallow]
      rw [after_cons, idle, ih]

/-- What is returned for an identifier is its unit. -/
theorem identifier_of_resolveLibrary {sources : Sources} {s : σ}
    (serves : r.surroundings.Serves s sources) (bound : Int) (calls : List Call) {u : String}
    {unit : LibraryUnit}
    (answer : (resolveLibrary r u (r.after calls (fresh bound s))).1 = .ok (.ok unit)) :
    unit.identifier = u := by
  have reached := ((ensures_resolveLibrary u).after serves bound calls).1
  rw [answer] at reached
  cases reached with
  | answer resolved =>
      cases resolved with
      | read possible => exact Sources.identifier_of_possibleUnit possible

/-- No call changes how many units may be kept. -/
theorem bound_after {sources : Sources} {s : σ} (serves : r.surroundings.Serves s sources)
    (bound : Int) (calls : List Call) :
    (r.after calls (fresh bound s)).1.units.bound = bound := by
  have course : r.Course sources (fun _ => True) (fresh bound s) _ :=
    (coherent_after (coherent_empty bound) serves calls).2
  exact (course.distinct List.nodup_nil).2

/-- While what a library reads fits into its cache, no unit is built twice. Let `last` be the state
after any calls of a new library, with an account of what has been read and logged, which changes
nothing about what the calls return. If the cache has room for as many units as identifiers have
been read until then, each identifier has been read at most once, and once more for every call that
has been interrupted. There is at most one line in the log for each. Calls never return two
different units for an identifier.

After some of the calls, the units that they have returned are kept. From then on, an identifier for
which a unit is kept is not read again, and to resolve it returns that unit without any use of the
surroundings. -/
theorem built_once (r : Reader σ) {sources : Sources} {s : σ}
    (serves : r.surroundings.Serves s sources) (bound : Int) (calls : List Call) :
    let start := fresh bound (s, ({} : Usage))
    let last := r.observed.after calls start
    r.observed.responses calls start = r.responses calls (fresh bound s) ∧
    ((last.2.2.read.toFinset.card : Int) ≤ bound →
      (∀ c, last.2.2.read.count c ≤ r.interruptions calls (fresh bound s) + 1) ∧
      (∃ built : List LibraryUnit, (built.map (·.identifier)).Nodup ∧
        last.2.2.logged = if r.configuration.verbose then built.map resolvedLine else []) ∧
      (∀ unit ∈ r.returned calls (fresh bound s), ∀ other ∈ r.returned calls (fresh bound s),
        unit.identifier = other.identifier → unit = other) ∧
      ∀ before rest, calls = before ++ rest →
        let there := r.observed.after before start
        (∀ unit ∈ r.returned before (fresh bound s),
          there.1.units.find? unit.identifier = some unit) ∧
        (∀ c unit, (resolveLibrary r.observed c there).1 = .ok (.ok unit) →
          unit.identifier = c) ∧
        ∃ later, last.2.2.read = there.2.2.read ++ later ∧
          ∀ c unit, there.1.units.find? c = some unit →
            unit.identifier = c ∧ c ∉ later ∧
            (resolveLibrary r.observed c there).1 = .ok (.ok unit) ∧
            (resolveLibrary r.observed c there).2.2 = there.2) := by
  intro start last
  have same (list : List Call) :
      r.observed.responses list start = r.responses list (fresh bound s) :=
    responses_observed r serves bound list
  have returned_eq (list : List Call) :
      r.observed.returned list start = r.returned list (fresh bound s) := by
    rw [returned, returned, same]
  refine ⟨same calls, fun room => ?_⟩
  have ready (_ : Fits start) : Sound [] start := .fresh bound s
  have observed : r.observed.surroundings.Serves (s, ({} : Usage)) sources := serves.observed {}
  have fits : Fits last := by
    have kept : last.1.units.bound = bound := bound_after observed bound calls
    rwa [Fits, kept]
  obtain ⟨_, sound, new, built, grown, counts, keeps⟩ := account_after r calls start ready fits
  refine ⟨fun c => ?_, ⟨built, grown.distinct, grown.logged⟩, ?_, ?_⟩
  · have count := counts c
    have none : start.1.units.contains c = false := rfl
    rw [readings, none, interruptions, same] at count
    rw [grown.read]
    exact count
  · rw [← returned_eq]
    intro unit member other member' named
    have first := keeps unit member
    rw [named, keeps other member'] at first
    exact (Option.some.inj first).symm
  · rintro before rest rfl
    intro there
    have whole : last = r.observed.after rest there := after_append _ before rest start
    rw [whole] at fits ⊢
    have earlier (fits : Fits there) := account_after r before start ready fits
    obtain ⟨between, _, later, built', grown', _, _⟩ :=
      account_after r rest there (fun fits => (earlier fits).2.1) fits
    obtain ⟨_, sound', _, _, _, _, keeps'⟩ := earlier between
    rw [returned_eq] at keeps'
    refine ⟨keeps', fun c unit answer => identifier_of_resolveLibrary observed bound before answer,
      later, grown'.read, fun c unit found => ?_⟩
    have deep : r.observed.depthLimit ≠ 0 := fun shallow => by
      change (r.observed.after before start).1.units.find? c = some unit at found
      rw [after_of_limit_eq_zero shallow] at found
      cases found
    have unread : c ∉ later := fun member => by
      cases found.symm.trans (grown'.fresh c member).1
    rw [resolveLibrary_of_kept deep found]
    exact ⟨(sound'.kept c unit found).2, unread, rfl, rfl⟩

/-- The reader of the units with the cycle that logs what it has read. -/
def verboseReader : Reader Scene :=
  Session.reader { Configuration.ofMock cycleTexts with verbose := true }

/-- Calls for two units that import each other. -/
def cycleCalls : List Call := [.library "rt:a", .program "rt:b"]

set_option maxRecDepth 4000 in
/-- The units of a cycle are read once each, and a line is logged for each. The unit that has been
read inside the other one is what a call for it returns. -/
theorem built_once_of_cycle :
    let start := fresh 2 (cycleScene, ({} : Usage))
    let last := verboseReader.observed.after cycleCalls start
    let there := verboseReader.observed.after [.library "rt:a"] start
    last.2.2.read = ["rt:a", "rt:b"] ∧ last.2.2.logged.length = 2 ∧
    (∀ c, last.2.2.read.count c ≤ 1) ∧
    (∃ built : List LibraryUnit, (built.map (·.identifier)).Nodup ∧
      last.2.2.logged = built.map resolvedLine) ∧
    ∃ unit, there.1.units.find? "rt:b" = some unit ∧
      (resolveLibrary verboseReader.observed "rt:b" there).1 = .ok (.ok unit) := by
  intro start last there
  have runs : last.2.2.read = ["rt:a", "rt:b"] ∧ last.2.2.logged.length = 2 ∧
      verboseReader.interruptions cycleCalls (fresh 2 cycleScene) = 0 ∧
      (there.1.units.find? "rt:b").isSome := by decide +kernel
  obtain ⟨read, logged, calm, kept⟩ := runs
  obtain ⟨unit, found⟩ := Option.isSome_iff_exists.mp kept
  have room : (last.2.2.read.toFinset.card : Int) ≤ 2 := by
    rw [read]
    decide
  obtain ⟨_, once⟩ := built_once verboseReader cycleScene.serves 2 cycleCalls
  obtain ⟨counts, lines, _, splits⟩ := once room
  rw [calm] at counts
  obtain ⟨_, _, _, _, stays⟩ := splits [.library "rt:a"] [.program "rt:b"] rfl
  exact ⟨read, logged, counts, lines, unit, found, (stays "rt:b" unit found).2.2.1⟩

end Reader

end Library

end UnitResolution
