import UnitResolution.Proofs.Library.Coherence

/-!
# Reading units

A library in use comes to what its sources allow (`UnitResolution.Library.Reader.Allowed`). The
proof follows the code: candidates are tried, imports are followed, names are searched, and texts
are read. It is an induction on how deep units are read inside each other
(`UnitResolution.Library.Reader.reads`). What carries it is that every unit that is being read leads
to the next one (`UnitResolution.Library.Reader.Next`), so that whatever leads back to one of them
closes a cycle.
-/

namespace UnitResolution

open Library Script

namespace Library.Reader

variable {σ : Type} (r : Reader σ)

/-- The depth limit leaves room for everything that can be reached from a unit. -/
def Enough (sources : Sources) (root : String) : Prop :=
  (sources.closure root).Finite ∧ sources.room root ≤ r.depthLimit

variable {r} {sources : Sources} {asked : String → Prop} {α : Type}

/-- The outcomes of an operation that may have those of a set, but is only interrupted where that is
excused, and may be nested too deeply if there is too much to read. -/
inductive Allowed (much : Prop) (excused : Interruption → Prop) (possible : Possibly α) :
    Except Interruption α → Prop
  | answer {a : α} (reached : possible (.ok a)) : Allowed much excused possible (.ok a)
  | stopped {i : Interruption} (reached : possible (.error i)) (excuse : excused i) :
      Allowed much excused possible (.error i)
  | tooDeep (excess : much) : Allowed much excused possible (.error .tooDeep)

/-- The outcomes whose answers satisfy a condition. -/
def Answering (condition : α → Prop) : Possibly α := fun o => ∀ a, o = .ok a → condition a

variable {much : Prop} {excused : Interruption → Prop}

theorem Allowed.imp {possible other : Possibly α} {o : Except Interruption α}
    (allowed : Allowed much excused possible o) (weaker : ∀ o, possible o → other o) :
    Allowed much excused other o := by
  cases allowed with
  | answer reached => exact .answer (weaker _ reached)
  | stopped reached excuse => exact .stopped (weaker _ reached) excuse
  | tooDeep excess => exact .tooDeep excess

theorem Allowed.answered_or_excused {possible : Possibly α} {o : Except Interruption α}
    (allowed : Allowed much excused possible o) :
    (∃ a, o = .ok a ∧ possible (.ok a)) ∨
      ∃ i, o = .error i ∧ (excused i ∨ i = .tooDeep ∧ much) := by
  cases allowed with
  | answer reached => exact .inl ⟨_, rfl, reached⟩
  | stopped reached excuse => exact .inr ⟨_, rfl, .inl excuse⟩
  | tooDeep excess => exact .inr ⟨_, rfl, .inr ⟨rfl, excess⟩⟩

theorem Allowed.answering {condition : α → Prop} {a : α} (holds : condition a) :
    Allowed much excused (Answering condition) (.ok a) :=
  .answer fun _ same => Except.ok.inj same ▸ holds

/-- After an answer that is possible, an operation goes on. -/
theorem Ensures.proceed {β : Type} {x : Operation σ α} {f : α → Operation σ β}
    {possible : Possibly α} {final : Possibly β} {excused' : Interruption → Prop}
    (first : r.Ensures sources asked x (Allowed much excused possible))
    (next : ∀ a, possible (.ok a) → r.Ensures sources asked (f a) (Allowed much excused' final))
    (stopped : ∀ i, possible (.error i) → excused i → final (.error i) ∧ excused' i) :
    r.Ensures sources asked (x >>= f) (Allowed much excused' final) := by
  refine first.bind (fun a allowed => ?_) fun i allowed => ?_
  · cases allowed with
    | answer reached => exact next a reached
  · cases allowed with
    | stopped reached excuse =>
        obtain ⟨still, excuse⟩ := stopped i reached excuse
        exact .stopped still excuse
    | tooDeep excess => exact .tooDeep excess

/-- After an answer that satisfies a condition, an operation goes on. -/
theorem Ensures.andThen {β : Type} {x : Operation σ α} {f : α → Operation σ β}
    {condition : α → Prop} {final : β → Prop}
    (first : r.Ensures sources asked x (Allowed much excused (Answering condition)))
    (next : ∀ a, condition a →
      r.Ensures sources asked (f a) (Allowed much excused (Answering final))) :
    r.Ensures sources asked (x >>= f) (Allowed much excused (Answering final)) :=
  first.proceed (fun a reached => next a (reached a rfl)) fun _ _ excuse => ⟨nofun, excuse⟩

/-- What a reader does, beside what may be the outcome of it. -/
def reading (r : Reader σ) (sources : Sources) (asked : String → Prop) (much : Prop)
    (excused : Interruption → Prop) : Correspondence (Operation σ) Possibly where
  rel V x possible :=
    r.Ensures sources asked x (Allowed much excused fun o => ∃ p, possible p ∧ Alike V o p)
  imp same weaker := same.imp fun _ allowed => allowed.imp fun _ ⟨p, reached, alike⟩ =>
    ⟨p, reached, alike.imp weaker⟩
  pure related := .pure (.answer ⟨_, rfl, .ok related⟩)
  bind {_ _ _ _ V W x y f g} first second := by
    refine first.proceed (fun a reached => ?_) fun i reached excuse => ⟨?_, excuse⟩
    · obtain ⟨p, before, alike⟩ := reached
      cases alike with
      | @ok _ b related =>
          refine (second a b related).imp fun o allowed => allowed.imp ?_
          rintro o ⟨q, after, alike⟩
          exact ⟨q, .inl ⟨b, before, after⟩, alike⟩
    · obtain ⟨p, before, alike⟩ := reached
      cases alike with
      | error => exact ⟨.error i, .inr ⟨i, before, rfl⟩, .error⟩

theorem reading_lift {o : Except Interruption α} (excuse : ∀ i, o = .error i → excused i) :
    (r.reading sources asked much excused).rel (fun a b => a = b ∧ o = .ok a) (liftM o)
      (liftM o) := by
  refine Ensures.lift ?_
  cases o with
  | ok a => exact .answer ⟨.ok a, rfl, .ok ⟨rfl, rfl⟩⟩
  | error i => exact .stopped ⟨.error i, rfl, .error⟩ (excuse i rfl)

theorem reading_eq {x : Operation σ α} {possible : Possibly α} :
    (r.reading sources asked much excused).rel Eq x possible ↔
      r.Ensures sources asked x (Allowed much excused possible) := by
  constructor
  · intro same
    refine same.imp fun o allowed => allowed.imp ?_
    rintro o ⟨p, reached, alike⟩
    rw [alike.eq]
    exact reached
  · intro ensures
    exact ensures.imp fun o allowed => allowed.imp fun o reached => ⟨o, reached, .refl o⟩

/-! ## Following imports -/

/-- What following an import may come to, while the units of a list are being read. -/
inductive Led (sources : Sources) (options : InferenceOptions) (pending : List String)
    (imported : String) : Possibly Imported
  | pending {c : String} (member : c ∈ pending) (leads : sources.leadsTo imported = .ok (some c)) :
      Led sources options pending imported (.ok .pending)
  | failed {d : Diagnostic} (leads : sources.leadsTo imported = .ok none)
      (reason : sources.failure? imported = some d) :
      Led sources options pending imported (.ok (.failed d))
  | served {c : String} {unit : LibraryUnit} (leads : sources.leadsTo imported = .ok (some c))
      (possible : sources.possibleUnit options c (.ok (.ok unit))) :
      Led sources options pending imported (.ok (.served unit))
  | stopped {i : Interruption} (leads : sources.leadsTo imported = .error i) :
      Led sources options pending imported (.error i)
  | interrupted {c : String} {i : Interruption} (leads : sources.leadsTo imported = .ok (some c))
      (possible : sources.possibleUnit options c (.error i)) :
      Led sources options pending imported (.error i)

section Following

variable {resolve : String → Operation σ (Except Diagnostic LibraryUnit)} {pending : List String}
  {imported : String}

/-- If the first of the candidates that are left stops the reading, the import is stopped by its
source, or leads to it. -/
theorem Led.of_stopped {options : InferenceOptions} {c : String} {list : List String}
    {i : Interruption} (rest : sources.firstServed (c :: list) = sources.leadsTo imported)
    (excuse : ∀ i, sources.leadsTo imported = .error i → excused i)
    (reached : sources.possibleUnit options c (.error i))
    (excuse' : sources c = .error i ∨ excused i) :
    Led sources options pending imported (.error i) ∧ excused i := by
  cases answer : sources c with
  | error j =>
      rw [Sources.possibleUnit_of_stopped answer] at reached
      cases reached
      have leads : sources.leadsTo imported = .error i := by
        rw [← rest, Sources.firstServed, answer]
      exact ⟨.stopped leads, excuse i leads⟩
  | ok found =>
      cases found with
      | error d =>
          rw [Sources.possibleUnit_of_failed answer] at reached
          cases reached
      | ok source =>
          have leads : sources.leadsTo imported = .ok (some c) := by
            rw [← rest]
            exact Sources.firstServed_cons_of_has ⟨source, answer⟩ list
          refine ⟨.interrupted leads reached, excuse'.resolve_left fun impossible => ?_⟩
          rw [answer] at impossible
          cases impossible

/-- Candidates are tried until one has a source. What has been tried so far has none, so the rest
of the candidates leads where the import does. -/
theorem ensures_tryCandidates
    (resolved : ∀ c, c ∉ pending → (sources.Has c → sources.leadsTo imported = .ok (some c)) →
      r.Ensures sources asked (resolve c)
        (Allowed much (fun i => sources c = .error i ∨ excused i)
          (sources.possibleUnit r.configuration.inference c)))
    (sourced : ∀ c ∈ pending, sources.Has c)
    (excuse : ∀ i, sources.leadsTo imported = .error i → excused i)
    (list : List String) (reason : Option Diagnostic)
    (rest : sources.firstServed list = sources.leadsTo imported)
    (why : sources.leadsTo imported = .ok none →
      match reason with
      | some d => sources.failure? imported = some d
      | none => list = Identifier.candidates imported) :
    r.Ensures sources asked (tryCandidates resolve pending imported list reason)
      (Allowed much excused (Led sources r.configuration.inference pending imported)) := by
  induction list generalizing reason with
  | nil =>
      have leads : sources.leadsTo imported = .ok none := rest.symm
      cases reason with
      | none => exact absurd (why leads).symm (Sources.candidates_ne_nil imported)
      | some d => exact .pure (.answer (.failed leads (why leads)))
  | cons c list ih =>
      have target (has : sources.Has c) : sources.leadsTo imported = .ok (some c) := by
        rw [← rest]
        exact Sources.firstServed_cons_of_has has list
      unfold tryCandidates
      by_cases member : c ∈ pending
      · rw [if_pos member]
        exact .pure (.answer (.pending member (target (sourced c member))))
      · rw [if_neg member]
        refine (resolved c member target).proceed (fun found reached => ?_)
          fun i reached excuse' => ?_
        · cases found with
          | ok unit =>
              have leads := target (Sources.has_of_possibleUnit reached)
              refine (Ensures.rememberAlias leads).bind (fun _ _ => ?_) nofun
              exact .pure (.answer (.served leads reached))
          | error d =>
              have failed := Sources.failed_of_possibleUnit reached
              have skipped : sources.firstServed (c :: list) = sources.firstServed list := by
                rw [Sources.firstServed, failed]
              refine ih (some (reason.getD d)) (skipped ▸ rest) fun leads => ?_
              cases reason with
              | some first => exact why leads
              | none =>
                  change sources.failure? imported = some d
                  rw [Sources.failure?, ← why leads]
                  simp only [List.head?_cons, failed, bind, Option.bind]
        · exact Led.of_stopped rest excuse reached excuse'

/-- Following an import comes to where it leads. -/
theorem ensures_followImport
    (resolved : ∀ c, c ∉ pending → (sources.Has c → sources.leadsTo imported = .ok (some c)) →
      r.Ensures sources asked (resolve c)
        (Allowed much (fun i => sources c = .error i ∨ excused i)
          (sources.possibleUnit r.configuration.inference c)))
    (sourced : ∀ c ∈ pending, sources.Has c)
    (excuse : ∀ i, sources.leadsTo imported = .error i → excused i) :
    r.Ensures sources asked (followImport resolve pending imported)
      (Allowed much excused (Led sources r.configuration.inference pending imported)) := by
  unfold followImport
  refine (Ensures.candidatesOf imported).bind (fun list found => ?_) ?_
  · refine ensures_tryCandidates resolved sourced excuse list none ?_ fun leads => ?_
    · rcases found with same | ⟨c, same, leads⟩
      · cases same
        rfl
      · cases same
        rw [leads]
        exact Sources.firstServed_cons_of_has (Sources.has_of_leadsTo leads) []
    · rcases found with same | ⟨c, same, leads'⟩
      · cases same
        rfl
      · rw [leads] at leads'
        cases leads'
  · rintro i (impossible | ⟨c, impossible, _⟩)
    · cases impossible
    · cases impossible

end Following

/-! ## Searching -/

section Searching

variable {follow : String → Operation σ Imported} {inside : List String} {root u : String}

/-- A search is answered at once, with keys that include those before. -/
theorem answered {imported name : String} {seen : List String} {a : Option String × List String}
    (possible : sources.possibleSearch r.configuration.inference imported name seen (.ok a))
    (grown : seen ⊆ a.2) :
    (reading r sources asked much excused).rel (Correspondence.SameFound (seen ⊆ ·)) (pure a)
      (sources.possibleSearch r.configuration.inference imported name seen) :=
  Ensures.pure (.answer ⟨.ok a, possible, .ok ⟨rfl, grown⟩⟩)

/-- A search finds what it may find, while the units from which `u` is being read are left alone.
What leads to one of these units closes a cycle. -/
theorem ensures_typeOfExport (reached : u ∈ sources.closure root)
    (below : ∀ p ∈ inside, sources.Reaches p u)
    (led : ∀ w, sources.Reaches u w → ∀ imported ∈ (sources.surface w).imports,
      r.Ensures sources asked (follow imported)
        (Allowed (¬ r.Enough sources root) excused
          (Led sources r.configuration.inference inside imported)))
    (limit : Nat) {w v imported name : String} (reaches : sources.Reaches u w)
    (member : imported ∈ (sources.surface w).imports) (within : v ∈ sources.closure root)
    (taken : name ∈ Sources.namesTaken (sources.surface v)) (seen : List String)
    (room : r.Enough sources root →
      (sources.searchKeys root \ {key | key ∈ seen}).ncard < limit) :
    (reading r sources asked (¬ r.Enough sources root) excused).rel
      (Correspondence.SameFound (seen ⊆ ·)) (typeOfExport follow limit imported name seen)
      (sources.possibleSearch r.configuration.inference imported name seen) := by
  induction limit generalizing w v imported name seen with
  | zero => exact Ensures.interrupt (.tooDeep fun enough => Nat.not_lt_zero _ (room enough))
  | succ limit ih =>
      have reachedHere : w ∈ sources.closure root := Relation.ReflTransGen.trans reached reaches
      unfold typeOfExport
      by_cases begun : searchKey imported name ∈ seen
      · rw [if_pos begun]
        exact answered (.inr (Sources.search_of_mem begun).symm) fun _ => id
      · rw [if_neg begun]
        have less (enough : r.Enough sources root) :
            (sources.searchKeys root \ {key | key ∈ searchKey imported name :: seen}).ncard <
              limit :=
          Nat.lt_of_lt_of_le
            (Sources.ncard_diff_cons_lt (Sources.searchKeys_finite enough.1)
              (Sources.mem_searchKeys reachedHere member within taken) begun)
            (Nat.le_of_lt_succ (room enough))
        refine (led w reaches imported member).proceed (fun found come => ?_)
          fun i come excuse => ⟨⟨.error i, ?_, .error⟩, excuse⟩
        · cases come with
          | @pending c started leads =>
              refine answered (.inl ⟨c, leads, fun grounded => ?_⟩) (List.subset_cons_self _ _)
              have back : sources.Reaches c w := (below c started).trans reaches
              exact grounded.not_cycle (Relation.TransGen.tail' back ⟨imported, member, leads⟩)
          | failed leads _ =>
              exact answered (.inr (Sources.search_of_none begun leads).symm)
                (List.subset_cons_self _ _)
          | @served c unit leads possible =>
              have further : sources.Reaches u c := reaches.tail ⟨imported, member, leads⟩
              have surface := Sources.surface_of_possibleUnit possible
              have exchanged : (sources.surface c).Imported := Sources.imported_surface c
              have searched : (reading r sources asked (¬ r.Enough sources root) excused).rel
                  (Correspondence.SameFound (searchKey imported name :: seen ⊆ ·))
                  (searchUnit (typeOfExport follow limit) unit name
                    (searchKey imported name :: seen))
                  (searchUnit (sources.possibleSearch r.configuration.inference) unit name
                    (searchKey imported name :: seen)) := by
                refine Correspondence.searchUnit _ unit name (List.Subset.refl _)
                  (fun e passed => ?_) fun source passed begun grown => ?_
                · rw [surface] at passed
                  exact ih further (exchanged.reExports e passed)
                    (Relation.ReflTransGen.trans reached further)
                    (List.mem_append_right _ (List.mem_map_of_mem passed)) _ less
                · rw [surface] at passed
                  have still (enough : r.Enough sources root) :=
                    Nat.lt_of_le_of_lt (Sources.ncard_diff_le_of_subset
                      (Sources.searchKeys_finite enough.1) grown) (less enough)
                  refine (reading r sources asked _ excused).imp (ih further
                    (exchanged.starExports source passed) within taken begun still) ?_
                  exact fun _ _ same => ⟨same.1, List.Subset.trans grown same.2⟩
              refine searched.imp fun o allowed => allowed.imp ?_
              rintro o ⟨p, found, alike⟩
              exact ⟨p, Sources.possibleSearch_of_served begun leads possible found,
                alike.imp fun _ _ same =>
                  ⟨same.1, List.Subset.trans (List.subset_cons_self _ _) same.2⟩⟩
        · cases come with
          | stopped leads => exact .inr (Sources.search_of_stopped begun leads).symm
          | interrupted leads possible =>
              exact Sources.possibleSearch_of_interrupted begun leads possible

end Searching

/-! ## Reading -/

/-- A reader asks for nothing but what can be reached from a unit and what has no source. -/
def Asked (sources : Sources) (unit identifier : String) : Prop :=
  sources.Reaches unit identifier ∨ ¬ sources.Has identifier

/-- A unit that can be reached interrupts the reading. -/
def Stopping (sources : Sources) (root : String) (i : Interruption) : Prop :=
  ∃ v ∈ sources.closure root, sources.Stops v i

/-- To follow an import, a reader asks for nothing but what can be reached from the unit that it
leads to, and what has no source. -/
def AskedFor (sources : Sources) (imported identifier : String) : Prop :=
  (∃ c, sources.leadsTo imported = .ok (some c) ∧ sources.Reaches c identifier) ∨
    ¬ sources.Has identifier

theorem Asked.along {c imported identifier : String} (asked : Asked sources c identifier)
    (target : sources.Has c → sources.leadsTo imported = .ok (some c)) :
    AskedFor sources imported identifier := by
  rcases asked with reached | missing
  · by_cases has : sources.Has c
    · exact .inl ⟨c, target has, reached⟩
    · cases Sources.eq_of_reaches_of_not_has has reached
      exact .inr has
  · exact .inr missing

theorem AskedFor.below {u w imported identifier : String}
    (asked : AskedFor sources imported identifier) (reaches : sources.Reaches u w)
    (member : imported ∈ (sources.surface w).imports) : Asked sources u identifier := by
  rcases asked with ⟨c, leads, reached⟩ | missing
  · exact .inl ((reaches.tail ⟨imported, member, leads⟩).trans reached)
  · exact .inr missing

/-- While the units of a list are being read, a unit is the next one: all of them lead to it, and
there is depth for everything else that can be reached. -/
structure Next (r : Reader σ) (sources : Sources) (root : String) (depth : Nat)
    (pending : List String) (u : String) : Prop where
  reached : sources.Has u → u ∈ sources.closure root
  sourced : ∀ p ∈ pending, sources.Has p
  below : sources.Has u → ∀ p ∈ pending, sources.Reaches p u
  new : u ∉ pending
  room : r.Enough sources root → (sources.closure root \ {p | p ∈ pending}).ncard < depth

/-- At some depth, every unit that is the next one is read to what it may be. -/
def Reads (r : Reader σ) (sources : Sources) (root : String) (depth : Nat) : Prop :=
  ∀ {pending u}, r.Next sources root depth pending u →
    r.Ensures sources (Asked sources u) (resolveUnit r depth pending u)
      (Allowed (¬ r.Enough sources root)
        (fun i => sources u = .error i ∨ Stopping sources root i)
        (sources.possibleUnit r.configuration.inference u))

/-- What is imported from what can be reached from a unit that is read is the next to be read, if it
is not being read already. -/
theorem Next.inside {root u w c imported : String} {depth : Nat} {pending : List String}
    (next : r.Next sources root (depth + 1) pending u) (has : sources.Has u)
    (reaches : sources.Reaches u w) (member : imported ∈ (sources.surface w).imports)
    (new : c ∉ u :: pending) (target : sources.Has c → sources.leadsTo imported = .ok (some c)) :
    r.Next sources root depth (u :: pending) c where
  reached hasTarget := Sources.Edge.mem_closure ⟨imported, member, target hasTarget⟩
    (Relation.ReflTransGen.trans (next.reached has) reaches)
  sourced := List.forall_mem_cons.mpr ⟨has, next.sourced⟩
  below hasTarget p inside := by
    have edge : sources.Edge w c := ⟨imported, member, target hasTarget⟩
    rcases List.mem_cons.mp inside with rfl | inside
    · exact reaches.tail edge
    · exact ((next.below has p inside).trans reaches).tail edge
  new := new
  room enough := Nat.lt_of_lt_of_le
    (Sources.ncard_diff_cons_lt enough.1 (next.reached has) next.new)
    (Nat.le_of_lt_succ (next.room enough))

/-- While a unit is being read, following an import of what can be reached from it comes to where
the import leads. -/
theorem Reads.follow {root u w imported : String} {depth : Nat} {pending : List String}
    (reads : r.Reads sources root depth) (next : r.Next sources root (depth + 1) pending u)
    (has : sources.Has u) (reaches : sources.Reaches u w)
    (member : imported ∈ (sources.surface w).imports) :
    r.Ensures sources (AskedFor sources imported)
      (followImport (resolveUnit r depth (u :: pending)) (u :: pending) imported)
      (Allowed (¬ r.Enough sources root) (Stopping sources root)
        (Led sources r.configuration.inference (u :: pending) imported)) := by
  refine ensures_followImport (fun c new target => ?_)
    (List.forall_mem_cons.mpr ⟨has, next.sourced⟩) fun i leads => ?_
  · exact (reads (next.inside has reaches member new target)).mono fun _ asked =>
      asked.along target
  · exact ⟨w, Relation.ReflTransGen.trans (next.reached has) reaches, .imported member leads⟩

/-- Reading the text of a unit comes to what the text may be, if following its imports, and the
imports of what can be reached from it, comes to where they lead. -/
theorem ensures_readUnit {follow : String → Operation σ Imported} {inside : List String}
    {root u : String} {source : Source} (served : sources u = .ok (.ok source))
    (reached : u ∈ sources.closure root) (below : ∀ p ∈ inside, sources.Reaches p u)
    (led : ∀ w, sources.Reaches u w → ∀ imported ∈ (sources.surface w).imports,
      r.Ensures sources asked (follow imported)
        (Allowed (¬ r.Enough sources root) (Stopping sources root)
          (Led sources r.configuration.inference inside imported))) :
    r.Ensures sources asked
      (readUnit r.configuration.inference
        (fun imported name => do
          let (type, _) ← typeOfExport follow r.depthLimit imported name []
          return type) u source.contents)
      (Allowed (¬ r.Enough sources root) (Stopping sources root)
        (readUnit r.configuration.inference
          (sources.possibleType r.configuration.inference) u source.contents)) := by
  let c := reading r sources asked (¬ r.Enough sources root) (Stopping sources root)
  have lifted {α : Type} (read : Except Identifier.SpecifierError α)
      (failed : ∀ e, read = .error e → surfaceIn u source.contents = .error e) :
      c.rel (fun a b => a = b ∧ read = .ok a) (liftM (orInterrupt read))
        (liftM (orInterrupt read)) := by
    refine c.of_orInterrupt (reading_lift fun i stopped => ?_)
    cases read with
    | ok _ => cases stopped
    | error e =>
        cases stopped
        exact ⟨u, reached, .text served (failed e rfl)⟩
  have typed (script : Contents) (read : Script.read u source.contents = .ok script)
      (plain : ¬ Identifier.isHostDocument u) (b : ImportBinding)
      (member : b ∈ script.surface.bindings) :
      c.rel (OnAnswers Eq)
        (do
          let (type, _) ← typeOfExport follow r.depthLimit b.source b.importedName []
          return type)
        (sources.possibleType r.configuration.inference b.source b.importedName) := by
    rw [← Sources.surface_of_script served plain read] at member
    have searched := ensures_typeOfExport reached below led r.depthLimit .refl
      ((Sources.imported_surface u).bindings b member) reached
      (List.mem_append_left _ (List.mem_map_of_mem member)) [] fun enough => by
        refine Nat.lt_of_le_of_lt (Set.ncard_le_ncard Set.sdiff_subset
          (Sources.searchKeys_finite enough.1)) (Nat.lt_of_lt_of_le ?_ enough.2)
        exact Nat.lt_succ_of_le (Nat.le_add_left _ _)
    refine c.bind searched ?_
    rintro ⟨type, seen⟩ _ ⟨rfl, _⟩
    exact c.pure rfl
  refine reading_eq.mp (c.imp (c.readUnit compatible_eq r.configuration.inference lifted ?_)
    fun _ _ => LibraryUnit.Like.eq)
  exact typed

/-- At every depth, units are read to what they may be. -/
theorem reads (r : Reader σ) (sources : Sources) (root : String) (depth : Nat) :
    r.Reads sources root depth := by
  induction depth with
  | zero =>
      intro pending u next
      exact .interrupt (.tooDeep fun enough => Nat.not_lt_zero _ (next.room enough))
  | succ depth ih =>
      intro pending u next
      have itself : Asked sources u u := .inl .refl
      unfold resolveUnit
      refine (Ensures.keptUnit itself).bind (fun kept answer => ?_) ?_
      · rcases answer with same | ⟨unit, same, possible⟩
        · cases same
          refine (Ensures.source itself).bind (fun found answer => ?_) fun i stopped => ?_
          · cases found with
            | error d =>
                exact .pure (.answer ((Sources.possibleUnit_of_failed answer.symm).mpr rfl))
            | ok source =>
                have has : sources.Has u := ⟨source, answer.symm⟩
                refine (ensures_readUnit answer.symm (next.reached has)
                  (List.forall_mem_cons.mpr ⟨.refl, next.below has⟩)
                  fun w reaches imported member => (ih.follow next has reaches member).mono
                    fun _ asked => asked.below reaches member).proceed
                  (fun unit read => ?_) fun i read excuse => ?_
                · have possible := Sources.possibleUnit_of_readUnit answer.symm read
                  have named := Sources.identifier_of_possibleUnit possible
                  refine (Ensures.logResolved unit).bind (fun _ _ => ?_) nofun
                  refine (Ensures.keep (named ▸ itself) (named ▸ possible)).bind
                    (fun _ _ => ?_) nofun
                  exact .pure (.answer possible)
                · exact ⟨Sources.possibleUnit_of_readUnit_stopped answer.symm read, .inr excuse⟩
          · exact .stopped ((Sources.possibleUnit_of_stopped stopped.symm).mpr rfl)
              (.inl stopped.symm)
        · cases same
          exact .pure (.answer possible)
      · rintro i (impossible | ⟨unit, impossible, _⟩)
        · cases impossible
        · cases impossible

/-! ## While nothing is being read -/

/-- A unit that can be reached, or has no source, is the next one. -/
theorem next_outermost {root u : String} (reached : sources.Has u → u ∈ sources.closure root) :
    r.Next sources root r.depthLimit [] u where
  reached := reached
  sourced := List.forall_mem_nil _
  below _ := List.forall_mem_nil _
  new := List.not_mem_nil
  room enough := Nat.lt_of_le_of_lt (Set.ncard_le_ncard Set.sdiff_subset enough.1)
    (Nat.lt_of_lt_of_le (Nat.lt_succ_of_le (Nat.le_add_right _ _)) enough.2)

/-- The depth limit leaves no room, or infinitely much can be reached. -/
theorem not_enough_iff {u : String} : ¬ r.Enough sources u ↔
    ((sources.closure u).Finite → r.depthLimit < sources.room u) := by
  unfold Enough
  rw [not_and, Nat.not_le]

/-- A unit is read to what it may be, unless something that can be reached from it stops that. -/
theorem ensures_resolveUnit_outermost (u : String) :
    r.Ensures sources (Asked sources u) (resolveUnit r r.depthLimit [] u)
      (Allowed (¬ r.Enough sources u) (Stopping sources u)
        (sources.possibleUnit r.configuration.inference u)) := by
  refine (r.reads sources u r.depthLimit
    (next_outermost fun _ => Sources.mem_closure_self u)).imp fun o allowed => ?_
  cases allowed with
  | answer reached => exact .answer reached
  | tooDeep excess => exact .tooDeep excess
  | stopped reached excuse =>
      refine .stopped reached ?_
      rcases excuse with stopped | excuse
      · exact ⟨u, Sources.mem_closure_self u, .source stopped⟩
      · exact excuse

/-- What resolving a unit may come to: the report of why it has no source, or what it may be. -/
inductive Resolved (sources : Sources) (options : InferenceOptions) (u : String) :
    Possibly (Except Report LibraryUnit)
  | failed {d : Diagnostic} (failed : sources u = .ok (.error d)) :
      Resolved sources options u (.ok (.error (.single d)))
  | read {unit : LibraryUnit} (possible : sources.possibleUnit options u (.ok (.ok unit))) :
      Resolved sources options u (.ok (.ok unit))
  | stopped {i : Interruption} (possible : sources.possibleUnit options u (.error i)) :
      Resolved sources options u (.error i)

/-- The answer for an identifier that has a source is a unit. -/
theorem Resolved.unit {options : InferenceOptions} {u : String} {source : Source}
    {answer : Except Report LibraryUnit} (served : sources u = .ok (.ok source))
    (resolved : Resolved sources options u (.ok answer)) :
    ∃ unit, answer = .ok unit ∧ sources.possibleUnit options u (.ok (.ok unit)) := by
  cases resolved with
  | failed failed => cases served.symm.trans failed
  | read possible => exact ⟨_, rfl, possible⟩

/-- Resolving a unit comes to what it may come to. -/
theorem ensures_resolveLibrary (u : String) :
    r.Ensures sources (Asked sources u) (resolveLibrary r u)
      (Allowed (¬ r.Enough sources u) (Stopping sources u)
        (Resolved sources r.configuration.inference u)) := by
  refine (ensures_resolveUnit_outermost u).proceed (fun found reached => ?_)
    fun i reached excuse => ⟨.stopped reached, excuse⟩
  cases found with
  | error d => exact .pure (.answer (.failed (Sources.failed_of_possibleUnit reached)))
  | ok unit => exact .pure (.answer (.read reached))

/-- An import of a unit that can be reached leads where it leads. -/
theorem ensures_resolveImport {root w imported : String} (reached : w ∈ sources.closure root)
    (member : imported ∈ (sources.surface w).imports) :
    r.Ensures sources (Asked sources root) (resolveImport r imported)
      (Allowed (¬ r.Enough sources root) (Stopping sources root)
        (Led sources r.configuration.inference [] imported)) := by
  refine ensures_followImport (fun c _ target => ?_) (List.forall_mem_nil sources.Has)
    fun i leads => ⟨w, reached, .imported member leads⟩
  refine (r.reads sources root r.depthLimit (next_outermost fun has => ?_)).mono
    fun _ asked => (asked.along target).below reached member
  exact Sources.Edge.mem_closure ⟨imported, member, target has⟩ reached

end Library.Reader

end UnitResolution
