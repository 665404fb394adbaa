import UnitResolution.Proofs.Script.Imports
import UnitResolution.Library.Resolution
import Mathlib.Data.List.Forall2

/-!
# Corresponding computations

The inference of declarations, the reading of a script and the search for an exported name run in
any monad, and use it only to go on from one computation to the next. A `Correspondence` lifts
relations of values to relations of computations in two monads, and respects just that. Whatever
look-ups correspond, the inferences, the readings and the searches that make them do as well
(`UnitResolution.Correspondence.inferDeclarations`, `UnitResolution.Correspondence.readUnit`,
`UnitResolution.Correspondence.searchUnit`).

Types need not be the same on both sides. They may be in any relation that the rules of inference
keep (`UnitResolution.Script.Compatible`); equality is one, and so is the relation of everything to
everything.
-/

namespace UnitResolution

open Script

/-! ## Relations of types -/

namespace Script

/-- A relation of types that the rules of inference keep. -/
structure Compatible (T : String → String → Prop) : Prop where
  refl : ∀ a, T a a
  union : ∀ {a b a' b'}, T a b → T a' b' → T (unionType a a') (unionType b b')
  array : ∀ {list list'}, List.Forall₂ T list list' → T (arrayType list) (arrayType list')
  signed : ∀ {a b}, T a b → T (signedType a) (signedType b)
  arithmetic : ∀ {a b a' b'}, T a b → T a' b' → T (arithmeticType a a') (arithmeticType b b')
  sum : ∀ {a b a' b'}, T a b → T a' b' → T (sumType a a') (sumType b b')

theorem compatible_eq : Compatible Eq where
  refl _ := rfl
  union first second := by rw [first, second]
  array same := by rw [List.forall₂_eq_eq_eq] at same; rw [same]
  signed same := by rw [same]
  arithmetic first second := by rw [first, second]
  sum first second := by rw [first, second]

theorem compatible_true : Compatible fun _ _ => True where
  refl _ := trivial
  union _ _ := trivial
  array _ := trivial
  signed _ := trivial
  arithmetic _ _ := trivial
  sum _ _ := trivial

/-- Answers to look-ups, of which none stands for the unknown type. -/
def OnAnswers (T : String → String → Prop) (a b : Option String) : Prop :=
  T (a.getD unknownType) (b.getD unknownType)

/-- Declarations that are the same but for their types, which may differ where they are inferred. -/
structure Declaration.Like (T : String → String → Prop) (d e : Declaration) : Prop where
  name : d.name = e.name
  kind : d.kind = e.kind
  inferred : d.inferred = e.inferred
  exported : d.exported = e.exported
  type : T d.type e.type
  stated : d.inferred = false → d.type = e.type

theorem Declaration.Like.eq {d e : Declaration} (same : d.Like Eq e) : d = e := by
  obtain ⟨name, kind, inferred, exported, type, _⟩ := same
  cases d
  cases e
  cases name
  cases kind
  cases inferred
  cases exported
  cases type
  rfl

/-- Names with their types. -/
abbrev Locals.Like (T : String → String → Prop) (l l' : Locals) : Prop :=
  List.Forall₂ (fun p q => p.1 = q.1 ∧ T p.2 q.2) l l'

/-- Declarations so far. -/
structure Progress.Like (T : String → String → Prop) (p q : Progress) : Prop where
  locals : Locals.Like T p.locals q.locals
  declarations : List.Forall₂ (Declaration.Like T) p.declarations q.declarations

variable {T : String → String → Prop}

theorem Locals.Like.lookup {l l' : Locals} (like : Locals.Like T l l') (name : String) :
    Option.Rel T (l.lookup name) (l'.lookup name) := by
  induction like with
  | nil => exact .none
  | @cons p q rest rest' pair _ ih =>
      obtain ⟨key, type⟩ := p
      obtain ⟨key', type'⟩ := q
      obtain ⟨same, related⟩ := pair
      cases same
      rw [List.lookup_cons, List.lookup_cons]
      split
      · exact .some related
      · exact ih

theorem Progress.Like.declare {p q : Progress} {d e : Declaration} (like : p.Like T q)
    (same : d.Like T e) : (p.declare d).Like T (q.declare e) where
  locals := .cons ⟨same.name, same.type⟩ like.locals
  declarations := List.rel_append like.declarations (.cons same .nil)

end Script

/-- Units that are the same but for inferred types. -/
structure LibraryUnit.Like (T : String → String → Prop) (u v : LibraryUnit) : Prop where
  identifier : u.identifier = v.identifier
  kind : u.kind = v.kind
  surface : u.surface = v.surface
  declarations : List.Forall₂ (Declaration.Like T) u.declarations v.declarations
  diagnostics : u.diagnostics = v.diagnostics

theorem LibraryUnit.Like.eq {u v : LibraryUnit} (like : u.Like Eq v) : u = v := by
  obtain ⟨identifier, kind, surface, declarations, diagnostics⟩ := like
  have same : u.declarations = v.declarations := by
    rw [← List.forall₂_eq_eq_eq]
    exact declarations.imp fun _ _ => Declaration.Like.eq
  cases u
  cases v
  cases identifier
  cases kind
  cases surface
  cases same
  cases diagnostics
  rfl

/-! ## Relations of computations -/

/-- Outcomes that are the same failure, or answers in a relation. -/
inductive Alike {ε α β : Type} (V : α → β → Prop) : Except ε α → Except ε β → Prop
  | ok {a : α} {b : β} (related : V a b) : Alike V (.ok a) (.ok b)
  | error {e : ε} : Alike V (.error e) (.error e)

namespace Alike

variable {ε α β : Type} {V W : α → β → Prop} {o : Except ε α} {p : Except ε β}

theorem imp (alike : Alike V o p) (weaker : ∀ a b, V a b → W a b) : Alike W o p := by
  cases alike with
  | ok related => exact .ok (weaker _ _ related)
  | error => exact .error

theorem eq {o p : Except ε α} (alike : Alike Eq o p) : o = p := by
  cases alike with
  | ok related => rw [related]
  | error => rfl

protected theorem refl (o : Except ε α) : Alike Eq o o := by
  cases o with
  | ok a => exact .ok rfl
  | error e => exact .error

end Alike

/-- A lifting of relations of values to relations of computations, which respects what is done at
once and what is done in a row. -/
structure Correspondence (m n : Type → Type) [Monad m] [Monad n] where
  rel : {α β : Type} → (α → β → Prop) → m α → n β → Prop
  imp : ∀ {α β : Type} {V W : α → β → Prop} {x : m α} {y : n β},
    rel V x y → (∀ a b, V a b → W a b) → rel W x y
  protected pure : ∀ {α β : Type} {V : α → β → Prop} {a : α} {b : β},
    V a b → rel V (pure a) (pure b)
  protected bind : ∀ {α β γ δ : Type} {V : α → β → Prop} {W : γ → δ → Prop} {x : m α} {y : n β}
    {f : α → m γ} {g : β → n δ},
    rel V x y → (∀ a b, V a b → rel W (f a) (g b)) → rel W (x >>= f) (y >>= g)

namespace Correspondence

/-- Outcomes without a state. -/
def outcomes {ε : Type} : Correspondence (Except ε) (Except ε) where
  rel := Alike
  imp := Alike.imp
  pure := .ok
  bind {_ _ _ _ _ _ x y _ _} first second := by
    cases first with
    | ok related => exact second _ _ related
    | error => exact .error

/-- Values, as computations that do nothing else. -/
def values : Correspondence Id Id where
  rel V a b := V a b
  imp related weaker := weaker _ _ related
  pure related := related
  bind first second := second _ _ first

/-- Computations that satisfy conditions on what they come to, beside values. -/
def ofOutcomes {m : Type → Type} [Monad m] (o : Outcomes m) : Correspondence m Id where
  rel V x b := o.holds (V · b) x
  imp held weaker := o.imp held fun a => weaker a _
  pure held := o.pure held
  bind held next := o.bind held fun a => next a _

variable {m n : Type → Type} [Monad m] [Monad n] (c : Correspondence m n)
  {T : String → String → Prop}

/-- Corresponding steps, made for the elements of a list in a row, correspond as a whole. -/
theorem foldlM {α β γ : Type} {V : β → γ → Prop} {step : β → α → m β} {other : γ → α → n γ}
    (same : ∀ b b' a, V b b' → c.rel V (step b a) (other b' a)) (list : List α) {start : β}
    {start' : γ} (initial : V start start') :
    c.rel V (list.foldlM step start) (list.foldlM other start') := by
  induction list generalizing start start' with
  | nil => exact c.pure initial
  | cons a rest ih => exact c.bind (same start start' a initial) fun _ _ => ih

section Inference

variable {first : String → m (Option String)} {second : String → n (Option String)}
  {locals locals' : Locals}

/-- Corresponding look-ups type a name correspondingly. -/
theorem nameType (t : Compatible T) (like : Locals.Like T locals locals')
    (same : ∀ name, c.rel (OnAnswers T) (first name) (second name)) (name : String) :
    c.rel T (Script.nameType locals first name) (Script.nameType locals' second name) := by
  unfold Script.nameType
  split
  · exact c.pure (t.refl _)
  · have found := like.lookup name
    generalize locals.lookup name = a at found
    generalize locals'.lookup name = b at found
    cases found with
    | some related => exact c.pure related
    | none => exact c.bind (same name) fun _ _ related => c.pure related

mutual

/-- Where names are typed correspondingly, an expression is typed correspondingly. -/
theorem inferType (t : Compatible T)
    (names : ∀ name, c.rel T (Script.nameType locals first name)
      (Script.nameType locals' second name)) :
    (e : Expression) →
      c.rel T (Script.inferType locals first e) (Script.inferType locals' second e)
  | .number | .bigint | .string | .boolean | .null | .object | .function | .other
  | .cast _ _ | .not _ | .construct _ => c.pure (t.refl _)
  | .identifier name => names name
  | .parenthesized inner => inferType t names inner
  | .satisfies operand => inferType t names operand
  | .signed operand => c.bind (inferType t names operand) fun _ _ r => c.pure (t.signed r)
  | .array elements => c.bind (inferElements t names elements) fun _ _ r => c.pure (t.array r)
  | .binary operator left right => by
      have both : ∀ {combine : String → String → String},
          (∀ {a b a' b'}, T a b → T a' b' → T (combine a a') (combine b b')) →
          c.rel T (do
              let l ← Script.inferType locals first left
              let r ← Script.inferType locals first right
              return combine l r)
            (do
              let l ← Script.inferType locals' second left
              let r ← Script.inferType locals' second right
              return combine l r) := fun keeps =>
        c.bind (inferType t names left) fun _ _ l =>
          c.bind (inferType t names right) fun _ _ r => c.pure (keeps l r)
      simp only [Script.inferType]
      split
      · exact both t.arithmetic
      · split
        · exact c.pure (t.refl _)
        · split
          · exact both t.sum
          · exact c.pure (t.refl _)
  | .conditional _ whenTrue whenFalse =>
      c.bind (inferType t names whenTrue) fun _ _ l =>
        c.bind (inferType t names whenFalse) fun _ _ r => c.pure (t.union l r)

/-- Where names are typed correspondingly, the elements of an array are typed correspondingly. -/
theorem inferElements (t : Compatible T)
    (names : ∀ name, c.rel T (Script.nameType locals first name)
      (Script.nameType locals' second name)) :
    (elements : List Expression) →
      c.rel (List.Forall₂ T) (Script.inferType.inferElements locals first elements)
        (Script.inferType.inferElements locals' second elements)
  | [] => c.pure .nil
  | element :: rest =>
      c.bind (inferType t names element) fun _ _ r =>
        c.bind (inferElements t names rest) fun _ _ others => c.pure (.cons r others)

end

theorem declareVariable (t : Compatible T)
    (same : ∀ name, c.rel (OnAnswers T) (first name) (second name)) (exported : String → Bool)
    (options : InferenceOptions) (kind : VariableKind) {p q : Progress} (like : p.Like T q)
    (v : Variable) :
    c.rel (Progress.Like T) (Script.declareVariable exported options first kind p v)
      (Script.declareVariable exported options second kind q v) := by
  unfold Script.declareVariable
  split
  · exact c.pure like
  · have stated : ∀ d : Declaration, d.inferred = false → (p.declare d).Like T (q.declare d) :=
      fun d _ => like.declare ⟨rfl, rfl, rfl, rfl, t.refl _, fun _ => rfl⟩
    dsimp only
    split
    · exact c.pure (stated _ rfl)
    · exact c.pure (stated _ rfl)
    · split
      · exact c.pure (stated _ rfl)
      · exact c.bind (c.inferType t (c.nameType t like.locals same) _) fun _ _ related =>
          c.pure (like.declare ⟨rfl, rfl, rfl, rfl, related, nofun⟩)

theorem declareStatement (t : Compatible T)
    (same : ∀ name, c.rel (OnAnswers T) (first name) (second name)) (exported : String → Bool)
    (options : InferenceOptions) {p q : Progress} (like : p.Like T q) (s : Statement) :
    c.rel (Progress.Like T) (Script.declareStatement exported options first p s)
      (Script.declareStatement exported options second q s) := by
  have stated : ∀ (name : String) (kind : DeclarationKind) (type : String) (exposed : Bool),
      (p.declare ⟨name, kind, type, false, exposed⟩).Like T
        (q.declare ⟨name, kind, type, false, exposed⟩) := fun _ _ _ _ =>
    like.declare ⟨rfl, rfl, rfl, rfl, t.refl _, fun _ => rfl⟩
  cases s with
  | function exposure name =>
      have found := like.locals.lookup (name.getD "default")
      simp only [Script.declareStatement]
      generalize p.locals.lookup (name.getD "default") = a at found
      generalize q.locals.lookup (name.getD "default") = b at found
      cases found with
      | some _ => exact c.pure like
      | none => exact c.pure (stated _ _ _ _)
  | classDeclaration exposure name => exact c.pure (stated _ _ _ _)
  | «variables» exposed kind list =>
      exact c.foldlM (fun _ _ v like => c.declareVariable t same exported options kind like v)
        list like
  | importFrom _ _ _ => exact c.pure like
  | exportFrom _ _ => exact c.pure like
  | exportNames _ => exact c.pure like
  | exportDefault _ => exact c.pure like
  | other => exact c.pure like

/-- Corresponding look-ups infer the declarations of statements correspondingly. -/
theorem inferDeclarations (t : Compatible T)
    (same : ∀ name, c.rel (OnAnswers T) (first name) (second name)) (exported : String → Bool)
    (options : InferenceOptions) (statements : List Statement) :
    c.rel (List.Forall₂ (Declaration.Like T))
      (Script.inferDeclarations exported options first statements)
      (Script.inferDeclarations exported options second statements) :=
  c.bind (c.foldlM (fun _ _ s like => c.declareStatement t same exported options like s) statements
    (V := Progress.Like T) ⟨.nil, .nil⟩) fun _ _ like => c.pure like.declarations

end Inference

/-! ## Units -/

section Units

variable {first : String → String → m (Option String)}
  {second : String → String → n (Option String)}

/-- Searches that correspond for what a script binds its local names to read the script
correspondingly. -/
theorem typeScript (t : Compatible T) (options : InferenceOptions) (identifier : String)
    (script : Contents)
    (same : ∀ b ∈ script.surface.bindings,
      c.rel (OnAnswers T) (first b.source b.importedName) (second b.source b.importedName)) :
    c.rel (LibraryUnit.Like T) (Library.typeScript options first identifier script)
      (Library.typeScript options second identifier script) := by
  unfold Library.typeScript
  refine c.bind (c.inferDeclarations t (fun name => ?_) _ _ _) fun _ _ like =>
    c.pure ⟨rfl, rfl, rfl, like, rfl⟩
  split
  · exact c.pure (t.refl _)
  · next binding found =>
      split
      · exact same binding (List.mem_of_find?_eq_some found)
      · exact c.pure (t.refl _)

/-- What is read of a text is the same as what remains if it can interrupt. -/
theorem of_orInterrupt {α : Type} {read : Except Identifier.SpecifierError α} {x : m α} {y : n α}
    (lifted : c.rel (fun a b => a = b ∧ Library.orInterrupt read = .ok a) x y) :
    c.rel (fun a b => a = b ∧ read = .ok a) x y := by
  refine c.imp lifted fun a b => ?_
  rintro ⟨same, done⟩
  cases read with
  | error e => cases done
  | ok _ =>
      cases done
      exact ⟨same, rfl⟩

/-- Searches that correspond for what the text of a unit binds its local names to read the text
correspondingly. -/
theorem readUnit [MonadLiftT (Except Interruption) m] [MonadLiftT (Except Interruption) n]
    (t : Compatible T) (options : InferenceOptions) {identifier contents : String}
    (lifts : ∀ {α : Type} (read : Except Identifier.SpecifierError α),
      (∀ e, read = .error e → surfaceIn identifier contents = .error e) →
      c.rel (fun a b => a = b ∧ read = .ok a) (liftM (Library.orInterrupt read))
        (liftM (Library.orInterrupt read)))
    (same : ∀ script, Script.read identifier contents = .ok script →
      ¬ Identifier.isHostDocument identifier →
      ∀ b ∈ script.surface.bindings,
        c.rel (OnAnswers T) (first b.source b.importedName) (second b.source b.importedName)) :
    c.rel (LibraryUnit.Like T) (Library.readUnit options first identifier contents)
      (Library.readUnit options second identifier contents) := by
  unfold Library.readUnit
  split
  · next host =>
      refine c.bind (lifts _ fun e failed => ?_) ?_
      · rw [surfaceIn, if_pos host, failed]
        rfl
      · rintro scripts _ ⟨rfl, _⟩
        exact c.pure ⟨rfl, rfl, rfl, .nil, rfl⟩
  · next plain =>
      refine c.bind (lifts _ fun e failed => ?_) ?_
      · rw [surfaceIn, if_neg plain, failed]
        rfl
      · rintro script _ ⟨rfl, done⟩
        exact c.typeScript t options identifier script (same script done plain)

end Units

/-! ## Searches -/

section Searches

/-- Results of a search that are the same, and whose keys satisfy a condition. -/
def SameFound (kept : List String → Prop) (a b : Option String × List String) : Prop :=
  a = b ∧ kept a.2

variable {kept : List String → Prop}

/-- Searches that correspond for every unit of a list search the list correspondingly. -/
theorem firstType {first : String → List String → m (Option String × List String)}
    {second : String → List String → n (Option String × List String)} (sources : List String)
    (same : ∀ source ∈ sources, ∀ seen, kept seen →
      c.rel (SameFound kept) (first source seen) (second source seen))
    {seen : List String} (initial : kept seen) :
    c.rel (SameFound kept) (Library.firstType first sources seen)
      (Library.firstType second sources seen) := by
  induction sources generalizing seen with
  | nil => exact c.pure ⟨rfl, initial⟩
  | cons source rest ih =>
      refine c.bind (same source List.mem_cons_self seen initial) ?_
      rintro ⟨type, seen⟩ _ ⟨rfl, later⟩
      dsimp only
      split
      · exact c.pure ⟨rfl, later⟩
      · exact ih (fun s member => same s (List.mem_cons_of_mem source member)) later

/-- Searches that correspond for the units from which a unit passes names on search the unit
correspondingly. -/
theorem searchUnit {first : String → String → List String → m (Option String × List String)}
    {second : String → String → List String → n (Option String × List String)}
    (unit : LibraryUnit) (name : String) {seen : List String} (initial : kept seen)
    (named : ∀ e ∈ unit.surface.reExports,
      c.rel (SameFound kept) (first e.source e.importedName seen)
        (second e.source e.importedName seen))
    (starred : ∀ source ∈ unit.surface.starExports, ∀ seen, kept seen →
      c.rel (SameFound kept) (first source name seen) (second source name seen)) :
    c.rel (SameFound kept) (Library.searchUnit first unit name seen)
      (Library.searchUnit second unit name seen) := by
  unfold Library.searchUnit
  split
  · exact c.pure ⟨rfl, initial⟩
  · split
    · next reExport found => exact named reExport (List.mem_of_find?_eq_some found)
    · split
      · exact c.pure ⟨rfl, initial⟩
      · exact c.firstType unit.surface.starExports starred initial

end Searches

end Correspondence

end UnitResolution
