import UnitResolution.Proofs.Correspondence

/-!
# What statements declare

The types that a script gives to its names while it is being read are those of its declarations, the
latest first. Its unit is searched in the declarations, the earliest first. So the two may disagree
about a name that is declared more than once, or not at all.

Which names are declared can be read off the statements
(`UnitResolution.Script.Statement.declaredNames`), and the declarations are made for these names one
after the other (`UnitResolution.Script.Progress.Declares`), however imports are looked up. So they
are for these names, each at least once (`UnitResolution.Script.Progress.Covers`), and are marked as
exported as their names are (`UnitResolution.Script.Progress.Declares.exported_eq`). A constant with
a name for its value, behind all other statements, is declared last, with the type that this name
has then (`UnitResolution.Script.inferDeclarations_alias`).
-/

namespace UnitResolution.Script

/-- The names that a statement declares. -/
def Statement.declaredNames : Statement → List String
  | .function _ name => [name.getD "default"]
  | .classDeclaration _ name => [name.getD "default"]
  | .variables _ _ list => list.filterMap (·.name)
  | _ => []

/-- The names that statements declare. -/
def declaredNames (statements : List Statement) : List String :=
  statements.flatMap Statement.declaredNames

/-- A constant whose value is a name. -/
def Statement.alias (name value : String) : Statement :=
  .variables false .const [⟨some name, none, some (.identifier value)⟩]

/-- The types that names have after declarations. -/
def localsOf (list : List Declaration) : Locals := (list.map fun d => (d.name, d.type)).reverse

/-- The type of a name by its first declaration. -/
def firstType? (list : List Declaration) (name : String) : Option String :=
  (list.find? (·.name == name)).map (·.type)

/-- The type of a name by its last declaration. -/
def lastType? (list : List Declaration) (name : String) : Option String :=
  firstType? list.reverse name

/-- The names of declarations. -/
def namesOf (list : List Declaration) : List String := list.map (·.name)

/-! ## First and last declarations -/

theorem lookup_localsOf (list : List Declaration) (name : String) :
    (localsOf list).lookup name = lastType? list name := by
  unfold localsOf lastType? firstType?
  rw [← List.map_reverse]
  induction list.reverse with
  | nil => rfl
  | cons d rest ih =>
      rw [List.map_cons, List.lookup_cons, List.find?_cons, ih]
      by_cases same : d.name = name
      · simp [same]
      · rw [beq_false_of_ne same, beq_false_of_ne (Ne.symm same)]

theorem firstType?_eq_none_iff {list : List Declaration} {name : String} :
    firstType? list name = none ↔ name ∉ namesOf list := by
  simp [firstType?, namesOf]

theorem lastType?_eq_none_iff {list : List Declaration} {name : String} :
    lastType? list name = none ↔ name ∉ namesOf list := by
  unfold lastType?
  rw [firstType?_eq_none_iff]
  simp [namesOf]

/-- The only declaration of a name is the first one and the last one. -/
theorem firstType?_eq_lastType? {list : List Declaration} {name : String}
    (once : (namesOf list).count name ≤ 1) : firstType? list name = lastType? list name := by
  induction list with
  | nil => rfl
  | cons d rest ih =>
      unfold lastType? firstType? at ih ⊢
      rw [List.reverse_cons, List.find?_append, List.find?_cons]
      unfold namesOf at once ih
      rw [List.map_cons, List.count_cons] at once
      by_cases same : d.name = name
      · have rest : rest.reverse.find? (·.name == name) = none := by
          have absent : name ∉ rest.map (·.name) := by
            rw [← List.count_eq_zero]
            simp only [same, BEq.rfl, ↓reduceIte] at once
            omega
          simpa using absent
        simp [rest, same]
      · have once : (rest.map (·.name)).count name ≤ 1 := by
          simp only [beq_false_of_ne same, Bool.false_eq_true, ↓reduceIte] at once
          omega
        have behind : [d].find? (·.name == name) = none := by simp [same]
        rw [beq_false_of_ne same, behind, Option.or_none]
        exact ih once

/-! ## Reading statements -/

/-- The declarations so far are for certain names, each of them at least once, and are what names
are looked up in. -/
structure Progress.Covers (names : List String) (p : Progress) : Prop where
  locals : p.locals = localsOf p.declarations
  sublist : (namesOf p.declarations).Sublist names
  all : names ⊆ namesOf p.declarations

namespace Progress.Covers

variable {names : List String} {p q : Progress}

theorem empty : Covers [] {} where
  locals := rfl
  sublist := .slnil
  all := List.nil_subset _

theorem declare (covers : p.Covers names) (d : Declaration) :
    (p.declare d).Covers (names ++ [d.name]) where
  locals := by
    simp only [Progress.declare, covers.locals, localsOf, List.map_append, List.reverse_append]
    rfl
  sublist := by
    simp only [Progress.declare, namesOf, List.map_append]
    exact covers.sublist.append (List.Sublist.refl _)
  all := by
    simp only [Progress.declare, namesOf, List.map_append]
    exact List.append_subset.mpr ⟨List.subset_append_of_subset_left _ covers.all,
      List.subset_append_right _ _⟩

/-- A name that is declared already may be declared once more without a declaration. -/
theorem again (covers : p.Covers names) {name : String} (known : name ∈ namesOf p.declarations) :
    p.Covers (names ++ [name]) where
  locals := covers.locals
  sublist := covers.sublist.trans (List.sublist_append_left _ _)
  all := List.append_subset.mpr ⟨covers.all, List.forall_mem_singleton.mpr known⟩

/-- A name among others only once has one declaration, which is the first one and the last one. -/
theorem types_of_once (covers : p.Covers names) {name : String} (once : names.count name = 1) :
    ∃ type, firstType? p.declarations name = some type ∧
      lastType? p.declarations name = some type := by
  have declared : name ∈ namesOf p.declarations :=
    covers.all (List.count_pos_iff.mp (once ▸ Nat.one_pos))
  have single : (namesOf p.declarations).count name ≤ 1 := once ▸ covers.sublist.count_le name
  cases last : lastType? p.declarations name with
  | none => exact absurd declared (lastType?_eq_none_iff.mp last)
  | some type => exact ⟨type, (firstType?_eq_lastType? single).trans last, rfl⟩

end Progress.Covers

/-- The declarations so far have been made for certain names, one after the other, and marked as
exported by these names. A name with a type is not always declared once more. -/
inductive Progress.Declares (exported : String → Bool) : List String → Progress → Prop
  | start : Declares exported [] {}
  | declare {names : List String} {p : Progress} (before : Declares exported names p)
      (d : Declaration) (marked : d.exported = exported d.name) :
      Declares exported (names ++ [d.name]) (p.declare d)
  | again {names : List String} {p : Progress} (before : Declares exported names p) {name : String}
      (known : (p.locals.lookup name).isSome) : Declares exported (names ++ [name]) p

namespace Progress.Declares

variable {exported : String → Bool} {names : List String} {p : Progress}

theorem covers (declares : p.Declares exported names) : p.Covers names := by
  induction declares with
  | start => exact .empty
  | declare _ d _ ih => exact ih.declare d
  | @again names p _ name known ih =>
      rw [ih.locals, lookup_localsOf] at known
      apply ih.again
      by_contra absent
      rw [lastType?_eq_none_iff.mpr absent] at known
      cases known

theorem exported_eq (declares : p.Declares exported names) :
    ∀ d ∈ p.declarations, d.exported = exported d.name := by
  induction declares with
  | start => exact List.forall_mem_nil _
  | declare _ d marked ih =>
      exact List.forall_mem_append.mpr ⟨ih, List.forall_mem_singleton.mpr marked⟩
  | again _ _ ih => exact ih

end Progress.Declares

section Reading

variable {m : Type → Type} [Monad m] (o : Outcomes m) {exported : String → Bool}
  {options : InferenceOptions} {lookupImport : String → m (Option String)} {names : List String}
  {p : Progress} (answered : ∀ name, o.holds (fun _ => True) (lookupImport name))
include answered

theorem holds_inferType (locals : Locals) (e : Expression) :
    o.holds (fun _ => True) (inferType locals lookupImport e) := by
  -- beside an inference that knows nothing of imports, with types that may be any on both sides
  let c := Correspondence.ofOutcomes o
  have like : Locals.Like (fun _ _ => True) locals locals :=
    List.forall₂_same.mpr fun _ _ => ⟨rfl, trivial⟩
  let unanswered : String → Id (Option String) := fun _ => none
  have same : ∀ name, c.rel (OnAnswers fun _ _ => True) (lookupImport name) (unanswered name) :=
    answered
  exact c.inferType compatible_true (c.nameType compatible_true like same) e

/-- A variable declares its name. -/
theorem declares_declareVariable (before : p.Declares exported names) (kind : VariableKind)
    (v : Variable) :
    o.holds (Progress.Declares exported (names ++ v.name.toList))
      (declareVariable exported options lookupImport kind p v) := by
  unfold declareVariable
  cases v.name with
  | none =>
      rw [Option.toList_none, List.append_nil]
      exact o.pure before
  | some name =>
      have declared (type : String) (inferred : Bool) :=
        before.declare ⟨name, kind.toDeclaration, type, inferred, exported name⟩ rfl
      dsimp only
      split
      · exact o.pure (declared _ _)
      · exact o.pure (declared _ _)
      · split
        · exact o.pure (declared _ _)
        · exact o.bind (holds_inferType o answered _ _) fun type _ => o.pure (declared type true)

/-- A statement declares its names. -/
theorem declares_declareStatement (before : p.Declares exported names) (s : Statement) :
    o.holds (Progress.Declares exported (names ++ s.declaredNames))
      (declareStatement exported options lookupImport p s) := by
  have nothing : o.holds (Progress.Declares exported (names ++ [])) (pure p) := by
    rw [List.append_nil]
    exact o.pure before
  cases s with
  | function exposure name =>
      unfold declareStatement
      dsimp only
      split
      · next known => exact o.pure (before.again known)
      · exact o.pure (before.declare ⟨_, _, _, _, _⟩ rfl)
  | classDeclaration exposure name => exact o.pure (before.declare ⟨_, _, _, _, _⟩ rfl)
  | «variables» exposed kind list =>
      refine o.foldlM list (fun earlier q v _ declares => ?_) ?_
        (P := fun earlier => Progress.Declares exported (names ++ earlier.filterMap (·.name)))
      · have single : [v].filterMap (·.name) = v.name.toList := by
          cases named : v.name <;> simp [named]
        rw [List.filterMap_append, ← List.append_assoc, single]
        exact declares_declareVariable o answered declares kind v
      · rw [List.filterMap_nil, List.append_nil]
        exact before
  | importFrom _ _ _ => exact nothing
  | exportFrom _ _ => exact nothing
  | exportNames _ => exact nothing
  | exportDefault _ => exact nothing
  | other => exact nothing

/-- Statements declare their names. -/
theorem declares_declareStatements (statements : List Statement) :
    o.holds (Progress.Declares exported (declaredNames statements))
      (statements.foldlM (declareStatement exported options lookupImport) {}) := by
  refine o.foldlM statements (fun before p s _ declares => ?_) .start
    (P := fun before => Progress.Declares exported (declaredNames before))
  unfold declaredNames
  rw [List.flatMap_append, List.flatMap_singleton]
  exact declares_declareStatement o answered declares s

/-- What declarations satisfy that statements make for their names one after the other, the result
of inference satisfies. -/
theorem holds_inferDeclarations {P : List Declaration → Prop} {statements : List Statement}
    (satisfied : ∀ p : Progress, p.Declares exported (declaredNames statements) →
      P p.declarations) :
    o.holds P (inferDeclarations exported options lookupImport statements) :=
  o.bind (declares_declareStatements o answered statements) fun p declares =>
    o.pure (satisfied p declares)

end Reading

section Answers

variable {ε : Type} {exported : String → Bool} {options : InferenceOptions}
  {lookupImport : String → Except ε (Option String)}

/-- The declarations of statements are for the names that these declare, each at least once. -/
theorem covers_of_inferDeclarations {statements : List Statement} {list : List Declaration}
    (typed : inferDeclarations exported options lookupImport statements = .ok list) :
    ∃ p : Progress, statements.foldlM (declareStatement exported options lookupImport) {} = .ok p ∧
      p.Covers (declaredNames statements) ∧ p.declarations = list := by
  obtain ⟨p, read, same⟩ := bind_eq_ok.mp typed
  have answered (name : String) :
      (Outcomes.answers fun _ => True).holds (fun _ => True) (lookupImport name) :=
    Outcomes.holds_answers_iff.mpr fun _ _ => trivial
  have declares := Outcomes.holds_answers_iff.mp
    (declares_declareStatements (.answers fun _ => True) answered statements) p read
  exact ⟨p, read, declares.covers, Except.ok.inj same⟩

/-- A constant with a name for its value, behind all other statements, is declared last, and has the
type that the name has then. -/
theorem inferDeclarations_alias {statements : List Statement} {name value : String} :
    inferDeclarations exported options lookupImport (statements ++ [.alias name value]) = do
      let list ← inferDeclarations exported options lookupImport statements
      let type ← nameType (localsOf list) lookupImport value
      return list ++ [⟨name, .const, type, true, exported name⟩] := by
  cases typed : inferDeclarations exported options lookupImport statements with
  | error e =>
      unfold inferDeclarations at typed ⊢
      rw [List.foldlM_append]
      cases read : statements.foldlM (declareStatement exported options lookupImport) {} with
      | error other =>
          rw [read] at typed
          cases typed
          rfl
      | ok p =>
          rw [read] at typed
          cases typed
  | ok list =>
      obtain ⟨p, read, covers, rfl⟩ := covers_of_inferDeclarations typed
      unfold inferDeclarations
      rw [List.foldlM_append, read]
      have last : declareStatement exported options lookupImport p (.alias name value) = do
          let type ← nameType p.locals lookupImport value
          return p.declare ⟨name, .const, type, true, exported name⟩ := by
        simp only [Statement.alias, declareStatement, List.foldlM_cons, List.foldlM_nil,
          declareVariable, VariableKind.toDeclaration, inferType, bind_pure]
        simp
      change (do
          let q ← [Statement.alias name value].foldlM
            (declareStatement exported options lookupImport) p
          return q.declarations) = (do
        let type ← nameType (localsOf p.declarations) lookupImport value
        return p.declarations ++ [⟨name, .const, type, true, exported name⟩])
      rw [List.foldlM_cons, last, covers.locals]
      cases nameType (localsOf p.declarations) lookupImport value <;> rfl

end Answers

end UnitResolution.Script
