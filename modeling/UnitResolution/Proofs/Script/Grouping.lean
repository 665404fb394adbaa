import UnitResolution.Proofs.Script.TypeText.Composition

/-!
# The grouping of inferred types

The type of an array literal and of a conditional expression is put together from the texts of
other types. `Scope.shape?` builds the type of an expression in the same way from the types that the
texts denote, and so tells what the text of an expression is meant to denote.

Where every text that a scope and an expression give can be nested, the text of the expression
denotes what it is meant to, and can be nested again (`Scope.IsNestable.grouped`); so can the types
of the declarations of a unit (`Progress.IsNestable.inferDeclarations`). For array literals and
conditional expressions of whatever texts, `Scope.typeOf_denotes` says exactly where their texts
denote the array of the elements and the union of the branches.
-/

namespace UnitResolution.Script

open TypeText

/-- The types that names have: those of earlier declarations, and the answers for imports. -/
structure Scope where
  locals : Locals
  imports : String → Option String

namespace Scope

/-- The type of an expression. -/
def typeOf (s : Scope) (e : Expression) : String :=
  inferType (m := Id) s.locals s.imports e

/-- Whether expressions all have the same text for their type as another one. -/
def allLike (s : Scope) (first : Expression) (rest : List Expression) : Bool :=
  rest.all fun e => s.typeOf e == s.typeOf first

mutual

/-- The type that an expression is meant to have: the array of the type of its elements, the members
of both branches, and for other forms what their text denotes. Elements count as alike, and branches
as one, by their texts. -/
def shape? (s : Scope) : Expression → Option TypeForm
  | .parenthesized inner => s.shape? inner
  | .satisfies operand => s.shape? operand
  | .array elements => (s.elementShape? elements).map TypeForm.arrayOf
  | .conditional _ whenTrue whenFalse =>
      if s.typeOf whenTrue = s.typeOf whenFalse then s.shape? whenTrue
      else do return (← s.shape? whenTrue).append (← s.shape? whenFalse)
  | e => denotation? (s.typeOf e)

/-- The type that the elements of an array literal are meant to have. -/
def elementShape? (s : Scope) : List Expression → Option TypeForm
  | [] => some (.named unknownType)
  | first :: rest => if s.allLike first rest then s.shape? first else some (.named unknownType)

end

/-! ## The text of an array literal and of a conditional expression -/

theorem inferElements_eq_map (s : Scope) (elements : List Expression) :
    inferType.inferElements (m := Id) s.locals s.imports elements = elements.map s.typeOf := by
  induction elements with
  | nil => rfl
  | cons first rest ih => exact congrArg (s.typeOf first :: ·) ih

theorem typeOf_array (s : Scope) (first : Expression) (rest : List Expression) :
    s.typeOf (.array (first :: rest)) =
      if s.allLike first rest then arrayText (s.typeOf first) else arrayText unknownType := by
  have elements : s.typeOf (.array (first :: rest)) = arrayType ((first :: rest).map s.typeOf) :=
    congrArg arrayType (s.inferElements_eq_map (first :: rest))
  rw [elements, List.map_cons, arrayType, List.all_map]
  rfl

theorem typeOf_conditional (s : Scope) (condition whenTrue whenFalse : Expression) :
    s.typeOf (.conditional condition whenTrue whenFalse) =
      unionType (s.typeOf whenTrue) (s.typeOf whenFalse) :=
  rfl

end Scope

/-! ## Given texts -/

mutual

/-- The texts of types that an expression gives for its own type. -/
def Expression.statedTexts : Expression → List String
  | .parenthesized inner => inner.statedTexts
  | .satisfies operand => operand.statedTexts
  | .cast typeText _ => [typeText]
  | .construct className => [className]
  | .array elements => statedTextsOf elements
  | .conditional _ whenTrue whenFalse => whenTrue.statedTexts ++ whenFalse.statedTexts
  | _ => []

/-- The texts of types that the elements of an array literal give. -/
def statedTextsOf : List Expression → List String
  | [] => []
  | first :: rest => first.statedTexts ++ statedTextsOf rest

end

/-- The texts of types that a variable gives: its annotation, or those of its value. -/
def Variable.statedTexts (v : Variable) : List String :=
  match v.declaredType, v.initializer with
  | some type, _ => [type]
  | none, some value => value.statedTexts
  | none, none => []

/-- The texts of types that a statement gives. -/
def Statement.statedTexts : Statement → List String
  | .classDeclaration _ (some name) => ["typeof " ++ name]
  | .variables _ _ list => list.flatMap Variable.statedTexts
  | _ => []

/-- All types that names have can be nested. -/
structure Scope.IsNestable (s : Scope) : Prop where
  locals : ∀ entry ∈ s.locals, TypeText.IsNestable entry.2
  imports : ∀ name type, s.imports name = some type → TypeText.IsNestable type

/-! ## Texts that can be nested -/

/-- The types that expressions have by their form. -/
def builtinTypes : List String :=
  ["number", "bigint", "string", "boolean", "null", "undefined", "object", "Function", unknownType]

theorem isTypeName_of_mem_builtinTypes : ∀ name ∈ builtinTypes, isTypeName name = true :=
  List.all_eq_true.mp (by decide)

theorem isNestable_builtin (name : String) (h : name ∈ builtinTypes) : IsNestable name :=
  (denotes_of_isTypeName (isTypeName_of_mem_builtinTypes name h)).2

theorem denotation?_builtin (name : String) (h : name ∈ builtinTypes) :
    denotation? name = some (.named name) :=
  (denotes_of_isTypeName (isTypeName_of_mem_builtinTypes name h)).1

theorem isNestable_unknownType : IsNestable unknownType :=
  isNestable_builtin unknownType (by decide)

theorem isNestable_signedType (operand : String) : IsNestable (signedType operand) := by
  unfold signedType
  split_ifs with numeric
  · obtain rfl | rfl := numeric
    · exact isNestable_builtin "number" (by decide)
    · exact isNestable_builtin "bigint" (by decide)
  · exact isNestable_unknownType

theorem isNestable_arithmeticType (left right : String) :
    IsNestable (arithmeticType left right) := by
  unfold arithmeticType
  split_ifs
  · exact isNestable_builtin "bigint" (by decide)
  · exact isNestable_builtin "number" (by decide)

theorem isNestable_sumType (left right : String) : IsNestable (sumType left right) := by
  unfold sumType
  split_ifs
  · exact isNestable_builtin "string" (by decide)
  · exact isNestable_builtin "number" (by decide)
  · exact isNestable_unknownType

namespace Scope

variable {s : Scope}

theorem IsNestable.identifier (h : s.IsNestable) (name : String) :
    TypeText.IsNestable (s.typeOf (.identifier name)) := by
  change TypeText.IsNestable (nameType (m := Id) s.locals s.imports name)
  unfold nameType
  split_ifs
  · exact isNestable_builtin "undefined" (by decide)
  · cases found : s.locals.lookup name with
    | some type => exact h.locals (name, type) (Table.mem_of_lookup found)
    | none =>
        cases imported : s.imports name with
        | some type => exact h.imports name type imported
        | none => exact isNestable_unknownType

theorem isNestable_binary (s : Scope) (operator : BinaryOperator) (left right : Expression) :
    TypeText.IsNestable (s.typeOf (.binary operator left right)) := by
  unfold typeOf
  rw [inferType]
  split_ifs
  · exact isNestable_arithmeticType (s.typeOf left) (s.typeOf right)
  · exact isNestable_builtin "boolean" (by decide)
  · exact isNestable_sumType (s.typeOf left) (s.typeOf right)
  · exact isNestable_unknownType

mutual

/-- **Expressions over texts that can be nested.** The text of the type of an expression can be
nested again, and denotes the type that the expression is meant to have. -/
theorem IsNestable.grouped (h : s.IsNestable) :
    (e : Expression) → (∀ text ∈ e.statedTexts, TypeText.IsNestable text) →
      TypeText.IsNestable (s.typeOf e) ∧ s.shape? e = denotation? (s.typeOf e)
  | .number => fun _ => ⟨isNestable_builtin "number" (by decide), rfl⟩
  | .bigint => fun _ => ⟨isNestable_builtin "bigint" (by decide), rfl⟩
  | .string => fun _ => ⟨isNestable_builtin "string" (by decide), rfl⟩
  | .boolean => fun _ => ⟨isNestable_builtin "boolean" (by decide), rfl⟩
  | .not _ => fun _ => ⟨isNestable_builtin "boolean" (by decide), rfl⟩
  | .null => fun _ => ⟨isNestable_builtin "null" (by decide), rfl⟩
  | .object => fun _ => ⟨isNestable_builtin "object" (by decide), rfl⟩
  | .function => fun _ => ⟨isNestable_builtin "Function" (by decide), rfl⟩
  | .other => fun _ => ⟨isNestable_unknownType, rfl⟩
  | .identifier name => fun _ => ⟨h.identifier name, rfl⟩
  | .cast typeText _ => fun stated => ⟨stated typeText List.mem_cons_self, rfl⟩
  | .construct className => fun stated => ⟨stated className List.mem_cons_self, rfl⟩
  | .signed operand => fun _ => ⟨isNestable_signedType (s.typeOf operand), rfl⟩
  | .binary operator left right => fun _ => ⟨s.isNestable_binary operator left right, rfl⟩
  | .parenthesized inner => h.grouped inner
  | .satisfies operand => h.grouped operand
  | .array elements => h.grouped_array elements
  | .conditional condition whenTrue whenFalse => by
      intro stated
      obtain ⟨trueNestable, trueShape⟩ := h.grouped whenTrue
        fun text mem => stated text (List.mem_append_left _ mem)
      obtain ⟨falseNestable, falseShape⟩ := h.grouped whenFalse
        fun text mem => stated text (List.mem_append_right _ mem)
      rw [typeOf_conditional, unionType, shape?]
      split_ifs with same
      · exact ⟨trueNestable, trueShape⟩
      · obtain ⟨L, left⟩ := Option.isSome_iff_exists.mp trueNestable.isType
        obtain ⟨R, right⟩ := Option.isSome_iff_exists.mp falseNestable.isType
        refine ⟨trueNestable.union falseNestable, ?_⟩
        rw [trueShape, falseShape, left, right]
        exact (denotation?_union left right (trueNestable.joins falseNestable)).symm

theorem IsNestable.grouped_array (h : s.IsNestable) :
    (elements : List Expression) →
      (∀ text ∈ statedTextsOf elements, TypeText.IsNestable text) →
        TypeText.IsNestable (s.typeOf (.array elements)) ∧
          (s.elementShape? elements).map TypeForm.arrayOf =
            denotation? (s.typeOf (.array elements))
  | [] => fun _ => ⟨isNestable_unknownType.arrayText, isNestable_unknownType.denotation?_arrayText⟩
  | first :: rest => by
      intro stated
      obtain ⟨nestable, shape⟩ := h.grouped first
        fun text mem => stated text (List.mem_append_left _ mem)
      rw [typeOf_array, elementShape?]
      split_ifs with alike
      · rw [shape]
        exact ⟨nestable.arrayText, nestable.denotation?_arrayText⟩
      · rw [← denotation?_builtin unknownType (by decide)]
        exact ⟨isNestable_unknownType.arrayText, isNestable_unknownType.denotation?_arrayText⟩

end

/-! ## Array literals and conditional expressions over any texts -/

/-- The text of an array literal denotes the array of its first element where all elements have the
same text, and that groups; or where the elements are unknown anyway. -/
theorem denotation?_array_iff {first : Expression} {T : TypeForm}
    (h : denotation? (s.typeOf first) = some T) (rest : List Expression) :
    denotation? (s.typeOf (.array (first :: rest))) = some T.arrayOf ↔
      if s.allLike first rest then
        hasSpace (s.typeOf first) = true ∨ isTight (s.typeOf first) = true
      else T = .named unknownType := by
  rw [typeOf_array]
  split_ifs with alike
  · exact denotation?_arrayText h
  · rw [← isNestable_unknownType.denotation?_arrayText,
      denotation?_builtin unknownType (by decide)]
    simp [TypeForm.arrayOf, eq_comm]

/-- The text of a conditional expression denotes the union of its branches where the branches have
one text, or texts that a bar keeps apart, and no member is written twice. -/
theorem exists_isUnionOf_conditional_iff {condition whenTrue whenFalse : Expression}
    {L R : TypeForm} (left : denotation? (s.typeOf whenTrue) = some L)
    (right : denotation? (s.typeOf whenFalse) = some R) :
    (∃ U, denotation? (s.typeOf (.conditional condition whenTrue whenFalse)) = some U ∧
        U.IsUnionOf L R) ↔
      if s.typeOf whenTrue = s.typeOf whenFalse then L.members.Nodup
      else Joins (s.typeOf whenTrue) (s.typeOf whenFalse) ∧ (L.append R).members.Nodup := by
  rw [typeOf_conditional, unionType]
  split_ifs with same
  · rw [← same, left] at right
    cases right
    simp [left, TypeForm.isUnionOf_self_iff]
  · exact exists_isUnionOf_iff left right

/-- The texts that cannot be nested are those that are misread as the element of an array literal
or as the last branch of a conditional expression. -/
theorem isNestable_typeOf_iff {e : Expression} {T : TypeForm}
    (h : denotation? (s.typeOf e) = some T) (other : s.typeOf e ≠ "number")
    (condition : Expression) :
    TypeText.IsNestable (s.typeOf e) ↔
      denotation? (s.typeOf (.array [e])) = some T.arrayOf ∧
        denotation? (s.typeOf (.conditional condition .number e)) =
          some (TypeForm.append (.named "number") T) := by
  have array : s.typeOf (.array [e]) = arrayText (s.typeOf e) := s.typeOf_array e []
  have number : s.typeOf .number = "number" := rfl
  rw [array, typeOf_conditional, unionType, number, if_neg (Ne.symm other)]
  exact TypeText.IsNestable.iff_denotation? h (denotation?_builtin "number" (by decide))
    (isNestable_builtin "number" (by decide)).stays

end Scope

/-! ## Declarations -/

/-- All types in what has been declared so far can be nested. -/
structure Progress.IsNestable (p : Progress) : Prop where
  locals : ∀ entry ∈ p.locals, TypeText.IsNestable entry.2
  declarations : ∀ d ∈ p.declarations, TypeText.IsNestable d.type

/-- What each step keeps, all steps together keep. -/
theorem foldlM_keeps {α β : Type} {P : β → Prop} {step : β → α → Id β} {list : List α} {start : β}
    (h : P start) (keeps : ∀ b, P b → ∀ a ∈ list, P (step b a)) :
    P (list.foldlM step start) := by
  have run : list.foldlM step start = list.foldl step start := List.idRun_foldlM
  rw [run]
  exact List.foldlRecOn list step h keeps

namespace Progress.IsNestable

variable {p : Progress} {imports : String → Option String} {exported : String → Bool}
  {options : InferenceOptions}

theorem declare (h : p.IsNestable) {d : Declaration} (type : TypeText.IsNestable d.type) :
    (p.declare d).IsNestable where
  locals := List.forall_mem_cons.mpr ⟨type, h.locals⟩
  declarations := List.forall_mem_append.mpr ⟨h.declarations, List.forall_mem_singleton.mpr type⟩

section Steps

variable (imported : ∀ name type, imports name = some type → TypeText.IsNestable type)
include imported

theorem declareVariable (h : p.IsNestable) {v : Variable}
    (stated : ∀ text ∈ v.statedTexts, TypeText.IsNestable text) (kind : VariableKind) :
    IsNestable (Script.declareVariable (m := Id) exported options imports kind p v) := by
  obtain ⟨name, declaredType, initializer⟩ := v
  unfold Script.declareVariable
  cases name with
  | none => exact h
  | some name =>
      cases declaredType with
      | some type => exact h.declare (stated type List.mem_cons_self)
      | none =>
          cases initializer with
          | none => exact h.declare isNestable_unknownType
          | some value =>
              dsimp only
              split_ifs
              · exact h.declare isNestable_unknownType
              · have scope : Scope.IsNestable ⟨p.locals, imports⟩ := ⟨h.locals, imported⟩
                exact h.declare (scope.grouped value stated).1

theorem declareStatement (h : p.IsNestable) {statement : Statement}
    (stated : ∀ text ∈ statement.statedTexts, TypeText.IsNestable text) :
    IsNestable (Script.declareStatement (m := Id) exported options imports p statement) := by
  have function : TypeText.IsNestable "Function" := isNestable_builtin "Function" (by decide)
  cases statement with
  | function exposure name =>
      simp only [Script.declareStatement]
      split_ifs
      · exact h
      · exact h.declare function
  | classDeclaration exposure name =>
      cases name with
      | none => exact h.declare function
      | some name => exact h.declare (stated ("typeof " ++ name) List.mem_cons_self)
  | «variables» exposed kind list =>
      refine foldlM_keeps h fun q keeps v mem => ?_
      refine keeps.declareVariable imported (fun text given => ?_) kind
      exact stated text (List.mem_flatMap.mpr ⟨v, mem, given⟩)
  | importFrom specifier defaultName names => exact h
  | exportFrom specifier what => exact h
  | exportNames names => exact h
  | exportDefault value => exact h
  | other => exact h

/-- **The declarations of a unit** have types that can be nested where the annotations, the stated
types and the types of imports can be nested. -/
theorem inferDeclarations (exported : String → Bool) (options : InferenceOptions)
    {statements : List Statement}
    (stated : ∀ statement ∈ statements, ∀ text ∈ statement.statedTexts, TypeText.IsNestable text) :
    ∀ d ∈ Id.run (Script.inferDeclarations exported options imports statements),
      TypeText.IsNestable d.type := by
  have start : IsNestable {} := ⟨by simp, by simp⟩
  have run : IsNestable
      (statements.foldlM (Script.declareStatement (m := Id) exported options imports) {}) :=
    foldlM_keeps start fun q keeps statement mem =>
      keeps.declareStatement imported (stated statement mem)
  exact run.declarations

end Steps

end Progress.IsNestable

/-! ## What inferred types denote -/

namespace Scope

/-- **What inferred types denote.**

Over texts that can be nested, the text of every expression denotes the type that is put together
in the same way from the types of the texts, and can be nested again; so can the types of all
declarations of a unit whose annotations, stated types and imported types can be nested.

Whatever the texts are, an array literal with elements of one type denotes the array of that type
exactly where the elements have one text, and that has a space in it or binds as tightly as the
brackets behind it; or where the texts differ, but all of them denote what is not known.

A conditional expression denotes the union of the types of its branches, each member listed once,
exactly where both have one text that lists no member twice; or where the texts differ, a bar keeps
them apart, and no member is listed twice in both of them together.

Every text that cannot be nested is misread as the element of an array literal or as the last branch
of a conditional expression. -/
theorem typeOf_denotes (s : Scope) :
    (∀ e : Expression, s.IsNestable →
      (∀ text ∈ e.statedTexts, TypeText.IsNestable text) →
        TypeText.IsNestable (s.typeOf e) ∧ s.shape? e = denotation? (s.typeOf e)) ∧
    (∀ (exported : String → Bool) (options : InferenceOptions) (statements : List Statement),
      (∀ name type, s.imports name = some type → TypeText.IsNestable type) →
      (∀ statement ∈ statements, ∀ text ∈ statement.statedTexts, TypeText.IsNestable text) →
        ∀ d ∈ Id.run (inferDeclarations exported options s.imports statements),
          TypeText.IsNestable d.type) ∧
    (∀ (first : Expression) (rest : List Expression) (T : TypeForm),
      (∀ e ∈ first :: rest, denotation? (s.typeOf e) = some T) →
        (denotation? (s.typeOf (.array (first :: rest))) = some T.arrayOf ↔
          if s.allLike first rest then
            hasSpace (s.typeOf first) = true ∨ isTight (s.typeOf first) = true
          else T = .named unknownType)) ∧
    (∀ (condition whenTrue whenFalse : Expression) (L R : TypeForm),
      denotation? (s.typeOf whenTrue) = some L → denotation? (s.typeOf whenFalse) = some R →
        ((∃ U, denotation? (s.typeOf (.conditional condition whenTrue whenFalse)) = some U ∧
            U.IsUnionOf L R) ↔
          if s.typeOf whenTrue = s.typeOf whenFalse then L.members.Nodup
          else Joins (s.typeOf whenTrue) (s.typeOf whenFalse) ∧ (L.append R).members.Nodup)) ∧
    (∀ (e condition : Expression) (T : TypeForm), denotation? (s.typeOf e) = some T →
      s.typeOf e ≠ "number" →
        (TypeText.IsNestable (s.typeOf e) ↔
          denotation? (s.typeOf (.array [e])) = some T.arrayOf ∧
            denotation? (s.typeOf (.conditional condition .number e)) =
              some (TypeForm.append (.named "number") T))) := by
  refine ⟨?expressions, ?declarations, ?arrays, ?conditionals, ?others⟩
  case expressions =>
    intro e nestable stated
    exact nestable.grouped e stated
  case declarations =>
    intro exported options statements imported stated
    exact Progress.IsNestable.inferDeclarations imported exported options stated
  case arrays =>
    intro first rest T alike
    exact denotation?_array_iff (alike first List.mem_cons_self) rest
  case conditionals =>
    intro condition whenTrue whenFalse L R left right
    exact exists_isUnionOf_conditional_iff left right
  case others =>
    intro e condition T denotes other
    exact isNestable_typeOf_iff denotes other condition

/-- A scope with a union that has spaces in it. -/
def spaced : Scope where
  locals := [("y", "A | B")]
  imports := fun _ => none

/-- A scope with the same union with and without spaces, and with a function type. -/
def mixed : Scope where
  locals := [("x", "A|B"), ("y", "A | B"), ("f", "() => void")]
  imports := fun _ => none

/-- The union of two names. -/
def twoNames (a b : String) : TypeForm := .append (.named a) (.named b)

/-- The type of a function without parameters and result. -/
def procedure : TypeForm := .single (.other [.group '(' [], .arrow, .word "void".toList])

theorem isNestable_twoNames : TypeText.IsNestable "A | B" where
  isType := rfl
  stays := rfl
  plain := rfl
  grouped := Or.inl rfl

theorem isNestable_spaced : spaced.IsNestable where
  locals := List.forall_mem_singleton.mpr isNestable_twoNames
  imports := nofun

/-- The union with spaces can be nested in array literals and conditional expressions, and so can
the type of a declaration that is made from it. The arrays of the union without spaces and of both
unions together are misread; a function type as a branch, and a member that comes back in a nest of
conditional expressions, make no union. -/
theorem typeOf_denotes_mixed :
    denotation? (spaced.typeOf
        (.array [.conditional .boolean (.array [.identifier "y"]) (.identifier "y")])) =
      some (TypeForm.append (twoNames "A" "B").arrayOf (twoNames "A" "B")).arrayOf ∧
    (∀ d ∈ Id.run (inferDeclarations (fun _ => false) {} spaced.imports
        [.variables false .const [⟨some "z", none, some (.array [.cast "A | B" .other])⟩]]),
      TypeText.IsNestable d.type) ∧
    denotation? (mixed.typeOf (.array [.identifier "y"])) = some (twoNames "A" "B").arrayOf ∧
    denotation? (mixed.typeOf (.array [.identifier "x"])) ≠ some (twoNames "A" "B").arrayOf ∧
    denotation? (mixed.typeOf (.array [.identifier "x", .identifier "y"])) ≠
      some (twoNames "A" "B").arrayOf ∧
    (¬ ∃ U, denotation? (mixed.typeOf (.conditional .boolean (.identifier "f") .number)) = some U ∧
      U.IsUnionOf procedure (.named "number")) ∧
    (¬ ∃ U, denotation? (mixed.typeOf (.conditional .boolean .number
        (.conditional .boolean .string .number))) = some U ∧
      U.IsUnionOf (.named "number") (twoNames "string" "number")) ∧
    TypeText.IsNestable (mixed.typeOf (.identifier "y")) := by
  obtain ⟨expressions, declarations, -⟩ := typeOf_denotes spaced
  obtain ⟨-, -, arrays, conditionals, others⟩ := typeOf_denotes mixed
  have spacedUnion : denotation? (mixed.typeOf (.identifier "y")) = some (twoNames "A" "B") := rfl
  have bareUnion : denotation? (mixed.typeOf (.identifier "x")) = some (twoNames "A" "B") := rfl
  have function : denotation? (mixed.typeOf (.identifier "f")) = some procedure := rfl
  have number : denotation? (mixed.typeOf .number) = some (.named "number") := rfl
  have nest : denotation? (mixed.typeOf (.conditional .boolean .string .number)) =
      some (twoNames "string" "number") := rfl
  refine ⟨?nest, ?declared, ?spacedArray, ?bareArray, ?mixedArray, ?function, ?again, ?alone⟩
  case nest =>
    have nested := expressions
      (.array [.conditional .boolean (.array [.identifier "y"]) (.identifier "y")])
      isNestable_spaced (by simp [Expression.statedTexts, statedTextsOf])
    rw [← nested.2]
    rfl
  case declared =>
    refine declarations (fun _ => false) {} _ isNestable_spaced.imports ?_
    simp only [List.forall_mem_singleton, Statement.statedTexts, Variable.statedTexts,
      Expression.statedTexts, statedTextsOf, List.flatMap_cons, List.flatMap_nil, List.append_nil]
    exact isNestable_twoNames
  case spacedArray =>
    exact (arrays (.identifier "y") [] _ (List.forall_mem_singleton.mpr spacedUnion)).mpr
      (Or.inl rfl)
  case bareArray =>
    rw [ne_eq, arrays (.identifier "x") [] _ (List.forall_mem_singleton.mpr bareUnion)]
    intro grouped
    obtain space | tight := grouped
    · exact absurd space (by decide)
    · exact absurd tight (by decide)
  case mixedArray =>
    rw [ne_eq, arrays (.identifier "x") [.identifier "y"] _
      (List.forall_mem_cons.mpr ⟨bareUnion, List.forall_mem_singleton.mpr spacedUnion⟩)]
    exact TypeForm.append_ne_single _ _ _
  case function =>
    rw [conditionals .boolean (.identifier "f") .number _ _ function number]
    intro kept
    exact absurd kept.1.1 (by decide)
  case again =>
    rw [conditionals .boolean .number (.conditional .boolean .string .number) _ _ number nest]
    intro kept
    have distinct := kept.2
    simp [TypeForm.members_append, twoNames, TypeForm.named, TypeForm.members] at distinct
  case alone =>
    exact (others (.identifier "y") .boolean _ spacedUnion (by decide)).mpr ⟨rfl, rfl⟩

end Scope

end UnitResolution.Script
