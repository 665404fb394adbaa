import UnitResolution.Proofs.Correspondence
import UnitResolution.Proofs.Script.Grouping

/-!
# What more knowledge changes

A scope may leave names open, where imports are not followed or cut off. Another scope completes it
if it says the same about all other names (`UnitResolution.Script.Scope.Completes`).

An expression that is a string, a truth value or a big integer by what a scope says stays one in
every scope that completes it (`UnitResolution.Script.Scope.Completes.keeps_typeOf`). A number need
not stay one: an arithmetic operation is a number as long as one of its operands is not known to be
a big integer. Nothing else can change a number (`UnitResolution.Script.Scope.typeOf_of_completes`),
and it changes in some scope exactly if it changes where every open name is a big integer
(`UnitResolution.Script.Scope.forall_typeOf_eq_number_iff`).
-/

namespace UnitResolution

namespace Script

/-! ## The rules of inference, read backwards -/

/-- The types of which an expression keeps what it has, whatever else becomes known. -/
def settledTypes : List String := ["string", "boolean", "bigint"]

section Rules

variable {a b name : String}

theorem ne_unknownType_of_mem (settled : name ∈ settledTypes) : name ≠ unknownType := by
  rintro rfl
  revert settled
  decide

theorem number_ne_of_mem (settled : name ∈ settledTypes) : "number" ≠ name := by
  rintro rfl
  revert settled
  decide

theorem space_notMem_of_mem (settled : name ∈ settledTypes) : ' ' ∉ name.toList := by
  have plain : ∀ name ∈ settledTypes, ' ' ∉ name.toList := by decide
  exact plain name settled

theorem unionType_eq_iff (plain : ' ' ∉ name.toList) :
    unionType a b = name ↔ a = name ∧ b = name := by
  unfold unionType
  split
  · next same => rw [same, and_self]
  · next other =>
      refine iff_of_false ?_ ?_
      · rintro rfl
        simp at plain
      · rintro ⟨rfl, rfl⟩
        exact other rfl

theorem signedType_eq_iff (known : name ≠ unknownType) :
    signedType a = name ↔ a = name ∧ (name = "number" ∨ name = "bigint") := by
  unfold signedType
  split
  · next numeric =>
      constructor
      · rintro rfl
        exact ⟨rfl, numeric⟩
      · exact And.left
  · next other =>
      refine iff_of_false (Ne.symm known) ?_
      rintro ⟨rfl, numeric⟩
      exact other numeric

theorem arithmeticType_eq_number_iff :
    arithmeticType a b = "number" ↔ ¬ (a = "bigint" ∧ b = "bigint") := by
  unfold arithmeticType
  split
  · next both => exact iff_of_false (by decide) (not_not_intro both)
  · next other => exact iff_of_true rfl other

theorem arithmeticType_eq_iff (settled : name ∈ settledTypes) :
    arithmeticType a b = name ↔ name = "bigint" ∧ a = name ∧ b = name := by
  unfold arithmeticType
  split
  · next both =>
      rw [both.1, both.2, eq_comm]
      tauto
  · next other =>
      apply iff_of_false (number_ne_of_mem settled)
      rintro ⟨rfl, both⟩
      exact other both

theorem sumType_eq_number_iff : sumType a b = "number" ↔ a = "number" ∧ b = "number" := by
  unfold sumType
  split
  · next text =>
      refine iff_of_false (by decide) ?_
      rintro ⟨rfl, rfl⟩
      revert text
      decide
  · split
    · next both => exact iff_of_true rfl both
    · next other => exact iff_of_false (by decide) other

theorem sumType_eq_iff (settled : name ∈ settledTypes) :
    sumType a b = name ↔ name = "string" ∧ (a = name ∨ b = name) := by
  unfold sumType
  split
  · next text =>
      constructor
      · rintro rfl
        exact ⟨rfl, text⟩
      · rintro ⟨rfl, -⟩
        rfl
  · next other =>
      refine iff_of_false ?_ ?_
      · split
        · exact number_ne_of_mem settled
        · exact (ne_unknownType_of_mem settled).symm
      · rintro ⟨rfl, text⟩
        exact other text

/-- The type of an array literal ends with a bracket. -/
theorem getLast?_arrayType (elements : List String) :
    (arrayType elements).toList.getLast? = some ']' := by
  have ends (front : String) {back : String} (last : back.toList.getLast? = some ']') :
      (front ++ back).toList.getLast? = some ']' := by
    rw [String.toList_append, List.getLast?_append, last]
    rfl
  unfold arrayType
  split
  · exact ends _ rfl
  · split
    · split
      · exact ends _ rfl
      · exact ends _ rfl
    · exact ends _ rfl

theorem arrayType_ne (elements : List String) (other : name.toList.getLast? ≠ some ']') :
    arrayType elements ≠ name := by
  rintro rfl
  exact other (getLast?_arrayType elements)

/-- A type that is kept if it is the given one. -/
def Keeps (name a b : String) : Prop := a = name → b = name

/-- The rules of inference keep every settled type. -/
theorem compatible_keeps (settled : name ∈ settledTypes) : Compatible (Keeps name) where
  refl a same := same
  union first second same := by
    rw [unionType_eq_iff (space_notMem_of_mem settled)] at same ⊢
    exact ⟨first same.1, second same.2⟩
  array {list _} _ same := by
    have others : ∀ name ∈ settledTypes, name.toList.getLast? ≠ some ']' := by decide
    exact absurd same (arrayType_ne list (others name settled))
  signed inner same := by
    rw [signedType_eq_iff (ne_unknownType_of_mem settled)] at same ⊢
    exact ⟨inner same.1, same.2⟩
  arithmetic first second same := by
    rw [arithmeticType_eq_iff settled] at same ⊢
    exact ⟨same.1, first same.2.1, second same.2.2⟩
  sum first second same := by
    rw [sumType_eq_iff settled] at same ⊢
    exact ⟨same.1, same.2.imp first second⟩

end Rules

/-! ## Scopes that leave names open -/

/-- The operands of the arithmetic operations from which the type of an expression is made: through
parentheses, checks, signs, sums and the branches of conditional expressions. -/
def Expression.arithmeticOperands : Expression → List (Expression × Expression)
  | .parenthesized inner => inner.arithmeticOperands
  | .satisfies operand => operand.arithmeticOperands
  | .signed operand => operand.arithmeticOperands
  | .binary operator left right =>
      if operator.isArithmetic then [(left, right)]
      else if operator = .add then left.arithmeticOperands ++ right.arithmeticOperands
      else []
  | .conditional _ whenTrue whenFalse =>
      whenTrue.arithmeticOperands ++ whenFalse.arithmeticOperands
  | _ => []

namespace Scope

/-- What a scope says about a name. -/
def answer (s : Scope) (name : String) : Option String :=
  match s.locals.lookup name with
  | some type => some type
  | none => s.imports name

/-- A name about which a scope says nothing, or that it is unknown. -/
def IsOpen (s : Scope) (name : String) : Prop :=
  s.answer name = none ∨ s.answer name = some unknownType

instance (s : Scope) (name : String) : Decidable (s.IsOpen name) :=
  inferInstanceAs (Decidable (s.answer name = none ∨ s.answer name = some unknownType))

/-- A scope says what another one says about every name that this does not leave open. -/
def Completes (t s : Scope) : Prop := ∀ name, s.IsOpen name ∨ t.answer name = s.answer name

/-- The scope in which every name is a big integer that another scope leaves open. -/
def withBigints (s : Scope) : Scope where
  locals := []
  imports name := if s.IsOpen name then some "bigint" else s.answer name

/-- Both operands are big integers. -/
def AreBigints (s : Scope) (operands : Expression × Expression) : Prop :=
  s.typeOf operands.1 = "bigint" ∧ s.typeOf operands.2 = "bigint"

instance (s : Scope) (operands : Expression × Expression) : Decidable (s.AreBigints operands) :=
  inferInstanceAs
    (Decidable (s.typeOf operands.1 = "bigint" ∧ s.typeOf operands.2 = "bigint"))

variable {s t : Scope}

theorem IsOpen.getD {name : String} (isOpen : s.IsOpen name) :
    (s.answer name).getD unknownType = unknownType := by
  rcases isOpen with silent | unknown
  · rw [silent]
    rfl
  · rw [unknown]
    rfl

theorem typeOf_identifier (s : Scope) (name : String) :
    s.typeOf (.identifier name) =
      if name = "undefined" then "undefined" else (s.answer name).getD unknownType := by
  change nameType (m := Id) s.locals s.imports name = _
  unfold nameType answer
  split
  · rfl
  · cases s.locals.lookup name <;> rfl

theorem typeOf_binary (s : Scope) (operator : BinaryOperator) (left right : Expression) :
    s.typeOf (.binary operator left right) =
      if operator.isArithmetic then arithmeticType (s.typeOf left) (s.typeOf right)
      else if operator.isComparison then "boolean"
      else if operator = .add then sumType (s.typeOf left) (s.typeOf right)
      else unknownType := by
  unfold typeOf
  rw [inferType]
  split
  · rfl
  · split
    · rfl
    · split <;> rfl

theorem typeOf_signed (s : Scope) (operand : Expression) :
    s.typeOf (.signed operand) = signedType (s.typeOf operand) :=
  rfl

theorem typeOf_array_ne (s : Scope) (elements : List Expression) {name : String}
    (other : name.toList.getLast? ≠ some ']') : s.typeOf (.array elements) ≠ name :=
  arrayType_ne (inferType.inferElements (m := Id) s.locals s.imports elements) other

theorem answer_withBigints (s : Scope) (name : String) :
    s.withBigints.answer name = if s.IsOpen name then some "bigint" else s.answer name :=
  rfl

theorem completes_withBigints (s : Scope) : s.withBigints.Completes s := by
  intro name
  rw [answer_withBigints]
  split
  · next isOpen => exact .inl isOpen
  · exact .inr rfl

/-! ## Types that stay -/

/-- Two scopes that type names in a relation type expressions in it. -/
theorem typeOf_related {T : String → String → Prop} (compatible : Compatible T)
    (names : ∀ name, T (s.typeOf (.identifier name)) (t.typeOf (.identifier name)))
    (e : Expression) : T (s.typeOf e) (t.typeOf e) :=
  Correspondence.values.inferType compatible names e

namespace Completes

variable (completes : t.Completes s)
include completes

/-- What a scope knows about a name, a scope that completes it knows as well. -/
theorem onAnswers_keeps {type : String} (known : type ≠ unknownType) (name : String) :
    OnAnswers (Keeps type) (s.answer name) (t.answer name) := by
  intro told
  rcases completes name with isOpen | same
  · exact absurd (told.symm.trans isOpen.getD) known
  · rw [same]
    exact told

theorem keeps_identifier {type : String} (known : type ≠ unknownType) (name : String) :
    Keeps type (s.typeOf (.identifier name)) (t.typeOf (.identifier name)) := by
  rw [typeOf_identifier, typeOf_identifier]
  split
  · exact id
  · exact completes.onAnswers_keeps known name

/-- An expression that is a string, a truth value or a big integer stays one. -/
theorem keeps_typeOf {type : String} (settled : type ∈ settledTypes) (e : Expression) :
    Keeps type (s.typeOf e) (t.typeOf e) :=
  typeOf_related (compatible_keeps settled)
    (completes.keeps_identifier (ne_unknownType_of_mem settled)) e

/-- So do the declarations of a unit that asks the scopes for its imports. -/
theorem keeps_inferDeclarations {type : String} (settled : type ∈ settledTypes)
    (exported : String → Bool) (options : InferenceOptions) (statements : List Statement) :
    List.Forall₂ (Declaration.Like (Keeps type))
      (Id.run (inferDeclarations exported options s.answer statements))
      (Id.run (inferDeclarations exported options t.answer statements)) :=
  Correspondence.values.inferDeclarations (compatible_keeps settled)
    (completes.onAnswers_keeps (ne_unknownType_of_mem settled)) exported options statements

/-- A number stays one unless it is made from an arithmetic operation on what becomes known as two
big integers. -/
theorem typeOf_eq_number_iff :
    (e : Expression) → s.typeOf e = "number" →
      (t.typeOf e = "number" ↔ ∀ operands ∈ e.arithmeticOperands, ¬ t.AreBigints operands)
  | .number | .bigint | .string | .boolean | .null | .object | .function | .other
  | .cast _ _ | .not _ | .construct _ => fun number => iff_of_true number nofun
  | .identifier name => fun number =>
      iff_of_true (completes.keeps_identifier (by decide) name number) nofun
  | .array elements => fun number =>
      absurd number (s.typeOf_array_ne elements (by decide))
  | .parenthesized inner => typeOf_eq_number_iff inner
  | .satisfies operand => typeOf_eq_number_iff operand
  | .signed operand => by
      intro number
      have known : "number" ≠ unknownType := by decide
      rw [typeOf_signed, signedType_eq_iff known] at number ⊢
      rw [typeOf_eq_number_iff operand number.1]
      exact and_iff_left number.2
  | .conditional condition whenTrue whenFalse => by
      intro number
      have plain : ' ' ∉ "number".toList := by decide
      rw [typeOf_conditional, unionType_eq_iff plain] at number ⊢
      rw [typeOf_eq_number_iff whenTrue number.1, typeOf_eq_number_iff whenFalse number.2]
      exact List.forall_mem_append.symm
  | .binary operator left right => by
      intro number
      rw [typeOf_binary] at number ⊢
      rw [Expression.arithmeticOperands]
      split
      · next arithmetic =>
          rw [arithmeticType_eq_number_iff]
          change ¬ t.AreBigints (left, right) ↔ _
          rw [List.forall_mem_singleton]
      · next other =>
          rw [if_neg other] at number
          split at number
          · exact absurd number (by decide)
          · next uncompared =>
              rw [if_neg uncompared]
              split at number
              · next sum =>
                  rw [if_pos sum, if_pos sum, sumType_eq_number_iff]
                  obtain ⟨first, second⟩ := sumType_eq_number_iff.mp number
                  rw [typeOf_eq_number_iff left first, typeOf_eq_number_iff right second]
                  exact List.forall_mem_append.symm
              · exact absurd number (by decide)

/-- What becomes known as a big integer is one where every open name is. -/
theorem keeps_withBigints (e : Expression) :
    Keeps "bigint" (t.typeOf e) (s.withBigints.typeOf e) := by
  apply typeOf_related (compatible_keeps (by decide))
  intro name
  rw [typeOf_identifier, typeOf_identifier, answer_withBigints]
  split
  · exact id
  · intro told
    split
    · rfl
    · next known =>
        rw [← (completes name).resolve_left known]
        exact told

end Completes

/-- A number stays one in all scopes that complete a scope if it stays one where every open name is
a big integer. -/
theorem forall_typeOf_eq_number_iff {e : Expression} (number : s.typeOf e = "number") :
    (∀ t : Scope, t.Completes s → t.typeOf e = "number") ↔ s.withBigints.typeOf e = "number" := by
  constructor
  · intro stays
    exact stays s.withBigints s.completes_withBigints
  · intro stays t completes
    rw [completes.typeOf_eq_number_iff e number]
    rw [s.completes_withBigints.typeOf_eq_number_iff e number] at stays
    intro operands member both
    apply stays operands member
    exact ⟨completes.keeps_withBigints _ both.1, completes.keeps_withBigints _ both.2⟩

/-- What a scope says about the type of an expression holds in every scope that completes it, for
strings, truth values and big integers. It holds for a number exactly if no arithmetic operation
from which it is made turns out to be one on two big integers. -/
theorem typeOf_of_completes (completes : t.Completes s) (e : Expression) :
    (s.typeOf e ∈ settledTypes → t.typeOf e = s.typeOf e) ∧
      (s.typeOf e = "number" →
        (t.typeOf e = "number" ↔ ∀ operands ∈ e.arithmeticOperands, ¬ t.AreBigints operands)) := by
  constructor
  · intro settled
    exact completes.keeps_typeOf settled e rfl
  · exact completes.typeOf_eq_number_iff e

/-- A difference from an open name is a number, and stays one where the name is a string; a sum with
a string is a string, whatever else is added. -/
theorem typeOf_of_string :
    let difference : Expression := .binary .subtract (.identifier "x") .bigint
    let sum : Expression := .binary .add difference .string
    let unanswered : Scope := ⟨[], fun _ => none⟩
    let answered : Scope := ⟨[("x", "string")], fun _ => none⟩
    unanswered.typeOf difference = "number" ∧ answered.typeOf difference = "number" ∧
      unanswered.typeOf sum = "string" ∧ answered.typeOf sum = "string" := by
  intro difference sum unanswered answered
  have completes : answered.Completes unanswered := fun _ => .inl (.inl rfl)
  have number : unanswered.typeOf difference = "number" := by decide
  have text : unanswered.typeOf sum = "string" := by decide
  refine ⟨number, ?_, text, ?_⟩
  · apply ((typeOf_of_completes completes difference).2 number).mpr
    decide
  · rw [(typeOf_of_completes completes sum).1 (by decide)]
    exact text

/-- A product with an open name is a number, and is a big integer where the name is one. -/
theorem typeOf_product_of_bigint :
    let product : Expression := .binary .multiply (.identifier "x") .bigint
    let unanswered : Scope := ⟨[], fun _ => none⟩
    let answered : Scope := ⟨[("x", "bigint")], fun _ => none⟩
    answered.Completes unanswered ∧
      unanswered.typeOf product = "number" ∧ answered.typeOf product = "bigint" := by
  intro product unanswered answered
  refine ⟨fun _ => .inl (.inl rfl), ?_, ?_⟩ <;> decide

end Scope

end Script

end UnitResolution
