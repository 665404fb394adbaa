import Mathlib.Data.List.Basic
import UnitResolution.Proofs.Script.TypeText.Pieces

/-!
# Reading a type text

`denotation?` reads a text by the grammar of types, as far as unions, arrays and parentheses go. A
function type and a conditional type reach as far as they can; then come unions, intersections,
operators in front of their operand, and empty brackets behind it. A type is the list of the
members of its union in the order in which they are written, parentheses being transparent. A member
that is no array is kept as its pieces.

The reader answers nothing where a member is missing. It reads more texts than there are types, as
it does not look into the members that it keeps.
-/

namespace UnitResolution.Script.TypeText

mutual

/-- A member of a union. -/
inductive Member
  | other (pieces : List Piece)
  | array (element : TypeForm)

/-- A type: one member, or the union of a member with others. -/
inductive TypeForm
  | single (member : Member)
  | union (first : Member) (others : TypeForm)

end

namespace TypeForm

/-- The members, in the order in which they are written. -/
def members : TypeForm → List Member
  | single member => [member]
  | union first others => first :: others.members

/-- The members of one type with those of another behind them. -/
def append (left right : TypeForm) : TypeForm :=
  match left with
  | single member => union member right
  | union first others => union first (others.append right)

/-- The array of a type. -/
def arrayOf (element : TypeForm) : TypeForm := single (.array element)

theorem members_append (left right : TypeForm) :
    (left.append right).members = left.members ++ right.members := by
  induction left using members.induct with
  | case1 member => rfl
  | case2 first others ih => simp only [append, members, ih, List.cons_append]

theorem append_assoc (a b c : TypeForm) : (a.append b).append c = a.append (b.append c) := by
  induction a using members.induct with
  | case1 member => rfl
  | case2 first others ih => simp only [append, ih]

theorem append_ne_single (left right : TypeForm) (member : Member) :
    left.append right ≠ single member := by
  cases left <;> simp [append]

end TypeForm

/-- A piece, with the type that its brackets have in them. -/
structure Item where
  piece : Piece
  inner : Option TypeForm

/-- The words that stand in front of a type as operators. -/
def operators : List (List Char) :=
  ["keyof".toList, "unique".toList, "readonly".toList, "infer".toList]

namespace Item

/-- Whether an item is the given mark. -/
def isMark (c : Char) (i : Item) : Bool :=
  match i.piece with
  | .mark d => d == c
  | _ => false

/-- Whether an item is the arrow of a function type. -/
def isArrow (i : Item) : Bool :=
  match i.piece with
  | .arrow => true
  | _ => false

/-- Whether an item makes a type that reaches as far as it can. -/
def reachesOut (i : Item) : Bool :=
  match i.piece with
  | .arrow => true
  | .word spelling => spelling == "extends".toList
  | _ => false

/-- Whether an item is an operator in front of a type. -/
def isOperator (i : Item) : Bool :=
  match i.piece with
  | .word spelling => operators.contains spelling
  | _ => false

/-- Whether an item is a pair of empty brackets. -/
def isBrackets (i : Item) : Bool :=
  match i.piece with
  | .group '[' [] => true
  | _ => false

/-- Whether an item stands in parentheses. -/
def isParenthesized (i : Item) : Bool :=
  match i.piece with
  | .group '(' _ => true
  | _ => false

end Item

/-! ## The levels of the grammar -/

/-- Leave a mark at the beginning out. -/
def dropLeading (c : Char) : List Item → List Item
  | [] => []
  | first :: rest => if first.isMark c then rest else first :: rest

/-- The parts between the marks. A mark in front of the first part has no meaning. -/
def partsOf (c : Char) (level : List Item) : List (List Item) :=
  (dropLeading c level).splitOnP (·.isMark c)

/-- The member that is kept as its pieces. -/
def keep (level : List Item) : Member := .other (level.map Item.piece)

/-- Read an operand, given from its end, with the brackets behind it. -/
def readPostfix : List Item → Option TypeForm
  | [] => none
  | [only] => if only.isParenthesized then only.inner else some (.single (keep [only]))
  | last :: before =>
      if last.isBrackets then (readPostfix before).map TypeForm.arrayOf
      else some (.single (keep (last :: before).reverse))

/-- Read an operand with the operators in front of it. -/
def readOperand : List Item → Option TypeForm
  | [] => none
  | first :: rest =>
      if first.isOperator then (readOperand rest).map fun _ => .single (keep (first :: rest))
      else readPostfix (first :: rest).reverse

/-- Read a member of a union. -/
def readMember (part : List Item) : Option TypeForm :=
  match partsOf '&' part with
  | [operand] => readOperand operand
  | operands =>
      if operands.all fun operand => (readOperand operand).isSome then
        some (.single (keep (dropLeading '&' part)))
      else none

/-- Read the members of a union. -/
def readMembers : List (List Item) → Option TypeForm
  | [] => none
  | [part] => readMember part
  | part :: rest => do return (← readMember part).append (← readMembers rest)

/-- Whether a function type stands bare behind an operator of types. -/
def isMisplaced (level : List Item) : Bool :=
  (level.find? Item.reachesOut).any Item.isArrow &&
    (level.takeWhile (!·.reachesOut)).any fun i => i.isMark '|' || i.isMark '&'

/-- Read what stands between two brackets, or a whole text. -/
def readLevel (level : List Item) : Option TypeForm :=
  if level.any Item.reachesOut then
    if isMisplaced level then none else some (.single (keep level))
  else readMembers (partsOf '|' level)

mutual

/-- The type that stands in the brackets of a piece. -/
def Piece.inner? : Piece → Option TypeForm
  | .group _ content => readLevel (itemsOf content)
  | _ => none

/-- The pieces with the types that stand in their brackets. -/
def itemsOf : List Piece → List Item
  | [] => []
  | piece :: rest => ⟨piece, piece.inner?⟩ :: itemsOf rest

end

/-- The items of a text. -/
def items? (text : String) : Option (List Item) := (pieces? text).map itemsOf

/-- The type that a text denotes. -/
def denotation? (text : String) : Option TypeForm := (items? text).bind readLevel

theorem itemsOf_append (l r : List Piece) : itemsOf (l ++ r) = itemsOf l ++ itemsOf r := by
  induction l with
  | nil => rfl
  | cons piece rest ih => simp only [List.cons_append, itemsOf, ih]

theorem denotation?_of_items? {text : String} {level : List Item} (h : items? text = some level) :
    denotation? text = readLevel level := by
  rw [denotation?, h]
  rfl

/-! ## Parts -/

theorem dropLeading_append (c : Char) {level : List Item} (h : level ≠ []) (rest : List Item) :
    dropLeading c (level ++ rest) = dropLeading c level ++ rest := by
  cases level with
  | nil => exact absurd rfl h
  | cons first others =>
      simp only [List.cons_append, dropLeading]
      split_ifs with mark
      · rfl
      · rfl

/-- What is added behind a list belongs to its last part. -/
theorem splitOnP_concat {α : Type} (p : α → Bool) {x : α} (h : p x = false) (xs : List α) :
    ∃ others last, xs.splitOnP p = others ++ [last] ∧
      (xs ++ [x]).splitOnP p = others ++ [last ++ [x]] := by
  induction xs with
  | nil => exact ⟨[], [], by simp, by simp [List.splitOnP_cons_eq_if_modifyHead, h]⟩
  | cons y ys ih =>
      obtain ⟨others, last, before, after⟩ := ih
      simp only [List.cons_append, List.splitOnP_cons_eq_if_modifyHead, before, after]
      split_ifs with separates
      · exact ⟨[] :: others, last, rfl, rfl⟩
      · cases others with
        | nil => exact ⟨[], y :: last, rfl, rfl⟩
        | cons first others => exact ⟨(y :: first) :: others, last, rfl, rfl⟩

/-- The parts of a level with an item behind it that is no mark. -/
theorem partsOf_concat (c : Char) {level : List Item} (nonempty : level ≠ []) {i : Item}
    (h : i.isMark c = false) :
    ∃ others last, partsOf c level = others ++ [last] ∧
      partsOf c (level ++ [i]) = others ++ [last ++ [i]] := by
  unfold partsOf
  rw [dropLeading_append c nonempty]
  exact splitOnP_concat _ h _

/-- The parts of two levels with a mark between them. -/
theorem partsOf_append_mark (c : Char) {left right : List Item} (nonempty : left ≠ [])
    {mark : Item} (h : mark.isMark c = true) :
    partsOf c (left ++ mark :: right) = partsOf c left ++ right.splitOnP (·.isMark c) := by
  unfold partsOf
  rw [dropLeading_append c nonempty, List.splitOnP_append_cons _ _ h]

theorem readMembers_cons (part : List Item) {rest : List (List Item)} (h : rest ≠ []) :
    readMembers (part :: rest) =
      do return (← readMember part).append (← readMembers rest) := by
  cases rest with
  | nil => exact absurd rfl h
  | cons next others => rfl

theorem readMembers_append {l r : List (List Item)} (hl : l ≠ []) (hr : r ≠ []) :
    readMembers (l ++ r) = do return (← readMembers l).append (← readMembers r) := by
  induction l with
  | nil => exact absurd rfl hl
  | cons part rest ih =>
      cases rest with
      | nil => exact readMembers_cons part hr
      | cons next others =>
          rw [List.cons_append, readMembers_cons part (by simp), ih (by simp),
            readMembers_cons part (by simp)]
          cases readMember part <;> cases readMembers (next :: others) <;> cases readMembers r <;>
            simp [TypeForm.append_assoc]

/-! ## Empty brackets behind a type -/

/-- Whether an operand has no operator in front of it. -/
def isTightOperand (operand : List Item) : Bool := !operand.head?.any Item.isOperator

/-- Whether a member of a union has one operand only, and that without an operator. -/
def isTightMember (part : List Item) : Bool :=
  match partsOf '&' part with
  | [operand] => isTightOperand operand
  | _ => false

/-- Whether brackets behind a type belong to the whole of it. -/
def Level.isTight (level : List Item) : Bool :=
  !level.any Item.reachesOut &&
    match partsOf '|' level with
    | [member] => isTightMember member
    | _ => false

/-- The pair of brackets behind the element of an array type. -/
def brackets : Item := ⟨.group '[' [], none⟩

section Brackets

variable {level part : List Item} {T : TypeForm}

theorem readPostfix_brackets_cons (reads : readPostfix level = some T) :
    readPostfix (brackets :: level) = some T.arrayOf := by
  have empty : brackets.isBrackets = true := rfl
  cases level with
  | nil => simp [readPostfix] at reads
  | cons last before => simp [readPostfix, empty, reads]

theorem readOperand_concat_brackets (reads : readOperand level = some T) :
    readOperand (level ++ [brackets]) = some T.arrayOf ↔ isTightOperand level = true := by
  cases level with
  | nil => simp [readOperand] at reads
  | cons first rest =>
      by_cases operator : first.isOperator = true
      · simp [readOperand, isTightOperand, operator, TypeForm.arrayOf, keep]
      · simp only [readOperand, operator, Bool.false_eq_true, ↓reduceIte] at reads
        have behind := readPostfix_brackets_cons reads
        simp [readOperand, isTightOperand, operator, ← behind]

/-- A member of several operands is kept as a whole. -/
theorem readMember_of_operands {others : List (List Item)} {last : List Item}
    (parts : partsOf '&' part = others ++ [last]) (several : others ≠ [])
    (reads : readMember part = some T) : T = .single (keep (dropLeading '&' part)) := by
  unfold readMember at reads
  split at reads
  case h_1 operand only =>
      rw [only] at parts
      cases others with
      | nil => exact absurd rfl several
      | cons next others => simp at parts
  case h_2 =>
      split_ifs at reads
      exact (Option.some.inj reads).symm

theorem ne_nil_of_readMember (reads : readMember part = some T) : part ≠ [] := by
  intro empty
  have nothing : readMember [] = none := rfl
  rw [empty, nothing] at reads
  contradiction

theorem readMember_concat_brackets (reads : readMember part = some T) :
    readMember (part ++ [brackets]) = some T.arrayOf ↔ isTightMember part = true := by
  obtain ⟨others, last, before, after⟩ :=
    partsOf_concat '&' (ne_nil_of_readMember reads) (i := brackets) rfl
  cases others with
  | nil =>
      simp only [readMember, before, List.nil_append] at reads
      simp only [readMember, after, isTightMember, before, List.nil_append]
      exact readOperand_concat_brackets reads
  | cons first others =>
      have wide : isTightMember part = false := by simp [isTightMember, before]
      simp only [wide, Bool.false_eq_true, iff_false]
      intro array
      have kept := readMember_of_operands after (by simp) array
      simp [TypeForm.arrayOf, keep] at kept

theorem ne_nil_of_readLevel (reads : readLevel level = some T) : level ≠ [] := by
  intro empty
  have nothing : readLevel [] = none := rfl
  rw [empty, nothing] at reads
  contradiction

theorem any_reachesOut_concat_brackets (level : List Item) :
    (level ++ [brackets]).any Item.reachesOut = level.any Item.reachesOut := by
  have inside : brackets.reachesOut = false := rfl
  simp [inside]

/-- What reaches out is kept as a whole. -/
theorem readLevel_of_reachesOut (out : level.any Item.reachesOut = true)
    (reads : readLevel level = some T) : T = .single (keep level) := by
  simp only [readLevel, out, ↓reduceIte] at reads
  split_ifs at reads
  exact (Option.some.inj reads).symm

/-- **Empty brackets behind a level** make the array of its type where the level binds as tightly
as they do, and only there. -/
theorem readLevel_concat_brackets (reads : readLevel level = some T) :
    readLevel (level ++ [brackets]) = some T.arrayOf ↔ Level.isTight level = true := by
  have behind := any_reachesOut_concat_brackets level
  by_cases out : level.any Item.reachesOut = true
  · have loose : Level.isTight level = false := by simp [Level.isTight, out]
    simp only [loose, Bool.false_eq_true, iff_false]
    intro array
    have kept := readLevel_of_reachesOut (behind.trans out) array
    simp [TypeForm.arrayOf, keep] at kept
  obtain ⟨others, last, before, after⟩ :=
    partsOf_concat '|' (ne_nil_of_readLevel reads) (i := brackets) rfl
  simp only [readLevel, out, before, Bool.false_eq_true, ↓reduceIte] at reads
  simp only [readLevel, behind, out, after, Bool.false_eq_true, ↓reduceIte]
  cases others with
  | nil =>
      simp only [List.nil_append, readMembers] at reads ⊢
      rw [readMember_concat_brackets reads]
      simp [Level.isTight, out, before]
  | cons first others =>
      have wide : Level.isTight level = false := by simp [Level.isTight, out, before]
      simp only [wide, Bool.false_eq_true, iff_false]
      rw [readMembers_append (by simp) (by simp)]
      intro array
      obtain ⟨front, -, array⟩ := Option.bind_eq_some_iff.mp array
      obtain ⟨back, -, array⟩ := Option.bind_eq_some_iff.mp array
      exact front.append_ne_single back _ (Option.some.inj array)

theorem isTightOperand_concat_brackets (tight : isTightOperand part = true) :
    isTightOperand (part ++ [brackets]) = true := by
  cases part with
  | nil => rfl
  | cons first rest => exact tight

theorem isTightMember_concat_brackets (tight : isTightMember part = true) :
    isTightMember (part ++ [brackets]) = true := by
  by_cases empty : part = []
  · rw [empty]
    rfl
  obtain ⟨others, last, before, after⟩ := partsOf_concat '&' empty (i := brackets) rfl
  cases others with
  | nil =>
      simp only [isTightMember, before, List.nil_append] at tight
      simp only [isTightMember, after, List.nil_append]
      exact isTightOperand_concat_brackets tight
  | cons first others => simp [isTightMember, before] at tight

/-- An array type binds as tightly as its element. -/
theorem Level.isTight_concat_brackets (nonempty : level ≠ [])
    (tight : Level.isTight level = true) : Level.isTight (level ++ [brackets]) = true := by
  obtain ⟨others, last, before, after⟩ := partsOf_concat '|' nonempty (i := brackets) rfl
  simp only [Level.isTight, Bool.and_eq_true, Bool.not_eq_true', before] at tight
  obtain ⟨inside, single⟩ := tight
  simp only [Level.isTight, any_reachesOut_concat_brackets, inside, after, Bool.not_false,
    Bool.true_and]
  cases others with
  | nil => exact isTightMember_concat_brackets single
  | cons first others => simp at single

/-- What stands in parentheses can be the element of an array type. -/
theorem readLevel_parentheses (pieces : List Piece) (T : TypeForm) :
    readLevel [⟨.group '(' pieces, some T⟩, brackets] = some T.arrayOf :=
  rfl

end Brackets

/-! ## A bar between two types -/

/-- The bar between two members of a union. -/
def bar : Item := ⟨.mark '|', none⟩

/-- Whether a level begins with a bar. -/
def Level.startsWithBar (level : List Item) : Bool := level.head?.any (·.isMark '|')

section Bar

variable {left right : List Item} {L R : TypeForm}

theorem Level.startsWithBar_append {level : List Item} (h : level ≠ []) (rest : List Item) :
    Level.startsWithBar (level ++ rest) = Level.startsWithBar level := by
  cases level with
  | nil => exact absurd rfl h
  | cons first others => rfl

theorem partsOf_ne_nil (c : Char) (level : List Item) : partsOf c level ≠ [] :=
  List.splitOnP_ne_nil _ _

theorem splitOnP_of_not_startsWithBar (h : Level.startsWithBar right = false) :
    right.splitOnP (·.isMark '|') = partsOf '|' right := by
  cases right with
  | nil => rfl
  | cons first rest =>
      have plain : first.isMark '|' = false := h
      simp [partsOf, dropLeading, plain]

/-- The part in front of a bar at the beginning is missing. -/
theorem readMembers_of_startsWithBar (h : Level.startsWithBar right = true) :
    readMembers (right.splitOnP (·.isMark '|')) = none := by
  cases right with
  | nil => simp [Level.startsWithBar] at h
  | cons first rest =>
      have mark : first.isMark '|' = true := h
      rw [List.splitOnP_cons_eq_if_modifyHead, if_pos mark,
        readMembers_cons [] (List.splitOnP_ne_nil _ _)]
      rfl

theorem any_reachesOut_append_bar (left right : List Item) :
    (left ++ bar :: right).any Item.reachesOut =
      (left.any Item.reachesOut || right.any Item.reachesOut) := by
  have inside : bar.reachesOut = false := rfl
  simp [inside]

/-- Where nothing reaches out, a bar ends the members in front of it. -/
theorem readLevel_append_bar_of_inside (hl : readLevel left = some L)
    (leftIn : left.any Item.reachesOut = false) (rightIn : right.any Item.reachesOut = false) :
    readLevel (left ++ bar :: right) =
      (readMembers (right.splitOnP (·.isMark '|'))).map L.append := by
  have nonempty := ne_nil_of_readLevel hl
  simp only [readLevel, leftIn, Bool.false_eq_true, ↓reduceIte] at hl
  simp only [readLevel, any_reachesOut_append_bar, leftIn, rightIn, Bool.or_self,
    Bool.false_eq_true, ↓reduceIte]
  rw [partsOf_append_mark '|' nonempty rfl,
    readMembers_append (partsOf_ne_nil '|' left) (List.splitOnP_ne_nil _ _), hl]
  cases readMembers (right.splitOnP (·.isMark '|')) <;> rfl

/-- **A bar between two levels** makes the union of their types where neither of them reaches out
and the second one does not begin with a bar of its own. -/
theorem readLevel_append_bar (hl : readLevel left = some L)
    (hr : readLevel right = some R) (leftIn : left.any Item.reachesOut = false)
    (rightIn : right.any Item.reachesOut = false)
    (plain : Level.startsWithBar right = false) :
    readLevel (left ++ bar :: right) = some (L.append R) := by
  simp only [readLevel, rightIn, Bool.false_eq_true, ↓reduceIte] at hr
  rw [readLevel_append_bar_of_inside hl leftIn rightIn, splitOnP_of_not_startsWithBar plain, hr]
  rfl

/-- What reaches out over a bar takes in the member that it has been alone. -/
theorem keep_notMem {part whole : List Item} {U : TypeForm} (shorter : part.length < whole.length)
    (out : whole.any Item.reachesOut = true) (reads : readLevel whole = some U) :
    keep part ∉ U.members := by
  rw [readLevel_of_reachesOut out reads]
  intro same
  have alike : part.map Item.piece = whole.map Item.piece := by
    simpa [keep, TypeForm.members] using same
  have lengths := congrArg List.length alike
  simp only [List.length_map] at lengths
  omega

/-- Where a bar between two levels does not make the union of their types, a member is lost. -/
theorem exists_lost_of_append_bar (hl : readLevel left = some L)
    (hr : readLevel right = some R) {U : TypeForm}
    (reads : readLevel (left ++ bar :: right) = some U)
    (loose : ¬ (left.any Item.reachesOut = false ∧ right.any Item.reachesOut = false ∧
      Level.startsWithBar right = false)) :
    ∃ m, (m ∈ L.members ∨ m ∈ R.members) ∧ m ∉ U.members := by
  have whole := any_reachesOut_append_bar left right
  cases leftOut : left.any Item.reachesOut with
  | true =>
      rw [readLevel_of_reachesOut leftOut hl]
      refine ⟨keep left, Or.inl (by simp [TypeForm.members]), ?_⟩
      exact keep_notMem (by simp) (by rw [whole, leftOut, Bool.true_or]) reads
  | false =>
      cases rightOut : right.any Item.reachesOut with
      | true =>
          rw [readLevel_of_reachesOut rightOut hr]
          refine ⟨keep right, Or.inr (by simp [TypeForm.members]), ?_⟩
          exact keep_notMem (by simp; omega) (by rw [whole, rightOut, Bool.or_true]) reads
      | false =>
          cases bars : Level.startsWithBar right with
          | true =>
              rw [readLevel_append_bar_of_inside hl leftOut rightOut,
                readMembers_of_startsWithBar bars] at reads
              contradiction
          | false => exact absurd ⟨leftOut, rightOut, bars⟩ loose

end Bar

end UnitResolution.Script.TypeText
