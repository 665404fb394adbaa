import UnitResolution.Proofs.Script.TypeText.Reading
import UnitResolution.Script.Inference

/-!
# Type texts that are put together

The text of an array type is the text of its element with brackets behind it, in parentheses where
it has a space in it; the text of a union is two texts with a bar between them. Neither looks at
what the texts denote. `denotation?_arrayText` and `denotation?_union_iff` say when such a text
denotes what it is meant to.

`IsNestable` holds of the texts that can stand for an element and on both sides of a bar. Texts that
are put together from such texts are of this kind again.
-/

namespace UnitResolution.Script.TypeText

/-! ## Texts -/

/-- Whether a text is a function type or a conditional type, which reach as far as they can. -/
def reachesOut (text : String) : Bool := (items? text).any (·.any Item.reachesOut)

/-- Whether a text begins with a bar. -/
def startsWithBar (text : String) : Bool := (items? text).any Level.startsWithBar

/-- Whether brackets behind a text belong to the whole of it. -/
def isTight (text : String) : Bool := (items? text).any Level.isTight

/-- Whether a text has a space in it. -/
def hasSpace (text : String) : Bool := text.toList.contains ' '

/-- The text of the array type with the given element. -/
def arrayText (element : String) : String :=
  if hasSpace element then "(" ++ element ++ ")[]" else element ++ "[]"

theorem items?_of_denotation? {text : String} {T : TypeForm} (h : denotation? text = some T) :
    ∃ level, items? text = some level ∧ readLevel level = some T :=
  Option.bind_eq_some_iff.mp h

theorem pieces?_of_items? {text : String} {level : List Item} (h : items? text = some level) :
    ∃ pieces, pieces? text = some pieces ∧ itemsOf pieces = level :=
  Option.map_eq_some_iff.mp h

/-! ## Array types -/

theorem items?_brackets {text : String} {level : List Item} (h : items? text = some level) :
    items? (text ++ "[]") = some (level ++ [brackets]) := by
  obtain ⟨pieces, cut, rfl⟩ := pieces?_of_items? h
  rw [items?, pieces?_brackets cut, Option.map_some, itemsOf_append]
  rfl

/-- The items of a text in parentheses with brackets behind it. -/
theorem items?_parentheses {text : String} {level : List Item} (h : items? text = some level) :
    ∃ pieces, items? ("(" ++ text ++ ")[]") =
      some [⟨.group '(' pieces, readLevel level⟩, brackets] := by
  obtain ⟨pieces, cut, rfl⟩ := pieces?_of_items? h
  refine ⟨pieces, ?_⟩
  rw [items?, pieces?_parentheses cut]
  rfl

/-- **The text of an array type** denotes the array of what its element denotes where the element
is in parentheses or binds as tightly as the brackets behind it, and only there. -/
theorem denotation?_arrayText {text : String} {T : TypeForm} (h : denotation? text = some T) :
    denotation? (arrayText text) = some T.arrayOf ↔ hasSpace text = true ∨ isTight text = true := by
  obtain ⟨level, items, reads⟩ := items?_of_denotation? h
  by_cases space : hasSpace text = true
  · obtain ⟨pieces, wrapped⟩ := items?_parentheses items
    rw [arrayText, if_pos space, denotation?_of_items? wrapped, reads]
    simp [readLevel_parentheses, space]
  · rw [arrayText, if_neg space, denotation?_of_items? (items?_brackets items),
      readLevel_concat_brackets reads]
    simp [space, isTight, items]

example : [isTight "A|B", isTight "keyof{}", isTight "(A|B)", isTight "Map<K,V>"] =
    [false, false, true, true] := by
  decide

/-! ## Unions -/

theorem items?_bar {left right : String} {l r : List Item} (hl : items? left = some l)
    (hr : items? right = some r) :
    items? (left ++ " | " ++ right) = some (l ++ bar :: r) := by
  obtain ⟨leftPieces, leftCut, rfl⟩ := pieces?_of_items? hl
  obtain ⟨rightPieces, rightCut, rfl⟩ := pieces?_of_items? hr
  rw [items?, pieces?_bar leftCut rightCut, Option.map_some, itemsOf_append]
  rfl

/-- Whether a bar between two texts keeps them apart. -/
def Joins (left right : String) : Prop :=
  reachesOut left = false ∧ reachesOut right = false ∧ startsWithBar right = false

/-- A type with each member of two types, and no other one, and each of them once. -/
structure TypeForm.IsUnionOf (U L R : TypeForm) : Prop where
  nodup : U.members.Nodup
  mem_iff : ∀ m, m ∈ U.members ↔ m ∈ L.members ∨ m ∈ R.members

theorem TypeForm.isUnionOf_append_iff (L R : TypeForm) :
    (L.append R).IsUnionOf L R ↔ (L.append R).members.Nodup := by
  constructor
  · exact IsUnionOf.nodup
  · intro distinct
    exact ⟨distinct, fun m => by rw [members_append, List.mem_append]⟩

theorem TypeForm.isUnionOf_self_iff (T : TypeForm) : T.IsUnionOf T T ↔ T.members.Nodup := by
  constructor
  · exact IsUnionOf.nodup
  · intro distinct
    exact ⟨distinct, fun m => (or_self_iff).symm⟩

section Union

variable {left right : String} {L R : TypeForm}

/-- The text of a union lists the members of both sides where the bar keeps them apart. -/
theorem denotation?_union (hl : denotation? left = some L) (hr : denotation? right = some R)
    (joins : Joins left right) : denotation? (left ++ " | " ++ right) = some (L.append R) := by
  obtain ⟨l, leftItems, leftReads⟩ := items?_of_denotation? hl
  obtain ⟨r, rightItems, rightReads⟩ := items?_of_denotation? hr
  obtain ⟨leftIn, rightIn, plain⟩ := joins
  rw [denotation?_of_items? (items?_bar leftItems rightItems)]
  rw [reachesOut, leftItems] at leftIn
  rw [reachesOut, rightItems] at rightIn
  rw [startsWithBar, rightItems] at plain
  exact readLevel_append_bar leftReads rightReads leftIn rightIn plain

/-- Where the bar does not keep the sides apart, a member of one of them is lost. -/
theorem exists_lost_of_not_joins (hl : denotation? left = some L) (hr : denotation? right = some R)
    (loose : ¬ Joins left right) {U : TypeForm}
    (reads : denotation? (left ++ " | " ++ right) = some U) :
    ∃ m, (m ∈ L.members ∨ m ∈ R.members) ∧ m ∉ U.members := by
  obtain ⟨l, leftItems, leftReads⟩ := items?_of_denotation? hl
  obtain ⟨r, rightItems, rightReads⟩ := items?_of_denotation? hr
  rw [denotation?_of_items? (items?_bar leftItems rightItems)] at reads
  apply exists_lost_of_append_bar leftReads rightReads reads
  simpa [Joins, reachesOut, startsWithBar, leftItems, rightItems] using loose

/-- **The text of a union** lists the members of both sides where the bar keeps them apart, and
only there. -/
theorem denotation?_union_iff (hl : denotation? left = some L) (hr : denotation? right = some R) :
    denotation? (left ++ " | " ++ right) = some (L.append R) ↔ Joins left right := by
  constructor
  · intro reads
    by_contra loose
    obtain ⟨m, given, lost⟩ := exists_lost_of_not_joins hl hr loose reads
    rw [TypeForm.members_append, List.mem_append] at lost
    exact lost given
  · exact denotation?_union hl hr

/-- The text of a union denotes the union of both sides where the bar keeps them apart and no member
is written twice, and only there. -/
theorem exists_isUnionOf_iff (hl : denotation? left = some L) (hr : denotation? right = some R) :
    (∃ U, denotation? (left ++ " | " ++ right) = some U ∧ U.IsUnionOf L R) ↔
      Joins left right ∧ (L.append R).members.Nodup := by
  constructor
  · intro union
    obtain ⟨U, reads, exact_union⟩ := union
    have joins : Joins left right := by
      by_contra loose
      obtain ⟨m, given, lost⟩ := exists_lost_of_not_joins hl hr loose reads
      exact lost ((exact_union.mem_iff m).mpr given)
    have whole := denotation?_union hl hr joins
    rw [whole, Option.some.injEq] at reads
    exact ⟨joins, reads ▸ exact_union.nodup⟩
  · intro given
    obtain ⟨joins, distinct⟩ := given
    exact ⟨L.append R, denotation?_union hl hr joins, (L.isUnionOf_append_iff R).mpr distinct⟩

end Union

/-! ## Texts that can be nested -/

/-- A text that can stand for the element of an array and on both sides of a bar. -/
structure IsNestable (text : String) : Prop where
  isType : (denotation? text).isSome = true
  stays : reachesOut text = false
  plain : startsWithBar text = false
  grouped : hasSpace text = true ∨ isTight text = true

namespace IsNestable

variable {text left right : String}

theorem of_level {level : List Item} {T : TypeForm} (items : items? text = some level)
    (reads : readLevel level = some T) (tight : Level.isTight level = true)
    (plain : Level.startsWithBar level = false) : IsNestable text where
  isType := by rw [denotation?_of_items? items, reads]; rfl
  stays := by
    rw [reachesOut, items]
    simp only [Level.isTight, Bool.and_eq_true, Bool.not_eq_true'] at tight
    exact tight.1
  plain := by rw [startsWithBar, items]; exact plain
  grouped := Or.inr (by rw [isTight, items]; exact tight)

theorem joins (hl : IsNestable left) (hr : IsNestable right) : Joins left right :=
  ⟨hl.stays, hr.stays, hr.plain⟩

/-- The text of an array type whose element can be nested can be nested. -/
theorem arrayText (h : IsNestable text) : IsNestable (arrayText text) := by
  obtain ⟨T, reads⟩ := Option.isSome_iff_exists.mp h.isType
  have whole := (TypeText.denotation?_arrayText reads).mpr h.grouped
  obtain ⟨level, items, levelReads⟩ := items?_of_denotation? reads
  by_cases space : hasSpace text = true
  · obtain ⟨pieces, wrapped⟩ := items?_parentheses items
    rw [levelReads] at wrapped
    rw [TypeText.arrayText, if_pos space]
    exact of_level wrapped rfl rfl rfl
  · have behind := items?_brackets items
    rw [TypeText.arrayText, if_neg space] at whole ⊢
    rw [denotation?_of_items? behind] at whole
    have tight : Level.isTight level = true := by
      have grouped := h.grouped.resolve_left space
      rwa [isTight, items] at grouped
    have plain : Level.startsWithBar level = false := by
      have plain := h.plain
      rwa [startsWithBar, items] at plain
    have nonempty := ne_nil_of_readLevel levelReads
    refine of_level behind whole (Level.isTight_concat_brackets nonempty tight) ?_
    rw [Level.startsWithBar_append nonempty, plain]

/-- The text of an array type whose element can be nested denotes the array. -/
theorem denotation?_arrayText (h : IsNestable text) :
    (denotation? text).map TypeForm.arrayOf = denotation? (TypeText.arrayText text) := by
  obtain ⟨T, reads⟩ := Option.isSome_iff_exists.mp h.isType
  rw [(TypeText.denotation?_arrayText reads).mpr h.grouped, reads]
  rfl

/-- The text of a union of two types that can be nested can be nested. -/
theorem union (hl : IsNestable left) (hr : IsNestable right) :
    IsNestable (left ++ " | " ++ right) := by
  obtain ⟨L, leftReads⟩ := Option.isSome_iff_exists.mp hl.isType
  obtain ⟨R, rightReads⟩ := Option.isSome_iff_exists.mp hr.isType
  have whole := denotation?_union leftReads rightReads (hl.joins hr)
  obtain ⟨l, leftItems, leftLevel⟩ := items?_of_denotation? leftReads
  obtain ⟨r, rightItems, rightLevel⟩ := items?_of_denotation? rightReads
  have items := items?_bar leftItems rightItems
  have leftIn := hl.stays
  have rightIn := hr.stays
  have leftPlain := hl.plain
  rw [reachesOut, leftItems, Option.any_some] at leftIn
  rw [reachesOut, rightItems, Option.any_some] at rightIn
  rw [startsWithBar, leftItems, Option.any_some] at leftPlain
  exact
    { isType := by rw [whole]; rfl
      stays := by
        rw [reachesOut, items, Option.any_some, any_reachesOut_append_bar, leftIn, rightIn]
        rfl
      plain := by
        rw [startsWithBar, items, Option.any_some,
          Level.startsWithBar_append (ne_nil_of_readLevel leftLevel), leftPlain]
      grouped := Or.inl (by simp [hasSpace, String.toList_append]) }

/-- A text can be nested if and only if it is read rightly as the element of an array and as the
last member of a union. -/
theorem iff_denotation? {T : TypeForm} (reads : denotation? text = some T) {front : String}
    {F : TypeForm} (frontReads : denotation? front = some F) (frontIn : reachesOut front = false) :
    IsNestable text ↔
      denotation? (TypeText.arrayText text) = some T.arrayOf ∧
        denotation? (front ++ " | " ++ text) = some (F.append T) := by
  rw [TypeText.denotation?_arrayText reads, denotation?_union_iff frontReads reads]
  constructor
  · intro nestable
    exact ⟨nestable.grouped, frontIn, nestable.stays, nestable.plain⟩
  · intro given
    obtain ⟨grouped, -, stays, plain⟩ := given
    exact ⟨by rw [reads]; rfl, stays, plain, grouped⟩

end IsNestable

/-! ## Names of types -/

/-- Whether a text is a word that is no keyword of the grammar of types. -/
def isTypeName (text : String) : Bool :=
  !text.toList.isEmpty && text.toList.all (roleOf · == .letter) &&
    text.toList != "extends".toList && !operators.contains text.toList

theorem foldlM_step_letters {rest : List Char} (h : ∀ c ∈ rest, roleOf c = .letter)
    (spelling : List Char) (n : Nest) :
    rest.foldlM Reader.step ⟨.word spelling, n⟩ = some ⟨.word (spelling ++ rest), n⟩ := by
  induction rest generalizing spelling with
  | nil => simp
  | cons c rest ih =>
      have letter := h c List.mem_cons_self
      rw [List.foldlM_cons]
      simp only [Reader.step, letter, ↓reduceIte, Option.bind_eq_bind, Option.bind_some]
      rw [ih (fun d mem => h d (List.mem_cons_of_mem c mem))]
      simp

theorem pieces?_of_isTypeName {text : String} (h : isTypeName text = true) :
    pieces? text = some [.word text.toList] := by
  simp only [isTypeName, Bool.and_eq_true, List.all_eq_true, beq_iff_eq] at h
  obtain ⟨⟨⟨nonempty, letters⟩, -⟩, -⟩ := h
  rw [pieces?_eq_some_iff]
  cases chars : text.toList with
  | nil => simp [chars] at nonempty
  | cons c rest =>
      rw [chars] at letters
      have first : Reader.step ⟨.plain, {}⟩ c = some ⟨.word [c], {}⟩ :=
        Nest.start_of_letter (letters c List.mem_cons_self) {}
      rw [reach, List.foldlM_cons, first]
      simp only [Option.bind_eq_bind, Option.bind_some]
      rw [foldlM_step_letters fun d mem => letters d (List.mem_cons_of_mem c mem)]
      rfl

/-- What a name denotes. -/
def TypeForm.named (name : String) : TypeForm := .single (.other [.word name.toList])

theorem partsOf_word (c : Char) (spelling : List Char) :
    partsOf c [⟨.word spelling, none⟩] = [[⟨.word spelling, none⟩]] :=
  rfl

/-- A name denotes itself, and can be nested. -/
theorem denotes_of_isTypeName {text : String} (h : isTypeName text = true) :
    denotation? text = some (.named text) ∧ IsNestable text := by
  have items : items? text = some [⟨.word text.toList, none⟩] := by
    rw [items?, pieces?_of_isTypeName h]
    rfl
  simp only [isTypeName, Bool.and_eq_true, bne, Bool.not_eq_true'] at h
  have inside : Item.reachesOut ⟨.word text.toList, none⟩ = false := h.1.2
  have operand : Item.isOperator ⟨.word text.toList, none⟩ = false := h.2
  have reads : readLevel [⟨.word text.toList, none⟩] = some (.named text) := by
    simp only [readLevel, List.any_cons, inside, List.any_nil, Bool.or_self, Bool.false_eq_true,
      ↓reduceIte, partsOf_word, readMembers, readMember, readOperand, operand]
    rfl
  have tight : Level.isTight [⟨.word text.toList, none⟩] = true := by
    simp [Level.isTight, inside, partsOf_word, isTightMember, isTightOperand, operand]
  exact ⟨(denotation?_of_items? items).trans reads, .of_level items reads tight rfl⟩

end UnitResolution.Script.TypeText
