import UnitResolution.Proofs.Path.Ways
import UnitResolution.Proofs.Url.Encoding

/-!
# Ways through URLs

A reference is followed segment by segment, and so are the pieces for which its segments stand
(`UnitResolution.Url.walk`): what reading puts behind a path stands for what walking puts behind the
pieces of the path (`UnitResolution.Url.stands_pushSegments`), unless the letter of a drive gets in
the way.

An empty piece is a directory of its own on such a walk, while a path passes over it. The two ways
end at the same place where no step up meets an empty piece (`UnitResolution.Url.steps_walk`).
-/

namespace UnitResolution.Url

open Text FileUrl

variable {path place segments pieces : List (List Char)} {segment piece : List Char} {last : Bool}

/-! ## Walking -/

/-- One more piece behind a place. A step up takes back the last piece, even if it is empty, and
dots at the end leave a slash. -/
def walkStep (last : Bool) (place : List (List Char)) (piece : List Char) : List (List Char) :=
  if piece = Path.up then
    if last then place.dropLast ++ [[]] else place.dropLast
  else if piece = ['.'] then
    if last then place ++ [[]] else place
  else place ++ [piece]

/-- The place to which pieces lead from another one. -/
def walk (place : List (List Char)) : List (List Char) → List (List Char)
  | [] => place
  | [piece] => walkStep true place piece
  | piece :: more => walk (walkStep false place piece) more

theorem forall_walkStep {P : List Char → Prop} (last : Bool) (empty : P [])
    (start : ∀ s ∈ place, P s) (new : piece ≠ Path.up → piece ≠ ['.'] → P piece) :
    ∀ s ∈ walkStep last place piece, P s := by
  have back : ∀ s ∈ place.dropLast, P s := fun s member => start s (List.mem_of_mem_dropLast member)
  have gap {place : List (List Char)} (start : ∀ s ∈ place, P s) : ∀ s ∈ place ++ [[]], P s :=
    List.forall_mem_append.mpr ⟨start, List.forall_mem_singleton.mpr empty⟩
  unfold walkStep
  split
  · cases last with
    | false => exact back
    | true => exact gap back
  · next down =>
      split
      · cases last with
        | false => exact start
        | true => exact gap start
      · next around =>
          exact List.forall_mem_append.mpr ⟨start, List.forall_mem_singleton.mpr (new down around)⟩

/-- What a walk comes to is made of empty pieces, those of the place, and those that are no dots. -/
theorem forall_walk {P : List Char → Prop} (empty : P []) (start : ∀ s ∈ place, P s)
    (new : ∀ s ∈ pieces, s ≠ Path.up → s ≠ ['.'] → P s) : ∀ s ∈ walk place pieces, P s := by
  fun_induction walk place pieces with
  | case1 place => exact start
  | case2 place piece => exact forall_walkStep true empty start (new piece List.mem_cons_self)
  | case3 place piece more _ ih =>
      obtain ⟨first, others⟩ := List.forall_mem_cons.mp new
      exact ih (forall_walkStep false empty start first) others

theorem walk_ne_nil (nonempty : pieces ≠ []) : walk place pieces ≠ [] := by
  fun_induction walk place pieces with
  | case1 place => exact absurd rfl nonempty
  | case2 place piece =>
      unfold walkStep
      split
      · simp
      · split <;> simp
  | case3 place piece more more' ih =>
      exact ih fun empty => more' empty

/-! ## Walking and following -/

/-- On the way that pieces lead from a place, no letter of a drive comes to be the first piece, and
no step up takes back one that is. -/
def AvoidsDrives (place : List (List Char)) : List (List Char) → Prop
  | [] => True
  | piece :: more =>
      ((place = [] → isDriveLetter piece = false) ∧
        (piece = Path.up → place.dropLast = [] → ∀ first ∈ place, isDriveLetter first = false)) ∧
      AvoidsDrives (walkStep false place piece) more

instance decidableAvoidsDrives :
    (place pieces : List (List Char)) → Decidable (AvoidsDrives place pieces)
  | _, [] => .isTrue trivial
  | place, piece :: more =>
      have := decidableAvoidsDrives (walkStep false place piece) more
      inferInstanceAs (Decidable (_ ∧ _))

/-- Only the letter of a drive itself is the segment of one. -/
theorem isDriveLetter_of_stands (stands : Stands segment piece) (named : isDriveLetter segment) :
    isDriveLetter piece := by
  have plain : '%' ∉ segment := by
    obtain ⟨letter, mark, rfl⟩ := eq_of_isDriveLetter named
    intro percent
    simp only [List.mem_cons, List.not_mem_nil, or_false] at percent
    rcases percent with rfl | rfl
    · exact Bool.false_ne_true named
    · simp [isDriveLetter] at named
  rwa [stands.unique (stands_self plain)]

theorem shorten_eq_dropLast (stands : List.Forall₂ Stands path place)
    (other : place.dropLast = [] → ∀ first ∈ place, isDriveLetter first = false) :
    shorten path = path.dropLast := by
  unfold shorten
  split
  · next only =>
      obtain ⟨first, _, first_stands, nothing, rfl⟩ := List.forall₂_cons_left_iff.mp stands
      cases nothing
      refine if_neg fun normal => ?_
      have named : isDriveLetter only := by
        unfold isNormalDriveLetter at normal
        split at normal
        · simp [isDriveLetter, normal]
        · cases normal
      exact Bool.eq_false_iff.mp (other rfl first List.mem_cons_self)
        (isDriveLetter_of_stands first_stands named)
  · rfl

theorem forall₂_dropLast (stands : List.Forall₂ Stands path place) :
    List.Forall₂ Stands path.dropLast place.dropLast := by
  rw [List.dropLast_eq_take, List.dropLast_eq_take, stands.length_eq]
  exact List.forall₂_take _ stands

/-- One more segment behind a path stands for what one more piece leads to. -/
theorem stands_pushSegment (last : Bool) (stands : List.Forall₂ Stands path place)
    (also : Stands segment piece) (written : ∀ c ∈ segment, IsSegmentChar c)
    (first : place = [] → isDriveLetter piece = false)
    (back : piece = Path.up → place.dropLast = [] → ∀ s ∈ place, isDriveLetter s = false) :
    List.Forall₂ Stands (pushSegment last path segment) (walkStep last place piece) := by
  have ascii : ∀ c ∈ segment, c.toNat < 0x80 := fun c inside => (written c inside).plain.2.1
  have gap : List.Forall₂ Stands [[]] [[]] := .cons stands_nil .nil
  by_cases up : piece = Path.up
  · subst up
    have double : isDoubleDot segment := isDoubleDot_of_decodes ascii also.decodes
    unfold pushSegment walkStep
    rw [if_pos double, if_pos rfl, shorten_eq_dropLast stands (back rfl)]
    cases last with
    | false => exact forall₂_dropLast stands
    | true => exact List.rel_append (forall₂_dropLast stands) gap
  · have double : isDoubleDot segment = false := Bool.eq_false_iff.mpr fun dots =>
      up (also.unique (stands_of_isDoubleDot ascii dots))
    by_cases around : piece = ['.']
    · subst around
      have single : isSingleDot segment := isSingleDot_of_decodes ascii also.decodes
      unfold pushSegment walkStep
      rw [double, if_neg Bool.false_ne_true, if_pos single, if_neg up, if_pos rfl]
      cases last with
      | false => exact stands
      | true => exact List.rel_append stands gap
    · have single : isSingleDot segment = false := Bool.eq_false_iff.mpr fun dots =>
        around (also.unique (stands_of_isSingleDot ascii dots))
      -- no letter of a drive comes first, so none is put into its normal form
      have normal : path ≠ [] ∨ StartsNormal [segment] := by
        refine or_iff_not_imp_left.mpr fun empty => ?_
        rw [not_not] at empty
        subst empty
        cases stands
        rintro _ ⟨⟩ named
        exact absurd (isDriveLetter_of_stands also named) (Bool.eq_false_iff.mp (first rfl))
      unfold walkStep
      rw [pushSegment_eq_append ⟨written, single, double⟩ normal, if_neg up, if_neg around]
      exact List.rel_append stands (.cons also .nil)

/-- Segments are followed as the pieces for which they stand are walked. -/
theorem stands_pushSegments (stands : List.Forall₂ Stands path place)
    (also : List.Forall₂ Stands segments pieces)
    (plain : ∀ s ∈ segments, ∀ c ∈ s, c ≠ '/' ∧ c ≠ '\\') (avoids : AvoidsDrives place pieces) :
    List.Forall₂ Stands (pushSegments path segments) (walk place pieces) := by
  induction also generalizing path place with
  | nil => exact stands
  | @cons segment piece segments pieces first rest ih =>
      obtain ⟨visible, others⟩ := List.forall_mem_cons.mp plain
      obtain ⟨⟨letter, back⟩, avoids⟩ := avoids
      have step (last : Bool) := stands_pushSegment last stands first.encode
        (fun c => isSegmentChar_of_mem_encode visible) letter back
      cases rest with
      | nil => exact step true
      | cons second further => exact ih (step false) others avoids

/-! ## Ways that are straight -/

/-- On the way that pieces lead from a place, no step up meets an empty piece. -/
def Straight (place : List (List Char)) : List (List Char) → Prop
  | [] => True
  | piece :: more =>
      (piece = Path.up → place.getLast? ≠ some []) ∧ Straight (walkStep false place piece) more

instance decidableStraight :
    (place pieces : List (List Char)) → Decidable (Straight place pieces)
  | _, [] => .isTrue trivial
  | place, piece :: more =>
      have := decidableStraight (walkStep false place piece) more
      inferInstanceAs (Decidable (_ ∧ _))

/-- A place without dots. -/
def Dotless (place : List (List Char)) : Prop := ∀ s ∈ place, s ≠ Path.up ∧ s ≠ ['.']

/-- One more piece of a straight way leads through a URL to where it leads in a path. -/
theorem steps_walkStep (last : Bool) (dotless : Dotless place)
    (straight : piece = Path.up → place.getLast? ≠ some []) :
    Path.steps (walkStep last place piece) =
      (Path.push false (Path.steps place).reverse piece).reverse := by
  have gap (s : List (List Char)) : Path.steps (s ++ [[]]) = Path.steps s := by
    rw [Path.steps_append]
    exact List.append_nil _
  unfold walkStep
  by_cases up : piece = Path.up
  · subst up
    have back : Path.steps place.dropLast =
        (Path.push false (Path.steps place).reverse Path.up).reverse := by
      rcases List.eq_nil_or_concat' place with rfl | ⟨before, final, rfl⟩
      · rfl
      · -- what is taken back is a step, so a path takes back the same
        obtain ⟨down, around⟩ := dotless final (by simp)
        have filled : final ≠ [] := by
          rintro rfl
          exact straight rfl List.getLast?_concat
        rw [Path.steps_append, Path.steps_eq_self (List.forall_mem_singleton.mpr ⟨filled, around⟩),
          List.dropLast_concat, List.reverse_concat', Path.push_up_cons down, List.reverse_reverse]
    rw [if_pos rfl]
    cases last with
    | false => exact back
    | true => exact (gap _).trans back
  · rw [if_neg up]
    by_cases step : Path.IsStep piece
    · rw [if_neg step.2, Path.push_of_isStep step up, Path.steps_append,
        Path.steps_eq_self (List.forall_mem_singleton.mpr step), List.reverse_cons,
        List.reverse_reverse]
    · rw [Path.push_of_not_isStep step, List.reverse_reverse]
      split
      · cases last with
        | false => rfl
        | true => exact gap place
      · next around =>
          have empty : piece = [] := by
            by_contra filled
            exact step ⟨filled, around⟩
          rw [empty, gap]

/-- A straight way leads through a URL to the place to which it leads in a path. -/
theorem steps_walk (dotless : Dotless place) (straight : Straight place pieces) :
    Path.steps (walk place pieces) =
      (pieces.foldl (Path.push false) (Path.steps place).reverse).reverse := by
  fun_induction walk place pieces with
  | case1 place => exact (List.reverse_reverse _).symm
  | case2 place piece => exact steps_walkStep true dotless straight.1
  | case3 place piece more _ ih =>
      have step := steps_walkStep false dotless straight.1
      have still : Dotless (walkStep false place piece) :=
        forall_walkStep false (by decide) dotless And.intro
      rw [ih still straight.2, step, List.reverse_reverse, List.foldl_cons]

end UnitResolution.Url
