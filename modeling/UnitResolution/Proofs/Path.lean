import UnitResolution.Path
import Mathlib.Algebra.GroupWithZero.Nat
import Mathlib.Data.List.Basic

/-!
# Paths that have been worked out

Working out a path leaves no segment that only leads around, and steps up only at its beginning, if
the path may climb at all (`UnitResolution.Path.Reduced`). A shortened path is almost of that form:
it can have a slash at its beginning and at its end (`UnitResolution.Path.tidy_normalize`).

Behind another path, one that does not step up keeps all its steps
(`UnitResolution.Path.reduce_append`), and to make an absolute path shorter or absolute once more
does not change where it leads (`UnitResolution.Path.segments_normalize`,
`UnitResolution.Path.segments_absolute`).
-/

namespace UnitResolution

open Text

/-! ## Cutting at slashes -/

namespace Text

theorem split_append_cons (separator : Char) (s t : List Char) :
    split separator (s ++ separator :: t) = split separator s ++ split separator t := by
  induction s with
  | nil => simp [split]
  | cons c rest ih =>
      rw [List.cons_append, split, split, ih]
      split
      · rfl
      · cases pieces : split separator rest with
        | nil => exact absurd pieces (split_ne_nil separator rest)
        | cons first others => rfl

/-- A text without separators continues the last piece. -/
theorem split_append_plain {separator : Char} {ending : List Char} (plain : separator ∉ ending)
    (s : List Char) : ∃ before last, split separator s = before ++ [last] ∧
      split separator (s ++ ending) = before ++ [last ++ ending] := by
  induction s with
  | nil => exact ⟨[], [], rfl, split_of_not_mem plain⟩
  | cons c rest ih =>
      obtain ⟨before, last, whole, longer⟩ := ih
      rw [List.cons_append, split, split, whole, longer]
      by_cases same : c = separator
      · exact ⟨[] :: before, last, by simp [same], by simp [same]⟩
      · cases before with
        | nil => exact ⟨[], c :: last, by simp [same], by simp [same]⟩
        | cons first others => exact ⟨(c :: first) :: others, last, by simp [same], by simp [same]⟩

theorem head?_split (separator : Char) (s : List Char) :
    (split separator s).head? = some (s.takeWhile (· != separator)) := by
  induction s with
  | nil => rfl
  | cons c rest ih =>
      rw [split, List.takeWhile_cons]
      by_cases same : c = separator
      · simp [same]
      · cases pieces : split separator rest with
        | nil => exact absurd pieces (split_ne_nil separator rest)
        | cons first others =>
            rw [pieces] at ih
            cases ih
            simp [same]

/-- The length of pieces, each with a separator. -/
def weight (pieces : List (List Char)) : Nat := (pieces.map (·.length + 1)).sum

@[simp] theorem weight_nil : weight [] = 0 := rfl

@[simp] theorem weight_cons (piece : List Char) (pieces : List (List Char)) :
    weight (piece :: pieces) = piece.length + 1 + weight pieces := rfl

@[simp] theorem weight_append (pieces more : List (List Char)) :
    weight (pieces ++ more) = weight pieces + weight more := by
  simp [weight]

theorem weight_split (separator : Char) (s : List Char) :
    weight (split separator s) = s.length + 1 := by
  induction s with
  | nil => rfl
  | cons c rest ih =>
      rw [split]
      split
      · simp only [weight_cons, ih, List.length_nil, List.length_cons]
        omega
      · cases pieces : split separator rest with
        | nil => exact absurd pieces (split_ne_nil separator rest)
        | cons first others =>
            rw [pieces] at ih
            simp only [weight_cons, List.length_cons] at ih ⊢
            omega

end Text

namespace Path

/-! ## Steps -/

/-- A segment that does not stand for the directory in which it occurs. -/
def IsStep (segment : List Char) : Prop := segment ≠ [] ∧ segment ≠ ['.']

instance (segment : List Char) : Decidable (IsStep segment) :=
  inferInstanceAs (Decidable (segment ≠ [] ∧ segment ≠ ['.']))

/-- The segments that do not stand for the directory in which they occur. -/
def steps (segments : List (List Char)) : List (List Char) := segments.filter (IsStep ·)

theorem steps_append (front back : List (List Char)) :
    steps (front ++ back) = steps front ++ steps back :=
  List.filter_append _ _

theorem steps_eq_self {segments : List (List Char)} (all : ∀ s ∈ segments, IsStep s) :
    steps segments = segments :=
  List.filter_eq_self.mpr fun s member => decide_eq_true (all s member)

theorem weight_steps_cons_le (segment : List Char) (rest : List (List Char)) :
    weight (steps (segment :: rest)) ≤ segment.length + 1 + weight (steps rest) := by
  by_cases step : IsStep segment
  · have kept : steps (segment :: rest) = segment :: steps rest :=
      List.filter_cons_of_pos (decide_eq_true step)
    exact Nat.le_of_eq (by rw [kept, weight_cons])
  · have dropped : steps (segment :: rest) = steps rest :=
      List.filter_cons_of_neg (by simpa using step)
    rw [dropped]
    exact Nat.le_add_left _ _

theorem push_of_not_isStep {climbs : Bool} {stack : List (List Char)} {segment : List Char}
    (around : ¬ IsStep segment) : push climbs stack segment = stack := by
  have odd : segment = [] ∨ segment = ['.'] := by
    unfold IsStep at around
    tauto
  exact if_pos odd

theorem push_of_isStep {climbs : Bool} {stack : List (List Char)} {segment : List Char}
    (step : IsStep segment) (down : segment ≠ up) :
    push climbs stack segment = segment :: stack := by
  have plain : ¬ (segment = [] ∨ segment = ['.']) := by
    unfold IsStep at step
    tauto
  unfold push
  rw [if_neg plain, if_neg down]

/-- A step up takes back the segment on top. -/
theorem push_up_cons {climbs : Bool} {stack : List (List Char)} {top : List Char}
    (down : top ≠ up) : push climbs (top :: stack) up = stack := by
  unfold push
  rw [if_neg (by decide), if_pos rfl]
  exact if_neg down

/-- Segments without steps up are put behind whatever there is. -/
theorem foldl_push {climbs : Bool} {segments : List (List Char)} (down : up ∉ segments)
    (stack : List (List Char)) :
    segments.foldl (push climbs) stack = (steps segments).reverse ++ stack := by
  induction segments generalizing stack with
  | nil => rfl
  | cons segment rest ih =>
      simp only [List.mem_cons, not_or] at down
      rw [List.foldl_cons, ih down.2]
      by_cases step : IsStep segment
      · rw [push_of_isStep step (Ne.symm down.1)]
        simp [steps, step]
      · rw [push_of_not_isStep step]
        simp [steps, step]

/-- Behind another path, a path without steps up keeps its steps. -/
theorem reduce_append {climbs : Bool} (front : List (List Char)) {back : List (List Char)}
    (down : up ∉ back) : reduce climbs (front ++ back) = reduce climbs front ++ steps back := by
  unfold reduce
  rw [List.foldl_append, foldl_push down]
  simp

theorem reduce_of_not_mem {climbs : Bool} {segments : List (List Char)} (down : up ∉ segments) :
    reduce climbs segments = steps segments :=
  reduce_append [] down

/-! ## What comes out -/

/-- Segments that have been worked out. Steps up only stand at the beginning, and only where the
path may climb. -/
structure Reduced (climbs : Bool) (segments : List (List Char)) : Prop where
  steps : ∀ s ∈ segments, IsStep s
  slashless : ∀ s ∈ segments, '/' ∉ s
  climbing : up ∈ segments → climbs = true ∧ segments.head? = some up

namespace Reduced

variable {climbs : Bool} {segments : List (List Char)} {segment : List Char}

theorem nil : Reduced climbs [] := ⟨nofun, nofun, nofun⟩

theorem concat (reduced : Reduced climbs segments) (step : IsStep segment)
    (slashless : '/' ∉ segment)
    (climbing : segment = up → climbs = true ∧ (segments = [] ∨ segments.head? = some up)) :
    Reduced climbs (segments ++ [segment]) where
  steps := List.forall_mem_append.mpr ⟨reduced.steps, List.forall_mem_singleton.mpr step⟩
  slashless := List.forall_mem_append.mpr
    ⟨reduced.slashless, List.forall_mem_singleton.mpr slashless⟩
  climbing member := by
    rcases List.mem_append.mp member with before | last
    · obtain ⟨may, first⟩ := reduced.climbing before
      exact ⟨may, by rw [List.head?_append, first]; rfl⟩
    · obtain ⟨may, rfl | first⟩ := climbing (List.mem_singleton.mp last).symm
      · exact ⟨may, congrArg some (List.mem_singleton.mp last).symm⟩
      · exact ⟨may, by rw [List.head?_append, first]; rfl⟩

theorem of_concat (reduced : Reduced climbs (segments ++ [segment])) :
    Reduced climbs segments where
  steps s member := reduced.steps s (List.mem_append_left _ member)
  slashless s member := reduced.slashless s (List.mem_append_left _ member)
  climbing member := by
    obtain ⟨may, first⟩ := reduced.climbing (List.mem_append_left _ member)
    cases segments with
    | nil => cases member
    | cons head rest => exact ⟨may, first⟩

/-- One more segment keeps the stack worked out. -/
theorem push {stack : List (List Char)} (reduced : Reduced climbs stack.reverse)
    (slashless : '/' ∉ segment) : Reduced climbs (push climbs stack segment).reverse := by
  by_cases step : IsStep segment
  · by_cases upwards : segment = up
    · subst upwards
      cases stack with
      | nil =>
          cases climbs with
          | true => exact nil.concat step slashless fun _ => ⟨rfl, .inl rfl⟩
          | false => exact nil
      | cons top below =>
          rw [List.reverse_cons] at reduced
          -- a step up takes back what is on top of the stack, unless that is a step up itself
          by_cases also : top = up
          · subst also
            cases climbs with
            | true =>
                obtain ⟨may, first⟩ := reduced.climbing (by simp)
                have kept := reduced.concat step slashless fun _ => ⟨rfl, .inr first⟩
                simpa [Path.push, up] using kept
            | false => exact absurd (reduced.climbing (by simp)).1 Bool.false_ne_true
          · have taken : Path.push climbs (top :: below) up = below := by
              unfold Path.push
              rw [if_neg (by decide), if_pos rfl]
              exact if_neg also
            rw [taken]
            exact reduced.of_concat
    · rw [push_of_isStep step upwards, List.reverse_cons]
      exact reduced.concat step slashless fun same => absurd same upwards
  · rwa [push_of_not_isStep step]

end Reduced

theorem reduced_reduce (climbs : Bool) {segments : List (List Char)}
    (slashless : ∀ s ∈ segments, '/' ∉ s) : Reduced climbs (reduce climbs segments) := by
  -- the segments go down one by one, while the stack in front of them stays worked out
  suffices ∀ stack : List (List Char), Reduced climbs stack.reverse →
      Reduced climbs (segments.foldl (push climbs) stack).reverse from this [] .nil
  intro stack reduced
  induction segments generalizing stack with
  | nil => exact reduced
  | cons segment rest ih =>
      obtain ⟨first, others⟩ := List.forall_mem_cons.mp slashless
      exact ih others _ (reduced.push first)

theorem reduced_split (climbs : Bool) (p : List Char) :
    Reduced climbs (reduce climbs (split '/' p)) :=
  reduced_reduce climbs fun _ => not_mem_of_mem_split

theorem Reduced.up_not_mem {segments : List (List Char)} (reduced : Reduced false segments) :
    up ∉ segments :=
  fun member => Bool.false_ne_true (reduced.climbing member).1

theorem join_eq_nil_iff {segments : List (List Char)} (all : ∀ s ∈ segments, IsStep s) :
    join '/' segments = [] ↔ segments = [] := by
  cases segments with
  | nil => exact iff_of_true rfl rfl
  | cons segment rest =>
      have filled := (all segment List.mem_cons_self).1
      refine iff_of_false (fun empty => ?_) (List.cons_ne_nil _ _)
      cases rest with
      | nil => exact filled empty
      | cons next more => exact filled (List.append_eq_nil_iff.mp empty).1

/-- The segments of an absolute path that is written from worked out segments, with or without a
slash at the end. -/
theorem reduce_join {segments : List (List Char)} (reduced : Reduced false segments)
    (back : List (List Char)) (odd : steps back = []) (down : up ∉ back) :
    reduce false ([] :: split '/' (join '/' segments) ++ back) = segments := by
  have inside : reduce false ([] :: split '/' (join '/' segments)) = segments := by
    by_cases empty : segments = []
    · subst empty
      rfl
    · rw [split_join empty reduced.slashless, reduce_of_not_mem]
      · rw [← List.singleton_append, steps_append, steps_eq_self reduced.steps]
        rfl
      · rw [List.mem_cons, not_or]
        exact ⟨by decide, reduced.up_not_mem⟩
  rw [reduce_append _ down, inside, odd, List.append_nil]

theorem segments_ofSegments {s : List (List Char)} (reduced : Reduced false s) :
    segments (ofSegments s) = s := by
  have whole := reduce_join reduced [] rfl nofun
  rwa [List.append_nil] at whole

theorem segments_workedOut (p : List Char) : segments (workedOut p) = segments p :=
  segments_ofSegments (reduced_split false p)

section

variable [Host]

theorem absolute_of_isAbsolute {p : List Char} (rooted : isAbsolute p) :
    absolute p = workedOut p := by
  unfold absolute resolveFrom
  rw [if_pos (.inl rooted)]
  dsimp only
  rw [if_pos rooted]

theorem segments_absolute {p : List Char} (rooted : isAbsolute p) :
    segments (absolute p) = segments p := by
  rw [absolute_of_isAbsolute rooted, segments_workedOut]

/-- A path that has been made absolute stays as it is. -/
theorem absolute_resolveFrom (directory p : List Char) :
    absolute (resolveFrom directory p) = resolveFrom directory p := by
  rw [absolute_of_isAbsolute rfl]
  exact congrArg ofSegments (segments_workedOut _)

/-- An absolute path stays the same from wherever it is counted. -/
theorem resolveFrom_of_isAbsolute {p : List Char} (rooted : isAbsolute p) (directory : List Char) :
    resolveFrom directory p = absolute p := by
  unfold absolute resolveFrom
  rw [if_pos (.inl rooted), if_pos (.inl rooted)]

theorem resolve_resolve (directory other p : String) :
    resolve directory (resolve other p) = resolve other p := by
  unfold resolve
  rw [String.toList_ofList, resolveFrom_of_isAbsolute rfl, absolute_resolveFrom]

theorem absoluteString_resolve (directory p : String) :
    absoluteString (resolve directory p) = resolve directory p := by
  unfold absoluteString resolve
  rw [String.toList_ofList, absolute_resolveFrom]

theorem isAbsolute_absolute (p : List Char) : isAbsolute (absolute p) := rfl

end

theorem cons_of_isAbsolute {p : List Char} (rooted : isAbsolute p) : ∃ rest, p = '/' :: rest :=
  List.head?_eq_some_iff.mp (beq_iff_eq.mp rooted)

theorem ne_nil_of_isAbsolute {p : List Char} (rooted : isAbsolute p) : p ≠ [] := by
  rintro rfl
  cases rooted

theorem segments_normalize {p : List Char} (rooted : isAbsolute p) :
    segments (normalize p) = segments p := by
  have reduced := reduced_split false p
  unfold normalize
  rw [if_neg (ne_nil_of_isAbsolute rooted)]
  simp only [rooted, Bool.not_true, if_true]
  split
  · next empty =>
      have none := (join_eq_nil_iff reduced.steps).mp empty
      have whole : segments p = [] := none
      rw [whole]
      decide
  · split
    · have whole := reduce_join reduced [[]] (by decide) (by decide)
      rw [← List.singleton_append, List.append_assoc] at whole
      unfold segments
      rw [split, if_pos rfl, split_append_cons]
      exact whole
    · exact segments_ofSegments reduced

theorem isAbsolute_directory {p : List Char} (rooted : isAbsolute p) :
    isAbsolute (directory p) := by
  obtain ⟨rest, rfl⟩ := cons_of_isAbsolute rooted
  simp only [directory]
  split
  · rfl
  · split <;> rfl

theorem isAbsolute_normalize {p : List Char} (rooted : isAbsolute p) :
    isAbsolute (normalize p) := by
  unfold normalize
  rw [if_neg (ne_nil_of_isAbsolute rooted)]
  simp only [rooted, if_true]
  rfl

/-- Counted from a place, a path without steps up leads to what its steps name below the place. -/
theorem segments_joined {root p : List Char} (rooted : isAbsolute root) (nonempty : p ≠ [])
    (down : up ∉ split '/' p) :
    isAbsolute (joined root p) ∧
      segments (joined root p) = segments root ++ steps (split '/' p) := by
  have filled := ne_nil_of_isAbsolute rooted
  have whole : isAbsolute (root ++ '/' :: p) := by
    obtain ⟨rest, rfl⟩ := cons_of_isAbsolute rooted
    rfl
  unfold joined
  rw [if_neg filled, if_neg nonempty]
  refine ⟨isAbsolute_normalize whole, ?_⟩
  rw [segments_normalize whole, segments, split_append_cons, reduce_append _ down]
  rfl

/-! ## Shortened paths -/

/-- Segments of which no more than two stand for the directory in which they occur, and of which
none steps up unless the first one does. -/
structure Tidy (segments : List (List Char)) : Prop where
  few : segments.countP (¬ IsStep ·) ≤ 2
  climbing : up ∈ segments → segments.head? = some up

theorem Reduced.countP {climbs : Bool} {segments : List (List Char)}
    (reduced : Reduced climbs segments) : segments.countP (¬ IsStep ·) = 0 := by
  refine List.countP_eq_zero.mpr fun s member => ?_
  simpa using reduced.steps s member

theorem Reduced.tidy {climbs : Bool} {segments : List (List Char)}
    (reduced : Reduced climbs segments) : Tidy segments where
  few := by
    rw [reduced.countP]
    exact Nat.zero_le _
  climbing member := (reduced.climbing member).2

namespace Tidy

variable {segments : List (List Char)} {segment last : List Char}

/-- A further step that does not lead up keeps segments tidy. -/
theorem concat (tidy : Tidy segments) (step : IsStep segment) (down : segment ≠ up) :
    Tidy (segments ++ [segment]) where
  few := by
    have none : [segment].countP (¬ IsStep ·) = 0 := by simp [step]
    rw [List.countP_append, none]
    exact tidy.few
  climbing member := by
    rcases List.mem_append.mp member with before | final
    · rw [List.head?_append, tidy.climbing before]
      rfl
    · exact absurd (List.mem_singleton.mp final).symm down

/-- In the place of the last segment, such a step keeps segments tidy. -/
theorem replace (tidy : Tidy (segments ++ [last])) (step : IsStep segment) (down : segment ≠ up) :
    Tidy (segments ++ [segment]) where
  few := by
    have none : [segment].countP (¬ IsStep ·) = 0 := by simp [step]
    have few := tidy.few
    rw [List.countP_append] at few ⊢
    omega
  climbing member := by
    rcases List.mem_append.mp member with before | final
    · have first := tidy.climbing (List.mem_append_left _ before)
      cases segments with
      | nil => cases before
      | cons head rest => exact first
    · exact absurd (List.mem_singleton.mp final).symm down

/-- Tidy segments are hardly longer than their steps. -/
theorem weight_le (tidy : Tidy segments) : weight segments ≤ weight (steps segments) + 4 := by
  have few := tidy.few
  -- every odd segment has one character at most, and is followed by one separator
  suffices weight segments ≤ weight (steps segments) + 2 * segments.countP (¬ IsStep ·) by omega
  clear tidy few
  induction segments with
  | nil => exact Nat.zero_le _
  | cons segment rest ih =>
      by_cases step : IsStep segment
      · simp only [steps, List.filter_cons, step, decide_true, if_true, weight_cons,
          List.countP_cons, not_true, decide_false] at ih ⊢
        simp only [Bool.false_eq_true, if_false]
        omega
      · have short : segment.length ≤ 1 := by
          unfold IsStep at step
          by_cases empty : segment = []
          · simp [empty]
          · have dot : segment = ['.'] := by tauto
            simp [dot]
        simp only [steps, List.filter_cons, step, decide_false, weight_cons, List.countP_cons,
          not_false_eq_true, decide_true, if_true] at ih ⊢
        simp only [Bool.false_eq_true, if_false]
        omega

end Tidy

/-- Segments between at most two odd ones are tidy if they have been worked out and nothing but
they can step up. -/
theorem Reduced.tidy_between {climbs : Bool} {segments : List (List Char)}
    (reduced : Reduced climbs segments) (front back : List (List Char)) (down : up ∉ front ++ back)
    (few : (front ++ back).countP (¬ IsStep ·) ≤ 2) (place : front = [] ∨ climbs = false) :
    Tidy (front ++ segments ++ back) where
  few := by
    have none := reduced.countP
    simp only [List.countP_append] at few ⊢
    omega
  climbing member := by
    simp only [List.mem_append, not_or] at member down
    have inside : up ∈ segments := by tauto
    obtain ⟨may, first⟩ := reduced.climbing inside
    rcases place with rfl | shut
    · rw [List.nil_append, List.head?_append, first]
      rfl
    · exact absurd (shut.symm.trans may) Bool.false_ne_true

/-- A shortened path is tidy. -/
theorem tidy_normalize (p : List Char) : Tidy (split '/' (normalize p)) := by
  unfold normalize
  split
  · exact ⟨by decide, by decide⟩
  · have reduced := reduced_split (!isAbsolute p) p
    generalize reduce (!isAbsolute p) (split '/' p) = segments at reduced
    by_cases empty : segments = []
    · subst empty
      by_cases rooted : isAbsolute p <;> by_cases trailing : p.getLast? = some '/' <;>
        simp only [rooted, trailing, join, if_true, if_false] <;> exact ⟨by decide, by decide⟩
    · have filled : join '/' segments ≠ [] := by
        rwa [ne_eq, join_eq_nil_iff reduced.steps]
      have whole : split '/' (join '/' segments) = segments := split_join empty reduced.slashless
      have longer : split '/' (join '/' segments ++ ['/']) = segments ++ [[]] := by
        rw [split_append_cons, whole]
        rfl
      dsimp only
      rw [if_neg filled]
      by_cases rooted : isAbsolute p
      · have shut : (!isAbsolute p) = false := by rw [rooted]; rfl
        rw [if_pos rooted, split, if_pos rfl]
        split
        · rw [longer]
          exact reduced.tidy_between [[]] [[]] (by decide) (by decide) (.inr shut)
        · rw [whole]
          have tidy := reduced.tidy_between [[]] [] (by decide) (by decide) (.inr shut)
          rwa [List.append_nil] at tidy
      · rw [if_neg rooted]
        split
        · rw [longer]
          exact reduced.tidy_between [] [[]] (by decide) (by decide) (.inl rfl)
        · rw [whole]
          exact reduced.tidy

theorem normalize_ne_nil (p : List Char) : normalize p ≠ [] := by
  unfold normalize
  split
  · exact List.cons_ne_nil _ _
  · dsimp only
    split
    · exact List.cons_ne_nil _ _
    · split
      · split <;> exact List.cons_ne_nil _ _
      · next filled =>
          split
          · exact List.append_ne_nil_of_right_ne_nil _ (List.cons_ne_nil _ _)
          · exact filled

/-- A relative path without steps up has the same steps when it is shortened. -/
theorem steps_normalize {p : List Char} (relative : ¬ isAbsolute p) (down : up ∉ split '/' p) :
    steps (split '/' (normalize p)) = steps (split '/' p) ∧ up ∉ split '/' (normalize p) := by
  unfold normalize
  split
  · next empty =>
      subst empty
      decide
  · have reduced := reduced_split (!isAbsolute p) p
    rw [reduce_of_not_mem down] at reduced ⊢
    have absent : up ∉ steps (split '/' p) := fun member => down (List.mem_of_mem_filter member)
    generalize steps (split '/' p) = segments at reduced absent
    rw [if_neg relative]
    by_cases empty : segments = []
    · subst empty
      by_cases trailing : p.getLast? = some '/' <;>
        simp only [relative, trailing, join, if_true, if_false] <;> decide
    · have filled : join '/' segments ≠ [] := by
        rwa [ne_eq, join_eq_nil_iff reduced.steps]
      have whole : split '/' (join '/' segments) = segments := split_join empty reduced.slashless
      have same : steps segments = segments := steps_eq_self reduced.steps
      rw [if_neg filled]
      split
      · rw [split_append_cons, whole, steps_append, same]
        exact ⟨List.append_nil _, by simpa [split, up] using absent⟩
      · rw [whole]
        exact ⟨same, absent⟩

end Path

end UnitResolution
