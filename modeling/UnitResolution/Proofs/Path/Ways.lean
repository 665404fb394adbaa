import UnitResolution.Proofs.Path
import Mathlib.Data.List.Infix
import Mathlib.Data.List.TakeWhile

/-!
# Ways below a directory

Followed segment by segment, a way from a directory leads to a place below it or out of it
(`UnitResolution.Path.follow`). Where it stays below, `..` takes back only segments of the way,
whatever text it is put behind (`UnitResolution.Path.foldl_push_of_follow`): counted from an
absolute path (`UnitResolution.Path.resolveFrom_of_follow`) it leads to the same names as in a
relative one (`UnitResolution.Path.normalize_joined_of_follow`).

A worked out path is made of names (`UnitResolution.Path.Plain`), and its directory of all of them
but the last (`UnitResolution.Path.directory_ofSegments`).
-/

namespace UnitResolution

open Text

namespace Path

/-! ## Ways below a directory -/

/-- A segment that names something in the directory in which it occurs. -/
def IsName (segment : List Char) : Prop := IsStep segment ∧ segment ≠ up

instance (segment : List Char) : Decidable (IsName segment) :=
  inferInstanceAs (Decidable (IsStep segment ∧ segment ≠ up))

/-- The place below a directory to which segments lead from another one. Nothing if they lead above
the directory on the way. -/
def follow (place : List (List Char)) : List (List Char) → Option (List (List Char))
  | [] => some place
  | segment :: rest =>
      if IsName segment then follow (place ++ [segment]) rest
      else if segment = up then if place = [] then none else follow place.dropLast rest
      else follow place rest

/-- Followed from a place below a directory, a path never leads above the directory and ends below
it. -/
def StaysBelow (place : List (List Char)) (p : List Char) : Prop :=
  ∃ target, follow place (split '/' p) = some target ∧ target ≠ []

instance (place : List (List Char)) (p : List Char) : Decidable (StaysBelow place p) :=
  match found : follow place (split '/' p) with
  | none => isFalse fun ⟨_, same, _⟩ => nomatch found.symm.trans same
  | some target => decidable_of_iff (target ≠ []) <| by
      unfold StaysBelow
      rw [found]
      simp

variable {place target : List (List Char)} {segments names : List (List Char)}

/-- Wherever a way below a directory is put, `..` takes back only its own segments. -/
theorem foldl_push_of_follow {climbs : Bool} (named : ∀ s ∈ place, IsName s)
    (leads : follow place segments = some target) (stack : List (List Char)) :
    segments.foldl (push climbs) (place.reverse ++ stack) = target.reverse ++ stack := by
  induction segments generalizing place with
  | nil =>
      cases leads
      rfl
  | cons segment rest ih =>
      rw [List.foldl_cons]
      unfold follow at leads
      split at leads
      · next name =>
          rw [push_of_isStep name.1 name.2, ← List.cons_append, ← List.reverse_concat']
          exact ih (List.forall_mem_append.mpr ⟨named, List.forall_mem_singleton.mpr name⟩) leads
      · next around =>
          split at leads
          · next upwards =>
              subst upwards
              rcases List.eq_nil_or_concat' place with rfl | ⟨before, last, rfl⟩
              · cases leads
              · -- the last segment is a name, which the step up takes back
                have down : last ≠ up := (named last (by simp)).2
                have taken : push climbs ((before ++ [last]).reverse ++ stack) up =
                    before.reverse ++ stack := by
                  rw [List.reverse_concat', List.cons_append]
                  exact push_up_cons down
                rw [taken]
                rw [if_neg (by simp), List.dropLast_concat] at leads
                exact ih (fun s member => named s (by simp [member])) leads
          · next down =>
              have still : ¬ IsStep segment := fun step => around ⟨step, down⟩
              rw [push_of_not_isStep still]
              exact ih named leads

/-- What is reached is made of names. -/
theorem forall_of_follow {P : List Char → Prop} (named : ∀ s ∈ place, P s)
    (leads : follow place segments = some target) (new : ∀ s ∈ segments, IsName s → P s) :
    ∀ s ∈ target, P s := by
  induction segments generalizing place with
  | nil =>
      cases leads
      exact named
  | cons segment rest ih =>
      obtain ⟨first, new⟩ := List.forall_mem_cons.mp new
      unfold follow at leads
      split at leads
      · next name =>
          exact ih (List.forall_mem_append.mpr ⟨named, List.forall_mem_singleton.mpr (first name)⟩)
            leads new
      · split at leads
        · split at leads
          · cases leads
          · exact ih (fun s member => named s (List.mem_of_mem_dropLast member)) leads new
        · exact ih named leads new

/-! ## Paths that are made of names -/

/-- Segments that are names and have no slashes. -/
def Plain (names : List (List Char)) : Prop := ∀ s ∈ names, IsName s ∧ '/' ∉ s

theorem plain_of_split {p : List Char} (named : ∀ s ∈ split '/' p, IsName s) :
    Plain (split '/' p) :=
  fun s member => ⟨named s member, not_mem_of_mem_split member⟩

theorem plain_cons {segment : List Char} :
    Plain (segment :: names) ↔ (IsName segment ∧ '/' ∉ segment) ∧ Plain names :=
  List.forall_mem_cons

theorem Plain.append {more : List (List Char)} (plain : Plain names) (also : Plain more) :
    Plain (names ++ more) :=
  List.forall_mem_append.mpr ⟨plain, also⟩

theorem Plain.dropLast (plain : Plain names) : Plain names.dropLast :=
  fun s member => plain s (List.mem_of_mem_dropLast member)

theorem Plain.up_not_mem (plain : Plain names) : up ∉ names :=
  fun member => (plain up member).1.2 rfl

theorem Plain.steps_eq (plain : Plain names) : steps names = names :=
  steps_eq_self fun s member => (plain s member).1.1

theorem Plain.reduced (plain : Plain names) : Reduced false names where
  steps s member := (plain s member).1.1
  slashless s member := (plain s member).2
  climbing member := absurd member plain.up_not_mem

theorem plain_of_follow {p : List Char} (plain : Plain place)
    (leads : follow place (split '/' p) = some target) : Plain target :=
  forall_of_follow plain leads fun _ member name => ⟨name, not_mem_of_mem_split member⟩

theorem plain_segments (p : List Char) : Plain (Path.segments p) := by
  have reduced := reduced_split false p
  intro s member
  refine ⟨⟨reduced.steps s member, ?_⟩, reduced.slashless s member⟩
  rintro rfl
  exact reduced.up_not_mem member

/-- The slash at the end of a path. -/
def trailing (p : List Char) : List Char := if p.getLast? = some '/' then ['/'] else []

theorem trailing_nil : trailing [] = [] := rfl

theorem split_join_trailing (plain : Plain names) (nonempty : names ≠ []) (p : List Char) :
    ∃ back, split '/' (join '/' names ++ trailing p) = names ++ back ∧ steps back = [] ∧
      up ∉ back := by
  have whole := split_join nonempty fun s member => (plain s member).2
  unfold trailing
  split
  · refine ⟨[[]], ?_, by decide, by decide⟩
    rw [split_append_cons, whole]
    rfl
  · refine ⟨[], ?_, rfl, List.not_mem_nil⟩
    rw [List.append_nil, List.append_nil, whole]

theorem trailing_join_trailing (plain : Plain names) (nonempty : names ≠ []) (p : List Char) :
    trailing (join '/' names ++ trailing p) = trailing p := by
  by_cases slash : p.getLast? = some '/'
  · simp [trailing, slash]
  · have none : trailing p = [] := if_neg slash
    rw [none, List.append_nil]
    refine if_neg fun last => ?_
    obtain ⟨front, whole⟩ := List.getLast?_eq_some_iff.mp last
    have pieces := split_join nonempty fun s member => (plain s member).2
    rw [whole, split_append_cons] at pieces
    have empty : [] ∈ names := by
      rw [← pieces]
      simp [split]
    exact (plain [] empty).1.1.1 rfl

theorem isAbsolute_of_head {p segment : List Char} (first : (split '/' p).head? = some segment)
    (filled : segment ≠ []) : isAbsolute p = false := by
  rw [head?_split, Option.some.injEq] at first
  cases p with
  | nil => rfl
  | cons c rest =>
      have other : c ≠ '/' := by
        rintro rfl
        exact filled first.symm
      simp [isAbsolute, other]

/-- The shortest form of a path of which names are left. -/
theorem normalize_of_reduce {p : List Char} (plain : Plain names) (nonempty : names ≠ [])
    (reduces : reduce (!isAbsolute p) (split '/' p) = names) :
    normalize p = if isAbsolute p then '/' :: (join '/' names ++ trailing p)
      else join '/' names ++ trailing p := by
  have filled : p ≠ [] := by
    rintro rfl
    exact nonempty reduces.symm
  have body : join '/' names ≠ [] := fun empty =>
    nonempty ((join_eq_nil_iff fun s member => (plain s member).1.1).mp empty)
  unfold normalize
  rw [if_neg filled, reduces]
  simp only [if_neg body, trailing]
  split <;> split <;> simp

theorem isAbsolute_join_trailing (plain : Plain names) (nonempty : names ≠ []) (p : List Char) :
    isAbsolute (join '/' names ++ trailing p) = false := by
  obtain ⟨back, pieces, -, -⟩ := split_join_trailing plain nonempty p
  obtain ⟨first, rest, rfl⟩ := List.exists_cons_of_ne_nil nonempty
  refine isAbsolute_of_head (?_ : _ = some first) ?_
  · rw [pieces, List.cons_append, List.head?_cons]
  · exact (plain first List.mem_cons_self).1.1.1

theorem normalize_join_trailing (plain : Plain names) (nonempty : names ≠ []) (p : List Char) :
    normalize (join '/' names ++ trailing p) = join '/' names ++ trailing p := by
  obtain ⟨back, pieces, odd, down⟩ := split_join_trailing plain nonempty p
  have relative := isAbsolute_join_trailing plain nonempty p
  have reduces : reduce (!isAbsolute (join '/' names ++ trailing p))
      (split '/' (join '/' names ++ trailing p)) = names := by
    rw [pieces, reduce_append _ down, odd, List.append_nil, reduce_of_not_mem plain.up_not_mem,
      plain.steps_eq]
  rw [normalize_of_reduce plain nonempty reduces, relative, trailing_join_trailing plain nonempty]
  rfl

/-! ## Directories -/

theorem directory_of_append {c : Char} {front last : List Char} (filled : last ≠ [])
    (slashless : '/' ∉ last) (below : ¬ (c = '/' ∧ front = [])) :
    directory (c :: (front ++ '/' :: last)) = c :: front := by
  have plain : ∀ d ∈ last.reverse, d ≠ '/' := by
    rintro d member rfl
    exact slashless (List.mem_reverse.mp member)
  have kept : (last.reverse ++ '/' :: front.reverse).dropWhile (· == '/') =
      last.reverse ++ '/' :: front.reverse := by
    obtain ⟨first, rest, whole⟩ :=
      List.exists_cons_of_ne_nil (List.reverse_ne_nil_iff.mpr filled)
    have other : (first == '/') = false := by
      rw [beq_eq_false_iff_ne]
      exact plain first (by simp [whole])
    rw [whole, List.cons_append, List.dropWhile_cons, other]
    rfl
  have rest : (last.reverse ++ '/' :: front.reverse).dropWhile (· != '/') =
      '/' :: front.reverse := by
    rw [List.dropWhile_append_of_pos fun d member => bne_iff_ne.mpr (plain d member)]
    rfl
  unfold directory
  simp only [List.drop_one, List.tail_cons, List.reverse_append, List.reverse_cons,
    List.append_assoc, List.singleton_append, kept, rest]
  have deep : (isAbsolute (c :: (front ++ '/' :: last)) && front.reverse.isEmpty) = false := by
    by_cases slash : c = '/'
    · have more : front ≠ [] := fun empty => below ⟨slash, empty⟩
      simp [more]
    · simp [isAbsolute, slash]
  rw [deep]
  simp

theorem directory_of_slashless {c : Char} {last : List Char} (slashless : '/' ∉ last) :
    directory (c :: last) = if c = '/' then ['/'] else ['.'] := by
  have plain : ∀ d ∈ last.reverse, d ≠ '/' := by
    rintro d member rfl
    exact slashless (List.mem_reverse.mp member)
  have kept : last.reverse.dropWhile (· == '/') = last.reverse := by
    cases whole : last.reverse with
    | nil => rfl
    | cons first rest =>
        have other : (first == '/') = false := by
          rw [beq_eq_false_iff_ne]
          exact plain first (by simp [whole])
        rw [List.dropWhile_cons, other]
        rfl
  have rest : last.reverse.dropWhile (· != '/') = [] :=
    List.dropWhile_eq_nil_iff.mpr fun d member => bne_iff_ne.mpr (plain d member)
  unfold directory
  simp only [List.drop_one, List.tail_cons, kept, rest]
  by_cases slash : c = '/' <;> simp [isAbsolute, slash]

theorem join_concat (nonempty : names ≠ []) (last : List Char) :
    join '/' (names ++ [last]) = join '/' names ++ '/' :: last := by
  induction names with
  | nil => exact absurd rfl nonempty
  | cons first rest ih =>
      cases rest with
      | nil => rfl
      | cons second more =>
          have further := ih (List.cons_ne_nil second more)
          rw [List.cons_append] at further
          simp only [List.cons_append, join, further, List.append_assoc]

theorem join_ne_nil (plain : Plain names) (nonempty : names ≠ []) : join '/' names ≠ [] := by
  intro empty
  exact nonempty ((join_eq_nil_iff fun s member => (plain s member).1.1).mp empty)

theorem isAbsolute_join (plain : Plain names) (nonempty : names ≠ []) :
    isAbsolute (join '/' names) = false := by
  have relative := isAbsolute_join_trailing plain nonempty []
  rwa [trailing_nil, List.append_nil] at relative

theorem reduce_split_join (climbs : Bool) (plain : Plain names) (nonempty : names ≠ []) :
    reduce climbs (split '/' (join '/' names)) = names := by
  rw [split_join nonempty fun s member => (plain s member).2, reduce_of_not_mem plain.up_not_mem,
    plain.steps_eq]

theorem directory_join {last : List Char} (plain : Plain (names ++ [last])) :
    directory (join '/' (names ++ [last])) = if names = [] then ['.'] else join '/' names := by
  obtain ⟨name, slashless⟩ := plain last (by simp)
  by_cases only : names = []
  · subst only
    obtain ⟨c, rest, rfl⟩ := List.exists_cons_of_ne_nil name.1.1
    rw [List.mem_cons, not_or] at slashless
    rw [if_pos rfl]
    exact (directory_of_slashless slashless.2).trans (if_neg (Ne.symm slashless.1))
  · have front : Plain names := fun s member => plain s (by simp [member])
    obtain ⟨c, rest, whole⟩ := List.exists_cons_of_ne_nil (join_ne_nil front only)
    have other : c ≠ '/' := by
      rintro rfl
      have relative := isAbsolute_join front only
      rw [whole] at relative
      cases relative
    rw [if_neg only, join_concat only, whole, List.cons_append]
    exact directory_of_append name.1.1 slashless fun root => other root.1

theorem directory_ofSegments {last : List Char} (plain : Plain (names ++ [last])) :
    directory (ofSegments (names ++ [last])) = ofSegments names := by
  obtain ⟨name, slashless⟩ := plain last (by simp)
  by_cases only : names = []
  · subst only
    exact (directory_of_slashless slashless).trans (if_pos rfl)
  · have front : Plain names := fun s member => plain s (by simp [member])
    unfold ofSegments
    rw [join_concat only]
    exact directory_of_append name.1.1 slashless fun root => join_ne_nil front only root.2

/-! ## The same way in a path and in an identifier -/

variable {p : List Char}

theorem trailing_append (front : List Char) (filled : p ≠ []) :
    trailing (front ++ '/' :: p) = trailing p := by
  unfold trailing
  rw [List.getLast?_append_of_ne_nil _ (List.cons_ne_nil _ _),
    List.getLast?_cons_of_ne_nil filled]

theorem resolveFrom_eq [Host] {source : List Char} (rooted : isAbsolute source)
    (relative : isAbsolute p = false) :
    resolveFrom source p = ofSegments (reduce false (split '/' source ++ split '/' p)) := by
  have filled := ne_nil_of_isAbsolute rooted
  have whole : isAbsolute (source ++ '/' :: p) := by
    obtain ⟨rest, rfl⟩ := cons_of_isAbsolute rooted
    rfl
  have odd : ¬ (isAbsolute p = true ∨ source = []) := by simp [relative, filled]
  unfold resolveFrom workedOut
  dsimp only
  rw [if_neg odd, if_pos whole, Path.segments, split_append_cons]

/-- Names lead from a directory to a place below it. -/
theorem resolveFrom_join_trailing [Host] {source : List Char} (rooted : isAbsolute source)
    (plain : Plain names) (nonempty : names ≠ []) (p : List Char) :
    resolveFrom source (join '/' names ++ trailing p) =
      ofSegments (Path.segments source ++ names) := by
  obtain ⟨back, pieces, odd, down⟩ := split_join_trailing plain nonempty p
  rw [resolveFrom_eq rooted (isAbsolute_join_trailing plain nonempty p), pieces,
    ← List.append_assoc, reduce_append _ down, odd, List.append_nil,
    reduce_append _ plain.up_not_mem, plain.steps_eq, Path.segments]

/-- Put behind an absolute path, names lead to the same place, and a slash at the end is kept. -/
theorem joined_of_plain {root : List Char} (rooted : isAbsolute root)
    (plain : Plain names) (nonempty : names ≠ []) (p : List Char) :
    joined root (join '/' names ++ trailing p) =
      ofSegments (Path.segments root ++ names) ++ trailing p := by
  obtain ⟨back, pieces, odd, down⟩ := split_join_trailing plain nonempty p
  have filled : join '/' names ++ trailing p ≠ [] :=
    List.append_ne_nil_of_left_ne_nil (join_ne_nil plain nonempty) _
  have below : Path.segments root ++ names ≠ [] := List.append_ne_nil_of_right_ne_nil _ nonempty
  have all : Plain (Path.segments root ++ names) := (plain_segments root).append plain
  have whole : isAbsolute (root ++ '/' :: (join '/' names ++ trailing p)) = true := by
    obtain ⟨rest, rfl⟩ := cons_of_isAbsolute rooted
    rfl
  have reduces : reduce (!isAbsolute (root ++ '/' :: (join '/' names ++ trailing p)))
      (split '/' (root ++ '/' :: (join '/' names ++ trailing p))) =
        Path.segments root ++ names := by
    rw [whole, Bool.not_true, split_append_cons, pieces, ← List.append_assoc,
      reduce_append _ down, odd, List.append_nil, reduce_append _ plain.up_not_mem,
      plain.steps_eq]
    rfl
  unfold joined
  rw [if_neg (ne_nil_of_isAbsolute rooted), if_neg filled,
    normalize_of_reduce all below reduces, whole, if_pos rfl,
    trailing_append root filled, trailing_join_trailing plain nonempty]
  rfl

/-- The path that a name names from a directory ends with this name. -/
theorem resolveFrom_name [Host] {name : List Char} (isName : IsName name) (slashless : '/' ∉ name)
    (directory : List Char) :
    ∃ front, resolveFrom directory name = ofSegments (front ++ [name]) := by
  have whole := split_of_not_mem slashless
  have relative : isAbsolute name = false :=
    isAbsolute_of_head (by rw [whole, List.head?_singleton]) isName.1.1
  have last (before : List Char) :
      segments (before ++ '/' :: name) = segments before ++ [name] := by
    have down : up ∉ split '/' name := by
      rw [whole, List.mem_singleton]
      exact isName.2.symm
    rw [segments, split_append_cons, reduce_append _ down, whole,
      steps_eq_self (List.forall_mem_singleton.mpr isName.1)]
    rfl
  unfold resolveFrom workedOut
  dsimp only
  split
  · -- counted from nowhere, it is counted from the working directory
    rw [relative, if_neg Bool.false_ne_true, last]
    exact ⟨_, rfl⟩
  · split
    · rw [last]
      exact ⟨_, rfl⟩
    · rw [← List.cons_append, ← List.append_assoc, last]
      exact ⟨_, rfl⟩

/-- A way that stays below a directory, counted from an absolute place below it. -/
theorem resolveFrom_of_follow [Host] (source : List Char) {root : List (List Char)}
    (rooted : isAbsolute source) (relative : isAbsolute p = false)
    (here : Path.segments source = root ++ place) (plain : Plain place)
    (leads : follow place (split '/' p) = some target) :
    resolveFrom source p = ofSegments (root ++ target) := by
  have before : (split '/' source).foldl (push false) [] = place.reverse ++ root.reverse := by
    rw [← List.reverse_append, ← here]
    exact (List.reverse_reverse _).symm
  rw [resolveFrom_eq rooted relative, reduce, List.foldl_append, before,
    foldl_push_of_follow (fun s member => (plain s member).1) leads]
  simp

/-- The same way, counted from a path that is written from names. -/
theorem normalize_joined_of_follow {source : List Char} {root : List (List Char)}
    (filled : source ≠ []) (relative : isAbsolute source = false) (nonempty : p ≠ [])
    (here : reduce true (split '/' source) = root ++ place) (plain : Plain (root ++ place))
    (leads : follow place (split '/' p) = some target) (below : root ++ target ≠ []) :
    normalize (joined source p) = join '/' (root ++ target) ++ trailing p := by
  have front : Plain root := fun s member => plain s (List.mem_append_left _ member)
  have start : Plain place := fun s member => plain s (List.mem_append_right _ member)
  have names : Plain (root ++ target) := front.append (plain_of_follow start leads)
  have still : isAbsolute (source ++ '/' :: p) = false := by
    obtain ⟨c, rest, rfl⟩ := List.exists_cons_of_ne_nil filled
    exact relative
  have before : (split '/' source).foldl (push true) [] = place.reverse ++ root.reverse := by
    rw [← List.reverse_append, ← here]
    exact (List.reverse_reverse _).symm
  have reduces : reduce (!isAbsolute (source ++ '/' :: p)) (split '/' (source ++ '/' :: p)) =
      root ++ target := by
    rw [still]
    unfold reduce
    rw [split_append_cons, List.foldl_append, Bool.not_false, before,
      foldl_push_of_follow (fun s member => (start s member).1) leads]
    simp
  unfold joined
  rw [if_neg filled, if_neg nonempty, normalize_of_reduce names below reduces, still,
    trailing_append source nonempty]
  exact normalize_join_trailing names below p

end Path

end UnitResolution
