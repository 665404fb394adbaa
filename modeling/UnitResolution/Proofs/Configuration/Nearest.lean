import UnitResolution.Configuration.ProjectFile
import UnitResolution.Proofs.Path.Ways
import Mathlib.Logic.Function.Iterate

/-!
# The nearest project file

A directory lies at an absolute path or above it if its names are the first ones of the path
(`UnitResolution.Path.IsAtOrAbove`). Taking away the last name of a path again and again passes
through exactly these directories, and stays at the root in the end
(`UnitResolution.Path.isAtOrAbove_iff_iterate`).

The way up from a directory stops at the first directory with a project file, or at the root
(`UnitResolution.ProjectFile.Climb`). Every way up ends, with what the search for a project file
finds (`UnitResolution.ProjectFile.climb_iff`), and that is the project file of the deepest
directory that has one (`UnitResolution.ProjectFile.find?_nearest`).
-/

namespace UnitResolution

open Text

/-! ## Directories above a path -/

namespace Path

/-- The absolute path with the given names. -/
def ofNames (names : List (List Char)) : String := String.ofList (ofSegments names)

/-- A directory lies at an absolute path or above it: its names are the first ones of the path. -/
def IsAtOrAbove (directory path : String) : Prop :=
  ∃ names, names <+: segments path.toList ∧ directory = ofNames names

variable {names more : List (List Char)} {directory path : String}

theorem Plain.ofFront (plain : Plain names) (front : more <+: names) : Plain more :=
  fun s member => plain s (front.subset member)

theorem segments_ofNames (plain : Plain names) : segments (ofNames names).toList = names := by
  unfold ofNames
  rw [String.toList_ofList, segments_ofSegments plain.reduced]

theorem ofNames_inj (plain : Plain names) (plain' : Plain more) :
    ofNames names = ofNames more ↔ names = more := by
  constructor
  · intro same
    rw [← segments_ofNames plain, same, segments_ofNames plain']
  · exact congrArg ofNames

theorem isAtOrAbove_ofNames_iff (plain : Plain names) :
    IsAtOrAbove directory (ofNames names) ↔
      ∃ front, front <+: names ∧ directory = ofNames front := by
  unfold IsAtOrAbove
  rw [segments_ofNames plain]

theorem ofNames_isAtOrAbove_iff (plain : Plain names) (plain' : Plain more) :
    IsAtOrAbove (ofNames more) (ofNames names) ↔ more <+: names := by
  rw [isAtOrAbove_ofNames_iff plain]
  constructor
  · rintro ⟨front, before, same⟩
    rwa [(ofNames_inj plain' (plain.ofFront before)).mp same]
  · exact fun before => ⟨more, before, rfl⟩

/-- Taking away the last name of a path. -/
theorem directoryString_ofNames_concat {last : List Char} (plain : Plain (names ++ [last])) :
    directoryString (ofNames (names ++ [last])) = ofNames names := by
  unfold directoryString ofNames
  rw [String.toList_ofList, directory_ofSegments plain]

/-- The root has no directory above it. -/
theorem directoryString_ofNames_nil : directoryString (ofNames []) = ofNames [] := rfl

theorem directoryString_ne_self {last : List Char} (plain : Plain (names ++ [last])) :
    directoryString (ofNames (names ++ [last])) ≠ ofNames (names ++ [last]) := by
  have front : Plain names := plain.ofFront (List.prefix_append names [last])
  rw [directoryString_ofNames_concat plain, ne_eq, ofNames_inj front plain]
  exact fun same => List.cons_ne_nil last [] (List.self_eq_append_right.mp same)

/-- The directory of a directory at a path or above it lies there, too. -/
theorem IsAtOrAbove.directoryString (above : IsAtOrAbove directory path) :
    IsAtOrAbove (directoryString directory) path := by
  obtain ⟨names, front, rfl⟩ := above
  have plain : Plain names := (plain_segments path.toList).ofFront front
  rcases List.eq_nil_or_concat' names with rfl | ⟨before, last, rfl⟩
  · exact ⟨[], front, directoryString_ofNames_nil⟩
  · refine ⟨before, ?_, directoryString_ofNames_concat plain⟩
    exact (List.prefix_append before [last]).trans front

/-- Taking away names one by one. -/
theorem directoryString_iterate (names : List (List Char)) {more : List (List Char)}
    (plain : Plain (names ++ more)) :
    Path.directoryString^[more.length] (ofNames (names ++ more)) = ofNames names := by
  induction more using List.reverseRecOn with
  | nil => rw [List.append_nil]; rfl
  | append_singleton before last ih =>
      rw [← List.append_assoc] at plain ⊢
      rw [List.length_append, List.length_singleton, Function.iterate_succ_apply,
        directoryString_ofNames_concat plain]
      exact ih (plain.ofFront (List.prefix_append _ _))

/-- The directories at a path or above it are those that taking away its names one by one passes
through. -/
theorem isAtOrAbove_iff_iterate (plain : Plain names) :
    IsAtOrAbove directory (ofNames names) ↔
      ∃ n, Path.directoryString^[n] (ofNames names) = directory := by
  constructor
  · intro above
    obtain ⟨front, ⟨more, rfl⟩, rfl⟩ := (isAtOrAbove_ofNames_iff plain).mp above
    exact ⟨more.length, directoryString_iterate front plain⟩
  · rintro ⟨n, rfl⟩
    induction n with
    | zero => exact (isAtOrAbove_ofNames_iff plain).mpr ⟨names, List.prefix_rfl, rfl⟩
    | succ n ih =>
        rw [Function.iterate_succ_apply']
        exact ih.directoryString

end Path

open UnitResolution.Path in
theorem Disk.ofNames_placeOf [Host] (path : String) :
    ofNames (placeOf path) = absoluteString path := by
  have again := absolute_of_isAbsolute (isAbsolute_absolute path.toList)
  have still : absolute (absolute path.toList) = absolute path.toList := absolute_resolveFrom _ _
  unfold ofNames placeOf absoluteString
  exact congrArg String.ofList (again.symm.trans still)

/-! ## The way up -/

namespace ProjectFile

open UnitResolution.Path

/-- The path of the project file of a directory. -/
def pathAt (directory : String) : String := joinedString directory fileName

section

variable [Host]

/-- The way up from a directory, from each directory to the one above it, with what is found on
it. -/
inductive Climb (disk : Disk) : String → Option String → Prop
  /-- The directory has a project file. -/
  | found {directory : String} (here : disk.exists? (pathAt directory) = true) :
      Climb disk directory (some (pathAt directory))
  /-- The directory has none, and there is no directory above it. -/
  | root {directory : String} (absent : disk.exists? (pathAt directory) = false)
      (top : directoryString directory = directory) : Climb disk directory none
  /-- The directory has none, and the way goes on in the directory above it. -/
  | up {directory : String} {answer : Option String}
      (absent : disk.exists? (pathAt directory) = false)
      (below : directoryString directory ≠ directory)
      (rest : Climb disk (directoryString directory) answer) : Climb disk directory answer

variable {disk : Disk} {names : Place} {directory path : String}

/-- There is one way up from a directory. -/
theorem Climb.unique {answer other : Option String} (first : Climb disk directory answer)
    (second : Climb disk directory other) : answer = other := by
  induction first with
  | found here =>
      cases second with
      | found _ => rfl
      | root absent _ => exact absurd here (Bool.eq_false_iff.mp absent)
      | up absent _ _ => exact absurd here (Bool.eq_false_iff.mp absent)
  | root absent top =>
      cases second with
      | found here => exact absurd here (Bool.eq_false_iff.mp absent)
      | root _ _ => rfl
      | up _ below _ => exact absurd top below
  | up absent below _ ih =>
      cases second with
      | found here => exact absurd here (Bool.eq_false_iff.mp absent)
      | root _ top => exact absurd top below
      | up _ _ rest => exact ih rest

omit [Host] in
theorem pathAt_ofNames (plain : Plain names) : pathAt (ofNames names) = pathIn names := by
  have name : Plain [fileName.toList] := List.forall_mem_singleton.mpr (by decide)
  have rooted : isAbsolute (ofSegments names) := rfl
  have put := joined_of_plain rooted name (List.cons_ne_nil _ _) []
  rw [trailing_nil, List.append_nil, List.append_nil, segments_ofSegments plain.reduced] at put
  unfold pathAt joinedString pathIn ofNames
  rw [String.toList_ofList]
  exact congrArg String.ofList put

/-- The search through the names of a directory is the way up from it. -/
theorem climb_findAbove (disk : Disk) {reversed : Place} (plain : Plain reversed.reverse) :
    Climb disk (ofNames reversed.reverse) (findAbove disk reversed) := by
  induction reversed with
  | nil =>
      have here := pathAt_ofNames plain
      unfold findAbove
      split
      · next present =>
          rw [List.reverse_nil] at here ⊢
          rw [← here] at present ⊢
          exact .found present
      · next absent =>
          rw [List.reverse_nil] at here ⊢
          rw [← here, Bool.not_eq_true] at absent
          exact .root absent directoryString_ofNames_nil
  | cons name above ih =>
      have here := pathAt_ofNames plain
      unfold findAbove
      dsimp only
      rw [← here]
      split
      · next present => exact .found present
      · next absent =>
          rw [Bool.not_eq_true] at absent
          rw [List.reverse_cons] at plain absent ⊢
          refine .up absent (directoryString_ne_self plain) ?_
          rw [directoryString_ofNames_concat plain]
          exact ih (plain.ofFront (List.prefix_append _ _))

/-- Every way up ends, and the search for a project file finds what is found on it. -/
theorem climb_iff {start : String} {answer : Option String} :
    Climb disk (absoluteString start) answer ↔ find? disk start = answer := by
  have plain : Plain (Disk.placeOf start).reverse.reverse := by
    rw [List.reverse_reverse]
    exact plain_segments _
  have way := climb_findAbove disk plain
  rw [List.reverse_reverse, Disk.ofNames_placeOf] at way
  constructor
  · exact way.unique
  · rintro rfl
    exact way

/-! ## What is found -/

theorem findAbove_eq_none_iff {reversed : Place} :
    findAbove disk reversed = none ↔
      ∀ front, front <+: reversed.reverse → disk.exists? (pathIn front) = false := by
  induction reversed with
  | nil =>
      unfold findAbove
      simp [List.prefix_nil]
  | cons name above ih =>
      unfold findAbove
      dsimp only
      rw [List.reverse_cons]
      split
      · next present =>
          refine iff_of_false nofun fun absent => ?_
          exact absurd present (Bool.eq_false_iff.mp (absent _ List.prefix_rfl))
      · next absent =>
          rw [ih]
          constructor
          · intro none front before
            rcases List.prefix_concat_iff.mp before with rfl | before
            · exact Bool.eq_false_iff.mpr absent
            · exact none front before
          · intro none front before
            exact none front (before.trans (List.prefix_append _ _))

/-- What is found lies in a directory below which no other one has a project file. -/
theorem deepest_of_findAbove {reversed : Place} (found : findAbove disk reversed = some path) :
    ∃ front, front <+: reversed.reverse ∧ disk.exists? (pathIn front) = true ∧
      path = pathIn front ∧
      ∀ other, other <+: reversed.reverse → disk.exists? (pathIn other) = true →
        other <+: front := by
  induction reversed with
  | nil =>
      unfold findAbove at found
      split at found
      · next present =>
          cases found
          exact ⟨[], List.prefix_rfl, present, rfl, fun other before _ => before⟩
      · cases found
  | cons name above ih =>
      unfold findAbove at found
      dsimp only at found
      rw [List.reverse_cons] at found ⊢
      split at found
      · next present =>
          cases found
          exact ⟨_, List.prefix_rfl, present, rfl, fun other before _ => before⟩
      · next absent =>
          obtain ⟨front, before, present, same, deepest⟩ := ih found
          refine ⟨front, before.trans (List.prefix_append _ _), present, same, ?_⟩
          intro other further has
          rcases List.prefix_concat_iff.mp further with rfl | further
          · exact absurd has absent
          · exact deepest other further has

/-- The directory is the deepest one at a path or above it that has a project file. -/
structure IsNearest (disk : Disk) (path directory : String) : Prop where
  above : IsAtOrAbove directory path
  present : disk.exists? (pathAt directory) = true
  deepest : ∀ other, IsAtOrAbove other path → disk.exists? (pathAt other) = true →
    IsAtOrAbove other directory

theorem isNearest_ofNames_iff (plain : Plain names) {front : Place} (before : front <+: names) :
    IsNearest disk (ofNames names) (ofNames front) ↔ disk.exists? (pathIn front) = true ∧
      ∀ other, other <+: names → disk.exists? (pathIn other) = true → other <+: front := by
  have plain' : Plain front := plain.ofFront before
  constructor
  · rintro ⟨_, present, deepest⟩
    rw [pathAt_ofNames plain'] at present
    refine ⟨present, fun other lies has => ?_⟩
    have further : Plain other := plain.ofFront lies
    rw [← ofNames_isAtOrAbove_iff plain' further]
    apply deepest
    · exact (ofNames_isAtOrAbove_iff plain further).mpr lies
    · rwa [pathAt_ofNames further]
  · rintro ⟨present, deepest⟩
    refine ⟨(ofNames_isAtOrAbove_iff plain plain').mpr before, ?_, fun other above has => ?_⟩
    · rwa [pathAt_ofNames plain']
    · obtain ⟨further, lies, rfl⟩ := (isAtOrAbove_ofNames_iff plain).mp above
      rw [pathAt_ofNames (plain.ofFront lies)] at has
      exact (ofNames_isAtOrAbove_iff plain' (plain.ofFront lies)).mpr (deepest further lies has)

/-- The search through the names of a directory finds the nearest project file. -/
theorem findAbove_eq_some_iff {reversed : Place} (plain : Plain reversed.reverse) :
    findAbove disk reversed = some path ↔
      ∃ directory, IsNearest disk (ofNames reversed.reverse) directory ∧
        path = pathAt directory := by
  constructor
  · intro found
    obtain ⟨front, before, present, rfl, deepest⟩ := deepest_of_findAbove found
    refine ⟨ofNames front, (isNearest_ofNames_iff plain before).mpr ⟨present, deepest⟩, ?_⟩
    rw [pathAt_ofNames (plain.ofFront before)]
  · rintro ⟨directory, nearest, rfl⟩
    obtain ⟨front, before, rfl⟩ := (isAtOrAbove_ofNames_iff plain).mp nearest.above
    obtain ⟨present, deepest⟩ := (isNearest_ofNames_iff plain before).mp nearest
    cases found : findAbove disk reversed with
    | none =>
        have absent := findAbove_eq_none_iff.mp found front before
        exact absurd present (Bool.eq_false_iff.mp absent)
    | some path =>
        obtain ⟨further, lies, has, rfl, lowest⟩ := deepest_of_findAbove found
        -- each of the two directories lies at the other one or above it
        have same : front = further :=
          (lowest front before present).eq_of_length_le (deepest further lies has).length_le
        rw [pathAt_ofNames (plain.ofFront before), same]

/-- **The nearest project file.** For every disk and every directory, be it relative or not:

The way up from the absolute form of the directory ends, with what is found for the directory and
nothing else. It passes through the directories that lie there or above it, and these are all that
begin with the same names as the directory.

A project file is found exactly if it is the one of the deepest of these directories that has one,
and none is found exactly if none of them has one. -/
theorem find?_nearest (disk : Disk) (start : String) :
    (∀ answer, Climb disk (absoluteString start) answer ↔ find? disk start = answer) ∧
    (∀ directory, IsAtOrAbove directory (absoluteString start) ↔
      ∃ n, directoryString^[n] (absoluteString start) = directory) ∧
    (∀ path, find? disk start = some path ↔
      ∃ directory, IsNearest disk (absoluteString start) directory ∧ path = pathAt directory) ∧
    (find? disk start = none ↔
      ∀ directory, IsAtOrAbove directory (absoluteString start) →
        disk.exists? (pathAt directory) = false) := by
  have plain : Plain (Disk.placeOf start) := plain_segments _
  rw [← Disk.ofNames_placeOf]
  refine ⟨?climb, ?passes, ?found, ?none⟩
  case climb =>
    intro answer
    rw [Disk.ofNames_placeOf]
    exact climb_iff
  case passes =>
    intro directory
    exact isAtOrAbove_iff_iterate plain
  case found =>
    intro path
    unfold find?
    rw [← List.reverse_reverse (Disk.placeOf start)] at plain
    rw [findAbove_eq_some_iff plain, List.reverse_reverse]
  case none =>
    unfold find?
    rw [findAbove_eq_none_iff, List.reverse_reverse]
    constructor
    · intro absent directory above
      obtain ⟨front, before, rfl⟩ := (isAtOrAbove_ofNames_iff plain).mp above
      rw [pathAt_ofNames (plain.ofFront before)]
      exact absent front before
    · intro absent front before
      rw [← pathAt_ofNames (plain.ofFront before)]
      exact absent _ ((isAtOrAbove_ofNames_iff plain).mpr ⟨front, before, rfl⟩)

end

example : find? (Disk.ofEntries [("/a/unitgraph.json", .file ""), ("/a/b/c/d", .directory)])
    "/a/b/c" = some "/a/unitgraph.json" := by decide

end ProjectFile

end UnitResolution
