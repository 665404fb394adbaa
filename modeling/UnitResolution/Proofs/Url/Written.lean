import UnitResolution.Proofs.Url.Decoding
import Mathlib.Data.List.Flatten

/-!
# Written URLs of files

Every segment of a path is written with characters that reading leaves as they are
(`UnitResolution.Url.FileUrl.IsSegment`), so a written URL is read to the segments from which it
has been written (`UnitResolution.Url.FileUrl.parse_written`), and what has been read and written
once is read unchanged (`UnitResolution.Url.FileUrl.parse_href`).

Reading works out the dots of a path, but it leaves the empty segments in it: its gaps. A reference
is followed from a directory, and the path comes to have no more gaps than base and reference
together (`UnitResolution.Url.FileUrl.gaps_follow_le`), nor does writing and reading it add any.
-/

namespace UnitResolution.Url

open Text

/-! ## Encoded text -/

/-- A character that neither is encoded in a path nor ends a segment. -/
def IsSegmentChar (c : Char) : Prop := isPathSet c = false ∧ c ≠ '/' ∧ c ≠ '\\'

instance : DecidablePred IsSegmentChar := fun _ => inferInstanceAs (Decidable (_ ∧ _ ∧ _))

-- To decide the statement itself could mean to go through all characters there are.
theorem isSegmentChar_of_all {s : List Char} (all : s.all fun c => IsSegmentChar c) :
    ∀ c ∈ s, IsSegmentChar c :=
  fun c inside => of_decide_eq_true (List.all_eq_true.mp all c inside)

theorem isSegmentChar_hexDigit : ∀ n < 16, IsSegmentChar (hexDigit n) := by
  decide

theorem mem_encode {set : Char → Bool} {s : List Char} {c : Char} (member : c ∈ encode set s) :
    (c ∈ s ∧ set c = false) ∨ c = '%' ∨ ∃ n < 16, c = hexDigit n := by
  obtain ⟨d, inside, among⟩ := List.mem_flatMap.mp member
  split at among
  · obtain ⟨b, _, digit⟩ := List.mem_flatMap.mp among
    have top := b.toNat_lt
    simp only [encodeByte, List.mem_cons, List.not_mem_nil, or_false] at digit
    rcases digit with rfl | rfl | rfl
    · exact .inr (.inl rfl)
    · exact .inr (.inr ⟨_, by omega, rfl⟩)
    · exact .inr (.inr ⟨_, Nat.mod_lt _ (by decide), rfl⟩)
  · next kept =>
      cases List.mem_singleton.mp among
      exact .inl ⟨inside, Bool.eq_false_iff.mpr kept⟩

theorem encode_eq_self {set : Char → Bool} {s : List Char} (plain : ∀ c ∈ s, set c = false) :
    encode set s = s := by
  induction s with
  | nil => rfl
  | cons c rest ih =>
      obtain ⟨first, others⟩ := List.forall_mem_cons.mp plain
      have further := ih others
      unfold encode at further ⊢
      rw [List.flatMap_cons, further, first]
      rfl

theorem encode_eq_nil_iff {set : Char → Bool} {s : List Char} : encode set s = [] ↔ s = [] := by
  cases s with
  | nil => exact iff_of_true rfl rfl
  | cons c rest =>
      refine iff_of_false (fun empty => ?_) (List.cons_ne_nil _ _)
      unfold encode at empty
      rw [List.flatMap_cons, List.append_eq_nil_iff] at empty
      have first := empty.1
      split at first
      · unfold encodeChar at first
        cases bytes : Utf8.encodeChar c with
        | nil => exact Utf8.encodeChar_ne_nil c bytes
        | cons b more =>
            rw [bytes] at first
            cases first
      · cases first

theorem isSegmentChar_of_mem_encode {s : List Char} (plain : ∀ c ∈ s, c ≠ '/' ∧ c ≠ '\\')
    {c : Char} (member : c ∈ encode isPathSet s) : IsSegmentChar c := by
  rcases mem_encode member with ⟨inside, kept⟩ | rfl | ⟨n, small, rfl⟩
  · exact ⟨kept, plain c inside⟩
  · exact ⟨by decide, by decide, by decide⟩
  · exact isSegmentChar_hexDigit n small

theorem IsSegmentChar.plain {c : Char} (segment : IsSegmentChar c) :
    0x20 < c.toNat ∧ c.toNat < 0x80 ∧ c ≠ '?' ∧ c ≠ '#' := by
  obtain ⟨kept, _, _⟩ := segment
  simp only [isPathSet, isControlSet, Bool.or_eq_false_iff, decide_eq_false_iff_not, Nat.not_lt,
    beq_eq_false_iff_ne, ne_eq] at kept
  obtain ⟨⟨⟨⟨⟨⟨⟨⟨⟨⟨⟨low, high⟩, blank⟩, _⟩, hash⟩, _⟩, _⟩, query⟩, _⟩, _⟩, _⟩, _⟩ := kept
  have space : c.toNat ≠ 0x20 := fun same => blank (Char.toNat_inj.mp same)
  exact ⟨by omega, by omega, query, hash⟩

theorem length_encode_le (set : Char → Bool) (s : List Char) :
    (encode set s).length ≤ 12 * s.length := by
  induction s with
  | nil => exact Nat.le_refl _
  | cons c rest ih =>
      have bytes : (encodeChar c).length ≤ 12 := by
        have three : (encodeChar c).length = 3 * (Utf8.encodeChar c).length := by
          unfold encodeChar
          induction Utf8.encodeChar c with
          | nil => rfl
          | cons b more further =>
              rw [List.flatMap_cons, List.length_append, further, encodeByte]
              simp only [List.length_cons, List.length_nil]
              omega
        have four : (Utf8.encodeChar c).length ≤ 4 := by
          simp only [Utf8.encodeChar, String.utf8EncodeChar]
          split
          · exact Nat.le_of_ble_eq_true rfl
          · split
            · exact Nat.le_of_ble_eq_true rfl
            · split <;> exact Nat.le_of_ble_eq_true rfl
        omega
      have split : encode set (c :: rest) =
          (if set c then encodeChar c else [c]) ++ encode set rest := List.flatMap_cons
      rw [split, List.length_append, List.length_cons]
      split
      · omega
      · simp only [List.length_cons, List.length_nil]
        omega

namespace FileUrl

/-! ## Texts with slashes -/

@[simp] theorem pathText_append (path rest : List (List Char)) :
    pathText (path ++ rest) = pathText path ++ pathText rest :=
  List.flatMap_append

theorem pathText_eq_join {path : List (List Char)} (nonempty : path ≠ []) :
    pathText path = '/' :: join '/' path := by
  induction path with
  | nil => exact absurd rfl nonempty
  | cons segment rest ih =>
      cases rest with
      | nil => simp [join]
      | cons next more =>
          rw [pathText_cons, ih (List.cons_ne_nil _ _)]
          rfl

theorem pathText_split (s : List Char) : pathText (split '/' s) = '/' :: s := by
  rw [pathText_eq_join (split_ne_nil '/' s), join_split]

/-- Where nothing is a backslash, only slashes cut a text. -/
theorem slashed_of_not_mem {s : List Char} (straight : '\\' ∉ s) : slashed s = split '/' s := by
  have kept : ∀ c ∈ s, (if c == '\\' then '/' else c) = c := by
    intro c member
    refine if_neg fun back => ?_
    rw [beq_iff_eq] at back
    subst back
    exact straight member
  rw [slashed, List.map_congr_left kept, List.map_id']

theorem slashed_ne_nil (s : List Char) : slashed s ≠ [] := split_ne_nil _ _

theorem length_pathText_slashed (s : List Char) :
    (pathText (slashed s)).length = s.length + 1 := by
  rw [slashed, pathText_split, List.length_cons, List.length_map]

theorem plain_of_mem_slashed {s segment : List Char} (member : segment ∈ slashed s) :
    ∀ c ∈ segment, c ≠ '/' ∧ c ≠ '\\' := by
  intro c inside
  have slashless : '/' ∉ segment := not_mem_of_mem_split member
  refine ⟨fun same => slashless (same ▸ inside), ?_⟩
  rintro rfl
  have among : '\\' ∈ '/' :: s.map fun c => if c == '\\' then '/' else c := by
    rw [← pathText_split]
    exact List.mem_flatMap.mpr ⟨segment, member, List.mem_cons_of_mem _ inside⟩
  rcases List.mem_cons.mp among with impossible | mapped
  · cases impossible
  · obtain ⟨d, _, changed⟩ := List.mem_map.mp mapped
    split at changed
    · cases changed
    · next other => simp_all

/-! ## Segments of paths -/

/-- A segment as it stands in a path that has been read. -/
structure IsSegment (segment : List Char) : Prop where
  written : ∀ c ∈ segment, IsSegmentChar c
  single : isSingleDot segment = false
  double : isDoubleDot segment = false

theorem isSegment_nil : IsSegment [] := ⟨List.forall_mem_nil _, by decide, by decide⟩

/-- What one more segment makes of a path. -/
inductive Pushed (last : Bool) (path : List (List Char)) (segment : List Char) :
    List (List Char) → Prop
  /-- Dots lead to the path itself or to the one above. -/
  | around {kept : List (List Char)} (part : kept.Sublist path) (dots : segment ≠ []) :
      Pushed last path segment (if last then kept ++ [[]] else kept)
  /-- The letter of a drive is put into its normal form. -/
  | drive {letter mark : Char} (first : path = []) (named : segment = [letter, mark]) :
      Pushed last path segment [[letter, ':']]
  | behind (single : isSingleDot segment = false) (double : isDoubleDot segment = false) :
      Pushed last path segment (path ++ [segment])

theorem shorten_sublist (path : List (List Char)) : (shorten path).Sublist path := by
  unfold shorten
  split
  · split
    · exact List.Sublist.refl _
    · exact List.nil_sublist _
  · exact List.dropLast_sublist _

theorem pushed (last : Bool) (path : List (List Char)) (segment : List Char) :
    Pushed last path segment (pushSegment last path segment) := by
  unfold pushSegment
  split
  · next double =>
      have dots : segment ≠ [] := by
        rintro rfl
        cases double
      exact .around (shorten_sublist path) dots
  · next double =>
      have double : isDoubleDot segment = false := Bool.eq_false_iff.mpr double
      split
      · next single =>
          have dots : segment ≠ [] := by
            rintro rfl
            cases single
          exact .around (List.Sublist.refl path) dots
      · next single =>
          have single : isSingleDot segment = false := Bool.eq_false_iff.mpr single
          split
          · split
            · next first =>
                simp only [Bool.and_eq_true, List.isEmpty_iff] at first
                exact .drive first.1 rfl
            · exact .behind single double
          · exact .behind single double

/-- The letter of a drive is a segment. -/
theorem isSegment_drive {letter : Char} (written : IsSegmentChar letter) :
    IsSegment [letter, ':'] where
  written := by
    refine List.forall_mem_cons.mpr ⟨written, List.forall_mem_cons.mpr ⟨?_, List.forall_mem_nil _⟩⟩
    exact ⟨by decide, by decide, by decide⟩
  single := by simp [isSingleDot]
  double := by simp [isDoubleDot]

section Pushed

variable {last : Bool} {path after : List (List Char)} {segment : List Char}

theorem Pushed.isSegment (step : Pushed last path segment after) (behind : ∀ s ∈ path, IsSegment s)
    (written : ∀ c ∈ segment, IsSegmentChar c) : ∀ s ∈ after, IsSegment s := by
  cases step with
  | @around kept part dots =>
      have inside : ∀ s ∈ kept, IsSegment s := fun s member => behind s (part.subset member)
      split
      · exact List.forall_mem_append.mpr ⟨inside, List.forall_mem_singleton.mpr isSegment_nil⟩
      · exact inside
  | drive first named =>
      subst named
      exact List.forall_mem_singleton.mpr (isSegment_drive (written _ List.mem_cons_self))
  | behind single double =>
      exact List.forall_mem_append.mpr
        ⟨behind, List.forall_mem_singleton.mpr ⟨written, single, double⟩⟩

theorem Pushed.length_le (step : Pushed last path segment after) :
    (pathText after).length ≤ (pathText path).length + (segment.length + 1) := by
  cases step with
  | @around kept part dots =>
      have shorter : (pathText kept).length ≤ (pathText path).length := (part.flatMap _).length_le
      split
      · simp only [pathText_append, pathText_cons, pathText_nil, List.length_append,
          List.length_cons, List.length_nil]
        omega
      · omega
  | drive first named =>
      subst first named
      simp
  | behind single double => simp

theorem Pushed.gaps_inside (step : Pushed false path segment after) :
    after.count [] ≤ path.count [] + [segment].count [] := by
  cases step with
  | around part dots => exact Nat.le_trans (part.count_le []) (Nat.le_add_right _ _)
  | drive first named => simp
  | behind single double => exact Nat.le_of_eq List.count_append

theorem Pushed.gaps_last (step : Pushed true path segment after) :
    after.dropLast.count [] ≤ path.count [] := by
  cases step with
  | around part dots =>
      rw [if_pos rfl, List.dropLast_concat]
      exact part.count_le []
  | drive first named => simp
  | behind single double => exact Nat.le_of_eq (congrArg (List.count []) List.dropLast_concat)

end Pushed

/-! ## Paths that have been read -/

/-- The number of empty segments inside a path. At the end an empty segment only stands for a
slash. -/
def gaps (path : List (List Char)) : Nat := path.dropLast.count []

theorem isSegment_pushSegments {path more : List (List Char)} (behind : ∀ s ∈ path, IsSegment s)
    (plain : ∀ s ∈ more, ∀ c ∈ s, c ≠ '/' ∧ c ≠ '\\') :
    ∀ s ∈ pushSegments path more, IsSegment s := by
  fun_induction pushSegments path more with
  | case1 path => exact behind
  | case2 path segment =>
      have written := plain segment List.mem_cons_self
      exact (pushed _ _ _).isSegment behind fun c => isSegmentChar_of_mem_encode written
  | case3 path segment more _ ih =>
      obtain ⟨first, others⟩ := List.forall_mem_cons.mp plain
      exact ih ((pushed _ _ _).isSegment behind fun c => isSegmentChar_of_mem_encode first) others

theorem length_pushSegments_le (path more : List (List Char)) :
    (pathText (pushSegments path more)).length ≤
      (pathText path).length + 12 * (pathText more).length := by
  fun_induction pushSegments path more with
  | case1 path => exact Nat.le_add_right _ _
  | case2 path segment =>
      have step := (pushed true path (encode isPathSet segment)).length_le
      have encoded := length_encode_le isPathSet segment
      simp only [pathText_cons, pathText_nil, List.length_cons, List.append_nil]
      omega
  | case3 path segment more _ ih =>
      have step := (pushed false path (encode isPathSet segment)).length_le
      have encoded := length_encode_le isPathSet segment
      simp only [pathText_cons, List.length_cons, List.length_append]
      omega

theorem count_encode (segment : List Char) :
    [encode isPathSet segment].count [] = [segment].count [] := by
  simp only [List.count_singleton, beq_iff_eq, encode_eq_nil_iff]

theorem gaps_pushSegments_le (path : List (List Char)) {more : List (List Char)}
    (nonempty : more ≠ []) : gaps (pushSegments path more) ≤ path.count [] + gaps more := by
  unfold gaps
  fun_induction pushSegments path more with
  | case1 path => exact absurd rfl nonempty
  -- an empty segment at the end is no gap, and nothing comes behind it
  | case2 path segment => exact (pushed _ _ _).gaps_last
  | case3 path segment more further ih =>
      have step := (pushed false path (encode isPathSet segment)).gaps_inside
      rw [count_encode] at step
      have rest := ih further
      rw [List.dropLast_cons_of_ne_nil further, ← List.singleton_append, List.count_append]
      omega

theorem pushSegments_ne_nil (path : List (List Char)) {more : List (List Char)}
    (nonempty : more ≠ []) : pushSegments path more ≠ [] := by
  fun_induction pushSegments path more with
  | case1 path => exact absurd rfl nonempty
  | case2 path segment =>
      have step := pushed true path (encode isPathSet segment)
      generalize pushSegment true path (encode isPathSet segment) = after at step
      cases step with
      | around part dots => simp
      | drive first named => simp
      | behind single double => simp
  | case3 path segment more further ih => exact ih further

/-! ## Letters of drives -/

/-- A path that does not begin with the letter of a drive, unless in its normal form. -/
def StartsNormal (path : List (List Char)) : Prop :=
  ∀ segment ∈ path.head?, isDriveLetter segment → isNormalDriveLetter segment

theorem eq_of_isDriveLetter {segment : List Char} (named : isDriveLetter segment) :
    ∃ letter mark, segment = [letter, mark] := by
  unfold isDriveLetter at named
  split at named
  · exact ⟨_, _, rfl⟩
  · cases named

section Drives

variable {path : List (List Char)}

theorem startsNormal_nil : StartsNormal [] := nofun

theorem StartsNormal.append (normal : StartsNormal path) {rest : List (List Char)}
    (other : path = [] → StartsNormal rest) : StartsNormal (path ++ rest) := by
  cases path with
  | nil => exact other rfl
  | cons first more => exact normal

theorem StartsNormal.of_append {rest : List (List Char)} (normal : StartsNormal (path ++ rest)) :
    StartsNormal path := by
  cases path with
  | nil => exact startsNormal_nil
  | cons first more => exact normal

theorem StartsNormal.shorten (normal : StartsNormal path) : StartsNormal (shorten path) := by
  unfold FileUrl.shorten
  split
  · split
    · exact normal
    · exact startsNormal_nil
  · rcases path with _ | ⟨first, _ | ⟨next, more⟩⟩
    · exact normal
    · exact startsNormal_nil
    · exact normal

theorem StartsNormal.pushSegment (normal : StartsNormal path) (last : Bool)
    (segment : List Char) : StartsNormal (pushSegment last path segment) := by
  have ended {kept : List (List Char)} (normal : StartsNormal kept) :
      StartsNormal (if last then kept ++ [[]] else kept) := by
    split
    · exact normal.append fun _ => by
        rintro s ⟨⟩
        exact nofun
    · exact normal
  unfold FileUrl.pushSegment
  split
  · exact ended normal.shorten
  · split
    · exact ended normal
    · split
      · split
        · next letter mark drive =>
            rintro s ⟨⟩ named
            exact (Bool.and_eq_true _ _ ▸ named).1
        · next letter mark other =>
            refine normal.append fun empty => ?_
            rintro s ⟨⟩ named
            exact absurd (by simp [empty, named]) other
      · next short =>
          refine normal.append fun _ => ?_
          rintro s ⟨⟩ named
          obtain ⟨letter, mark, rfl⟩ := eq_of_isDriveLetter named
          exact absurd rfl (short letter mark)

theorem StartsNormal.pushSegments (normal : StartsNormal path) (more : List (List Char)) :
    StartsNormal (pushSegments path more) := by
  fun_induction FileUrl.pushSegments path more with
  | case1 path => exact normal
  | case2 path segment => exact normal.pushSegment true _
  | case3 path segment more _ ih => exact ih (normal.pushSegment false _)

end Drives

/-! ## Reading and following -/

/-- What stands in a text in front of a query and a fragment. -/
def front (s : List Char) : List Char := (cutAt '?' (cutAt '#' s).1).1

/-- The segments of a reference. -/
def segmentsOf (reference : List Char) : List (List Char) := slashed (front (clean reference))

theorem path_withPath (host : List Char) (base : List (List Char)) (s : List Char) :
    (withPath host base s).path = pushSegments base (slashed (front s)) := rfl

theorem path_of_withHost {s : List Char} {u : FileUrl} (read : withHost? s = some u) :
    ∃ t, u.path = pushSegments [] (slashed t) := by
  unfold withHost? at read
  dsimp only at read
  split at read
  · cases read
    exact ⟨_, path_withPath _ _ _⟩
  · split at read
    · cases read
      exact ⟨_, path_withPath _ _ _⟩
    · obtain ⟨host, _, rfl⟩ := Option.map_eq_some_iff.mp read
      exact ⟨_, path_withPath _ _ _⟩

/-- The path of a URL consists of segments that have been worked out. -/
theorem path_of_parse {s : List Char} {u : FileUrl} (read : parse? s = some u) :
    ∃ t, u.path = pushSegments [] (slashed t) := by
  unfold parse? at read
  split at read
  · unfold ofRest? at read
    split at read
    · split at read
      · split at read
        · exact path_of_withHost read
        · cases read
          exact ⟨_, path_withPath _ _ _⟩
      · cases read
        exact ⟨_, path_withPath _ _ _⟩
    · cases read
      exact ⟨_, path_withPath _ _ _⟩
    · cases read
      exact ⟨_, path_withPath _ _ _⟩
  · cases read

theorem isSegment_of_parse {s : List Char} {u : FileUrl} (read : parse? s = some u) :
    ∀ segment ∈ u.path, IsSegment segment := by
  obtain ⟨t, path⟩ := path_of_parse read
  rw [path]
  exact isSegment_pushSegments (List.forall_mem_nil _) fun segment => plain_of_mem_slashed

theorem path_ne_nil_of_parse {s : List Char} {u : FileUrl} (read : parse? s = some u) :
    u.path ≠ [] := by
  obtain ⟨t, path⟩ := path_of_parse read
  rw [path]
  exact pushSegments_ne_nil _ (slashed_ne_nil t)

theorem shorten_concat {path : List (List Char)} (nonempty : path ≠ []) (last : List Char) :
    shorten (path ++ [last]) = path := by
  cases path with
  | nil => exact absurd rfl nonempty
  | cons first rest =>
      unfold shorten
      split
      · next only same => simp at same
      · exact List.dropLast_concat

theorem count_shorten_le (path : List (List Char)) : (shorten path).count [] ≤ gaps path := by
  unfold shorten
  split
  · next only =>
      split
      · next normal =>
          have letter : only ≠ [] := by
            rintro rfl
            cases normal
          simp [letter]
      · exact Nat.zero_le _
  · exact Nat.le_refl _

section Follow

variable (base : FileUrl) (reference : List Char)

theorem path_follow : (base.follow reference).path =
    pushSegments (if startsWithDriveLetter (clean reference) then [] else shorten base.path)
      (segmentsOf reference) := rfl

theorem host_follow : (base.follow reference).host = base.host := rfl

theorem path_follow_ne_nil : (base.follow reference).path ≠ [] :=
  pushSegments_ne_nil _ (slashed_ne_nil _)

theorem start_sublist (s : List Char) :
    (if startsWithDriveLetter s then [] else shorten base.path).Sublist (shorten base.path) := by
  split
  · exact List.nil_sublist _
  · exact List.Sublist.refl _

theorem isSegment_follow (inside : ∀ segment ∈ base.path, IsSegment segment) :
    ∀ segment ∈ (base.follow reference).path, IsSegment segment := by
  rw [path_follow]
  refine isSegment_pushSegments (fun segment member => ?_) fun segment => plain_of_mem_slashed
  exact inside segment ((shorten_sublist _).subset ((start_sublist base _).subset member))

/-- Where a reference is followed, the gaps of its segments come in addition. -/
theorem gaps_follow_le :
    gaps (base.follow reference).path ≤ gaps base.path + gaps (segmentsOf reference) := by
  rw [path_follow]
  refine Nat.le_trans (gaps_pushSegments_le _ (slashed_ne_nil _)) (Nat.add_le_add_right ?_ _)
  exact Nat.le_trans ((start_sublist base _).count_le []) (count_shorten_le base.path)

end Follow

/-! ## Queries and fragments -/

/-- A text in which a query or a fragment begins, or nothing. -/
def IsTail (tail : List Char) : Prop := ∀ c ∈ tail.head?, c = '?' ∨ c = '#'

theorem fst_cutAt (mark : Char) (s : List Char) : (cutAt mark s).1 = s.takeWhile (· != mark) := by
  unfold cutAt
  dsimp only
  split <;> rfl

theorem takeWhile_append_tail {p : Char → Bool} {s t : List Char} (all : ∀ c ∈ s, p c)
    (ends : ∀ c ∈ t.head?, p c = false) : (s ++ t).takeWhile p = s := by
  rw [List.takeWhile_append_of_pos all]
  cases t with
  | nil => simp
  | cons c rest => simp [ends c rfl]

/-- What stands in front of a tail stands in front of query and fragment. -/
theorem front_append {s tail : List Char} (plain : ∀ c ∈ s, c ≠ '?' ∧ c ≠ '#')
    (isTail : IsTail tail) : front (s ++ tail) = s := by
  have unmarked : ∀ c ∈ s, (c != '#') = true := fun c inside => bne_iff_ne.mpr (plain c inside).2
  have unasked : ∀ c ∈ s, (c != '?') = true := fun c inside => bne_iff_ne.mpr (plain c inside).1
  unfold front
  rw [fst_cutAt, fst_cutAt, List.takeWhile_append_of_pos unmarked]
  refine takeWhile_append_tail unasked fun c first => ?_
  cases tail with
  | nil => cases first
  | cons d rest =>
      rcases isTail d rfl with rfl | rfl
      · cases first
        rfl
      · cases first

theorem front_eq_self {s : List Char} (plain : ∀ c ∈ s, c ≠ '?' ∧ c ≠ '#') : front s = s := by
  have none : IsTail [] := nofun
  have whole := front_append plain none
  rwa [List.append_nil] at whole

theorem filter_of_not_mem {s : List Char} (tab : '\t' ∉ s) (feed : '\n' ∉ s) (back : '\r' ∉ s) :
    s.filter (fun c => !(c == '\t' || c == '\n' || c == '\r')) = s := by
  refine List.filter_eq_self.mpr fun c inside => ?_
  simp only [Bool.not_eq_true', Bool.or_eq_false_iff, beq_eq_false_iff_ne]
  refine ⟨⟨?_, ?_⟩, ?_⟩ <;> rintro rfl <;> contradiction

/-- Characters that are no controls, blanks or breaks stay, whatever follows. -/
theorem clean_append {s : List Char} (visible : ∀ c ∈ s, 0x20 < c.toNat) (t : List Char) :
    clean (s ++ t) = s ++ clean t := by
  have other {c : Char} (low : ¬ 0x20 < c.toNat) : c ∉ s := fun inside => low (visible c inside)
  have kept := filter_of_not_mem (other (by decide)) (other (by decide)) (other (by decide))
  have stays : s.reverse.dropWhile (fun c => decide (c.toNat ≤ 0x20)) = s.reverse := by
    cases last : s.reverse with
    | nil => rfl
    | cons c rest =>
        have inside : c ∈ s := List.mem_reverse.mp (last ▸ List.mem_cons_self)
        have beyond := visible c inside
        rw [List.dropWhile_cons_of_neg]
        simp only [decide_eq_true_eq]
        omega
  unfold clean
  dsimp only
  rw [List.reverse_append, List.dropWhile_append]
  split
  · next nothing =>
      rw [List.isEmpty_iff] at nothing
      rw [stays, nothing, List.reverse_reverse, kept]
      simp
  · rw [List.reverse_append, List.reverse_reverse, List.filter_append, kept]

theorem isTail_clean {tail : List Char} (isTail : IsTail tail) : IsTail (clean tail) := by
  cases tail with
  | nil => exact isTail
  | cons c rest =>
      have mark := isTail c rfl
      have visible : 0x20 < c.toNat := by
        rcases mark with rfl | rfl <;> decide
      have cleaned := clean_append (List.forall_mem_singleton.mpr visible) rest
      rw [List.singleton_append] at cleaned
      rw [cleaned]
      rintro d ⟨⟩
      exact mark

/-- What a written URL has behind its path. -/
def tailOf (u : FileUrl) : List Char :=
  (match u.query with | some q => '?' :: q | none => []) ++
    (match u.fragment with | some f => '#' :: f | none => [])

theorem href_eq (u : FileUrl) :
    u.href = "file://".toList ++ u.host ++ pathText u.path ++ u.tailOf := by
  unfold href tailOf
  exact List.append_assoc _ _ _

theorem isTail_tailOf (u : FileUrl) : IsTail u.tailOf := by
  intro c first
  unfold tailOf at first
  split at first
  · cases first
    exact .inl rfl
  · split at first
    · cases first
      exact .inr rfl
    · cases first

/-! ## Lengths -/

theorem length_clean_le (s : List Char) : (clean s).length ≤ s.length := by
  have shorter := (List.dropWhile_sublist (fun c : Char => decide (c.toNat ≤ 0x20))
    (l := s.reverse)).length_le
  have filtered := List.length_filter_le (fun c => !(c == '\t' || c == '\n' || c == '\r'))
    (s.reverse.dropWhile fun c => decide (c.toNat ≤ 0x20)).reverse
  unfold clean
  simp only [List.length_reverse] at shorter filtered ⊢
  omega

theorem length_cutAt_le (mark : Char) (s : List Char) :
    (cutAt mark s).1.length ≤ s.length ∧ ∀ rest ∈ (cutAt mark s).2, rest.length ≤ s.length := by
  have front := (List.takeWhile_sublist (fun c => c != mark) (l := s)).length_le
  have back := List.length_drop (i := (s.takeWhile (· != mark)).length) (l := s)
  refine ⟨by rwa [fst_cutAt], fun rest behind => ?_⟩
  unfold cutAt at behind
  dsimp only at behind
  split at behind
  · cases behind
  · next found =>
      cases behind
      rw [found, List.length_cons] at back
      omega

theorem length_tailOf_withPath_le (host : List Char) (base : List (List Char)) (s : List Char) :
    (withPath host base s).tailOf.length ≤ 24 * s.length + 2 := by
  have fragment := length_cutAt_le '#' s
  have query := length_cutAt_le '?' (cutAt '#' s).1
  unfold tailOf withPath
  dsimp only
  have encoded (set : Char → Bool) (mark : Char) (part : Option (List Char))
      (short : ∀ rest ∈ part, rest.length ≤ s.length) :
      (match part.map (encode set) with | some q => mark :: q | none => []).length ≤
        12 * s.length + 1 := by
    cases part with
    | none => exact Nat.zero_le _
    | some rest =>
        have longer := length_encode_le set rest
        have few := short rest rfl
        simp only [Option.map_some, List.length_cons]
        omega
  have first := encoded isQuerySet '?' _ fun rest behind =>
    Nat.le_trans (query.2 rest behind) fragment.1
  have second := encoded isFragmentSet '#' _ fragment.2
  rw [List.length_append]
  omega

/-- A reference is followed to a URL that is not much longer than the path of the base. -/
theorem length_href_follow_le {base : FileUrl} (here : base.host = []) (reference : List Char) :
    (base.follow reference).href.length ≤
      (pathText base.path).length + 36 * reference.length + 21 := by
  have same : (base.follow reference).host = [] := (host_follow base reference).trans here
  have cleaned := length_clean_le reference
  have tail : (base.follow reference).tailOf.length ≤ 24 * (clean reference).length + 2 :=
    length_tailOf_withPath_le _ _ _
  have front : (front (clean reference)).length ≤ (clean reference).length :=
    Nat.le_trans (length_cutAt_le '?' _).1 (length_cutAt_le '#' _).1
  have path := length_pushSegments_le
    (if startsWithDriveLetter (clean reference) then [] else shorten base.path)
    (segmentsOf reference)
  have start : (pathText (if startsWithDriveLetter (clean reference) then []
      else shorten base.path)).length ≤ (pathText base.path).length :=
    (((start_sublist base _).trans (shorten_sublist _)).flatMap _).length_le
  have segments : (pathText (segmentsOf reference)).length =
      (FileUrl.front (clean reference)).length + 1 := length_pathText_slashed _
  have scheme : "file://".toList.length = 7 := rfl
  rw [← path_follow] at path
  rw [href_eq, same, List.append_nil, List.length_append, List.length_append]
  omega

/-! ## Reading what has been written -/

/-- A URL of this machine in its written form, whose path has the given segments in front of its
last one. -/
def Written (directory : List (List Char)) (s : List Char) : Prop :=
  ∃ last tail, s = "file://".toList ++ pathText (directory ++ [last]) ++ tail ∧
    (∀ segment ∈ directory ++ [last], ∀ c ∈ segment, IsSegmentChar c) ∧ IsTail tail

theorem written_href {u : FileUrl} (here : u.host = []) (nonempty : u.path ≠ [])
    (inside : ∀ segment ∈ u.path, IsSegment segment) : Written u.path.dropLast u.href := by
  have whole := List.dropLast_append_getLast nonempty
  refine ⟨u.path.getLast nonempty, u.tailOf, ?_, ?_, u.isTail_tailOf⟩
  · rw [whole, href_eq, here, List.append_nil]
  · rw [whole]
    exact fun segment member => (inside segment member).written

theorem mem_join_segments {path : List (List Char)}
    (plain : ∀ segment ∈ path, ∀ c ∈ segment, IsSegmentChar c) :
    ∀ c ∈ join '/' path, c = '/' ∨ IsSegmentChar c := by
  intro c inside
  by_cases nonempty : path = []
  · subst nonempty
    cases inside
  · have among : c ∈ pathText path := by
      rw [pathText_eq_join nonempty]
      exact List.mem_cons_of_mem _ inside
    obtain ⟨segment, member, within⟩ := List.mem_flatMap.mp among
    exact (List.mem_cons.mp within).imp_right (plain segment member c)

theorem slashed_join {path : List (List Char)} (nonempty : path ≠ [])
    (plain : ∀ segment ∈ path, ∀ c ∈ segment, IsSegmentChar c) :
    slashed (join '/' path) = path := by
  have straight : '\\' ∉ join '/' path := by
    intro inside
    rcases mem_join_segments plain _ inside with same | segment
    · cases same
    · exact segment.2.2 rfl
  rw [slashed_of_not_mem straight]
  exact split_join nonempty fun segment member inside => (plain segment member _ inside).2.1 rfl

/-- Reading a written URL works out the segments from which it has been written. -/
theorem parse_written {path : List (List Char)} {tail : List Char} (nonempty : path ≠ [])
    (plain : ∀ segment ∈ path, ∀ c ∈ segment, IsSegmentChar c) (isTail : IsTail tail) :
    ∃ u, parse? ("file://".toList ++ pathText path ++ tail) = some u ∧ u.host = [] ∧
      u.path = pushSegments [] path := by
  have joined := mem_join_segments plain
  have visible : ∀ c ∈ '/' :: '/' :: '/' :: join '/' path, 0x20 < c.toNat := by
    have slash : 0x20 < '/'.toNat := by decide
    refine List.forall_mem_cons.mpr ⟨slash, List.forall_mem_cons.mpr ⟨slash,
      List.forall_mem_cons.mpr ⟨slash, fun c inside => ?_⟩⟩⟩
    rcases joined c inside with rfl | segment
    · exact slash
    · exact segment.plain.1
  have unmarked : ∀ c ∈ join '/' path, c ≠ '?' ∧ c ≠ '#' := by
    intro c inside
    rcases joined c inside with rfl | segment
    · decide
    · exact segment.plain.2.2
  -- two of the slashes stand for the host that is missing, the third one begins the path
  have text : "file://".toList ++ pathText path ++ tail =
      'f' :: 'i' :: 'l' :: 'e' :: ':' :: ('/' :: '/' :: '/' :: join '/' path ++ tail) := by
    rw [pathText_eq_join nonempty]
    rfl
  have read : ofRest? ('/' :: '/' :: '/' :: join '/' path ++ tail) =
      some (withPath [] [] (join '/' path ++ clean tail)) := by
    unfold ofRest?
    rw [clean_append visible]
    rfl
  refine ⟨withPath [] [] (join '/' path ++ clean tail), ?_, rfl, ?_⟩
  · rw [text]
    exact read
  · rw [path_withPath, front_append unmarked (isTail_clean isTail),
      slashed_join nonempty plain]

/-- Writing and reading a path does not add gaps. -/
theorem Written.gaps_le {directory : List (List Char)} {s : List Char} {u : FileUrl}
    (written : Written directory s) (read : parse? s = some u) :
    gaps u.path ≤ directory.count [] := by
  obtain ⟨last, tail, rfl, plain, isTail⟩ := written
  have nonempty : directory ++ [last] ≠ [] := by simp
  obtain ⟨_, read', _, path⟩ := parse_written nonempty plain isTail
  cases read.symm.trans read'
  have fewer := gaps_pushSegments_le [] nonempty
  rw [path]
  simpa [gaps] using fewer

theorem pushSegment_eq_append {last : Bool} {path : List (List Char)} {segment : List Char}
    (isSegment : IsSegment segment) (normal : path ≠ [] ∨ StartsNormal [segment]) :
    pushSegment last path segment = path ++ [segment] := by
  unfold pushSegment
  rw [isSegment.double, isSegment.single, if_neg Bool.false_ne_true, if_neg Bool.false_ne_true]
  split
  · next letter mark =>
      split
      · next drive =>
          rw [Bool.and_eq_true, List.isEmpty_iff] at drive
          obtain ⟨rfl, named⟩ := drive
          rcases normal with filled | normal
          · exact absurd rfl filled
          · have colon := normal _ rfl named
            unfold isNormalDriveLetter at colon
            split at colon
            · next same =>
                cases same
                rfl
            · cases colon
      · rfl
  · rfl

/-- Segments are put behind a path as reading encodes them, up to the last one. -/
theorem pushSegments_concat {path more : List (List Char)}
    (inside : ∀ segment ∈ more, IsSegment (encode isPathSet segment))
    (normal : path ≠ [] ∨ StartsNormal (more.map (encode isPathSet))) (last : List Char) :
    pushSegments path (more ++ [last]) =
      pushSegment true (path ++ more.map (encode isPathSet)) (encode isPathSet last) := by
  induction more generalizing path with
  | nil => rw [List.map_nil, List.append_nil, List.nil_append, pushSegments]
  | cons segment rest ih =>
      obtain ⟨first, others⟩ := List.forall_mem_cons.mp inside
      have alone : path ≠ [] ∨ StartsNormal [encode isPathSet segment] := normal.imp_right id
      rw [List.cons_append, pushSegments, pushSegment_eq_append first alone,
        ih others (.inl (by simp))]
      · simp
      · simp

/-- Segments that have been read once are read unchanged. -/
theorem pushSegments_eq_append {path more : List (List Char)}
    (inside : ∀ segment ∈ more, IsSegment segment) (normal : path ≠ [] ∨ StartsNormal more) :
    pushSegments path more = path ++ more := by
  have kept : ∀ segment ∈ more, encode isPathSet segment = segment := fun segment member =>
    encode_eq_self fun c within => ((inside segment member).written c within).1
  rcases List.eq_nil_or_concat' more with rfl | ⟨front, last, rfl⟩
  · exact (List.append_nil path).symm
  · obtain ⟨before, final⟩ := List.forall_mem_append.mp inside
    have same : front.map (encode isPathSet) = front := by
      rw [List.map_congr_left fun segment member => kept segment (List.mem_append_left _ member),
        List.map_id']
    have encoded : ∀ segment ∈ front, IsSegment (encode isPathSet segment) := by
      intro segment member
      rw [kept segment (List.mem_append_left _ member)]
      exact before segment member
    have start : path ≠ [] ∨ StartsNormal (front.map (encode isPathSet)) := by
      rw [same]
      exact normal.imp_right StartsNormal.of_append
    have ending : path ++ front ≠ [] ∨ StartsNormal [last] := by
      cases front with
      | nil => exact normal.imp_left fun filled => by rwa [List.append_nil]
      | cons first rest => exact .inl (by simp)
    rw [pushSegments_concat encoded start, same, kept last (by simp),
      pushSegment_eq_append (final last (by simp)) ending, List.append_assoc]

/-- A URL of this machine is read from its written form, with its path unchanged. -/
theorem parse_href {u : FileUrl} (here : u.host = []) (nonempty : u.path ≠ [])
    (inside : ∀ segment ∈ u.path, IsSegment segment) (normal : StartsNormal u.path) :
    ∃ w, parse? u.href = some w ∧ w.host = [] ∧ w.path = u.path := by
  obtain ⟨w, read, host, path⟩ := parse_written nonempty
    (fun segment member => (inside segment member).written) u.isTail_tailOf
  rw [pushSegments_eq_append inside (.inr normal), List.nil_append] at path
  refine ⟨w, ?_, host, path⟩
  rw [href_eq, here, List.append_nil]
  exact read

/-! ## Other endings -/

section Endings

variable {directory : List (List Char)} {s : List Char}

theorem getLast?_of_slash (directory : List (List Char)) :
    ("file://".toList ++ pathText (directory ++ [[]]) ++ []).getLast? = some '/' := by
  rw [pathText_append, List.append_nil, ← List.append_assoc]
  exact List.getLast?_concat

/-- More characters of a segment continue the last segment, or the tail. -/
theorem Written.append (written : Written directory s) {ending : List Char}
    (plain : ∀ c ∈ ending, IsSegmentChar c) : Written directory (s ++ ending) := by
  obtain ⟨last, tail, rfl, inside, isTail⟩ := written
  cases tail with
  | nil =>
      refine ⟨last ++ ending, [], by simp, ?_, isTail⟩
      obtain ⟨before, final⟩ := List.forall_mem_append.mp inside
      refine List.forall_mem_append.mpr ⟨before, List.forall_mem_singleton.mpr ?_⟩
      exact List.forall_mem_append.mpr ⟨List.forall_mem_singleton.mp final, plain⟩
  | cons c rest => exact ⟨last, c :: rest ++ ending, by simp, inside, isTail⟩

/-- A further segment adds no gap behind a text that does not end with a slash. -/
theorem Written.append_segment (written : Written directory s) (ends : s.getLast? ≠ some '/')
    {segment : List Char} (plain : ∀ c ∈ segment, IsSegmentChar c) :
    ∃ longer, longer.count [] = directory.count [] ∧ Written longer (s ++ '/' :: segment) := by
  obtain ⟨last, tail, rfl, inside, isTail⟩ := written
  cases tail with
  | nil =>
      have filled : last ≠ [] := by
        rintro rfl
        exact ends (getLast?_of_slash directory)
      refine ⟨directory ++ [last], by simp [filled], segment, [], by simp, ?_, isTail⟩
      exact List.forall_mem_append.mpr ⟨inside, List.forall_mem_singleton.mpr plain⟩
  | cons c rest =>
      exact ⟨directory, rfl, last, c :: rest ++ '/' :: segment, by simp, inside, isTail⟩

/-- Without its last character, which neither is a slash nor begins a tail, a URL stays one. -/
theorem Written.of_append_singleton {c : Char} (written : Written directory (s ++ [c]))
    (mark : c ≠ '/' ∧ c ≠ '?' ∧ c ≠ '#') : Written directory s := by
  obtain ⟨last, tail, same, inside, isTail⟩ := written
  obtain ⟨before, final⟩ := List.forall_mem_append.mp inside
  -- the last character is that of the tail, or of the last segment if there is no tail
  rcases List.eq_nil_or_concat' tail with rfl | ⟨tail, d, rfl⟩
  · rcases List.eq_nil_or_concat' last with rfl | ⟨last, d, rfl⟩
    · have ends := congrArg List.getLast? same
      rw [List.getLast?_concat, getLast?_of_slash] at ends
      exact absurd (Option.some.inj ends) mark.1
    · have split : s ++ [c] =
          ("file://".toList ++ pathText (directory ++ [last])) ++ [d] := by
        simpa using same
      obtain ⟨rfl, _⟩ := List.append_inj' split rfl
      refine ⟨last, [], by simp, ?_, isTail⟩
      refine List.forall_mem_append.mpr ⟨before, List.forall_mem_singleton.mpr ?_⟩
      exact (List.forall_mem_append.mp (List.forall_mem_singleton.mp final)).1
  · have split : s ++ [c] =
        ("file://".toList ++ pathText (directory ++ [last]) ++ tail) ++ [d] := by
      simpa using same
    obtain ⟨rfl, _⟩ := List.append_inj' split rfl
    refine ⟨last, tail, rfl, inside, ?_⟩
    cases tail with
    | nil => exact nofun
    | cons e rest => exact isTail

end Endings

end FileUrl

end UnitResolution.Url
