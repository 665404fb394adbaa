import UnitResolution.Proofs.Context.Dispatch
import UnitResolution.Proofs.Path.Ways
import UnitResolution.Proofs.Url.Encoding
import Mathlib.Data.List.DropRight

/-!
# Identifiers of paths

The identifier of a file is the URL of its absolute path, and the path is read off it again. What is
reserved in a path is encoded before the URL is read, and reading encodes the rest, so that every
segment stands for its piece (`UnitResolution.Url.FileUrl.stands_segmentOf`), whatever characters
the piece has.

Reading cuts off what stands at the end of a text and cannot be seen. Blanks and breaks are encoded
by then, but other controls are not (`UnitResolution.Url.FileUrl.clean_encode`). So an identifier
names the path for which it is made if and only if the path does not end in such a control
(`UnitResolution.Identifier.filePath?_ofFilePath`), and this is all that can go wrong
(`UnitResolution.Identifier.ofFilePath_faithful`).
-/

namespace UnitResolution

open Text

namespace Url.FileUrl

/-! ## Controls at the end -/

/-- A control that is not encoded before the URL of a path is read. -/
def isBareControl (c : Char) : Bool := c.toNat < 0x20 && !isReservedInPath c

/-- A text without the bare controls at its end. -/
def trimmed (s : List Char) : List Char := s.rdropWhile isBareControl

variable {s : List Char}

theorem trimmed_append_slash (s t : List Char) :
    trimmed (s ++ '/' :: t) = s ++ '/' :: trimmed t := by
  unfold trimmed
  induction t using List.reverseRecOn with
  | nil => rw [List.rdropWhile_concat_neg _ _ _ (by decide), List.rdropWhile_nil]
  | append_singleton t c ih =>
      rw [← List.cons_append, ← List.append_assoc, List.rdropWhile_concat,
        List.rdropWhile_concat, ih]
      split <;> simp

/-- A text whose last character is a bare control. -/
def EndsInControl (s : List Char) : Prop := s.getLast?.any isBareControl

instance : DecidablePred EndsInControl := fun s =>
  inferInstanceAs (Decidable (s.getLast?.any isBareControl = true))

theorem trimmed_eq_self_iff : trimmed s = s ↔ ¬ EndsInControl s := by
  unfold trimmed EndsInControl
  rcases List.eq_nil_or_concat' s with rfl | ⟨front, c, rfl⟩
  · simp
  · rw [List.rdropWhile_eq_self_iff, List.getLast?_concat]
    simp

theorem not_mem_encode {c : Char} (reserved : isReservedInPath c) (other : c ≠ '%')
    (s : List Char) : c ∉ encode isReservedInPath s := by
  have digits : ∀ n < 16, isReservedInPath (hexDigit n) = false := by decide
  intro member
  rcases mem_encode member with ⟨_, plain⟩ | same | ⟨n, small, rfl⟩
  · exact Bool.false_ne_true (plain.symm.trans reserved)
  · exact other same
  · exact Bool.false_ne_true ((digits n small).symm.trans reserved)

theorem encode_concat (set : Char → Bool) (s : List Char) (c : Char) :
    encode set (s ++ [c]) = encode set s ++ if set c then encodeChar c else [c] := by
  rw [encode_append, encode_cons]
  exact congrArg _ (List.append_nil _)

theorem exists_of_encodeChar (c : Char) : ∃ front n, n < 16 ∧
    encodeChar c = front ++ [hexDigit n] := by
  unfold encodeChar
  rcases List.eq_nil_or_concat' (Utf8.encodeChar c) with none | ⟨more, b, whole⟩
  · exact absurd none (Utf8.encodeChar_ne_nil c)
  · refine ⟨more.flatMap encodeByte ++ ['%', hexDigit (b.toNat / 16)], b.toNat % 16,
      Nat.mod_lt _ (by decide), ?_⟩
    rw [whole, List.flatMap_append, List.flatMap_singleton, encodeByte]
    simp

/-- At the end of an encoded text, the controls and blanks are the bare controls. -/
theorem rdropWhile_encode (s : List Char) :
    (encode isReservedInPath s).rdropWhile (fun c => decide (c.toNat ≤ 0x20)) =
      encode isReservedInPath (trimmed s) := by
  have digits : ∀ n < 16, ¬ (hexDigit n).toNat ≤ 0x20 := by decide
  unfold trimmed
  induction s using List.reverseRecOn with
  | nil => rfl
  | append_singleton s c ih =>
      rw [encode_concat]
      by_cases reserved : isReservedInPath c
      · obtain ⟨front, n, small, escape⟩ := exists_of_encodeChar c
        have stays : ¬ isBareControl c := by simp [isBareControl, reserved]
        rw [List.rdropWhile_concat_neg _ _ _ stays, encode_concat, if_pos reserved, escape,
          ← List.append_assoc,
          List.rdropWhile_concat_neg _ _ _ (by simpa using digits n small)]
      · have blank : c.toNat ≠ 0x20 := by
          intro same
          obtain rfl : c = ' ' := Char.toNat_inj.mp same
          exact reserved (by decide)
        have same : decide (c.toNat ≤ 0x20) = isBareControl c := by
          rw [isBareControl, Bool.eq_false_iff.mpr reserved, Bool.not_false, Bool.and_true]
          exact decide_eq_decide.mpr (by omega)
        rw [if_neg reserved, List.rdropWhile_concat, List.rdropWhile_concat, ih, same]
        split
        · rfl
        · rw [encode_concat, if_neg reserved]

/-- What is cut off when the URL of a path is read are the bare controls at the end of the path. -/
theorem clean_encode (s : List Char) :
    clean (encode isReservedInPath s) = encode isReservedInPath (trimmed s) := by
  have whole : clean (encode isReservedInPath s) =
      ((encode isReservedInPath s).rdropWhile fun c => decide (c.toNat ≤ 0x20)).filter
        (fun c => !(c == '\t' || c == '\n' || c == '\r')) := rfl
  rw [whole, rdropWhile_encode]
  have other {c : Char} (reserved : isReservedInPath c) (plain : c ≠ '%') :=
    not_mem_encode reserved plain (trimmed s)
  exact filter_of_not_mem (other (by decide) (by decide)) (other (by decide) (by decide))
    (other (by decide) (by decide))

/-! ## Segments of pieces -/

/-- The segment of a piece of a path, encoded for its URL and once more when that is read. -/
def segmentOf (piece : List Char) : List Char :=
  encode isPathSet (encode isReservedInPath piece)

section Segments

variable {piece : List Char}

theorem stands_segmentOf (piece : List Char) : Stands (segmentOf piece) piece :=
  stands_encode (by decide) piece

theorem forall₂_segmentOf (pieces : List (List Char)) :
    List.Forall₂ Stands (pieces.map segmentOf) pieces := by
  rw [List.forall₂_map_left_iff]
  exact List.forall₂_same.mpr fun piece _ => stands_segmentOf piece

theorem slash_not_mem_encode (slashless : '/' ∉ piece) (set : Char → Bool) :
    '/' ∉ encode set piece := by
  have digits : ∀ n < 16, hexDigit n ≠ '/' := by decide
  intro member
  rcases mem_encode member with ⟨inside, _⟩ | same | ⟨n, small, same⟩
  · exact slashless inside
  · cases same
  · exact digits n small same.symm

theorem isSegmentChar_segmentOf (slashless : '/' ∉ piece) :
    ∀ c ∈ segmentOf piece, IsSegmentChar c := by
  refine fun c => isSegmentChar_of_mem_encode fun d inside => ⟨?_, ?_⟩
  · rintro rfl
    exact slash_not_mem_encode slashless _ inside
  · rintro rfl
    exact not_mem_encode (by decide) (by decide) piece inside

theorem ascii_segmentOf (slashless : '/' ∉ piece) : ∀ c ∈ segmentOf piece, c.toNat < 0x80 :=
  fun c member => (isSegmentChar_segmentOf slashless c member).plain.2.1

theorem isSingleDot_segmentOf (slashless : '/' ∉ piece) :
    isSingleDot (segmentOf piece) ↔ piece = ['.'] := by
  constructor
  · intro dots
    exact (stands_segmentOf piece).unique (stands_of_isSingleDot (ascii_segmentOf slashless) dots)
  · rintro rfl
    decide

theorem isDoubleDot_segmentOf (slashless : '/' ∉ piece) :
    isDoubleDot (segmentOf piece) ↔ piece = Path.up := by
  constructor
  · intro dots
    exact (stands_segmentOf piece).unique (stands_of_isDoubleDot (ascii_segmentOf slashless) dots)
  · rintro rfl
    decide

theorem isSegment_segmentOf (slashless : '/' ∉ piece) (single : piece ≠ ['.'])
    (double : piece ≠ Path.up) : IsSegment (segmentOf piece) where
  written := isSegmentChar_segmentOf slashless
  single := Bool.eq_false_iff.mpr fun dots => single ((isSingleDot_segmentOf slashless).mp dots)
  double := Bool.eq_false_iff.mpr fun dots => double ((isDoubleDot_segmentOf slashless).mp dots)

/-- The letter of a drive in a path is in its normal form, as bars are encoded. -/
theorem startsNormal_map_segmentOf (pieces : List (List Char)) :
    StartsNormal (pieces.map segmentOf) := by
  have barless (piece : List Char) : '|' ∉ segmentOf piece := by
    have digits : ∀ n < 16, '|' ≠ hexDigit n := by decide
    intro member
    rcases mem_encode member with ⟨inside, _⟩ | same | ⟨n, small, same⟩
    · exact not_mem_encode (by decide) (by decide) piece inside
    · cases same
    · exact digits n small same
  cases pieces with
  | nil => exact startsNormal_nil
  | cons piece rest =>
      rintro _ ⟨⟩ named
      obtain ⟨letter, mark, whole⟩ := eq_of_isDriveLetter named
      rw [whole] at named ⊢
      simp only [isDriveLetter, Bool.and_eq_true, Bool.or_eq_true, beq_iff_eq] at named
      rcases named with ⟨alpha, rfl | rfl⟩
      · exact alpha
      · exact absurd (by rw [whole]; simp) (barless piece)

end Segments

/-! ## The URL of a path -/

theorem encode_join {set : Char → Bool} (slash : set '/' = false) (pieces : List (List Char)) :
    encode set (join '/' pieces) = join '/' (pieces.map (encode set)) := by
  induction pieces with
  | nil => rfl
  | cons piece rest ih =>
      cases rest with
      | nil => rfl
      | cons next more =>
          have cut : join '/' (piece :: next :: more) = piece ++ '/' :: join '/' (next :: more) :=
            rfl
          rw [cut, encode_append, encode_cons, slash, if_neg Bool.false_ne_true, ih]
          rfl

theorem split_encode {set : Char → Bool} (slash : set '/' = false) (s : List Char) :
    split '/' (encode set s) = (split '/' s).map (encode set) := by
  conv_lhs => rw [← join_split '/' s, encode_join slash]
  apply split_join (by simp [split_ne_nil])
  rw [List.forall_mem_map]
  exact fun piece member => slash_not_mem_encode (not_mem_of_mem_split member) set

theorem path_ofPath (rest : List Char) :
    (ofPath ('/' :: rest)).host = [] ∧ (ofPath ('/' :: rest)).path =
      pushSegments [] ((split '/' (trimmed rest)).map (encode isReservedInPath)) := by
  have cleaned : clean (encode isReservedInPath ('/' :: rest)) =
      '/' :: encode isReservedInPath (trimmed rest) := by
    rw [clean_encode, ← List.nil_append ('/' :: rest), trimmed_append_slash]
    rfl
  generalize text : encode isReservedInPath (trimmed rest) = e at cleaned
  have read : withHost? ('/' :: e) = some (withPath [] [] e) := by
    simp [withHost?, isSlash, isDriveLetter]
  have unmarked : ∀ c ∈ e, c ≠ '?' ∧ c ≠ '#' := by
    subst text
    refine fun c member => ⟨?_, ?_⟩ <;>
      · rintro rfl
        exact not_mem_encode (by decide) (by decide) _ member
  have straight : '\\' ∉ e := by
    subst text
    exact not_mem_encode (by decide) (by decide) _
  have url : ofPath ('/' :: rest) = withPath [] [] e := by
    unfold ofPath
    rw [cleaned, read]
    rfl
  rw [url]
  refine ⟨rfl, ?_⟩
  rw [path_withPath, front_eq_self unmarked, slashed_of_not_mem straight, ← text,
    split_encode (by decide)]

/-- The URL of a path is one of this machine that can be written and read. -/
theorem ofPath_written (rest : List Char) : (ofPath ('/' :: rest)).path ≠ [] ∧
    (∀ segment ∈ (ofPath ('/' :: rest)).path, IsSegment segment) ∧
    StartsNormal (ofPath ('/' :: rest)).path := by
  rw [(path_ofPath rest).2]
  refine ⟨pushSegments_ne_nil _ (by simp [split_ne_nil]), ?_, startsNormal_nil.pushSegments _⟩
  apply isSegment_pushSegments (List.forall_mem_nil _)
  rw [List.forall_mem_map]
  refine fun piece member c inside => ⟨?_, ?_⟩
  · rintro rfl
    exact slash_not_mem_encode (not_mem_of_mem_split member) _ inside
  · rintro rfl
    exact not_mem_encode (by decide) (by decide) piece inside

/-- The segments of the URL of a path: those of the names up to the last one, and behind them what
becomes of the last one without its controls. -/
theorem path_ofPath_ofSegments {front : List (List Char)} {last : List Char}
    (plain : Path.Plain front) (slashless : '/' ∉ last) :
    (ofPath (Path.ofSegments (front ++ [last]))).host = [] ∧
      (ofPath (Path.ofSegments (front ++ [last]))).path =
        pushSegment true (front.map segmentOf) (segmentOf (trimmed last)) := by
  have short : '/' ∉ trimmed last := fun member =>
    slashless ((List.rdropWhile_prefix _ _).subset member)
  have pieces : split '/' (trimmed (join '/' (front ++ [last]))) = front ++ [trimmed last] := by
    by_cases only : front = []
    · subst only
      exact split_of_not_mem short
    · rw [Path.join_concat only, trimmed_append_slash, split_append_cons,
        split_join only fun name member => (plain name member).2, split_of_not_mem short]
  obtain ⟨here, path⟩ := path_ofPath (join '/' (front ++ [last]))
  refine ⟨here, ?_⟩
  have inside : ∀ segment ∈ front.map (encode isReservedInPath),
      IsSegment (encode isPathSet segment) := by
    rw [List.forall_mem_map]
    intro name member
    obtain ⟨⟨step, down⟩, slashless⟩ := plain name member
    exact isSegment_segmentOf slashless step.2 down
  have normal := startsNormal_map_segmentOf front
  unfold segmentOf at normal
  rw [Path.ofSegments, path, pieces, List.map_append, List.map_singleton,
    pushSegments_concat inside (.inr (by rwa [List.map_map])), List.nil_append, List.map_map]
  rfl

/-- What becomes of a last piece that may be dots. -/
theorem pushSegment_segmentOf (front : List (List Char)) {last : List Char}
    (slashless : '/' ∉ last) : ∃ pieces,
      pushSegment true (front.map segmentOf) (segmentOf last) = pieces.map segmentOf ∧
      ((last ≠ ['.'] ∧ last ≠ Path.up ∧ pieces = front ++ [last]) ∨
        ∃ kept, kept.Sublist front ∧ pieces = kept ++ [[]] ∧ (last = ['.'] ∨ last = Path.up)) := by
  have gap : segmentOf [] = [] := rfl
  by_cases double : last = Path.up
  · obtain ⟨kept, part, whole⟩ := List.sublist_map_iff.mp (shorten_sublist (front.map segmentOf))
    refine ⟨kept ++ [[]], ?_, .inr ⟨kept, part, rfl, .inr double⟩⟩
    unfold pushSegment
    rw [if_pos ((isDoubleDot_segmentOf slashless).mpr double), if_pos rfl, whole, List.map_append,
      List.map_singleton, gap]
  · by_cases single : last = ['.']
    · refine ⟨front ++ [[]], ?_, .inr ⟨front, List.Sublist.refl _, rfl, .inl single⟩⟩
      unfold pushSegment
      rw [if_neg (mt (isDoubleDot_segmentOf slashless).mp double),
        if_pos ((isSingleDot_segmentOf slashless).mpr single), if_pos rfl, List.map_append,
        List.map_singleton, gap]
    · refine ⟨front ++ [last], ?_, .inl ⟨single, double, rfl⟩⟩
      rw [pushSegment_eq_append (isSegment_segmentOf slashless single double)
        (.inr (startsNormal_map_segmentOf [last])), List.map_append, List.map_singleton]

end Url.FileUrl

/-! ## Identifiers of paths -/

open Url.FileUrl

namespace Identifier

variable {front : List (List Char)} {last : List Char}

/-- The identifier of a path names the pieces from which the segments of its URL are made. -/
theorem filePath?_of_pieces {rest : List Char} {pieces : List (List Char)}
    (path : (ofPath ('/' :: rest)).path = pieces.map segmentOf)
    (slashless : ∀ piece ∈ pieces, '/' ∉ piece) :
    filePath? (String.ofList (ofAbsolutePath ('/' :: rest))) =
      some (String.ofList (pathText pieces)) := by
  obtain ⟨nonempty, inside, normal⟩ := ofPath_written rest
  have here := (path_ofPath rest).1
  have stands : List.Forall₂ Url.Stands (ofPath ('/' :: rest)).path pieces := by
    rw [path]
    exact forall₂_segmentOf pieces
  unfold ofAbsolutePath
  rw [filePath?_href here nonempty inside normal, filePath?_of_stands here stands slashless,
    Option.map_some]

theorem endsInControl_ofSegments (filled : last ≠ []) :
    EndsInControl (Path.ofSegments (front ++ [last])) ↔ EndsInControl last := by
  have ending : ∃ before, Path.ofSegments (front ++ [last]) = before ++ last := by
    by_cases only : front = []
    · subst only
      exact ⟨['/'], rfl⟩
    · refine ⟨'/' :: (join '/' front ++ ['/']), ?_⟩
      rw [Path.ofSegments, Path.join_concat only]
      simp
  obtain ⟨before, whole⟩ := ending
  unfold EndsInControl
  rw [whole, List.getLast?_append_of_ne_nil _ filled]

theorem length_pathText_concat (pieces : List (List Char)) (final : List Char) :
    (pathText (pieces ++ [final])).length = (pathText pieces).length + (final.length + 1) := by
  rw [pathText_append, List.length_append, Nat.add_left_cancel_iff]
  exact congrArg List.length (List.append_nil ('/' :: final))

theorem pathText_concat_eq_iff_of_prefix {start : List Char} (begins : start <+: last) :
    pathText (front ++ [start]) = pathText (front ++ [last]) ↔ start = last := by
  refine ⟨fun same => begins.eq_of_length ?_, fun same => same ▸ rfl⟩
  have long := congrArg List.length same
  rw [length_pathText_concat, length_pathText_concat] at long
  omega

/-- The text of a directory of a path is too short for the path. -/
theorem pathText_directory_ne {kept : List (List Char)} (part : kept.Sublist front)
    (filled : last ≠ []) : pathText (kept ++ [[]]) ≠ pathText (front ++ [last]) := by
  intro same
  have long := congrArg List.length same
  have few : (pathText kept).length ≤ (pathText front).length := (part.flatMap _).length_le
  have character := List.length_pos_of_ne_nil filled
  rw [length_pathText_concat, length_pathText_concat, List.length_nil] at long
  omega

/-- The identifier of a worked out path names this path, unless a control at its end is lost. -/
theorem filePath?_ofAbsolutePath {names : List (List Char)} (plain : Path.Plain names) :
    ∃ q, filePath? (String.ofList (ofAbsolutePath (Path.ofSegments names))) =
        some (String.ofList q) ∧
      (q = Path.ofSegments names ↔ ¬ EndsInControl (Path.ofSegments names)) := by
  rcases List.eq_nil_or_concat' names with rfl | ⟨front, last, rfl⟩
  · have root : (ofPath ['/']).path = [[]].map segmentOf := by decide
    refine ⟨pathText [[]], filePath?_of_pieces root (by simp), ?_⟩
    decide
  · obtain ⟨⟨⟨filled, single⟩, double⟩, slashless⟩ := plain last (by simp)
    have before : Path.Plain front := fun name member => plain name (List.mem_append_left _ member)
    have start : trimmed last <+: last := List.rdropWhile_prefix _ _
    have short : '/' ∉ trimmed last := fun member => slashless (start.subset member)
    obtain ⟨pieces, whole, cases⟩ := pushSegment_segmentOf front short
    have text : Path.ofSegments (front ++ [last]) = pathText (front ++ [last]) := by
      rw [pathText_eq_join (by simp)]
      rfl
    refine ⟨pathText pieces, filePath?_of_pieces
      ((path_ofPath_ofSegments before slashless).2.trans whole) ?_, ?_⟩
    · rcases cases with ⟨_, _, rfl⟩ | ⟨kept, part, rfl, _⟩
      · exact List.forall_mem_append.mpr
          ⟨fun name member => (before name member).2, List.forall_mem_singleton.mpr short⟩
      · exact List.forall_mem_append.mpr
          ⟨fun name member => (before name (part.subset member)).2,
            List.forall_mem_singleton.mpr List.not_mem_nil⟩
    · rw [endsInControl_ofSegments filled, ← trimmed_eq_self_iff, text]
      rcases cases with ⟨_, _, rfl⟩ | ⟨kept, part, rfl, dots⟩
      · exact pathText_concat_eq_iff_of_prefix start
      · -- the dots are followed to a directory, so they have not been all of the name
        refine iff_of_false (pathText_directory_ne part filled) fun same => ?_
        rw [same] at dots
        exact absurd dots (not_or.mpr ⟨single, double⟩)

section

variable [Host]

/-- An identifier that is made for a path names this path, unless a control at its end is lost. -/
theorem filePath?_ofFilePath (p : String) :
    ∃ q, filePath? (ofFilePath p) = some q ∧
      (q = Path.absoluteString p ↔ ¬ EndsInControl (Path.absoluteString p).toList) := by
  obtain ⟨q, names, same⟩ := filePath?_ofAbsolutePath (Path.plain_segments _)
  refine ⟨String.ofList q, names, ?_⟩
  unfold Path.absoluteString
  rw [String.toList_ofList, String.ofList_inj]
  exact same

/-- The same of a path that is counted from a directory. -/
theorem filePath?_ofFilePath_resolve (directory p : String) :
    ∃ q, filePath? (ofFilePath (Path.resolve directory p)) = some q ∧
      (q = Path.resolve directory p ↔ ¬ EndsInControl (Path.resolve directory p).toList) := by
  have names := filePath?_ofFilePath (Path.resolve directory p)
  rwa [Path.absoluteString_resolve] at names

theorem not_endsInControl_entryDocument (directory : String) :
    ¬ EndsInControl (EntryDocument.path directory).toList := by
  have isName : Path.IsName EntryDocument.fileName.toList := by decide
  obtain ⟨front, whole⟩ := Path.resolveFrom_name isName (by decide) directory.toList
  unfold EntryDocument.path Path.resolve
  rw [String.toList_ofList, whole, endsInControl_ofSegments (by decide)]
  decide

/-- Identifiers of files are faithful to the paths for which they are made, except for the controls
with which a path may end. The entry document is always claimed by its resolver, and what an
argument of the command line names is not changed by asking again. -/
theorem ofFilePath_faithful (p directory : String) :
    (∃ q, filePath? (ofFilePath p) = some q ∧
      (q = Path.absoluteString p ↔ ¬ EndsInControl (Path.absoluteString p).toList)) ∧
    (∀ other, ¬ EndsInControl (Path.absoluteString p).toList →
      ¬ EndsInControl (Path.absoluteString other).toList → ofFilePath p = ofFilePath other →
        Path.absoluteString p = Path.absoluteString other) ∧
    (∀ entry, (Resolver.ofEntry entry directory).claims (EntryDocument.identifier directory)) ∧
    (scheme? p = none →
      (∃ q, filePath? (ofArgument p directory) = some q ∧
        (q = Path.resolve directory p ↔ ¬ EndsInControl (Path.resolve directory p).toList)) ∧
      ∀ later, ofArgument (ofArgument p directory) later = ofArgument p directory) := by
  refine ⟨filePath?_ofFilePath p, fun other kept kept' same => ?_, fun entry => ?_,
    fun schemeless => ?_⟩
  · obtain ⟨q, names, path⟩ := filePath?_ofFilePath p
    obtain ⟨q', names', path'⟩ := filePath?_ofFilePath other
    obtain rfl : q = q' := by
      rw [same, names'] at names
      exact (Option.some.inj names).symm
    exact (path.mpr kept).symm.trans (path'.mpr kept')
  · obtain ⟨q, names, path⟩ := filePath?_ofFilePath_resolve directory EntryDocument.fileName
    obtain rfl := path.mpr (not_endsInControl_entryDocument directory)
    rw [Resolver.claims_ofEntry]
    unfold EntryDocument.IsNamed EntryDocument.identifier EntryDocument.path
    rw [names, Option.map_some, Path.absoluteString_resolve]
  · have file : ofArgument p directory = ofFilePath (Path.resolve directory p) := by
      unfold ofArgument
      rw [schemeless]
      rfl
    obtain ⟨q, names, path⟩ := filePath?_ofFilePath_resolve directory p
    refine ⟨⟨q, by rw [file, names], path⟩, fun later => ?_⟩
    have scheme := hasScheme_file.mp (url_of_filePath? names).1
    rw [file, ofArgument, scheme]
    rfl

end

/-- The identifier of a path that ends in a control is that of another path, and names this one. A
control inside a path is kept, as are percent signs, number signs and question marks. -/
theorem ofFilePath_faithful_of_control :
    (∃ q, filePath? (ofArgument "x\x01" "/w") = some q ∧ q ≠ "/w/x\x01") ∧
    ofFilePath "/w/x\x01" = ofFilePath "/w/x" ∧
    (∀ other, ¬ EndsInControl (Path.absoluteString other).toList →
      ofFilePath "/w/%2F#?\x01.ts" = ofFilePath other →
        "/w/%2F#?\x01.ts" = Path.absoluteString other) := by
  obtain ⟨-, -, -, argument⟩ := ofFilePath_faithful "x\x01" "/w"
  obtain ⟨⟨q, names, path⟩, -⟩ := argument (by decide)
  obtain ⟨-, injective, -⟩ := ofFilePath_faithful "/w/%2F#?\x01.ts" "/w"
  exact ⟨⟨q, names, mt path.mp (not_not.mpr (by decide))⟩, by decide +kernel,
    fun other kept => injective other (by decide) kept⟩

end Identifier

end UnitResolution
