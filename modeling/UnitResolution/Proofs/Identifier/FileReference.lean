import UnitResolution.Proofs.Identifier.FilePath
import UnitResolution.Proofs.Identifier.Specifier
import UnitResolution.Proofs.Url.Walk

/-!
# Relative specifiers in files

In a unit that is a file, a relative specifier is followed as a reference from the URL of the file,
while a path is counted from the directory of another path. `resolveSpecifier_ofFilePath` says what
comes out for the unit at an absolute path: the file to which the specifier leads piece by piece
(`UnitResolution.Url.walk`), whatever is encoded in it, comes behind a question mark or is a
backslash. This is the file that the specifier names as a path where nothing but slashes and dots
means something in it (`UnitResolution.Url.ReadsAsPath`), where no letter of a drive is in the way
(`UnitResolution.Url.AvoidsDrives`) and no step up meets an empty piece
(`UnitResolution.Url.Straight`).

The directory of the path has to be that of the file. It is another one for a path that ends with
dots, as its directory is taken from its text.
-/

namespace UnitResolution

open Text Url FileUrl

/-! ## References -/

namespace Url

variable {s : List Char} {pieces : List (List Char)}

/-- The pieces of a path for which a reference stands. -/
structure Reads (reference : List Char) (pieces : List (List Char)) : Prop where
  stands : List.Forall₂ Stands (segmentsOf reference) pieces
  slashless : ∀ piece ∈ pieces, '/' ∉ piece

/-- A text in which nothing means something in a URL that does not in a path. -/
structure ReadsAsPath (s : List Char) : Prop where
  unmarked : s.all (· ∉ "%?#\\\t\n\r".toList)
  visible : s.getLast?.all (0x20 < ·.toNat)

theorem ReadsAsPath.not_mem (asPath : ReadsAsPath s) {c : Char} (inside : c ∈ s) :
    c ∉ "%?#\\\t\n\r".toList :=
  of_decide_eq_true (List.all_eq_true.mp asPath.unmarked c inside)

theorem ReadsAsPath.segmentsOf_eq (asPath : ReadsAsPath s) : segmentsOf s = split '/' s := by
  have other {c : Char} (mark : c ∈ "%?#\\\t\n\r".toList) : c ∉ s := fun inside =>
    asPath.not_mem inside mark
  have cleaned : clean s = s := by
    have kept : s.reverse.dropWhile (fun c => decide (c.toNat ≤ 0x20)) = s.reverse := by
      rcases List.eq_nil_or_concat' s with rfl | ⟨before, c, rfl⟩
      · rfl
      · have beyond := asPath.visible
        rw [List.getLast?_concat, Option.all_some, decide_eq_true_eq] at beyond
        rw [List.reverse_concat', List.dropWhile_cons_of_neg]
        rw [decide_eq_true_eq]
        omega
    unfold clean
    dsimp only
    rw [kept, List.reverse_reverse]
    exact filter_of_not_mem (other (by decide)) (other (by decide)) (other (by decide))
  have whole : front s = s :=
    front_eq_self fun c inside => ⟨fun same => other (by decide) (same ▸ inside),
      fun same => other (by decide) (same ▸ inside)⟩
  rw [segmentsOf, cleaned, whole, slashed_of_not_mem (other (by decide))]

theorem ReadsAsPath.reads (asPath : ReadsAsPath s) : Reads s (split '/' s) := by
  refine ⟨?_, fun piece member => not_mem_of_mem_split member⟩
  rw [asPath.segmentsOf_eq, List.forall₂_same]
  refine fun piece member => stands_self fun percent => ?_
  have inside : '%' ∈ '/' :: s := by
    rw [← pathText_split]
    exact List.mem_flatMap.mpr ⟨piece, member, List.mem_cons_of_mem _ percent⟩
  rcases List.mem_cons.mp inside with slash | inside
  · cases slash
  · exact asPath.not_mem inside (by decide)

end Url

namespace Identifier

variable {p s : String}

theorem startsWithDriveLetter_of_isRelative {s : List Char} (relative : isRelative s) :
    startsWithDriveLetter (clean s) = false := by
  obtain ⟨more, rfl⟩ := exists_of_isRelative relative
  have dot := clean_append (s := ['.']) (List.forall_mem_singleton.mpr (by decide)) more
  rw [List.singleton_append] at dot
  rw [dot, List.singleton_append]
  cases clean more <;> rfl

/-- A relative specifier in a file is followed from the URL of the file. -/
theorem resolveSpecifier_of_parse? {unit : List Char} {base : FileUrl}
    (relative : isRelative s.toList)
    (claimed : fileScheme.toList.isPrefixOf (lowerCase unit)) (read : parse? unit = some base) :
    resolveSpecifier s (String.ofList unit) = .ok (String.ofList (base.follow s.toList).href) := by
  unfold resolveSpecifier resolveChars
  rw [schemeOf?_of_isRelative relative, if_neg nofun, isAbsolute_of_isRelative relative,
    if_neg nofun, if_pos relative, String.toList_ofList]
  unfold resolveRelative
  rw [if_pos claimed, read]
  rfl

/-- The URL of a worked out path: a reference is counted from the names up to the last one. -/
theorem exists_base {names : List (List Char)} (plain : Path.Plain names) :
    ∃ base, parse? (ofAbsolutePath (Path.ofSegments names)) = some base ∧ base.host = [] ∧
      (∀ segment ∈ base.path, IsSegment segment) ∧ StartsNormal base.path ∧
      (¬ EndsInControl (Path.ofSegments names) →
        (names.dropLast = [] → ∀ first ∈ names, isDriveLetter first = false) →
          shorten base.path = names.dropLast.map segmentOf) := by
  obtain ⟨nonempty, inside, normal⟩ := ofPath_written (join '/' names)
  obtain ⟨base, read, host, path⟩ := parse_href (path_ofPath _).1 nonempty inside normal
  refine ⟨base, read, host, path ▸ inside, path ▸ normal, fun kept other => ?_⟩
  rw [path]
  rcases List.eq_nil_or_concat' names with rfl | ⟨front, last, rfl⟩
  · decide
  · obtain ⟨name, slashless⟩ := plain last (by simp)
    have before : Path.Plain front := fun name member => plain name (List.mem_append_left _ member)
    rw [endsInControl_ofSegments name.1.1, ← trimmed_eq_self_iff] at kept
    have pieces : (ofPath (Path.ofSegments (front ++ [last]))).path =
        (front ++ [last]).map segmentOf := by
      rw [(path_ofPath_ofSegments before slashless).2, kept, List.map_append,
        pushSegment_eq_append (isSegment_segmentOf slashless name.1.2 name.2)
          (.inr (startsNormal_map_segmentOf [last]))]
      rfl
    unfold Path.ofSegments at pieces
    rw [pieces, shorten_eq_dropLast (forall₂_segmentOf _) other, List.map_dropLast]

/-- What a reference names in a worked out path, piece by piece. -/
theorem filePath?_follow {names pieces : List (List Char)} {base : FileUrl} {reference : List Char}
    (plain : Path.Plain names) (relative : isRelative reference) (reads : Reads reference pieces)
    (avoids : AvoidsDrives names.dropLast pieces)
    (here : base.host = []) (inside : ∀ segment ∈ base.path, IsSegment segment)
    (normal : StartsNormal base.path) (back : shorten base.path = names.dropLast.map segmentOf) :
    filePath? (String.ofList (base.follow reference).href) =
      some (String.ofList (pathText (walk names.dropLast pieces))) := by
  have path : (base.follow reference).path =
      pushSegments (names.dropLast.map segmentOf) (segmentsOf reference) := by
    rw [path_follow, startsWithDriveLetter_of_isRelative relative, if_neg Bool.false_ne_true, back]
  have stands : List.Forall₂ Stands (base.follow reference).path (walk names.dropLast pieces) := by
    rw [path]
    exact stands_pushSegments (forall₂_segmentOf _) reads.stands
      (fun segment => plain_of_mem_slashed) avoids
  have slashless : ∀ piece ∈ walk names.dropLast pieces, '/' ∉ piece :=
    forall_walk List.not_mem_nil (fun name member => (plain.dropLast name member).2)
      fun piece member _ _ => reads.slashless piece member
  have normal' : StartsNormal (base.follow reference).path := by
    rw [path, ← back]
    exact normal.shorten.pushSegments _
  have same : (base.follow reference).host = [] := (host_follow base reference).trans here
  rw [filePath?_href same (path_follow_ne_nil base reference)
    (isSegment_follow base reference inside) normal', filePath?_of_stands same stands slashless,
    Option.map_some]

/-- Where a straight way ends in a path. -/
theorem absolute_pathText_walk [Host] {names pieces : List (List Char)} {directory : List Char}
    (plain : Path.Plain names) (rooted : Path.isAbsolute directory)
    (located : Path.segments directory = names) (nonempty : pieces ≠ [])
    (slashless : ∀ piece ∈ pieces, '/' ∉ piece)
    (relative : Path.isAbsolute (join '/' pieces) = false) (straight : Straight names pieces) :
    Path.absolute (pathText (walk names pieces)) =
      Path.resolveFrom directory (join '/' pieces) := by
  have filled : walk names pieces ≠ [] := walk_ne_nil nonempty
  have dotless : Dotless names := fun name member =>
    ⟨(plain name member).1.2, (plain name member).1.1.2⟩
  have down : Path.up ∉ walk names pieces := fun member =>
    forall_walk (P := (· ≠ Path.up)) (by decide) (fun name member => (dotless name member).1)
      (fun piece _ down _ => down) Path.up member rfl
  have inside : ∀ piece ∈ walk names pieces, '/' ∉ piece :=
    forall_walk List.not_mem_nil (fun name member => (plain name member).2)
      fun piece member _ _ => slashless piece member
  have ends : Path.segments (pathText (walk names pieces)) =
      Path.steps (walk names pieces) := by
    rw [Path.segments, pathText_eq_join filled, ← List.nil_append ('/' :: _),
      split_append_cons, split_join filled inside, Path.reduce_of_not_mem]
    · rfl
    · exact List.not_mem_cons_of_ne_of_not_mem (by decide) down
  have before : (split '/' directory).foldl (Path.push false) [] = names.reverse := by
    rw [← located]
    exact (List.reverse_reverse _).symm
  have steps := steps_walk dotless straight
  rw [plain.steps_eq] at steps
  have absolute : Path.isAbsolute (pathText (walk names pieces)) := by
    rw [pathText_eq_join filled]
    rfl
  rw [Path.absolute_of_isAbsolute absolute, Path.workedOut, ends, steps,
    Path.resolveFrom_eq rooted relative, split_join nonempty slashless, Path.reduce,
    List.foldl_append, before]

/-- The pieces of a relative reference are the pieces of a relative path. -/
theorem isAbsolute_join_of_reads {reference : List Char} {pieces : List (List Char)}
    (relative : isRelative reference) (reads : Reads reference pieces) :
    pieces ≠ [] ∧ Path.isAbsolute (join '/' pieces) = false := by
  obtain ⟨more, rfl⟩ := exists_of_isRelative relative
  obtain ⟨stands, slashless⟩ := reads
  have dot : clean ('.' :: more) = '.' :: clean more :=
    clean_append (s := ['.']) (List.forall_mem_singleton.mpr (by decide)) more
  have first : ∃ rest, (segmentsOf ('.' :: more)).head? = some ('.' :: rest) := by
    rw [segmentsOf, dot, front, fst_cutAt, fst_cutAt, slashed, head?_split]
    exact ⟨_, rfl⟩
  obtain ⟨rest, first⟩ := first
  generalize segmentsOf ('.' :: more) = segments at stands first
  cases stands with
  | nil => cases first
  | @cons segment piece segments pieces begins others =>
      cases first
      have head : (split '/' (join '/' (piece :: pieces))).head? = some piece := by
        rw [split_join (List.cons_ne_nil _ _) slashless, List.head?_cons]
      refine ⟨List.cons_ne_nil _ _, Path.isAbsolute_of_head head ?_⟩
      rintro rfl
      unfold Stands at begins
      rw [decodeStrict?_cons (by decide)] at begins
      obtain ⟨_, _, same⟩ := Option.map_eq_some_iff.mp begins
      cases same

/-- What a relative specifier names in the unit at an absolute path. Dots alone are taken for a
package. Anything else names a file: the place to which the pieces lead for which the specifier
stands, and where the way is straight, the path that these pieces name from the directory. -/
theorem resolveSpecifier_ofFilePath [Host] (p s : String) (rooted : Path.isAbsolute p.toList) :
    let names := Path.segments p.toList
    (s = "." ∨ s = ".." → resolveSpecifier s (ofFilePath p) = .ok (packageScheme ++ s)) ∧
    (isRelative s.toList → ∃ identifier, resolveSpecifier s (ofFilePath p) = .ok identifier ∧
      scheme? identifier = some "file" ∧
      (¬ EndsInControl (Path.absoluteString p).toList →
        (∀ pieces, Reads s.toList pieces → AvoidsDrives names (Path.up :: pieces) →
          filePath? identifier =
              some (String.ofList (pathText (walk names.dropLast pieces))) ∧
            (Straight names.dropLast pieces →
              Path.segments (Path.directory p.toList) = names.dropLast →
              Path.absolute (pathText (walk names.dropLast pieces)) =
                Path.resolveFrom (Path.directory p.toList) (join '/' pieces))) ∧
        (ReadsAsPath s.toList → AvoidsDrives names (Path.up :: split '/' s.toList) →
          Straight names.dropLast (split '/' s.toList) →
          Path.segments (Path.directory p.toList) = names.dropLast →
          ∃ q, filePath? identifier = some q ∧
            Path.absoluteString q = Path.resolve (Path.directoryString p) s))) := by
  intro names
  refine ⟨?_, fun relative => ?_⟩
  · rintro (rfl | rfl) <;> rfl
  have plain : Path.Plain names := Path.plain_segments _
  have absolute : Path.absolute p.toList = Path.ofSegments names :=
    Path.absolute_of_isAbsolute rooted
  obtain ⟨base, read, here, inside, normal, back⟩ := exists_base plain
  rw [← absolute] at read back
  refine ⟨String.ofList (base.follow s.toList).href,
    resolveSpecifier_of_parse? relative (claimed_href _) read, hasScheme_file.mp ?_,
    fun kept => ?_⟩
  · rw [hasScheme, String.toList_ofList]
    exact claimed_href _
  rw [Path.absoluteString, String.toList_ofList] at kept
  have reached {pieces : List (List Char)} (reads : Reads s.toList pieces)
      (avoids : AvoidsDrives names (Path.up :: pieces)) :=
    filePath?_follow plain relative reads avoids.2 here inside normal (back kept (avoids.1.2 rfl))
  have resolves {pieces : List (List Char)} (reads : Reads s.toList pieces)
      (straight : Straight names.dropLast pieces)
      (located : Path.segments (Path.directory p.toList) = names.dropLast) :
      Path.absolute (pathText (walk names.dropLast pieces)) =
        Path.resolveFrom (Path.directory p.toList) (join '/' pieces) := by
    obtain ⟨nonempty, still⟩ := isAbsolute_join_of_reads relative reads
    exact absolute_pathText_walk plain.dropLast (Path.isAbsolute_directory rooted) located nonempty
      reads.slashless still straight
  refine ⟨fun pieces reads avoids => ⟨reached reads avoids, resolves reads⟩,
    fun asPath avoids straight located => ⟨_, reached asPath.reads avoids, ?_⟩⟩
  rw [Path.absoluteString, String.toList_ofList, resolves asPath.reads straight located,
    join_split, Path.resolve, Path.directoryString, String.toList_ofList]

/-- A number sign begins a fragment, so the file is not the one at the path with this sign. Where
nothing but slashes and dots means something, the file is the one at the path. -/
theorem resolveSpecifier_ofFilePath_of_fragment :
    resolveSpecifier ".." (ofFilePath "/p/m.ts") = .ok "pkg:.." ∧
    (∃ identifier, resolveSpecifier "./a#b.ts" (ofFilePath "/p/m.ts") = .ok identifier ∧
      filePath? identifier = some "/p/a") ∧
    ∃ identifier q, resolveSpecifier "../c:/.//x y.ts" (ofFilePath "/p/q/m.ts") = .ok identifier ∧
      filePath? identifier = some q ∧ Path.absoluteString q = "/p/c:/x y.ts" := by
  refine ⟨(resolveSpecifier_ofFilePath "/p/m.ts" ".." rfl).1 (.inr rfl), ?_, ?_⟩
  · obtain ⟨identifier, found, -, further⟩ :=
      (resolveSpecifier_ofFilePath "/p/m.ts" "./a#b.ts" rfl).2 rfl
    have reads : Reads "./a#b.ts".toList [['.'], ['a']] := ⟨.cons rfl (.cons rfl .nil), by decide⟩
    exact ⟨identifier, found, ((further (by decide)).1 _ reads (by decide)).1⟩
  · obtain ⟨identifier, found, -, further⟩ :=
      (resolveSpecifier_ofFilePath "/p/q/m.ts" "../c:/.//x y.ts" rfl).2 rfl
    obtain ⟨q, names, path⟩ := (further (by decide)).2 ⟨by decide, by decide⟩ (by decide)
      (by decide) rfl
    exact ⟨identifier, q, found, names, path⟩

end Identifier

end UnitResolution
