import UnitResolution.Proofs.Context.Origin
import UnitResolution.Proofs.Identifier.Specifier
import UnitResolution.Proofs.Url.Encoding
import Mathlib.Algebra.Order.BigOperators.Group.List

/-!
# How long identifiers with sources are

Where a context has a source, the identifier leads to one of finitely many places. The path of a URL
of a file is not much longer than the place, but for its gaps
(`UnitResolution.Context.Origin.weight_path_le`). An identifier that ends in a shortened path is
not much longer than the place either (`UnitResolution.Context.Origin.length_le`), unless a library
of the runtime has the name of the directory above.
-/

namespace UnitResolution

open Text

/-! ## Files -/

namespace Url

open FileUrl UnitResolution.Path

/-- What a segment is decoded to is no dots, and holds a slash only where one is encoded. -/
theorem piece_of_decodes {segment piece : List Char} (decodes : Decodes segment piece)
    (isSegment : IsSegment segment) (unencoded : ¬ holdsEncodedSlash segment) :
    '/' ∉ piece ∧ piece ≠ ['.'] ∧ piece ≠ up := by
  have ascii : ∀ c ∈ segment, c.toNat < 0x80 := fun c inside =>
    (isSegment.written c inside).plain.2.1
  refine ⟨fun slash => ?_, ?_, ?_⟩
  · obtain ⟨bytes, read, spells⟩ := decodes
    obtain ⟨b, among, same⟩ := spells.mem_of_mem (by decide) slash
    rcases slash_of_mem ascii read among same with written | encoded
    · exact (isSegment.written _ written).2.1 rfl
    · exact unencoded encoded
  · rintro rfl
    exact Bool.false_ne_true (isSegment.single.symm.trans (isSingleDot_of_decodes ascii decodes))
  · rintro rfl
    exact Bool.false_ne_true (isSegment.double.symm.trans (isDoubleDot_of_decodes ascii decodes))

theorem pieces_of_decodes {path pieces : List (List Char)}
    (decodes : List.Forall₂ Decodes path pieces)
    (inside : ∀ segment ∈ path, IsSegment segment ∧ ¬ holdsEncodedSlash segment) :
    ∀ piece ∈ pieces, '/' ∉ piece ∧ piece ≠ ['.'] ∧ piece ≠ up := by
  induction decodes with
  | nil => exact List.forall_mem_nil _
  | cons first rest ih =>
      obtain ⟨segment, others⟩ := List.forall_mem_cons.mp inside
      exact List.forall_mem_cons.mpr ⟨piece_of_decodes first segment.1 segment.2, ih others⟩

theorem weight_le_of_decodes {path pieces : List (List Char)}
    (decodes : List.Forall₂ Decodes path pieces) (named : ['.'] ∉ pieces) :
    weight path ≤ 12 * weight (steps pieces) + path.count [] := by
  induction decodes with
  | nil => exact Nat.zero_le _
  | @cons segment piece path pieces first rest ih =>
      rw [List.mem_cons, not_or] at named
      have further := ih named.2
      have long := length_le_of_decodes first
      by_cases empty : piece = []
      · subst empty
        have none : segment = [] := List.length_eq_zero_iff.mp (Nat.le_zero.mp long)
        subst none
        have kept : steps ([] :: pieces) = steps pieces := List.filter_cons_of_neg (by decide)
        rw [kept, weight_cons, List.count_cons_self, List.length_nil]
        omega
      · have step : IsStep piece := ⟨empty, Ne.symm named.1⟩
        have more : path.count [] ≤ (segment :: path).count [] := List.count_le_count_cons
        have kept : steps (piece :: pieces) = piece :: steps pieces :=
          List.filter_cons_of_pos (decide_eq_true step)
        rw [kept, weight_cons, weight_cons]
        omega

theorem length_pathText (path : List (List Char)) : (pathText path).length = weight path := by
  induction path with
  | nil => rfl
  | cons segment rest ih =>
      rw [pathText_cons, weight_cons, List.length_cons, List.length_append, ih]
      omega

theorem count_le_gaps (path : List (List Char)) : path.count [] ≤ gaps path + 1 := by
  rcases List.eq_nil_or_concat' path with rfl | ⟨front, last, rfl⟩
  · exact Nat.zero_le _
  · have single : [last].count [] ≤ [last].length := List.count_le_length
    rw [gaps, List.dropLast_concat, List.count_append]
    exact Nat.add_le_add_left single _

/-- The path of a URL that names a file is not much longer than the place of the file, but for its
gaps. -/
theorem weight_path_le {u : FileUrl} {p : List Char} (nonempty : u.path ≠ [])
    (inside : ∀ segment ∈ u.path, IsSegment segment) (named : u.filePath? = some p) :
    u.host = [] ∧ isAbsolute p ∧
      weight u.path ≤ 12 * weight (Path.segments p) + gaps u.path + 1 := by
  unfold filePath? at named
  split at named
  · cases named
  · next here =>
      rw [Bool.or_eq_true, not_or, Bool.not_eq_true', Bool.not_eq_false, List.isEmpty_iff] at here
      obtain ⟨pieces, decodes, rfl⟩ := decodes_segments named
      have filled : pieces ≠ [] := by
        rintro rfl
        exact nonempty (List.forall₂_nil_right_iff.mp decodes)
      have plain := pieces_of_decodes decodes fun segment member =>
        ⟨inside segment member, fun holds => here.2 <| by
          rw [holdsEncodedSlash_pathText]
          exact List.any_eq_true.mpr ⟨segment, member, holds⟩⟩
      have whole : split '/' (pathText pieces) = [] :: pieces := by
        rw [pathText_eq_join filled, split, if_pos rfl,
          split_join filled fun piece member => (plain piece member).1]
      have down : up ∉ [] :: pieces := by
        rw [List.mem_cons, not_or]
        exact ⟨by decide, fun member => (plain _ member).2.2 rfl⟩
      have place : Path.segments (pathText pieces) = steps pieces := by
        rw [Path.segments, whole, reduce_of_not_mem down]
        exact List.filter_cons_of_neg (by decide)
      have rooted : isAbsolute (pathText pieces) := by
        rw [pathText_eq_join filled]
        rfl
      have long := weight_le_of_decodes decodes fun member => (plain _ member).2.1 rfl
      have few := count_le_gaps u.path
      refine ⟨here.1, rooted, ?_⟩
      rw [place]
      omega

/-- A URL without escapes names the path that it is written with. -/
theorem filePath_href {u : FileUrl} (here : u.host = []) (nonempty : u.path ≠ [])
    (inside : ∀ segment ∈ u.path, IsSegment segment) (normal : StartsNormal u.path)
    (unescaped : ∀ segment ∈ u.path, '%' ∉ segment) :
    Identifier.filePath? (String.ofList u.href) = some (String.ofList (pathText u.path)) := by
  have stands : List.Forall₂ Stands u.path u.path :=
    List.forall₂_same.mpr fun segment member => stands_self (unescaped segment member)
  have slashless : ∀ segment ∈ u.path, '/' ∉ segment := fun segment member slash =>
    ((inside segment member).written _ slash).2.1 rfl
  rw [Identifier.filePath?_href here nonempty inside normal,
    filePath?_of_stands here stands slashless, Option.map_some]

end Url

/-! ## Places -/

variable [Host]

/-- Gaps do not matter for the place of a path. -/
theorem Disk.placeOf_pathText {path : List (List Char)} (nonempty : path ≠ [])
    (inside : ∀ segment ∈ path, Url.FileUrl.IsSegment segment) :
    placeOf (String.ofList (Url.FileUrl.pathText path)) = Path.steps path := by
  have slashless : ∀ segment ∈ path, '/' ∉ segment := fun segment member slash =>
    ((inside segment member).written _ slash).2.1 rfl
  have down : Path.up ∉ [] :: path := by
    rw [List.mem_cons, not_or]
    exact ⟨by decide, fun member => Bool.false_ne_true ((inside _ member).double.symm.trans rfl)⟩
  have text := Url.FileUrl.pathText_eq_join nonempty
  have rooted : Path.isAbsolute (Url.FileUrl.pathText path) := by
    rw [text]
    rfl
  rw [placeOf_of_isAbsolute rooted, Path.segments, text, split, if_pos rfl,
    split_join nonempty slashless, Path.reduce_of_not_mem down]
  exact List.filter_cons_of_neg (by decide)

omit [Host] in
theorem dropUnits_append (s t : List Char) : dropUnits (units s) (s ++ t) = t := by
  induction s with
  | nil => rw [units, List.nil_append, dropUnits]
  | cons c rest ih =>
      have some : 0 < unitsOf c := by
        unfold unitsOf
        split <;> decide
      obtain ⟨n, whole⟩ := Nat.exists_eq_succ_of_ne_zero (show units (c :: rest) ≠ 0 by
        rw [units]
        omega)
      have less : n + 1 - unitsOf c = units rest := by
        rw [units] at whole
        omega
      rw [List.cons_append, whole, dropUnits, less, ih]

/-- The file of a unit of a package lies where the steps of its path lead below the root. -/
theorem PackagePath.steps_of_ofIdentifier {q p root : List Char} (rooted : Path.isAbsolute root)
    (tidy : Path.Tidy (split '/' q))
    (inside : ofIdentifier (Identifier.packageScheme.toList ++ q) = .ok p) :
    Disk.placeOf (String.ofList (Path.joined root p)) =
      Path.segments root ++ Path.steps (split '/' q) := by
  unfold ofIdentifier at inside
  dsimp only at inside
  rw [dropUnits_append] at inside
  split at inside
  · cases inside
  · next named =>
      split at inside
      · cases inside
      · cases inside
        have first := head?_split '/' q
        have named : Path.IsStep (q.takeWhile (· != '/')) ∧ q.takeWhile (· != '/') ≠ Path.up := by
          simpa [isPackageName, Path.IsStep, and_assoc] using named
        have down : Path.up ∉ split '/' q := by
          intro member
          have same := first.symm.trans (tidy.climbing member)
          exact named.2 (Option.some.inj same)
        have relative : ¬ Path.isAbsolute q := by
          intro absolute
          obtain ⟨rest, rfl⟩ := Path.cons_of_isAbsolute absolute
          exact named.1.1 rfl
        obtain ⟨same, still⟩ := Path.steps_normalize relative down
        obtain ⟨absolute, place⟩ := Path.segments_joined rooted (Path.normalize_ne_nil q) still
        rw [Disk.placeOf_of_isAbsolute absolute, place, same]

/-- The file of a part of a library lies where the steps of the part lead below the directory of the
library. -/
theorem RuntimeDirectory.steps_of_partPath {entry path : String} {parts : List (List Char)}
    (slashless : ∀ part ∈ parts, '/' ∉ part) (down : Path.up ∉ parts)
    (named : partPath? entry parts = some path) :
    Disk.placeOf path = Path.segments (Path.directory entry.toList) ++ Path.steps parts := by
  unfold partPath? at named
  dsimp only at named
  split at named
  · have same := Option.some.inj named
    have pieces : ∀ piece ∈ split '/' (Path.directory entry.toList) ++ parts, '/' ∉ piece :=
      List.forall_mem_append.mpr ⟨fun piece => not_mem_of_mem_split, slashless⟩
    rw [← same, Disk.placeOf_of_isAbsolute rfl,
      Path.segments_ofSegments (Path.reduced_reduce false pieces), Path.reduce_append _ down]
    rfl
  · cases named

/-- The path of a unit of the runtime library, if it is in a normal form, is not much longer than
the name of its library and the place of its file together. -/
theorem Layout.length_le_of_fileOf {layout : Layout} {identifier path : String} {q : List Char}
    (whole : identifier.toList = "rt:".toList ++ q) (tidy : Path.Tidy (split '/' q))
    (below : layout.libraries.lookup ".." = none) (named : layout.fileOf? identifier = some path) :
    ∃ library ∈ layout.libraries,
      q.length ≤ library.1.length + weight (Disk.placeOf path) + 4 := by
  have pieces := weight_split '/' q
  have tight := tidy.weight_le
  have rest : dropUnits (units Identifier.runtimeScheme.toList) identifier.toList = q := by
    rw [whole]
    exact dropUnits_append Identifier.runtimeScheme.toList q
  unfold fileOf? at named
  rw [rest] at named
  split at named
  · cases named
  · next name parts cut =>
      rw [cut] at pieces tight tidy
      obtain ⟨entry, found, named⟩ := Option.bind_eq_some_iff.mp named
      refine ⟨_, Table.mem_of_lookup found, ?_⟩
      rw [← String.length_toList, String.toList_ofList]
      rw [weight_cons] at pieces tight
      split at named
      · next only =>
          rw [List.isEmpty_iff] at only
          subst only
          rw [weight_nil] at pieces
          omega
      · have down : Path.up ∉ parts := by
          intro member
          have first := tidy.climbing (List.mem_cons_of_mem name member)
          cases first
          cases below.symm.trans found
        have slashless : ∀ part ∈ parts, '/' ∉ part := fun part member =>
          not_mem_of_mem_split (cut ▸ List.mem_cons_of_mem name member)
        -- the name does not show in the place of the file, but the steps of the parts do
        have fewer := Path.weight_steps_cons_le name parts
        rw [RuntimeDirectory.steps_of_partPath slashless down named, weight_append]
        omega

/-! ## Origins -/

namespace Context

variable {configuration : Configuration} {directory : String} {layout? : Option Layout}
  {disk : Disk} {identifier contents : String}

/-- A size that nothing exceeds from which sources can come: no place of a file, no identifier of a
mock runtime library, and no name of a library. -/
structure Bounded (configuration : Configuration) (directory : String) (layout? : Option Layout)
    (disk : Disk) (size : Nat) : Prop where
  disk : ∀ e ∈ disk.entries, weight e.1 ≤ size
  entry : ∀ file, configuration.entry = .implicit file →
    ∀ held ∈ (EntryDocument.files file directory).files,
      weight (Path.segments held.1.toList) ≤ size
  mock : ∀ sources, configuration.runtime = .mock sources → ∀ unit ∈ sources, unit.1.length ≤ size
  libraries : ∀ layout, layout? = some layout →
    ∀ library ∈ layout.libraries, library.1.length ≤ size

omit [Host] in
theorem exists_le_of_list {α : Type} (f : α → Nat) (list : List α) :
    ∃ n, ∀ a ∈ list, f a ≤ n :=
  ⟨(list.map f).sum, fun _ member => List.single_le_sum (fun _ _ => Nat.zero_le _) _
    (List.mem_map_of_mem member)⟩

omit [Host] in
theorem exists_le_of_choice {α β γ : Type} {choice : α → γ} (injective : choice.Injective)
    (chosen : γ) (list : α → List β) (f : β → Nat) :
    ∃ n, ∀ a, chosen = choice a → ∀ b ∈ list a, f b ≤ n := by
  by_cases made : ∃ a, chosen = choice a
  · obtain ⟨a, rfl⟩ := made
    obtain ⟨n, all⟩ := exists_le_of_list f (list a)
    exact ⟨n, fun b same => injective same ▸ all⟩
  · exact ⟨0, fun a same => absurd ⟨a, same⟩ made⟩

variable (configuration directory layout? disk) in
theorem exists_bounded : ∃ size, Bounded configuration directory layout? disk size := by
  obtain ⟨a, places⟩ := exists_le_of_list (fun e : Place × Entry => weight e.1) disk.entries
  obtain ⟨b, entry⟩ := exists_le_of_choice (fun _ _ => EntryChoice.implicit.inj)
    configuration.entry (fun file => (EntryDocument.files file directory).files)
    fun held => weight (Path.segments held.1.toList)
  obtain ⟨c, mock⟩ := exists_le_of_choice (fun _ _ => RuntimeChoice.mock.inj)
    configuration.runtime id fun unit => unit.1.length
  obtain ⟨d, libraries⟩ := exists_le_of_choice (Option.some_injective Layout) layout?
    (fun layout => layout.libraries) fun library => library.1.length
  refine ⟨a + b + c + d, fun e member => ?_, fun file choice held member => ?_,
    fun sources choice unit member => ?_, fun layout known library member => ?_⟩
  · have le := places e member
    omega
  · have le := entry file choice held member
    omega
  · have le := mock sources choice unit member
    omega
  · have le := libraries layout known library member
    omega

omit [Host] in
theorem head?_of_hasScheme {scheme : String} {c : Char}
    (claimed : Identifier.hasScheme identifier scheme) (first : scheme.toList.head? = some c) :
    (lowerCase identifier.toList).head? = some c := by
  obtain ⟨rest, whole⟩ := List.isPrefixOf_iff_prefix.mp claimed
  rw [← whole, List.head?_append, first]
  rfl

/-- What is held in memory is found under the absolute form of a path. -/
theorem mem_of_serve {files : MemoryFiles} {path : String}
    (held : files.serve? identifier = some (path, contents)) :
    ∃ p, Identifier.filePath? identifier = some p ∧
      (Path.absoluteString p, contents) ∈ files.files := by
  obtain ⟨p, named, rest⟩ := Option.bind_eq_some_iff.mp held
  obtain ⟨text, found, same⟩ := Option.bind_eq_some_iff.mp rest
  cases same
  exact ⟨p, named, Table.mem_of_lookup found⟩

namespace Origin

variable {size : Nat} (origin : Origin configuration directory layout? disk identifier contents)
  (bounded : Bounded configuration directory layout? disk size)

include origin

/-- A file with a source has a path, which leads to a place of bounded weight. -/
theorem exists_filePath (bounded : Bounded configuration directory layout? disk size)
    (claimed : Identifier.hasScheme identifier Identifier.fileScheme) :
    ∃ p, Identifier.filePath? identifier = some (String.ofList p) ∧
      (Path.isAbsolute p → weight (Path.segments p) ≤ size) := by
  have first := head?_of_hasScheme claimed (c := 'f') rfl
  cases origin with
  | mock _ claimed' _ =>
      have other := head?_of_hasScheme claimed' (c := 'r') rfl
      exact absurd (first.symm.trans other) (by decide)
  | runtime _ claimed' _ _ =>
      have other := head?_of_hasScheme claimed' (c := 'r') rfl
      exact absurd (first.symm.trans other) (by decide)
  | package _ claimed' _ _ =>
      have other := head?_of_hasScheme claimed' (c := 'p') rfl
      exact absurd (first.symm.trans other) (by decide)
  | file named found =>
      obtain ⟨_, _, p, _, _, rfl⟩ := Identifier.url_of_filePath? named
      refine ⟨p, named, fun rooted => ?_⟩
      have le := bounded.disk _ (Disk.mem_of_find? found)
      rwa [Disk.placeOf_of_isAbsolute rooted] at le
  | entry choice held =>
      obtain ⟨path, named, member⟩ := mem_of_serve held
      obtain ⟨_, _, p, _, _, rfl⟩ := Identifier.url_of_filePath? named
      refine ⟨p, named, fun rooted => ?_⟩
      have le := bounded.entry _ choice _ member
      rwa [Path.absoluteString, String.toList_ofList, String.toList_ofList,
        Path.segments_absolute rooted] at le

/-- The path of a URL of a file with a source is not much longer than what sources can come from,
but for its gaps. -/
theorem weight_path_le (bounded : Bounded configuration directory layout? disk size)
    (claimed : Identifier.hasScheme identifier Identifier.fileScheme) :
    ∃ u, Url.FileUrl.parse? identifier.toList = some u ∧ u.host = [] ∧
      weight u.path ≤ 12 * size + Url.FileUrl.gaps u.path + 1 := by
  obtain ⟨p, named, fits⟩ := origin.exists_filePath bounded claimed
  obtain ⟨_, u, _, read, path, same⟩ := Identifier.url_of_filePath? named
  cases String.ofList_injective same
  obtain ⟨here, rooted, le⟩ := Url.weight_path_le (Url.FileUrl.path_ne_nil_of_parse read)
    (Url.FileUrl.isSegment_of_parse read) path
  have small := fits rooted
  exact ⟨u, read, here, by omega⟩

/-- An identifier with a source that ends in a shortened path is not much longer than what sources
can come from. -/
theorem length_le (bounded : Bounded configuration directory layout? disk size)
    (below : ∀ layout, layout? = some layout → layout.libraries.lookup ".." = none)
    {scheme q : List Char} (isName : Identifier.IsSchemeName scheme)
    (whole : identifier.toList = scheme ++ ':' :: q) (other : scheme ≠ "file".toList)
    (tidy : Path.Tidy (split '/' q)) : identifier.length ≤ 2 * size + 9 := by
  have length : identifier.length = scheme.length + q.length + 1 := by
    rw [← String.length_toList, whole, List.length_append, List.length_cons]
    omega
  cases origin with
  | mock choice _ found =>
      have le : identifier.length ≤ size := bounded.mock _ choice _ (Table.mem_of_lookup found)
      omega
  | file named _ =>
      have same : "file".toList = scheme :=
        Identifier.eq_of_hasScheme isName whole (by decide) (Identifier.url_of_filePath? named).1
      exact absurd same.symm other
  | entry _ held =>
      obtain ⟨_, named, _⟩ := mem_of_serve held
      have same : "file".toList = scheme :=
        Identifier.eq_of_hasScheme isName whole (by decide) (Identifier.url_of_filePath? named).1
      exact absurd same.symm other
  | @package root p _ claimed inside found =>
      have same : "pkg".toList = scheme :=
        Identifier.eq_of_hasScheme isName whole (by decide) claimed
      subst same
      rw [whole] at inside
      have place := PackagePath.steps_of_ofIdentifier (Path.isAbsolute_absolute root.toList) tidy
        inside
      have le := bounded.disk _ (Disk.mem_of_find? found)
      rw [Resolver.packageFile, Path.absoluteString, String.toList_ofList, place,
        weight_append] at le
      have pieces := weight_split '/' q
      have tight := tidy.weight_le
      have three : "pkg".toList.length = 3 := rfl
      omega
  | @runtime layout path known claimed named found =>
      have same : "rt".toList = scheme :=
        Identifier.eq_of_hasScheme isName whole (by decide) claimed
      subst same
      obtain ⟨library, among, le⟩ := Layout.length_le_of_fileOf whole tidy (below _ known) named
      have short := bounded.libraries _ known library among
      have place : weight (Disk.placeOf path) ≤ size :=
        bounded.disk (Disk.placeOf path, .file contents) (Disk.mem_of_find? found)
      have two : "rt".toList.length = 2 := rfl
      omega

end Origin

end Context

end UnitResolution
