import UnitResolution.Proofs.Identifier.Specifier
import UnitResolution.Proofs.Resolver.Confinement
import UnitResolution.Proofs.Context.Extent
import UnitResolution.Proofs.Path.Ways

/-!
# Relative specifiers

In a unit of a package or of a runtime library, a relative specifier is counted from the text of the
unit's identifier, without a look at any file. It should mean what it means among files: the path
that leads from the directory of the unit's own file to another one.

Both are ways below a directory, the root of the packages or the directory of a library. Followed
segment by segment, such a way leads to a place below the directory or out of it
(`UnitResolution.Path.follow`), and where it stays below, `..` takes back the same segments in
whatever text it is put behind (`UnitResolution.Path.foldl_push_of_follow`). So the two meanings
agree (`UnitResolution.Identifier.resolveSpecifier_of_isRelative`).
-/

namespace UnitResolution

open Text

/-! ## Specifiers in packages and in runtime libraries -/

namespace Identifier

/-- In a unit with a scheme of its own, a relative specifier is counted from the text behind the
scheme, and a way that stays below a directory leads there to the place that it names. -/
theorem resolveSpecifier_of_follow (root : List (List Char)) {specifier unit : String}
    {scheme rest source : List Char} {place target : List (List Char)}
    (relative : isRelative specifier.toList)
    (whole : unit.toList = scheme ++ ':' :: rest) (named : schemeOf? unit.toList = some scheme)
    (other : scheme ≠ "file".toList) (counted : directoryOf scheme rest = source)
    (filled : source ≠ []) (still : Path.isAbsolute source = false)
    (here : Path.reduce true (split '/' source) = root ++ place)
    (plain : Path.Plain (root ++ place))
    (leads : Path.follow place (split '/' specifier.toList) = some target)
    (below : root ++ target ≠ []) :
    resolveSpecifier specifier unit = .ok (String.ofList (scheme ++ [':']) ++
      String.ofList (join '/' (root ++ target) ++ Path.trailing specifier.toList)) := by
  have behind : unit.toList.drop (scheme.length + 1) = rest := by
    rw [whole, ← List.singleton_append, ← List.append_assoc]
    exact List.drop_left' (List.length_append ..)
  have file : ¬ fileScheme.toList.isPrefixOf (lowerCase unit.toList) := by
    intro claimed
    have found := hasScheme_file.mp claimed
    rw [scheme?, named, Option.map_some, Option.some.injEq] at found
    apply other
    rw [← found, String.toList_ofList]
  have nonempty : specifier.toList ≠ [] := by
    obtain ⟨more, same⟩ := exists_of_isRelative relative
    simp [same]
  unfold resolveSpecifier resolveChars
  rw [schemeOf?_of_isRelative relative, if_neg nofun, isAbsolute_of_isRelative relative,
    if_neg nofun, if_pos relative]
  unfold resolveRelative
  rw [if_neg file, named]
  dsimp only
  rw [behind, counted, Path.normalize_joined_of_follow filled still nonempty here plain leads below]
  simp only [Except.map, ← String.ofList_append, List.append_assoc, List.singleton_append]

/-- The directory from which a unit of a runtime library counts is written from names. -/
theorem directoryOf_runtime {name : List Char} {parts : List (List Char)}
    (plain : Path.Plain (name :: parts)) :
    directoryOf "rt".toList (join '/' (name :: parts)) = join '/' (name :: parts.dropLast) := by
  have runtime : "rt".toList ++ [':'] = runtimeScheme.toList := rfl
  unfold directoryOf
  rcases List.eq_nil_or_concat' parts with rfl | ⟨before, last, rfl⟩
  · exact if_pos ⟨runtime, (plain name (by simp)).2⟩
  · have filled : name :: before ≠ [] := List.cons_ne_nil name before
    have slash : '/' ∈ join '/' (name :: (before ++ [last])) := by
      rw [← List.cons_append, Path.join_concat filled]
      simp
    rw [if_neg fun whole => whole.2 slash, List.dropLast_concat, ← List.cons_append,
      Path.directory_join plain, if_neg filled]

end Identifier

namespace PackagePath

variable {names : List (List Char)}

/-- A path that is written from names leads out of no directory. -/
theorem ofIdentifier_of_plain (plain : Path.Plain names) (nonempty : names ≠ [])
    (p : List Char) :
    ofIdentifier (Identifier.packageScheme.toList ++ (join '/' names ++ Path.trailing p)) =
      .ok (join '/' names ++ Path.trailing p) := by
  obtain ⟨back, pieces, _, _⟩ := Path.split_join_trailing plain nonempty p
  obtain ⟨first, rest, rfl⟩ := List.exists_cons_of_ne_nil nonempty
  have name := (plain first List.mem_cons_self).1
  have head := head?_split '/' (join '/' (first :: rest) ++ Path.trailing p)
  rw [pieces, List.cons_append, List.head?_cons, Option.some.injEq] at head
  have shortest := Path.normalize_join_trailing plain nonempty p
  generalize join '/' (first :: rest) ++ Path.trailing p = q at head shortest
  have package : isPackageName first = true := by
    simpa [isPackageName, Path.IsName, Path.IsStep, and_assoc] using name
  have stays : leaves q = false := by
    unfold leaves
    simp only [Bool.or_eq_false_iff, beq_eq_false_iff_ne]
    refine ⟨⟨?_, ?_⟩, ?_⟩
    · rintro rfl
      exact name.2 head
    · apply Bool.eq_false_iff.mpr
      intro climbs
      obtain ⟨more, rfl⟩ := List.isPrefixOf_iff_prefix.mp climbs
      exact name.2 head
    · refine Path.isAbsolute_of_head (?_ : _ = some first) ?_
      · rw [head?_split, head]
      · exact name.1.1
  unfold ofIdentifier
  dsimp only
  rw [dropUnits_append, ← head, package, shortest, stays]
  rfl

end PackagePath

namespace RuntimeDirectory

/-- The file of a part that does not lead up. -/
theorem partPath?_of_down {entry : String} {parts : List (List Char)}
    (slashless : ∀ part ∈ parts, '/' ∉ part) (down : Path.up ∉ parts) :
    partPath? entry parts = some (String.ofList
      (Path.ofSegments (Path.segments (Path.directory entry.toList) ++ Path.steps parts))) := by
  have pieces : ∀ piece ∈ split '/' (Path.directory entry.toList) ++ parts, '/' ∉ piece :=
    List.forall_mem_append.mpr ⟨fun piece => not_mem_of_mem_split, slashless⟩
  have reduced := Path.reduced_reduce false pieces
  rw [Path.reduce_append _ down] at reduced
  unfold partPath?
  dsimp only
  rw [Path.reduce_append _ down]
  apply if_pos
  rw [Path.isWithin_iff, Path.segments_ofSegments reduced]
  exact List.prefix_append _ _

end RuntimeDirectory

namespace Layout

variable {layout : Layout} {name entry rest : String} {parts : List (List Char)}

theorem fileOf?_of_split (listed : layout.libraries.lookup name = some entry)
    (pieces : split '/' rest.toList = name.toList :: parts) :
    layout.fileOf? (Identifier.runtimeScheme ++ rest) =
      if parts.isEmpty then some entry else RuntimeDirectory.partPath? entry parts := by
  unfold fileOf?
  rw [String.toList_append, dropUnits_append, pieces]
  dsimp only
  rw [String.ofList_toList, listed, Option.bind_some]

/-- The file of a unit lies in the directory of its library or in one below it. -/
theorem exists_fileOf (rooted : Path.isAbsolute entry.toList)
    (listed : layout.libraries.lookup name = some entry)
    (pieces : split '/' rest.toList = name.toList :: parts) (plain : Path.Plain parts) :
    ∃ file, layout.fileOf? (Identifier.runtimeScheme ++ rest) = some file ∧
      Path.isAbsolute (Path.directory file.toList) ∧
      Path.segments (Path.directory file.toList) =
        Path.segments (Path.directory entry.toList) ++ parts.dropLast := by
  rw [fileOf?_of_split listed pieces]
  rcases List.eq_nil_or_concat' parts with rfl | ⟨before, last, rfl⟩
  · refine ⟨entry, rfl, Path.isAbsolute_directory rooted, ?_⟩
    rw [List.dropLast_nil, List.append_nil]
  · have all : Path.Plain (Path.segments (Path.directory entry.toList) ++ before ++ [last]) := by
      rw [List.append_assoc]
      exact (Path.plain_segments _).append plain
    have front : Path.Plain (Path.segments (Path.directory entry.toList) ++ before) :=
      fun s member => all s (List.mem_append_left _ member)
    have more : ¬ (before ++ [last]).isEmpty := by simp
    rw [if_neg more, RuntimeDirectory.partPath?_of_down (fun s member => (plain s member).2)
      plain.up_not_mem, plain.steps_eq, ← List.append_assoc]
    refine ⟨_, rfl, ?_⟩
    rw [String.toList_ofList, Path.directory_ofSegments all, List.dropLast_concat]
    exact ⟨rfl, Path.segments_ofSegments front.reduced⟩

end Layout

namespace Identifier

variable {specifier : String}

section Package

variable {x : String} {place target : List (List Char)} {last : List Char}

/-- The text of the identifier for which a relative specifier stands in a unit of a package. -/
theorem resolveSpecifier_inPackage (relative : isRelative specifier.toList)
    (plain : Path.Plain (place ++ [last])) (written : join '/' (place ++ [last]) = x.toList)
    (leads : Path.follow place (split '/' specifier.toList) = some target) (below : target ≠ []) :
    resolveSpecifier specifier (packageScheme ++ x) =
      .ok (packageScheme ++
        String.ofList (join '/' target ++ Path.trailing specifier.toList)) := by
  have front : Path.Plain place := fun s member => plain s (by simp [member])
  have unit : (packageScheme ++ x).toList = "pkg".toList ++ ':' :: x.toList := by
    rw [String.toList_append]
    rfl
  have letters : ∀ c ∈ "pkg".toList, c.isLower := List.all_eq_true.mp (by decide)
  have scheme : schemeOf? (packageScheme ++ x).toList = some "pkg".toList :=
    (schemeOf?_of_letters letters (by decide)).mpr ⟨"pkg".toList, x.toList, unit, by decide⟩
  have counted : directoryOf "pkg".toList x.toList = Path.directory x.toList := if_neg nofun
  by_cases only : place = []
  · rw [← written, Path.directory_join plain, if_pos only] at counted
    subst only
    exact resolveSpecifier_of_follow [] relative (written ▸ unit) scheme (by decide)
      counted (by decide) rfl rfl front leads below
  · rw [← written, Path.directory_join plain, if_neg only] at counted
    exact resolveSpecifier_of_follow [] relative (written ▸ unit) scheme (by decide)
      counted (Path.join_ne_nil front only) (Path.isAbsolute_join front only)
      (Path.reduce_split_join true front only) front leads below

/-- The file of that identifier lies where the specifier leads from the file of the unit. -/
theorem packageFile_of_follow [Host] (relative : isRelative specifier.toList) {root : String}
    (rooted : Path.isAbsolute root.toList) (plain : Path.Plain (place ++ [last]))
    (written : join '/' (place ++ [last]) = x.toList)
    (leads : Path.follow place (split '/' specifier.toList) = some target) (below : target ≠ []) :
    Resolver.packageFile root (join '/' target ++ Path.trailing specifier.toList) =
      Path.resolve (Path.directoryString (Resolver.packageFile root x.toList)) specifier ++
        String.ofList (Path.trailing specifier.toList) := by
  have front : Path.Plain place := fun s member => plain s (by simp [member])
  have reached := Path.plain_of_follow front leads
  have own : Path.joined root.toList x.toList =
      Path.ofSegments (Path.segments root.toList ++ place ++ [last]) := by
    have whole := Path.joined_of_plain rooted plain (by simp) []
    rw [written] at whole
    rw [List.append_assoc]
    simpa [Path.trailing] using whole
  have places : Path.Plain (Path.segments root.toList ++ place) :=
    (Path.plain_segments _).append front
  have all : Path.Plain (Path.segments root.toList ++ place ++ [last]) := by
    rw [List.append_assoc]
    exact (Path.plain_segments _).append plain
  have followed := Path.resolveFrom_of_follow
    (Path.ofSegments (Path.segments root.toList ++ place)) rfl (isAbsolute_of_isRelative relative)
    (Path.segments_ofSegments places.reduced) front leads
  unfold Resolver.packageFile Path.resolve Path.directoryString
  rw [String.toList_ofList, String.toList_ofList, own, Path.directory_ofSegments all, followed,
    Path.joined_of_plain rooted reached below, String.ofList_append]

end Package

/-- In a unit of a package, a relative specifier names the file to which it leads from the file of
the unit. -/
theorem resolveSpecifier_package [Host] (relative : isRelative specifier.toList) {root x : String}
    (rooted : Path.isAbsolute root.toList) (named : ∀ s ∈ split '/' x.toList, Path.IsName s)
    (stays : Path.StaysBelow (split '/' x.toList).dropLast specifier.toList) :
    ∃ path, resolveSpecifier specifier (packageScheme ++ x) = .ok (packageScheme ++ path) ∧
      PackagePath.ofIdentifier (packageScheme ++ x).toList = .ok x.toList ∧
      PackagePath.ofIdentifier (packageScheme ++ path).toList = .ok path.toList ∧
      Resolver.packageFile root path.toList =
        Path.resolve (Path.directoryString (Resolver.packageFile root x.toList)) specifier ++
          String.ofList (Path.trailing specifier.toList) := by
  obtain ⟨target, leads, below⟩ := stays
  have plain := Path.plain_of_split named
  have written := join_split '/' x.toList
  have filled := split_ne_nil '/' x.toList
  generalize split '/' x.toList = names at plain written leads filled
  obtain ⟨place, last, rfl⟩ := (List.eq_nil_or_concat' names).resolve_left filled
  rw [List.dropLast_concat] at leads
  have front : Path.Plain place := fun s member => plain s (by simp [member])
  have reached := Path.plain_of_follow front leads
  refine ⟨_, resolveSpecifier_inPackage relative plain written leads below, ?_, ?_, ?_⟩
  · rw [String.toList_append, ← written]
    have whole := PackagePath.ofIdentifier_of_plain plain filled []
    rwa [Path.trailing_nil, List.append_nil] at whole
  · rw [String.toList_append, String.toList_ofList]
    exact PackagePath.ofIdentifier_of_plain reached below _
  · rw [String.toList_ofList]
    exact packageFile_of_follow relative rooted plain written leads below

section Runtime

variable {layout : Layout} {name entry rest : String} {parts target : List (List Char)}

/-- The text of the identifier for which a relative specifier stands in a unit of a runtime
library. The unit that stands for the whole library counts from the library's directory. -/
theorem resolveSpecifier_inLibrary (relative : isRelative specifier.toList)
    (plain : Path.Plain (name.toList :: parts))
    (written : join '/' (name.toList :: parts) = rest.toList)
    (leads : Path.follow parts.dropLast (split '/' specifier.toList) = some target) :
    resolveSpecifier specifier (runtimeScheme ++ rest) = .ok (runtimeScheme ++
      String.ofList (join '/' (name.toList :: target) ++ Path.trailing specifier.toList)) := by
  obtain ⟨library, inside⟩ := Path.plain_cons.mp plain
  have front : Path.Plain (name.toList :: parts.dropLast) :=
    Path.plain_cons.mpr ⟨library, inside.dropLast⟩
  have unit : (runtimeScheme ++ rest).toList = "rt".toList ++ ':' :: rest.toList := by
    rw [String.toList_append]
    rfl
  have letters : ∀ c ∈ "rt".toList, c.isLower := List.all_eq_true.mp (by decide)
  have scheme : schemeOf? (runtimeScheme ++ rest).toList = some "rt".toList :=
    (schemeOf?_of_letters letters (by decide)).mpr ⟨"rt".toList, rest.toList, unit, by decide⟩
  have filled : name.toList :: parts.dropLast ≠ [] := List.cons_ne_nil _ _
  rw [← written] at unit
  exact resolveSpecifier_of_follow [name.toList] relative unit scheme (by decide)
    (directoryOf_runtime plain) (Path.join_ne_nil front filled)
    (Path.isAbsolute_join front filled) (Path.reduce_split_join true front filled) front leads
    (List.cons_ne_nil _ _)

/-- The file of a part of a library, whose identifier may end in a slash. -/
theorem fileOf?_of_trailing (listed : layout.libraries.lookup name = some entry)
    (library : Path.Plain [name.toList]) (reached : Path.Plain target) (below : target ≠ [])
    (p : List Char) :
    layout.fileOf? (runtimeScheme ++
        String.ofList (join '/' (name.toList :: target) ++ Path.trailing p)) =
      some (String.ofList (Path.ofSegments
        (Path.segments (Path.directory entry.toList) ++ target))) := by
  obtain ⟨back, parted, odd, down⟩ := Path.split_join_trailing
    (library.append reached) (List.cons_ne_nil _ _) p
  rw [List.singleton_append, List.cons_append] at parted
  have steps : Path.steps (target ++ back) = target := by
    rw [Path.steps_append, odd, List.append_nil, reached.steps_eq]
  have slashless : ∀ part ∈ target ++ back, '/' ∉ part := by
    intro part member
    apply not_mem_of_mem_split (s := join '/' (name.toList :: target) ++ Path.trailing p)
    rw [parted]
    exact List.mem_cons_of_mem _ member
  have level : Path.up ∉ target ++ back := by
    simp [reached.up_not_mem, down]
  have more : ¬ (target ++ back).isEmpty := by simp [below]
  rw [Layout.fileOf?_of_split listed ((congrArg _ String.toList_ofList).trans parted),
    if_neg more, RuntimeDirectory.partPath?_of_down slashless level, steps]

end Runtime

/-- In a unit of a runtime library, a relative specifier names the file to which it leads from the
file of the unit. -/
theorem resolveSpecifier_runtime [Host] (relative : isRelative specifier.toList) {layout : Layout}
    {name entry rest : String} {parts : List (List Char)} (rooted : Path.isAbsolute entry.toList)
    (listed : layout.libraries.lookup name = some entry)
    (pieces : split '/' rest.toList = name.toList :: parts)
    (named : ∀ s ∈ name.toList :: parts, Path.IsName s)
    (stays : Path.StaysBelow parts.dropLast specifier.toList) :
    ∃ part file, layout.fileOf? (runtimeScheme ++ rest) = some file ∧
      resolveSpecifier specifier (runtimeScheme ++ rest) =
        .ok (runtimeScheme ++ (name ++ "/" ++ part)) ∧
      Path.resolve (Path.directoryString entry) part =
        Path.resolve (Path.directoryString file) specifier ∧
      layout.fileOf? (runtimeScheme ++ (name ++ "/" ++ part)) =
        some (Path.resolve (Path.directoryString file) specifier) := by
  obtain ⟨target, leads, below⟩ := stays
  have plain : Path.Plain (name.toList :: parts) := by
    rw [← pieces] at named ⊢
    exact Path.plain_of_split named
  have written : join '/' (name.toList :: parts) = rest.toList := by
    rw [← pieces, join_split]
  obtain ⟨library, inside⟩ := Path.plain_cons.mp plain
  have reached : Path.Plain target := Path.plain_of_follow inside.dropLast leads
  obtain ⟨file, found, above, place⟩ := Layout.exists_fileOf rooted listed pieces inside
  have followed : Path.resolve (Path.directoryString file) specifier = String.ofList
      (Path.ofSegments (Path.segments (Path.directory entry.toList) ++ target)) := by
    rw [Path.resolve, Path.directoryString, String.toList_ofList]
    exact congrArg String.ofList (Path.resolveFrom_of_follow _ above
      (isAbsolute_of_isRelative relative) place inside.dropLast leads)
  have text : name ++ "/" ++ String.ofList (join '/' target ++ Path.trailing specifier.toList) =
      String.ofList (join '/' (name.toList :: target) ++ Path.trailing specifier.toList) := by
    apply String.toList_inj.mp
    obtain ⟨first, more, rfl⟩ := List.exists_cons_of_ne_nil below
    simp [join]
  refine ⟨String.ofList (join '/' target ++ Path.trailing specifier.toList), file, found, ?_⟩
  rw [followed, text]
  refine ⟨resolveSpecifier_inLibrary relative plain written leads, ?_, ?_⟩
  · rw [Path.resolve, Path.directoryString, String.toList_ofList, String.toList_ofList,
      Path.resolveFrom_join_trailing (Path.isAbsolute_directory rooted) reached below]
  · have alone : Path.Plain [name.toList] := Path.plain_cons.mpr ⟨library, List.forall_mem_nil _⟩
    exact fileOf?_of_trailing listed alone reached below specifier.toList

/-- In units of packages and of runtime libraries, a relative specifier means the relative file, as
long as it does not lead above the root of the packages or the directory of the library, and leads
to something below it. The identifier that it stands for is accepted, and its file lies where the
specifier leads from the file of the unit. -/
theorem resolveSpecifier_of_isRelative [Host] (relative : isRelative specifier.toList) :
    (∀ root x : String, Path.isAbsolute root.toList →
      (∀ s ∈ split '/' x.toList, Path.IsName s) →
      Path.StaysBelow (split '/' x.toList).dropLast specifier.toList →
      ∃ path, resolveSpecifier specifier (packageScheme ++ x) = .ok (packageScheme ++ path) ∧
        PackagePath.ofIdentifier (packageScheme ++ x).toList = .ok x.toList ∧
        PackagePath.ofIdentifier (packageScheme ++ path).toList = .ok path.toList ∧
        Resolver.packageFile root path.toList =
          Path.resolve (Path.directoryString (Resolver.packageFile root x.toList)) specifier ++
            String.ofList (Path.trailing specifier.toList)) ∧
    (∀ disk directory layout, Layout.discover disk directory = .ok (.ok layout) →
      ∀ name entry, layout.libraries.lookup name = some entry →
      ∀ (rest : String) (parts : List (List Char)), split '/' rest.toList = name.toList :: parts →
      (∀ s ∈ name.toList :: parts, Path.IsName s) →
      Path.StaysBelow parts.dropLast specifier.toList →
      ∃ part file, layout.fileOf? (runtimeScheme ++ rest) = some file ∧
        resolveSpecifier specifier (runtimeScheme ++ rest) =
          .ok (runtimeScheme ++ (name ++ "/" ++ part)) ∧
        Path.resolve (Path.directoryString entry) part =
          Path.resolve (Path.directoryString file) specifier ∧
        layout.fileOf? (runtimeScheme ++ (name ++ "/" ++ part)) =
          some (Path.resolve (Path.directoryString file) specifier)) := by
  constructor
  · intro root x rooted named stays
    exact resolveSpecifier_package relative rooted named stays
  · intro disk directory layout found name entry listed rest parts pieces named stays
    have rooted := Layout.isAbsolute_of_discover found listed
    exact resolveSpecifier_runtime relative rooted listed pieces named stays

/-- A runtime library whose entry unit has another name than the library. -/
def mapsDisk : Disk :=
  .ofEntries [("/rt/libraries.json", .file
      "\x7b\"libraries\": \x7b\"maps\": \"./src/main.ts\"\x7d\x7d"),
    ("/rt/src/main.ts", .file ""), ("/rt/src/hash/table.ts", .file "")]

/-- Detours and repeated slashes lead to the same file as among files. -/
theorem resolveSpecifier_of_isRelative_of_detour :
    (∃ path, resolveSpecifier ".././/b/" "pkg:util/src/a.ts" = .ok ("pkg:" ++ path) ∧
      Resolver.packageFile "/packages/../lib" path.toList =
        Path.resolve (Path.directoryString "/lib/util/src/a.ts") ".././/b/" ++ "/") ∧
    ∃ layout, Layout.discover mapsDisk "/rt" = .ok (.ok layout) ∧
      layout.fileOf? "rt:maps/hash/table.ts" = some "/rt/src/hash/table.ts" ∧
      ∃ part, resolveSpecifier ".././/b/" "rt:maps/hash/table.ts" = .ok ("rt:maps/" ++ part) ∧
        Path.resolve "/rt/src" part =
          Path.resolve (Path.directoryString "/rt/src/hash/table.ts") ".././/b/" := by
  have relative : isRelative ".././/b/".toList := by decide
  constructor
  · obtain ⟨path, named, _, _, file⟩ :=
      (resolveSpecifier_of_isRelative relative).1 "/packages/../lib" "util/src/a.ts" (by decide)
        (by decide) (by decide)
    exact ⟨path, named, file⟩
  · obtain ⟨part, file, found, named, same, _⟩ :=
      (resolveSpecifier_of_isRelative relative).2 mapsDisk "/rt"
        ⟨"/rt", [("maps", "/rt/src/main.ts")]⟩ (by decide +kernel) "maps" "/rt/src/main.ts" rfl
        "maps/hash/table.ts" ["hash".toList, "table.ts".toList] (by decide) (by decide) (by decide)
    have own : Layout.fileOf? ⟨"/rt", [("maps", "/rt/src/main.ts")]⟩ "rt:maps/hash/table.ts" =
        some "/rt/src/hash/table.ts" := by decide +kernel
    obtain rfl : file = "/rt/src/hash/table.ts" := Option.some.inj (found.symm.trans own)
    have text : runtimeScheme ++ ("maps" ++ "/" ++ part) = "rt:maps/" ++ part := by
      rw [← String.append_assoc]
      rfl
    exact ⟨_, by decide +kernel, own, part, named.trans (congrArg Except.ok text), same⟩

end Identifier

end UnitResolution
