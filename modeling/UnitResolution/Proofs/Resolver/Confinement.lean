import UnitResolution.Proofs.Outcome
import UnitResolution.Proofs.Resolver.Opening

/-!
# Confinement

Where an identifier leads is decided by its segments, and `..` takes one back. A resolver of
packages refuses a path that still leads up when it has been shortened; what is left names a place
at or below the root (`UnitResolution.PackagePath.placeOf_packageFile`). A runtime library in a
directory works out the place of a part first, and refuses it if the way there from the directory of
the library leads up. That way begins with `..` exactly where the place is not inside
(`UnitResolution.Path.isWithin_iff`), so that a file whose name begins with dots is no way up.

The theorem `UnitResolution.Resolver.resolve_confined` says where the files lie that these resolvers
open, after any number of earlier questions.
-/

namespace UnitResolution

open Text

variable {disk : Disk} {identifier : String}

namespace Path

theorem isAbsolute_resolveFrom [Host] (directory p : List Char) :
    isAbsolute (resolveFrom directory p) :=
  rfl

theorem isAbsolute_joined {p : List Char} (rooted : isAbsolute p) (q : List Char) :
    isAbsolute (joined p q) := by
  have filled := ne_nil_of_isAbsolute rooted
  unfold joined
  apply isAbsolute_normalize
  rw [if_neg filled]
  split
  · exact rooted
  · obtain ⟨rest, rfl⟩ := cons_of_isAbsolute rooted
    rfl

/-! ## From one place to another -/

theorem withoutCommon_append (s t : List (List Char)) : withoutCommon s (s ++ t) = ([], t) := by
  induction s with
  | nil => cases t <;> rfl
  | cons x rest ih => simp [withoutCommon, ih]

theorem prefix_of_withoutCommon {s t : List (List Char)} (none : (withoutCommon s t).1 = []) :
    s <+: t := by
  fun_induction withoutCommon s t with
  | case1 x xs ys ih => exact List.cons_prefix_cons.mpr ⟨rfl, ih none⟩
  | case2 x xs y ys other => cases none
  | case3 xs ys _ =>
      cases none
      exact List.nil_prefix

/-- A way does not lead up exactly if it leads to the place itself or to one below. -/
theorem isWithin_iff {source target : List Char} :
    isWithin source target ↔ segments source <+: segments target := by
  unfold isWithin relative
  dsimp only
  constructor
  · intro inside
    apply prefix_of_withoutCommon
    cases back : (withoutCommon (segments source) (segments target)).1 with
    | nil => rfl
    | cons s rest => simp [back] at inside
  · rintro ⟨below, whole⟩
    have down : up ∉ segments target := (reduced_split false target).up_not_mem
    rw [← whole] at down ⊢
    rw [withoutCommon_append]
    cases below with
    | nil => rfl
    | cons s rest =>
        have other : s ≠ up := by
          rintro rfl
          simp at down
        simpa using other

end Path

/-! ## Packages -/

namespace PackagePath

/-- Nothing of a path inside the root of the packages leads up. -/
theorem up_not_mem_of_ofIdentifier {s p : List Char} (inside : ofIdentifier s = .ok p) :
    p ≠ [] ∧ Path.up ∉ split '/' p := by
  unfold ofIdentifier at inside
  dsimp only at inside
  split at inside
  · cases inside
  · split at inside
    · cases inside
    · next stays =>
        cases inside
        generalize dropUnits (units Identifier.packageScheme.toList) s = rest at stays
        refine ⟨Path.normalize_ne_nil _, fun member => stays ?_⟩
        -- in a shortened path nothing but the beginning leads up
        have first := (Path.tidy_normalize rest).climbing member
        rw [head?_split, Option.some.injEq] at first
        have whole := List.takeWhile_append_dropWhile (p := (· != '/')) (l := Path.normalize rest)
        rw [first] at whole
        rw [← whole]
        cases behind : (Path.normalize rest).dropWhile (· != '/') with
        | nil => rfl
        | cons c more =>
            have filled : (Path.normalize rest).dropWhile (· != '/') ≠ [] := by simp [behind]
            have slash := List.head_dropWhile_not _ filled
            simp only [behind, List.head_cons, bne_eq_false_iff_eq] at slash
            subst slash
            simp [leaves, Path.up]

theorem placeOf_packageFile [Host] {root : String} {p : List Char}
    (inside : ofIdentifier identifier.toList = .ok p) :
    Disk.placeOf (Resolver.packageFile (Path.absoluteString root) p) =
      Disk.placeOf root ++ Path.steps (split '/' p) := by
  obtain ⟨nonempty, down⟩ := up_not_mem_of_ofIdentifier inside
  obtain ⟨absolute, place⟩ :=
    Path.segments_joined (Path.isAbsolute_absolute root.toList) nonempty down
  unfold Resolver.packageFile Path.absoluteString
  rw [String.toList_ofList, Disk.placeOf_of_isAbsolute absolute, place]
  rfl

end PackagePath

/-! ## Runtime libraries -/

namespace Layout

/-- The name of the library for which an identifier asks: all in front of the first slash. -/
def libraryName (identifier : String) : String :=
  let rest := dropUnits (units Identifier.runtimeScheme.toList) identifier.toList
  String.ofList (rest.takeWhile (· != '/'))

theorem isAbsolute_of_ofManifest [Host] {layout : Layout} {root manifest name entry : String}
    (found : ofManifest disk root manifest = .ok layout)
    (listed : layout.libraries.lookup name = some entry) : Path.isAbsolute entry.toList := by
  unfold ofManifest at found
  split at found
  · cases found
  · split at found
    · cases found
    · split at found
      · next members _ =>
          obtain ⟨libraries, read, same⟩ := bind_eq_ok.mp found
          cases same
          obtain ⟨⟨library, json⟩, _, named⟩ := mem_of_mapM read (Table.mem_of_lookup listed)
          cases json with
          | string p =>
              cases named
              simp [Path.resolve, Path.isAbsolute_resolveFrom]
          | _ => cases named
      · cases found

/-- The entry units of a layout have absolute paths. -/
theorem isAbsolute_of_discover [Host] {layout : Layout} {path name entry : String}
    (found : discover disk path = .ok (.ok layout))
    (listed : layout.libraries.lookup name = some entry) : Path.isAbsolute entry.toList := by
  rcases cases_of_discover found with ⟨_, manifest⟩ | ⟨_, directory⟩
  · exact isAbsolute_of_ofManifest manifest listed
  · obtain ⟨_, rfl⟩ := mem_of_ofDirectory directory listed
    simp only [entryBelow, Path.joinedString, Path.absoluteString, String.toList_ofList]
    exact Path.isAbsolute_joined (Path.isAbsolute_joined (Path.isAbsolute_joined
      (Path.isAbsolute_absolute _) _) _) _

end Layout

namespace RuntimeDirectory

theorem prefix_of_partPath [Host] {entry path : String} {parts : List (List Char)}
    (rooted : Path.isAbsolute entry.toList) (named : partPath? entry parts = some path) :
    Disk.placeOf (Path.directoryString entry) <+: Disk.placeOf path := by
  unfold partPath? at named
  dsimp only at named
  split at named
  · next inside =>
      rw [← Option.some.inj named, Path.directoryString,
        Disk.placeOf_of_isAbsolute (Path.isAbsolute_directory rooted),
        Disk.placeOf_of_isAbsolute rfl]
      exact Path.isWithin_iff.mp inside
  · cases named

/-- What a library knows of its layout it has found out on one of the given disks. -/
def Discovered [Host] (disks : List Disk) (library : RuntimeDirectory) : Prop :=
  ∀ layout, library.layout = some layout →
    ∃ earlier ∈ disks, Layout.discover earlier library.path = .ok layout

theorem Discovered.ensureLayout [Host] {library : RuntimeDirectory} {disks : List Disk}
    (discovered : library.Discovered disks) (disk : Disk) :
    (library.ensureLayout disk).2.Discovered (disks ++ [disk]) ∧
      ∀ layout, (library.ensureLayout disk).1.outcome = .ok layout →
        ∃ earlier ∈ disks ++ [disk], Layout.discover earlier library.path = .ok layout := by
  have kept : library.Discovered (disks ++ [disk]) := by
    intro layout known
    obtain ⟨earlier, among, found⟩ := discovered layout known
    exact ⟨earlier, List.mem_append_left _ among, found⟩
  unfold RuntimeDirectory.ensureLayout
  cases known : library.layout with
  | some layout =>
      refine ⟨kept, ?_⟩
      rintro _ ⟨⟩
      exact kept layout known
  | none =>
      cases found : Layout.discover disk library.path with
      | error i => exact ⟨kept, nofun⟩
      | ok layout =>
          have now : disk ∈ disks ++ [disk] := by simp
          constructor
          · rintro _ ⟨⟩
            exact ⟨disk, now, found⟩
          · rintro _ ⟨⟩
            exact ⟨disk, now, found⟩

end RuntimeDirectory

/-! ## Resolvers that have been asked -/

namespace Resolver

section

variable [Host]

/-- A resolver after it has been asked for identifiers, each time with the disk as it was then. -/
def afterQuestions (r : Resolver) (questions : List (Disk × String)) : Resolver :=
  questions.foldl (fun r question => (r.resolve question.1 question.2).2) r

/-- A resolver of packages learns nothing from what it is asked. -/
theorem afterQuestions_ofPackageChoice (choice : PackageChoice)
    (questions : List (Disk × String)) :
    (ofPackageChoice choice).afterQuestions questions = ofPackageChoice choice := by
  induction questions with
  | nil => rfl
  | cons question rest ih => cases choice <;> exact ih

theorem afterQuestions_runtimeDirectory {library : RuntimeDirectory} {disks : List Disk}
    (discovered : library.Discovered disks) (questions : List (Disk × String)) :
    ∃ later : RuntimeDirectory, (runtimeDirectory library).afterQuestions questions =
      .runtimeDirectory later ∧ later.Discovered (disks ++ questions.map Prod.fst) ∧
      later.path = library.path := by
  induction questions generalizing library disks with
  | nil => exact ⟨library, rfl, by simpa using discovered, rfl⟩
  | cons question rest ih =>
      have known : (library.lookup question.1 question.2).2.Discovered (disks ++ [question.1]) :=
        (discovered.ensureLayout question.1).1
      obtain ⟨later, same, learnt, path⟩ := ih known
      exact ⟨later, same, by simpa using learnt, path.trans (lookup_path library).1⟩

/-- A file of a package lies at or below a root. -/
theorem resolve_ofPackageChoice {choice : PackageChoice} {source : Source}
    (served : ((ofPackageChoice choice).resolve disk identifier).1.outcome = .ok (.ok source)) :
    ∃ root ∈ choice.roots, ∃ path, source.path = some path ∧
      disk.find? path = some (.file source.contents) ∧
      Disk.placeOf root <+: Disk.placeOf path := by
  obtain ⟨root, among, p, inside, named, found⟩ := (provides_of_resolve served).of_packageChoice
  refine ⟨root, among, _, named, found, ?_⟩
  rw [PackagePath.placeOf_packageFile inside]
  exact List.prefix_append _ _

theorem resolve_runtimeDirectory {library : RuntimeDirectory} {disks : List Disk}
    (discovered : library.Discovered disks) {source : Source}
    (served : ((runtimeDirectory library).resolve disk identifier).1.outcome = .ok (.ok source)) :
    ∃ earlier ∈ disks ++ [disk], ∃ layout entry path,
      Layout.discover earlier library.path = .ok (.ok layout) ∧
      layout.libraries.lookup (Layout.libraryName identifier) = some entry ∧
      source.path = some path ∧ disk.find? path = some (.file source.contents) ∧
      (path = entry ∨ Disk.placeOf (Path.directoryString entry) <+: Disk.placeOf path) := by
  cases provides_of_resolve served with
  | @opened _ path opens read =>
      obtain ⟨contents, found, rfl⟩ := Source.read_eq_ok read
      cases opens with
      | @runtime _ layout _ known named =>
          obtain ⟨earlier, among, discovery⟩ := (discovered.ensureLayout disk).2 _ known
          unfold Layout.fileOf? at named
          have head := head?_split '/'
            (dropUnits (units Identifier.runtimeScheme.toList) identifier.toList)
          split at named
          · cases named
          · next name parts pieces =>
              rw [pieces, List.head?_cons, Option.some.injEq] at head
              obtain ⟨entry, listed, named⟩ := Option.bind_eq_some_iff.mp named
              refine ⟨earlier, among, layout, entry, path, discovery, ?_, rfl, found, ?_⟩
              · rw [Layout.libraryName, ← head]
                exact listed
              · have rooted := Layout.isAbsolute_of_discover discovery listed
                split at named
                · exact .inl (Option.some.inj named).symm
                · exact .inr (RuntimeDirectory.prefix_of_partPath rooted named)

/-- Whatever an identifier looks like, and whatever a resolver has been asked before: a resolver of
packages opens only files at or below one of its roots, and a runtime library in a directory only
the entry unit of the library that the identifier begins with, or a file at or below the directory
of that unit. The layout that says so has been found out by this question or an earlier one. -/
theorem resolve_confined (questions : List (Disk × String)) (disk : Disk) (identifier : String)
    (source : Source) :
    (∀ choice : PackageChoice,
      (((ofPackageChoice choice).afterQuestions questions).resolve disk identifier).1.outcome =
        .ok (.ok source) →
      ∃ root ∈ choice.roots, ∃ path, source.path = some path ∧
        disk.find? path = some (.file source.contents) ∧
        Disk.placeOf root <+: Disk.placeOf path) ∧
    (∀ directory verbose,
      (((ofRuntimePath directory verbose).afterQuestions questions).resolve disk
        identifier).1.outcome = .ok (.ok source) →
      ∃ earlier ∈ questions.map Prod.fst ++ [disk], ∃ layout entry path,
        Layout.discover earlier directory = .ok (.ok layout) ∧
        layout.libraries.lookup (Layout.libraryName identifier) = some entry ∧
        source.path = some path ∧ disk.find? path = some (.file source.contents) ∧
        (path = entry ∨ Disk.placeOf (Path.directoryString entry) <+: Disk.placeOf path)) := by
  constructor
  · intro choice served
    rw [afterQuestions_ofPackageChoice] at served
    exact resolve_ofPackageChoice served
  · intro directory verbose served
    have new : RuntimeDirectory.Discovered [] { path := directory, verbose } := nofun
    obtain ⟨later, same, discovered, path⟩ := afterQuestions_runtimeDirectory new questions
    rw [ofRuntimePath, same] at served
    obtain ⟨earlier, among, layout, entry, file, discovery, rest⟩ :=
      resolve_runtimeDirectory discovered served
    rw [path] at discovery
    exact ⟨earlier, among, layout, entry, file, discovery, rest⟩

end

/-- A package and a runtime library that hold files whose names begin with dots. -/
def dottedDisk : Disk :=
  .ofEntries [("/packages/..core.ts", .file "export {};"), ("/rt/lib/core/core.ts", .file ""),
    ("/rt/lib/core/..part.ts", .file "")]

/-- Such files are found inside, whatever detours lead there. -/
theorem resolve_confined_of_dotted :
    (∃ root ∈ ["/none", "/packages/./sub/.."],
      Disk.placeOf root <+: Disk.placeOf "/packages/..core.ts") ∧
    ∃ layout entry, Layout.discover dottedDisk "/rt" = .ok (.ok layout) ∧
      layout.libraries.lookup (Layout.libraryName "rt:core/x/..//../core/..part.ts") = some entry ∧
      ("/rt/lib/core/..part.ts" = entry ∨
        Disk.placeOf (Path.directoryString entry) <+:
          Disk.placeOf "/rt/lib/core/..part.ts") := by
  constructor
  · obtain ⟨root, among, path, same, _, inside⟩ :=
      (resolve_confined [] dottedDisk "pkg:lib/./a//../../..core.ts"
        ⟨"pkg:lib/./a//../../..core.ts", "export {};", some "/packages/..core.ts"⟩).1
        (.several ["/none", "/packages/./sub/.."])
        (by decide +kernel)
    cases same
    exact ⟨root, among, inside⟩
  · obtain ⟨earlier, among, layout, entry, path, discovery, listed, same, _, inside⟩ :=
      (resolve_confined [] dottedDisk "rt:core/x/..//../core/..part.ts"
        ⟨"rt:core/x/..//../core/..part.ts", "", some "/rt/lib/core/..part.ts"⟩).2 "/rt" false
        (by decide +kernel)
    cases same
    obtain rfl : earlier = dottedDisk := List.mem_singleton.mp among
    exact ⟨layout, entry, discovery, listed, inside⟩

end Resolver

end UnitResolution
