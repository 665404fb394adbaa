import UnitResolution.Proofs.Context.Extent
import UnitResolution.Proofs.RuntimeLibrary.Snapshot

/-!
# The names of runtime libraries

A layout lists its libraries by name, and an identifier names one by all in front of its first
slash. So a library is served under its name if that name has no slash. The directories below `lib`
have no such names, but a manifest may list them. Behind the scheme, a listed name with a slash
asks for a part of another library, and it leads to its own entry unit only where that other
library is listed too and has just this unit as the part
(`UnitResolution.RuntimeDirectory.lookup_of_listed`).
-/

namespace UnitResolution

open Text

variable {disk : Disk}

/-- The places of a disk are made of names: none of their segments has a slash. -/
def Disk.Slashless (disk : Disk) : Prop := ∀ e ∈ disk.entries, ∀ segment ∈ e.1, '/' ∉ segment

namespace Layout

/-! ## Identifiers of names -/

theorem libraryName_append (rest : String) : libraryName (Identifier.runtimeScheme ++ rest) =
    String.ofList (rest.toList.takeWhile (· != '/')) := by
  unfold libraryName
  dsimp only
  rw [String.toList_append, dropUnits_append]

theorem partName?_append (rest : String) : partName? (Identifier.runtimeScheme ++ rest) =
    (rest.toList.dropWhile (· != '/')).tail? := by
  unfold partName?
  rw [String.toList_append, dropUnits_append]

theorem bne_of_slashless {s : List Char} (slashless : '/' ∉ s) : ∀ c ∈ s, (c != '/') = true := by
  intro c member
  rw [bne_iff_ne]
  rintro rfl
  exact slashless member

theorem names_of_slashless {n : String} (slashless : '/' ∉ n.toList) :
    libraryName (Identifier.runtimeScheme ++ n) = n ∧
      partName? (Identifier.runtimeScheme ++ n) = none := by
  have plain := bne_of_slashless slashless
  rw [libraryName_append, partName?_append, List.takeWhile_eq_self_iff.mpr plain,
    List.dropWhile_eq_nil_iff.mpr plain]
  exact ⟨String.ofList_toList, rfl⟩

theorem names_of_slash {front : String} (slashless : '/' ∉ front.toList) (part : String) :
    libraryName (Identifier.runtimeScheme ++ (front ++ "/" ++ part)) = front ∧
      partName? (Identifier.runtimeScheme ++ (front ++ "/" ++ part)) = some part.toList := by
  have plain := bne_of_slashless slashless
  have text : (front ++ "/" ++ part).toList = front.toList ++ '/' :: part.toList := by simp
  rw [libraryName_append, partName?_append, text, List.takeWhile_append_of_pos plain,
    List.dropWhile_append_of_pos plain]
  constructor
  · simp
  · rfl

theorem exists_of_slash {n : String} (slash : '/' ∈ n.toList) :
    ∃ front part, n = front ++ "/" ++ part ∧ '/' ∉ front.toList := by
  obtain ⟨front, part, text, plain⟩ := List.eq_append_cons_of_mem slash
  refine ⟨String.ofList front, String.ofList part, ?_, by simpa using plain⟩
  apply String.toList_injective
  simp [text]

/-! ## Names of directories -/

theorem slashless_of_mem_directoriesBelow (slashless : disk.Slashless) {place : Place}
    {segment : List Char} (member : segment ∈ disk.directoriesBelow place) : '/' ∉ segment := by
  have among := List.mem_eraseDups.mp (List.mem_of_mem_filter member)
  obtain ⟨e, entered, below⟩ := List.mem_filterMap.mp among
  split at below
  · exact slashless e entered segment (List.mem_of_getElem? below)
  · cases below

/-- Without a manifest, the names of the libraries are those of directories. -/
theorem slashless_of_discover [Host] {path : String} {layout : Layout} {n entry : String}
    (found : discover disk path = .ok (.ok layout))
    (unlisted : ¬ disk.exists? (Path.joinedString (Path.absoluteString path) manifestName))
    (slashless : disk.Slashless) (listed : layout.libraries.lookup n = some entry) :
    '/' ∉ n.toList := by
  rcases cases_of_discover found with ⟨manifest, _⟩ | ⟨_, directory⟩
  · exact absurd manifest unlisted
  · exact slashless_of_mem_directoriesBelow slashless (mem_of_ofDirectory directory listed).1

end Layout

namespace RuntimeDirectory

theorem serve_part [Host] {layout : Layout} {front home : String} (slashless : '/' ∉ front.toList)
    (rooted : Path.isAbsolute home.toList) (listed : layout.libraries.lookup front = some home)
    (part : String) :
    serve layout disk (Identifier.runtimeScheme ++ (front ++ "/" ++ part)) =
      if Disk.placeOf (Path.directoryString home) <+:
          Disk.placeOf (Layout.partPath home part.toList) then
        Source.read disk (Identifier.runtimeScheme ++ (front ++ "/" ++ part))
          (Layout.partPath home part.toList)
      else .error (.leavesLibrary front) := by
  obtain ⟨name, rest⟩ := Layout.names_of_slash slashless part
  rw [Layout.serve_eq, name, rest, listed]
  dsimp only
  rw [Layout.partPath?_split rooted]
  by_cases inside : Disk.placeOf (Path.directoryString home) <+:
      Disk.placeOf (Layout.partPath home part.toList)
  · rw [if_pos inside, if_pos inside]
  · rw [if_neg inside, if_neg inside]

/-- A library of the layout whose entry unit can be read, looked up under its name: it is served
exactly if its name has no slash, or if all behind the first slash is the part of another library
that lies at the entry unit. Where that other library is not listed, the answer is that it is
unknown, although the name itself is offered. The names of directories are served in any case. -/
theorem lookup_of_listed [Host] {path n entry contents : String} {layout : Layout} (verbose : Bool)
    (found : Layout.discover disk path = .ok (.ok layout))
    (listed : layout.libraries.lookup n = some entry)
    (readable : disk.find? entry = some (.file contents)) :
    ((lookup { path, verbose } disk (Identifier.runtimeScheme ++ n)).1.outcome =
        .ok (.ok ⟨Identifier.runtimeScheme ++ n, contents, some entry⟩) ↔
      '/' ∉ n.toList ∨ ∃ front part home, n = front ++ "/" ++ part ∧ '/' ∉ front.toList ∧
        layout.libraries.lookup front = some home ∧ Layout.partPath home part.toList = entry ∧
        Disk.placeOf (Path.directoryString home) <+: Disk.placeOf entry) ∧
    (∀ front part, n = front ++ "/" ++ part → '/' ∉ front.toList →
      layout.libraries.lookup front = none →
      (lookup { path, verbose } disk (Identifier.runtimeScheme ++ n)).1.outcome =
          .ok (.error (.unknownLibrary front (Table.keys layout.libraries))) ∧
        n ∈ Table.keys layout.libraries) ∧
    (¬ disk.exists? (Path.joinedString (Path.absoluteString path) Layout.manifestName) →
      disk.Slashless →
      (lookup { path, verbose } disk (Identifier.runtimeScheme ++ n)).1.outcome =
        .ok (.ok ⟨Identifier.runtimeScheme ++ n, contents, some entry⟩)) := by
  have unknown : (RuntimeDirectory.mk path verbose none).layout = none := rfl
  have outcome : (lookup { path, verbose } disk (Identifier.runtimeScheme ++ n)).1.outcome =
      .ok (serve layout disk (Identifier.runtimeScheme ++ n)) :=
    (lookup_of_discover unknown found).2
  have whole (slashless : '/' ∉ n.toList) : serve layout disk (Identifier.runtimeScheme ++ n) =
      .ok ⟨Identifier.runtimeScheme ++ n, contents, some entry⟩ := by
    obtain ⟨name, part⟩ := Layout.names_of_slashless slashless
    rw [Layout.serve_eq, name, part, listed]
    exact Source.read_of_file readable
  rw [outcome]
  refine ⟨?_, ?_, ?_⟩
  · rw [Except.ok.injEq]
    constructor
    · intro served
      by_cases slash : '/' ∈ n.toList
      · obtain ⟨front, part, rfl, slashless⟩ := Layout.exists_of_slash slash
        cases other : layout.libraries.lookup front with
        | none =>
            rw [Layout.serve_eq, (Layout.names_of_slash slashless part).1, other] at served
            cases served
        | some home =>
            rw [serve_part slashless (Layout.isAbsolute_of_discover found other) other] at served
            split at served
            · next inside =>
                obtain ⟨_, _, same⟩ := Source.read_eq_ok served
                have path : entry = Layout.partPath home part.toList :=
                  Option.some.inj (congrArg Source.path same)
                exact .inr ⟨front, part, home, rfl, slashless, other, path.symm, path ▸ inside⟩
            · cases served
      · exact .inl slash
    · rintro (slashless | ⟨front, part, home, rfl, slashless, other, rfl, inside⟩)
      · exact whole slashless
      · rw [serve_part slashless (Layout.isAbsolute_of_discover found other) other,
          if_pos inside]
        exact Source.read_of_file readable
  · rintro front part rfl slashless unlisted
    obtain ⟨name, _⟩ := Layout.names_of_slash slashless part
    constructor
    · rw [Layout.serve_eq, name, unlisted]
    · exact List.mem_map_of_mem (Table.mem_of_lookup listed)
  · intro unlisted slashless
    rw [whole (Layout.slashless_of_discover found unlisted slashless listed)]

/-- A manifest that lists a library under a name with a slash. -/
def slashedDisk : Disk :=
  .ofEntries [("/rt/libraries.json", .file
      "\x7b\"libraries\": \x7b\"a/b\": \"ab.ts\"\x7d\x7d"),
    ("/rt/ab.ts", .file "export const x = 1;\n")]

/-- Under this name the library is unknown, and the name is offered instead. -/
theorem lookup_of_listed_of_slashed :
    Layout.discover slashedDisk "/rt" = .ok (.ok ⟨"/rt", [("a/b", "/rt/ab.ts")]⟩) ∧
      slashedDisk.find? "/rt/ab.ts" = some (.file "export const x = 1;\n") ∧
      (lookup { path := "/rt", verbose := false } slashedDisk "rt:a/b").1.outcome =
        .ok (.error (.unknownLibrary "a" ["a/b"])) := by
  have found : Layout.discover slashedDisk "/rt" =
      .ok (.ok ⟨"/rt", [("a/b", "/rt/ab.ts")]⟩) := by
    decide +kernel
  have readable : slashedDisk.find? "/rt/ab.ts" = some (.file "export const x = 1;\n") := by
    decide +kernel
  have listed : [("a/b", "/rt/ab.ts")].lookup "a/b" = some "/rt/ab.ts" := by decide
  obtain ⟨_, unknown, _⟩ := lookup_of_listed false found listed readable
  exact ⟨found, readable, (unknown "a" "b" (by decide) (by decide) (by decide)).1⟩

end RuntimeDirectory

end UnitResolution
