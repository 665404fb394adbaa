import UnitResolution.Proofs.Outcome
import UnitResolution.Proofs.Path
import UnitResolution.Resolver.Chain

/-!
# Opening files

A resolver that has its sources on a disk works out the path of a file first, and reads that file
then. `UnitResolution.Resolver.Opens` says which path that is. Whatever goes wrong with the file at
that path is part of the answer (`UnitResolution.Source.read_of_refusing`).

Working out the path is another matter. A resolver of packages below several roots looks for the
first root with the file, and a runtime library in a directory looks for its layout. Where something
on the way cannot be looked at, or a directory cannot be listed, or a resolver of the caller gives
up (`UnitResolution.Resolver.Blocked`), resolving is interrupted, and nothing else interrupts it
(`UnitResolution.Resolver.resolve_eq_error_iff`).
-/

namespace UnitResolution

open Text

variable {disk : Disk} {identifier path reason : String}

/-- The roots of packages. -/
def PackageChoice.roots : PackageChoice → List String
  | single root => [root]
  | several roots => roots

/-! ## Looking at a disk -/

/-- Where something else than a directory lies, it has been entered. -/
theorem Disk.mem_of_entryAt? {place : Place} {entry : Entry}
    (found : disk.entryAt? place = some entry) (other : entry ≠ .directory) :
    (place, entry) ∈ disk.entries := by
  unfold entryAt? at found
  split at found
  · next listed =>
      cases found
      obtain ⟨before, after, split, _⟩ := List.lookup_eq_some_iff.mp listed
      rw [split]
      exact List.mem_append_right before List.mem_cons_self
  · split at found
    · exact absurd (Option.some.inj found).symm other
    · cases found

theorem Disk.directoriesIn_eq_error_iff {place : Place} :
    disk.directoriesIn place = .error reason ↔
      disk.entryAt? place = some (.unlistable reason) := by
  unfold directoriesIn
  split <;> simp_all

theorem Disk.directoriesIn_eq_ok {place : Place} {names : List (List Char)}
    (listed : disk.directoriesIn place = .ok names) : disk.directoriesBelow place = names := by
  unfold directoriesIn at listed
  split at listed
  · cases listed
  · exact Except.ok.inj listed

variable [Host]

theorem Disk.placeOf_of_isAbsolute {path : List Char} (rooted : Path.isAbsolute path) :
    Disk.placeOf (String.ofList path) = Path.segments path := by
  rw [Disk.placeOf, String.toList_ofList, Path.segments_absolute rooted]

theorem Disk.entryAt?_of_find? {entry : Entry} (found : disk.find? path = some entry) :
    disk.entryAt? (placeOf path) = some entry := by
  unfold find? at found
  split at found
  · cases found
  · split at found
    · next listed =>
        split at found
        · cases found
        · rw [listed, found]
    · cases found

/-- A file lies at the place that its path names. -/
theorem Disk.mem_of_find? {contents : String} (found : disk.find? path = some (.file contents)) :
    (placeOf path, .file contents) ∈ disk.entries :=
  mem_of_entryAt? (entryAt?_of_find? found) nofun

theorem Disk.isFile_eq_error_iff :
    disk.isFile path = .error reason ↔ disk.find? path = some (.uninspectable reason) := by
  unfold isFile
  split <;> simp_all

theorem Disk.isFile_eq_true_iff : disk.isFile path = .ok true ↔
    (∃ contents, disk.find? path = some (.file contents)) ∨
      ∃ reason, disk.find? path = some (.unreadable reason) := by
  unfold isFile
  split <;> simp_all

theorem Disk.isDirectory_eq_error_iff :
    disk.isDirectory path = .error reason ↔ disk.find? path = some (.uninspectable reason) := by
  unfold isDirectory
  split <;> simp_all

theorem Disk.isDirectory_eq_true_iff : disk.isDirectory path = .ok true ↔
    disk.find? path = some .directory ∨
      ∃ reason, disk.find? path = some (.unlistable reason) := by
  unfold isDirectory
  split <;> simp_all

/-- A file that cannot be looked at or read is a fault of the identifier it stands for. -/
theorem Source.read_of_refusing
    (refuses : disk.find? path = some (.unreadable reason) ∨
      disk.find? path = some (.uninspectable reason)) :
    Source.read disk identifier path = .error (.unreadable path reason) := by
  rcases refuses with found | found
  · have present : disk.exists? path = true := by simp [Disk.exists?, found]
    have isFile : disk.isFile path = .ok true := Disk.isFile_eq_true_iff.mpr (.inr ⟨reason, found⟩)
    have unread : disk.read path = .error reason := by simp [Disk.read, found]
    simp [Source.read, present, isFile, unread]
  · have present : disk.exists? path = true := by simp [Disk.exists?, found]
    have isFile : disk.isFile path = .error reason := Disk.isFile_eq_error_iff.mpr found
    simp [Source.read, present, isFile]

theorem Source.read_of_file {contents : String} (found : disk.find? path = some (.file contents)) :
    Source.read disk identifier path = .ok { identifier, contents, path := some path } := by
  simp [Source.read, Disk.exists?, Disk.isFile, Disk.read, found]

/-- Only a file whose text can be read is a source. -/
theorem Source.read_eq_ok {source : Source}
    (read : Source.read disk identifier path = .ok source) :
    ∃ contents, disk.find? path = some (.file contents) ∧
      source = { identifier, contents, path := some path } := by
  cases found : disk.find? path with
  | none => simp [Source.read, Disk.exists?, found] at read
  | some entry =>
      cases entry with
      | file contents =>
          rw [Source.read_of_file found] at read
          cases read
          exact ⟨contents, rfl, rfl⟩
      | unreadable reason =>
          rw [Source.read_of_refusing (.inl found)] at read
          cases read
      | uninspectable reason =>
          rw [Source.read_of_refusing (.inr found)] at read
          cases read
      | directory | unlistable => simp [Source.read, Disk.exists?, Disk.isFile, found] at read

/-! ## The layout of a runtime library -/

namespace Layout

/-- The path of the file that a layout prescribes for an identifier. -/
def fileOf? (layout : Layout) (identifier : String) : Option String :=
  match split '/' (dropUnits (units Identifier.runtimeScheme.toList) identifier.toList) with
  | [] => none
  | name :: parts =>
      (layout.libraries.lookup (String.ofList name)).bind fun entry =>
        if parts.isEmpty then some entry else RuntimeDirectory.partPath? entry parts

theorem serve_of_fileOf {layout : Layout} (named : layout.fileOf? identifier = some path) :
    RuntimeDirectory.serve layout disk identifier = Source.read disk identifier path := by
  unfold fileOf? at named
  split at named
  · cases named
  · next name parts pieces =>
      obtain ⟨entry, found, named⟩ := Option.bind_eq_some_iff.mp named
      simp only [RuntimeDirectory.serve, pieces, found]
      split at named
      · next only =>
          cases named
          rw [if_pos only]
      · next more =>
          rw [if_neg more, named]

theorem fileOf_of_serve {layout : Layout} {source : Source}
    (served : RuntimeDirectory.serve layout disk identifier = .ok source) :
    ∃ path, layout.fileOf? identifier = some path ∧
      Source.read disk identifier path = .ok source := by
  cases named : layout.fileOf? identifier with
  | some path =>
      rw [serve_of_fileOf named] at served
      exact ⟨path, rfl, served⟩
  | none =>
      exfalso
      unfold fileOf? at named
      unfold RuntimeDirectory.serve at served
      dsimp only at served
      split at named
      · next pieces =>
          rw [pieces] at served
          cases served
      · next name parts pieces =>
          rw [pieces] at served
          cases found : layout.libraries.lookup (String.ofList name) with
          | none =>
              simp only [found] at served
              cases served
          | some entry =>
              simp only [found, Option.bind_some] at served named
              split at named
              · cases named
              · next more =>
                  rw [if_neg more, named] at served
                  cases served

theorem ofDirectory_eq_error_iff {root directory : String} :
    ofDirectory disk root directory = .error reason ↔
      disk.entryAt? (Disk.placeOf directory) = some (.unlistable reason) := by
  rw [← Disk.directoriesIn_eq_error_iff]
  unfold ofDirectory
  cases disk.directoriesIn (Disk.placeOf directory) with
  | error other => simp only [Except.map, Except.error.injEq]
  | ok names => exact iff_of_false nofun nofun

/-- A library in a directory of libraries is one of the directories there, with its entry unit. -/
theorem mem_of_ofDirectory {layout : Layout} {root directory name entry : String}
    (found : ofDirectory disk root directory = .ok layout)
    (listed : layout.libraries.lookup name = some entry) :
    name.toList ∈ disk.directoriesBelow (Disk.placeOf directory) ∧
      entry = entryBelow directory name := by
  unfold ofDirectory at found
  cases names : disk.directoriesIn (Disk.placeOf directory) with
  | error reason =>
      rw [names] at found
      cases found
  | ok segments =>
      rw [names] at found
      cases found
      have among := List.mem_of_mem_filter (Table.mem_of_lookup listed)
      obtain ⟨segment, member, same⟩ := List.mem_map.mp among
      cases same
      rw [String.toList_ofList, Disk.directoriesIn_eq_ok names]
      exact ⟨List.mem_mergeSort.mp member, rfl⟩

/-- The layout of a directory cannot be found out: the directory cannot be looked at, or, where
there is no manifest, its directory of libraries can either not be looked at or not be listed. -/
inductive Hidden (disk : Disk) (path reason : String) : Prop
  | root (refuses : disk.find? (Path.absoluteString path) = some (.uninspectable reason))
  | libraries
      (root : disk.isDirectory (Path.absoluteString path) = .ok true)
      (unlisted :
        disk.exists? (Path.joinedString (Path.absoluteString path) manifestName) = false)
      (refuses : disk.find? (Path.joinedString (Path.absoluteString path) "lib") =
        some (.uninspectable reason))
  | listing
      (root : disk.isDirectory (Path.absoluteString path) = .ok true)
      (unlisted :
        disk.exists? (Path.joinedString (Path.absoluteString path) manifestName) = false)
      (refuses : disk.find? (Path.joinedString (Path.absoluteString path) "lib") =
        some (.unlistable reason))

/-- How a layout is found out, step by step. -/
theorem discover_eq (disk : Disk) (path : String) :
    discover disk path =
      let root := Path.absoluteString path
      let manifest := Path.joinedString root manifestName
      let directory := Path.joinedString root "lib"
      match disk.isDirectory root with
      | .error reason => .error (.uninspectable reason)
      | .ok false => .ok (.error (.noDirectory root))
      | .ok true =>
          if disk.exists? manifest then .ok (ofManifest disk root manifest)
          else
            match disk.isDirectory directory with
            | .error reason => .error (.uninspectable reason)
            | .ok false => .ok (.error (.nothingInside root))
            | .ok true =>
                match ofDirectory disk root directory with
                | .error reason => .error (.uninspectable reason)
                | .ok layout => .ok (.ok layout) := by
  unfold discover
  dsimp only
  generalize Path.absoluteString path = root
  generalize Path.joinedString root "lib" = directory
  generalize ofDirectory disk root directory = libraries
  generalize disk.isDirectory root = there, disk.isDirectory directory = below
  rcases there with _ | _ | _
  · rfl
  · rfl
  · cases disk.exists? (Path.joinedString root manifestName) with
    | true => rfl
    | false =>
        rcases below with _ | _ | _
        · rfl
        · rfl
        · cases libraries <;> rfl

theorem discover_of_hidden (hidden : Hidden disk path reason) :
    discover disk path = .error (.uninspectable reason) := by
  rw [discover_eq]
  dsimp only
  cases hidden with
  | root refuses => simp only [Disk.isDirectory_eq_error_iff.mpr refuses]
  | libraries there unlisted refuses =>
      simp only [there, unlisted, Disk.isDirectory_eq_error_iff.mpr refuses, Bool.false_eq_true,
        if_false]
  | listing there unlisted refuses =>
      have found := Disk.isDirectory_eq_true_iff.mpr (.inr ⟨reason, refuses⟩)
      have stopped : ofDirectory disk (Path.absoluteString path) _ = .error reason :=
        ofDirectory_eq_error_iff.mpr (Disk.entryAt?_of_find? refuses)
      simp only [there, unlisted, found, stopped, Bool.false_eq_true, if_false]

/-- A directory that is there but cannot be listed is found as such. -/
theorem find?_of_ofDirectory {root directory : String}
    (there : disk.isDirectory directory = .ok true)
    (stopped : ofDirectory disk root directory = .error reason) :
    disk.find? directory = some (.unlistable reason) := by
  have hides := ofDirectory_eq_error_iff.mp stopped
  rcases Disk.isDirectory_eq_true_iff.mp there with found | ⟨_, found⟩
  · cases hides.symm.trans (Disk.entryAt?_of_find? found)
  · cases hides.symm.trans (Disk.entryAt?_of_find? found)
    exact found

/-- A layout that cannot be found out is hidden. -/
theorem hidden_of_discover {i : Interruption} (stopped : discover disk path = .error i) :
    ∃ reason, Hidden disk path reason ∧ i = .uninspectable reason := by
  rw [discover_eq] at stopped
  dsimp only at stopped
  split at stopped
  · next reason refuses =>
      cases stopped
      exact ⟨reason, .root (Disk.isDirectory_eq_error_iff.mp refuses), rfl⟩
  · cases stopped
  · next root =>
      split at stopped
      · cases stopped
      · next unlisted =>
          have unlisted := Bool.eq_false_iff.mpr unlisted
          split at stopped
          · next reason refuses =>
              cases stopped
              exact ⟨reason, .libraries root unlisted (Disk.isDirectory_eq_error_iff.mp refuses),
                rfl⟩
          · cases stopped
          · next there =>
              split at stopped
              · next reason refuses =>
                  cases stopped
                  exact ⟨reason, .listing root unlisted (find?_of_ofDirectory there refuses), rfl⟩
              · cases stopped

/-- A layout is that of the manifest, or that of the directory of libraries. -/
theorem cases_of_discover {layout : Layout} (found : discover disk path = .ok (.ok layout)) :
    let root := Path.absoluteString path
    let manifest := Path.joinedString root manifestName
    (disk.exists? manifest = true ∧ ofManifest disk root manifest = .ok layout) ∨
      (disk.exists? manifest = false ∧
        ofDirectory disk root (Path.joinedString root "lib") = .ok layout) := by
  rw [discover_eq] at found
  dsimp only at found ⊢
  split at found
  · cases found
  · cases found
  · split at found
    · next listed => exact .inl ⟨listed, Except.ok.inj found⟩
    · next unlisted =>
        split at found
        · cases found
        · cases found
        · split at found
          · cases found
          · next libraries =>
              cases found
              exact .inr ⟨Bool.eq_false_iff.mpr unlisted, libraries⟩

end Layout

/-! ## Resolvers -/

namespace Resolver

/-- The path of the file that a resolver opens for an identifier. -/
inductive Opens (disk : Disk) (identifier : String) : Resolver → String → Prop
  | file {path : String} (named : Identifier.filePath? identifier = some path) :
      Opens disk identifier .file path
  | package {root : String} {p : List Char}
      (inside : PackagePath.ofIdentifier identifier.toList = .ok p) :
      Opens disk identifier (.package root) (packageFile root p)
  | packages {roots : List String} {p : List Char} {path : String}
      (inside : PackagePath.ofIdentifier identifier.toList = .ok p)
      (first : firstFile? disk (roots.map fun root => packageFile root p) = .ok (some path)) :
      Opens disk identifier (.packages roots) path
  | runtime {library : RuntimeDirectory} {layout : Layout} {path : String}
      (known : (library.ensureLayout disk).1.outcome = .ok (.ok layout))
      (named : layout.fileOf? identifier = some path) :
      Opens disk identifier (.runtimeDirectory library) path

/-- Something that a resolver looks at before it opens a file cannot be looked at, or a directory
cannot be listed, or a resolver of the caller gives up. -/
inductive Blocked (disk : Disk) (identifier reason : String) : Resolver → Prop
  | runtime {library : RuntimeDirectory} (undiscovered : library.layout = none)
      (hidden : Layout.Hidden disk library.path reason) :
      Blocked disk identifier reason (.runtimeDirectory library)
  | packages {before after : List String} {root : String} {p : List Char}
      (inside : PackagePath.ofIdentifier identifier.toList = .ok p)
      (earlier : ∀ other ∈ before, disk.isFile (packageFile other p) = .ok false)
      (refuses : disk.find? (packageFile root p) = some (.uninspectable reason)) :
      Blocked disk identifier reason (.packages (before ++ root :: after))
  | foreign {name scheme : String} {claimed : String → Bool}
      {answer : Disk → String → Except String (Except SourceFault Source)}
      (stopped : answer disk identifier = .error reason) :
      Blocked disk identifier reason (.foreign name scheme claimed answer)

theorem Opens.outcome {r : Resolver} (opens : r.Opens disk identifier path) :
    (r.resolve disk identifier).1.outcome = .ok (Source.read disk identifier path) := by
  cases opens with
  | file named => simp only [resolve, named]
  | package inside => simp only [resolve, inside]
  | packages inside first =>
      simp only [resolve, readPackage, inside, first, bind, Except.bind, pure, Except.pure]
  | runtime known named =>
      simp only [resolve, RuntimeDirectory.lookup, known, Except.map, Layout.serve_of_fileOf named]

/-- A source comes from a file that the resolver opens, or from memory, or it is the answer of a
resolver of the caller. -/
inductive Provides (disk : Disk) (identifier : String) (source : Source) : Resolver → Prop
  | opened {r : Resolver} {path : String} (opens : r.Opens disk identifier path)
      (read : Source.read disk identifier path = .ok source) : Provides disk identifier source r
  | mock {library : MockRuntime} (found : library.lookup? identifier = some source.contents) :
      Provides disk identifier source (.mockRuntime library)
  | memory {name : String} {files : MemoryFiles} {path : String}
      (held : files.serve? identifier = some (path, source.contents)) :
      Provides disk identifier source (.memory name files)
  | foreign {name scheme : String} {claimed : String → Bool}
      {answer : Disk → String → Except String (Except SourceFault Source)}
      (answered : answer disk identifier = .ok (.ok source)) :
      Provides disk identifier source (.foreign name scheme claimed answer)

/-- A runtime library that has a layout reads the file that this layout names. -/
theorem opens_of_lookup {library : RuntimeDirectory} {source : Source}
    (served : (library.lookup disk identifier).1.outcome = .ok (.ok source)) :
    ∃ path, (runtimeDirectory library).Opens disk identifier path ∧
      Source.read disk identifier path = .ok source := by
  simp only [RuntimeDirectory.lookup] at served
  cases known : (library.ensureLayout disk).1.outcome with
  | error i =>
      rw [known] at served
      cases served
  | ok found =>
      rw [known] at served
      cases found with
      | error fault => cases served
      | ok layout =>
          obtain ⟨path, named, read⟩ := Layout.fileOf_of_serve (Except.ok.inj served)
          exact ⟨path, .runtime known named, read⟩

/-- What is read below several roots is in the first file that is there. -/
theorem opens_of_readPackage {roots : List String} {source : Source}
    (served : readPackage disk roots identifier = .ok (.ok source)) :
    ∃ path, (packages roots).Opens disk identifier path ∧
      Source.read disk identifier path = .ok source := by
  unfold readPackage at served
  split at served
  · cases served
  · next p inside =>
      obtain ⟨found, first, read⟩ := bind_eq_ok.mp served
      cases found with
      | none => cases read
      | some path => exact ⟨path, .packages inside first, Except.ok.inj read⟩

theorem provides_of_resolve {r : Resolver} {source : Source}
    (served : (r.resolve disk identifier).1.outcome = .ok (.ok source)) :
    r.Provides disk identifier source := by
  cases r with
  | mockRuntime library =>
      simp only [resolve] at served
      split at served
      · next contents found =>
          cases served
          exact .mock found
      · cases served
  | runtimeDirectory library =>
      obtain ⟨path, opens, read⟩ := opens_of_lookup served
      exact .opened opens read
  | file =>
      simp only [resolve] at served
      split at served
      · next path named => exact .opened (.file named) (Except.ok.inj served)
      · cases served
  | package root =>
      simp only [resolve] at served
      split at served
      · cases served
      · next p inside => exact .opened (.package inside) (Except.ok.inj served)
  | packages roots =>
      obtain ⟨path, opens, read⟩ := opens_of_readPackage served
      exact .opened opens read
  | memory name files =>
      simp only [resolve] at served
      split at served
      · next path contents found =>
          cases served
          exact .memory found
      · cases served
  | foreign => exact .foreign (mapError_eq_ok_iff.mp served)

theorem mem_of_firstFile {paths : List String} {path : String}
    (first : firstFile? disk paths = .ok (some path)) : path ∈ paths := by
  induction paths with
  | nil => cases first
  | cons head rest ih =>
      unfold firstFile? at first
      split at first
      · cases first
      · cases first
        exact List.mem_cons_self
      · exact List.mem_cons_of_mem head (ih first)

/-- A unit of a package is read from the path of the package below one of the roots. -/
theorem Provides.of_packageChoice {choice : PackageChoice} {source : Source}
    (provides : (ofPackageChoice choice).Provides disk identifier source) :
    ∃ root ∈ choice.roots, ∃ p, PackagePath.ofIdentifier identifier.toList = .ok p ∧
      source.path = some (packageFile (Path.absoluteString root) p) ∧
      disk.find? (packageFile (Path.absoluteString root) p) = some (.file source.contents) := by
  cases choice with
  | single root =>
      cases provides with
      | opened opens read =>
          obtain ⟨contents, found, rfl⟩ := Source.read_eq_ok read
          cases opens with
          | package inside => exact ⟨root, List.mem_singleton_self root, _, inside, rfl, found⟩
  | several roots =>
      cases provides with
      | opened opens read =>
          obtain ⟨contents, found, rfl⟩ := Source.read_eq_ok read
          cases opens with
          | packages inside first =>
              obtain ⟨_, absolute, rfl⟩ := List.mem_map.mp (mem_of_firstFile first)
              obtain ⟨root, among, rfl⟩ := List.mem_map.mp absolute
              exact ⟨root, among, _, inside, rfl, found⟩

/-- The search for a file ends at a path unless it is known that there is no file. -/
def endsSearch (disk : Disk) (path : String) : Bool :=
  match disk.isFile path with
  | .ok false => false
  | _ => true

theorem endsSearch_eq_false_iff {path : String} :
    endsSearch disk path = false ↔ disk.isFile path = .ok false := by
  unfold endsSearch
  split
  · next nothing => exact iff_of_true rfl nothing
  · next something => exact iff_of_false nofun something

theorem firstFile?_eq_error_iff_find {paths : List String} {i : Interruption} :
    firstFile? disk paths = .error i ↔ ∃ path reason, paths.find? (endsSearch disk) = some path ∧
      disk.isFile path = .error reason ∧ i = .uninspectable reason := by
  induction paths with
  | nil => exact ⟨nofun, fun ⟨_, _, impossible, _⟩ => nomatch impossible⟩
  | cons first rest ih =>
      unfold firstFile?
      cases looked : disk.isFile first with
      | error reason =>
          have ends : endsSearch disk first = true := by rw [endsSearch, looked]
          rw [List.find?_cons_of_pos ends]
          constructor
          · rintro ⟨⟩
            exact ⟨first, reason, rfl, looked, rfl⟩
          · rintro ⟨_, _, ⟨⟩, found, rfl⟩
            cases looked.symm.trans found
            rfl
      | ok isFile =>
          cases isFile with
          | true =>
              have ends : endsSearch disk first = true := by rw [endsSearch, looked]
              rw [List.find?_cons_of_pos ends]
              refine iff_of_false nofun ?_
              rintro ⟨_, _, ⟨⟩, found, _⟩
              cases looked.symm.trans found
          | false =>
              have continues : ¬ endsSearch disk first = true :=
                Bool.eq_false_iff.mp (endsSearch_eq_false_iff.mpr looked)
              rw [List.find?_cons_of_neg continues]
              exact ih

/-- The search for a file stops at the first path that cannot be looked at. -/
theorem firstFile?_eq_error_iff {paths : List String} {i : Interruption} :
    firstFile? disk paths = .error i ↔ ∃ before path after reason,
      paths = before ++ path :: after ∧ (∀ other ∈ before, disk.isFile other = .ok false) ∧
      disk.find? path = some (.uninspectable reason) ∧ i = .uninspectable reason := by
  rw [firstFile?_eq_error_iff_find]
  constructor
  · rintro ⟨path, reason, found, refuses, same⟩
    obtain ⟨_, before, after, split, earlier⟩ := List.find?_eq_some_iff_append.mp found
    refine ⟨before, path, after, reason, split, fun other member => ?_,
      Disk.isFile_eq_error_iff.mp refuses, same⟩
    exact endsSearch_eq_false_iff.mp ((Bool.not_eq_true' _).mp (earlier other member))
  · rintro ⟨before, path, after, reason, split, earlier, refuses, same⟩
    have refuses := Disk.isFile_eq_error_iff.mpr refuses
    have ends : endsSearch disk path = true := by rw [endsSearch, refuses]
    refine ⟨path, reason, List.find?_eq_some_iff_append.mpr ⟨ends, before, after, split, ?_⟩,
      refuses, same⟩
    intro other member
    rw [endsSearch_eq_false_iff.mpr (earlier other member), Bool.not_false]

theorem readPackage_eq_error_iff {roots : List String} {i : Interruption} :
    readPackage disk roots identifier = .error i ↔
      ∃ reason, Blocked disk identifier reason (.packages roots) ∧ i = .uninspectable reason := by
  unfold readPackage
  cases inside : PackagePath.ofIdentifier identifier.toList with
  | error fault =>
      constructor
      · intro stopped
        cases stopped
      · rintro ⟨reason, ⟨⟩, -⟩
        rename_i p found _ _
        rw [inside] at found
        cases found
  | ok p =>
      refine (bind_eq_error_iff fun found => ?_).trans (firstFile?_eq_error_iff.trans ⟨?_, ?_⟩)
      · cases found with
        | none => exact ⟨_, rfl⟩
        | some path => exact ⟨_, rfl⟩
      · rintro ⟨before, path, after, reason, split, earlier, refuses, rfl⟩
        obtain ⟨front, back, rfl, rfl, rest⟩ := List.map_eq_append_iff.mp split
        obtain ⟨root, behind, rfl, rfl, rfl⟩ := List.map_eq_cons_iff.mp rest
        exact ⟨reason, .packages inside
          (fun other member => earlier _ (List.mem_map_of_mem member)) refuses, rfl⟩
      · rintro ⟨reason, blocked, rfl⟩
        generalize same : Resolver.packages roots = r at blocked
        cases blocked with
        | runtime | foreign => cases same
        | @packages before after root p' inside' earlier refuses =>
            cases same
            rw [inside] at inside'
            cases inside'
            refine ⟨before.map fun other => packageFile other p, _,
              after.map fun other => packageFile other p, reason, by simp, ?_, refuses, rfl⟩
            intro other member
            obtain ⟨root', among, rfl⟩ := List.mem_map.mp member
            exact earlier root' among

theorem lookup_path (library : RuntimeDirectory) :
    (library.lookup disk identifier).2.path = library.path ∧
      (library.lookup disk identifier).2.verbose = library.verbose := by
  unfold RuntimeDirectory.lookup RuntimeDirectory.ensureLayout
  cases library.layout with
  | some layout => exact ⟨rfl, rfl⟩
  | none => cases Layout.discover disk library.path <;> exact ⟨rfl, rfl⟩

theorem lookup_eq_error_iff {library : RuntimeDirectory} {i : Interruption} :
    (library.lookup disk identifier).1.outcome = .error i ↔
      library.layout = none ∧ Layout.discover disk library.path = .error i := by
  unfold RuntimeDirectory.lookup RuntimeDirectory.ensureLayout
  cases library.layout with
  | some layout =>
      refine ⟨fun stopped => ?_, fun ⟨undiscovered, _⟩ => ?_⟩
      · cases stopped
      · cases undiscovered
  | none =>
      cases Layout.discover disk library.path with
      | error other =>
          refine ⟨fun stopped => ?_, fun ⟨_, stopped⟩ => ?_⟩
          · cases stopped
            exact ⟨rfl, rfl⟩
          · cases stopped
            rfl
      | ok layout =>
          refine ⟨fun stopped => ?_, fun ⟨_, stopped⟩ => ?_⟩
          · cases stopped
          · cases stopped

/-- Resolving is interrupted exactly where something stands in the way before a file is opened. -/
theorem resolve_eq_error_iff (r : Resolver) {i : Interruption} :
    (r.resolve disk identifier).1.outcome = .error i ↔
      ∃ reason, r.Blocked disk identifier reason ∧ i = .uninspectable reason := by
  cases r with
  | runtimeDirectory library =>
      refine lookup_eq_error_iff.trans ⟨?_, ?_⟩
      · rintro ⟨undiscovered, stopped⟩
        obtain ⟨reason, hidden, same⟩ := Layout.hidden_of_discover stopped
        exact ⟨reason, .runtime undiscovered hidden, same⟩
      · rintro ⟨reason, blocked, rfl⟩
        cases blocked with
        | runtime undiscovered hidden => exact ⟨undiscovered, Layout.discover_of_hidden hidden⟩
  | packages roots => exact readPackage_eq_error_iff
  | foreign name scheme claimed answer =>
      refine mapError_eq_error_iff.trans ⟨?_, ?_⟩
      · rintro ⟨reason, stopped, same⟩
        exact ⟨reason, .foreign stopped, same⟩
      · rintro ⟨reason, blocked, same⟩
        cases blocked with
        | foreign stopped => exact ⟨reason, stopped, same⟩
  | _ =>
      constructor
      · intro stopped
        cases stopped
      · rintro ⟨reason, blocked, -⟩
        cases blocked

end Resolver

/-! ## Chains -/

namespace Chain

variable {unclaimed : SourceFault} {resolvers : List Resolver} {r : Resolver}

theorem resolveBy_of_find (found : resolvers.find? (Resolver.claims identifier) = some r) :
    (resolveBy disk identifier unclaimed resolvers).1 = (r.resolve disk identifier).1 := by
  induction resolvers with
  | nil => cases found
  | cons first rest ih =>
      unfold resolveBy
      by_cases claimed : first.claims identifier
      · rw [List.find?_cons_of_pos claimed] at found
        cases found
        rw [if_pos claimed]
      · rw [List.find?_cons_of_neg claimed] at found
        rw [if_neg claimed]
        exact ih found

theorem resolveBy_of_find_none (found : resolvers.find? (Resolver.claims identifier) = none) :
    (resolveBy disk identifier unclaimed resolvers).1 = ⟨.ok (.error unclaimed), []⟩ := by
  induction resolvers with
  | nil => rfl
  | cons first rest ih =>
      have claimed : ¬ first.claims identifier :=
        List.find?_eq_none.mp found first List.mem_cons_self
      rw [List.find?_cons_of_neg claimed] at found
      unfold resolveBy
      rw [if_neg claimed]
      exact ih found

/-- The first resolver that claims an identifier answers for it. -/
theorem resolve_of_claimant {c : Chain} (claimant : c.claimant? identifier = some r) :
    (c.resolve disk identifier).1 = (r.resolve disk identifier).1 :=
  resolveBy_of_find claimant

theorem resolve_of_unclaimed {c : Chain} (unclaimed : c.claimant? identifier = none) :
    (c.resolve disk identifier).1.outcome = .ok (.error (.unclaimed c.names)) :=
  congrArg Answer.outcome (resolveBy_of_find_none unclaimed)

end Chain

end UnitResolution
