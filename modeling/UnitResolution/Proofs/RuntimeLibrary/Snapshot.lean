import UnitResolution.Proofs.Path.Ways
import UnitResolution.Proofs.Resolver.Confinement

/-!
# The layout that a runtime library keeps

The layout of a runtime library in a directory is discovered by the first lookup that answers at
all, on the disk as it is then. From that lookup on, all answers are prescribed by this one layout,
or by the lack of one, while the files that it names are read from the disk of each lookup
(`UnitResolution.RuntimeDirectory.lookups_prescribed`).

What a layout prescribes is said here without the way in which it is found out: by the name of the
library, by the part behind the first slash, and by where that part lies
(`UnitResolution.Layout.Prescribes`).
-/

namespace UnitResolution

open Text

/-- A text begins with what stands in front of the first separator; the other pieces are those of
what stands behind it. -/
theorem Text.split_eq_cons (separator : Char) (s : List Char) :
    split separator s = s.takeWhile (· != separator) ::
      ((s.dropWhile (· != separator)).tail?.map (split separator)).getD [] := by
  have whole := List.takeWhile_append_dropWhile (p := (· != separator)) (l := s)
  have plain : separator ∉ s.takeWhile (· != separator) := by
    intro member
    have other := List.mem_takeWhile_imp member
    simp at other
  cases behind : s.dropWhile (· != separator) with
  | nil =>
      rw [behind, List.append_nil] at whole
      rw [whole] at plain ⊢
      exact split_of_not_mem plain
  | cons c rest =>
      have filled : s.dropWhile (· != separator) ≠ [] := by simp [behind]
      have mark := List.head_dropWhile_not _ filled
      simp only [behind, List.head_cons, bne_eq_false_iff_eq] at mark
      subst mark
      conv_lhs => rw [← whole, behind, split_append plain]
      rfl

theorem Table.lookup_eq_none_iff {α : Type} {key : String} {table : List (String × α)} :
    table.lookup key = none ↔ key ∉ Table.keys table := by
  rw [List.lookup_eq_none_iff, Table.keys, List.mem_map]
  constructor
  · rintro missing ⟨entry, member, rfl⟩
    simpa using missing entry member
  · intro absent entry member
    exact bne_iff_ne.mpr fun same => absent ⟨entry, member, same.symm⟩

/-! ## What a layout prescribes -/

namespace Layout

variable {disk : Disk} {identifier : String} {layout : Layout}

/-- The part of a library for which an identifier asks: all behind the first slash. Without a slash
it asks for the library itself. -/
def partName? (identifier : String) : Option (List Char) :=
  ((dropUnits (units Identifier.runtimeScheme.toList) identifier.toList).dropWhile (· != '/')).tail?

variable [Host]

/-- The path of a part, counted from the directory of an entry unit. -/
def partPath (entry : String) (part : List Char) : String :=
  Path.resolve (Path.directoryString entry) (String.ofList ('.' :: '/' :: part))

/-- What a layout prescribes for an identifier on a disk, or what the lack of one does. -/
inductive Prescribes (disk : Disk) (identifier : String) :
    Except Fault Layout → Except SourceFault Source → Prop
  /-- There is no layout, and nothing but the reason for that. -/
  | missing (fault : Fault) : Prescribes disk identifier (.error fault) (.error (.layout fault))
  /-- The layout does not have the library. -/
  | unknown {layout : Layout} (unlisted : libraryName identifier ∉ Table.keys layout.libraries) :
      Prescribes disk identifier (.ok layout)
        (.error (.unknownLibrary (libraryName identifier) (Table.keys layout.libraries)))
  /-- The library itself stands for its entry unit. -/
  | entry {layout : Layout} {entry : String}
      (listed : layout.libraries.lookup (libraryName identifier) = some entry)
      (whole : partName? identifier = none) :
      Prescribes disk identifier (.ok layout) (Source.read disk identifier entry)
  /-- The part does not lie in the directory of the entry unit. -/
  | leaves {layout : Layout} {entry : String} {part : List Char}
      (listed : layout.libraries.lookup (libraryName identifier) = some entry)
      (partly : partName? identifier = some part)
      (outside : ¬ Disk.placeOf (Path.directoryString entry) <+:
        Disk.placeOf (partPath entry part)) :
      Prescribes disk identifier (.ok layout) (.error (.leavesLibrary (libraryName identifier)))
  /-- The part lies in the directory of the entry unit, or below it. -/
  | part {layout : Layout} {entry : String} {part : List Char}
      (listed : layout.libraries.lookup (libraryName identifier) = some entry)
      (partly : partName? identifier = some part)
      (inside : Disk.placeOf (Path.directoryString entry) <+:
        Disk.placeOf (partPath entry part)) :
      Prescribes disk identifier (.ok layout)
        (Source.read disk identifier (partPath entry part))

/-- A part is found where it lies in the directory of the entry unit, and refused elsewhere. -/
theorem partPath?_split {entry : String} (rooted : Path.isAbsolute entry.toList)
    (part : List Char) : RuntimeDirectory.partPath? entry (split '/' part) =
      if Disk.placeOf (Path.directoryString entry) <+: Disk.placeOf (partPath entry part) then
        some (partPath entry part)
      else none := by
  have below : Path.isAbsolute (Path.directory entry.toList) := Path.isAbsolute_directory rooted
  -- the dot in front keeps a part that begins with a slash from being absolute
  have path : Path.resolveFrom (Path.directory entry.toList) ('.' :: '/' :: part) =
      Path.ofSegments (Path.reduce false
        (split '/' (Path.directory entry.toList) ++ split '/' part)) := by
    have dotted : split '/' ('.' :: '/' :: part) = ['.'] :: split '/' part :=
      split_append (s := ['.']) (by decide) part
    rw [Path.resolveFrom_eq below rfl, dotted]
    unfold Path.reduce
    rw [List.foldl_append, List.foldl_cons, Path.push_of_not_isStep (by decide),
      ← List.foldl_append]
  have placed : partPath entry part = String.ofList (Path.ofSegments (Path.reduce false
      (split '/' (Path.directory entry.toList) ++ split '/' part))) := by
    unfold partPath Path.resolve Path.directoryString
    rw [String.toList_ofList, String.toList_ofList, path]
  unfold RuntimeDirectory.partPath?
  dsimp only
  rw [placed, Path.directoryString, Disk.placeOf_of_isAbsolute below,
    Disk.placeOf_of_isAbsolute rfl]
  simp only [Path.isWithin_iff]

theorem serve_eq (layout : Layout) (disk : Disk) (identifier : String) :
    RuntimeDirectory.serve layout disk identifier =
      match layout.libraries.lookup (libraryName identifier) with
      | none => .error (.unknownLibrary (libraryName identifier) (Table.keys layout.libraries))
      | some entry =>
          match partName? identifier with
          | none => Source.read disk identifier entry
          | some part =>
              match RuntimeDirectory.partPath? entry (split '/' part) with
              | none => .error (.leavesLibrary (libraryName identifier))
              | some path => Source.read disk identifier path := by
  unfold RuntimeDirectory.serve libraryName partName?
  dsimp only
  generalize dropUnits (units Identifier.runtimeScheme.toList) identifier.toList = rest
  rw [split_eq_cons]
  dsimp only
  cases layout.libraries.lookup (String.ofList (rest.takeWhile (· != '/'))) with
  | none => rfl
  | some entry =>
      dsimp only
      cases (rest.dropWhile (· != '/')).tail? with
      | none => rfl
      | some part =>
          have filled : (split '/' part).isEmpty = false := by
            simp [List.isEmpty_eq_false_iff, split_ne_nil]
          cases found : RuntimeDirectory.partPath? entry (split '/' part) with
          | none => simp [filled, found]
          | some path => simp [filled, found]

/-- A layout serves what it prescribes, and it prescribes nothing else. -/
theorem prescribes_iff
    (rooted : ∀ name entry, layout.libraries.lookup name = some entry →
      Path.isAbsolute entry.toList) {answer : Except SourceFault Source} :
    Prescribes disk identifier (.ok layout) answer ↔
      answer = RuntimeDirectory.serve layout disk identifier := by
  rw [serve_eq]
  constructor
  · intro prescribed
    cases prescribed with
    | unknown unlisted => rw [Table.lookup_eq_none_iff.mpr unlisted]
    | entry listed whole => rw [listed, whole]
    | leaves listed partly outside =>
        rw [listed, partly]
        dsimp only
        rw [partPath?_split (rooted _ _ listed), if_neg outside]
    | part listed partly inside =>
        rw [listed, partly]
        dsimp only
        rw [partPath?_split (rooted _ _ listed), if_pos inside]
  · rintro rfl
    cases listed : layout.libraries.lookup (libraryName identifier) with
    | none => exact .unknown (Table.lookup_eq_none_iff.mp listed)
    | some entry =>
        dsimp only
        cases partly : partName? identifier with
        | none => exact .entry listed partly
        | some part =>
            dsimp only
            rw [partPath?_split (rooted _ _ listed)]
            by_cases inside : Disk.placeOf (Path.directoryString entry) <+:
                Disk.placeOf (partPath entry part)
            · rw [if_pos inside]
              dsimp only
              exact .part listed partly inside
            · rw [if_neg inside]
              dsimp only
              exact .leaves listed partly inside

end Layout

/-! ## Lookups -/

namespace RuntimeDirectory

/-- What can happen to a runtime library in a directory. -/
inductive Event
  /-- The disk becomes another one. -/
  | change (disk : Disk)
  | lookup (identifier : String)

/-- A lookup as it went. -/
structure Lookup where
  disk : Disk
  identifier : String
  outcome : Except Interruption (Except SourceFault Source)
  /-- The layout that the library knows afterwards. -/
  layout : Option (Except Layout.Fault Layout)

section

variable [Host]

/-- The lookups among events, each on the disk as it is then. -/
def lookups (library : RuntimeDirectory) (disk : Disk) : List Event → List Lookup
  | [] => []
  | .change disk :: rest => library.lookups disk rest
  | .lookup identifier :: rest =>
      let (answer, later) := library.lookup disk identifier
      ⟨disk, identifier, answer.outcome, later.layout⟩ :: later.lookups disk rest

/-- A lookup that does not answer, as no layout can be looked for. -/
structure Interrupted (path : String) (l : Lookup) : Prop where
  forgotten : l.layout = none
  fails : ∃ reason, Layout.discover l.disk path = .error reason ∧ l.outcome = .error reason

/-- A lookup with the one answer that a layout prescribes on its disk. -/
structure Prescribed (layout : Except Layout.Fault Layout) (l : Lookup) : Prop where
  kept : l.layout = some layout
  answers : ∃ answer, l.outcome = .ok answer ∧
    ∀ other, Layout.Prescribes l.disk l.identifier layout other ↔ other = answer

/-- The answer that is given where a layout is known, or that there is none. -/
def answerBy (layout : Except Layout.Fault Layout) (disk : Disk) (identifier : String) :
    Except SourceFault Source :=
  match layout with
  | .error fault => .error (.layout fault)
  | .ok layout => serve layout disk identifier

variable {library : RuntimeDirectory} {disk : Disk} {identifier : String}

theorem lookups_lookup {later : RuntimeDirectory}
    {outcome : Except Interruption (Except SourceFault Source)}
    (went : (library.lookup disk identifier).2 = later ∧
      (library.lookup disk identifier).1.outcome = outcome) (rest : List Event) :
    library.lookups disk (.lookup identifier :: rest) =
      ⟨disk, identifier, outcome, later.layout⟩ :: later.lookups disk rest := by
  obtain ⟨rfl, rfl⟩ := went
  rfl

section Known

variable {layout : Except Layout.Fault Layout}

theorem lookup_of_known (known : library.layout = some layout) :
    (library.lookup disk identifier).2 = library ∧
      (library.lookup disk identifier).1.outcome = .ok (answerBy layout disk identifier) := by
  unfold lookup ensureLayout
  rw [known]
  exact ⟨rfl, rfl⟩

theorem lookup_of_error (unknown : library.layout = none) {reason : Interruption}
    (failed : Layout.discover disk library.path = .error reason) :
    (library.lookup disk identifier).2 = library ∧
      (library.lookup disk identifier).1.outcome = .error reason := by
  unfold lookup ensureLayout
  rw [unknown]
  dsimp only
  rw [failed]
  exact ⟨rfl, rfl⟩

/-- A lookup that discovers the layout goes as if the layout had been known before. -/
theorem lookup_of_discover (unknown : library.layout = none)
    (found : Layout.discover disk library.path = .ok layout) :
    (library.lookup disk identifier).2 = { library with layout := some layout } ∧
      (library.lookup disk identifier).1.outcome = .ok (answerBy layout disk identifier) := by
  unfold lookup ensureLayout
  rw [unknown]
  dsimp only
  rw [found]
  exact ⟨rfl, rfl⟩

/-- Where a layout has been discovered, on whatever disk, its answers are those that it
prescribes. -/
theorem prescribed_answerBy {earlier : Disk} {path : String}
    (found : Layout.discover earlier path = .ok layout) (disk : Disk) (identifier : String) :
    Prescribed layout
      ⟨disk, identifier, .ok (answerBy layout disk identifier), some layout⟩ := by
  refine ⟨rfl, _, rfl, fun other => ?_⟩
  cases layout with
  | error fault =>
      constructor
      · rintro ⟨⟩
        rfl
      · rintro rfl
        exact .missing fault
  | ok layout =>
      exact Layout.prescribes_iff fun name entry listed =>
        Layout.isAbsolute_of_discover found listed

/-- What is known stays known, so it prescribes every later lookup. -/
theorem prescribed_of_known (known : library.layout = some layout) {earlier : Disk} {path : String}
    (found : Layout.discover earlier path = .ok layout) (disk : Disk) (events : List Event) :
    ∀ l ∈ library.lookups disk events, Prescribed layout l := by
  induction events generalizing disk with
  | nil => exact List.forall_mem_nil _
  | cons event rest ih =>
      cases event with
      | change next => exact ih next
      | lookup identifier =>
          rw [lookups_lookup (lookup_of_known known), known]
          exact List.forall_mem_cons.mpr ⟨prescribed_answerBy found disk identifier, ih disk⟩

end Known

/-- The lookups of a runtime library, while the disk changes between them: as long as no layout can
be looked for, none of them answers and nothing is known. The first one that answers discovers the
layout on the disk as it is then, or that there is none, and this is what prescribes its answer and
the answers of all later lookups, each on the disk as it is by then. -/
theorem lookups_prescribed (path : String) (verbose : Bool) (disk : Disk) (events : List Event) :
    ∃ before after, lookups { path, verbose } disk events = before ++ after ∧
      (∀ l ∈ before, Interrupted path l) ∧
      ∀ first ∈ after.head?, ∃ layout, Layout.discover first.disk path = .ok layout ∧
        ∀ l ∈ after, Prescribed layout l := by
  have unknown : (RuntimeDirectory.mk path verbose none).layout = none := rfl
  induction events generalizing disk with
  | nil => exact ⟨[], [], rfl, List.forall_mem_nil _, by simp⟩
  | cons event rest ih =>
      cases event with
      | change next => exact ih next
      | lookup identifier =>
          cases found : Layout.discover disk path with
          | error reason =>
              obtain ⟨before, after, cut, interrupted, prescribed⟩ := ih disk
              have first : Interrupted path ⟨disk, identifier, .error reason, none⟩ :=
                ⟨rfl, reason, found, rfl⟩
              refine ⟨⟨disk, identifier, .error reason, none⟩ :: before, after, ?_,
                List.forall_mem_cons.mpr ⟨first, interrupted⟩, prescribed⟩
              rw [lookups_lookup (lookup_of_error unknown found), cut]
              rfl
          | ok layout =>
              refine ⟨[], _, lookups_lookup (lookup_of_discover unknown found) rest,
                List.forall_mem_nil _, ?_⟩
              rintro first ⟨⟩
              exact ⟨layout, found, List.forall_mem_cons.mpr
                ⟨prescribed_answerBy found disk identifier,
                  prescribed_of_known rfl found disk rest⟩⟩

end

/-- A library that cannot be looked at, then one with a manifest, and then one with another manifest
and another text of the entry unit. -/
example :
    let disk (name text : String) : Disk := .ofEntries
      [("/rt/libraries.json",
          .file ("\x7b\"libraries\": \x7b\"" ++ name ++ "\": \"a.ts\"\x7d\x7d")),
        ("/rt/a.ts", .file text)]
    ((RuntimeDirectory.mk "/rt" false none).lookups (.ofEntries [("/rt", .uninspectable "EACCES")])
      [.lookup "rt:a", .change (disk "a" "first"), .lookup "rt:a", .change (disk "b" "second"),
        .lookup "rt:a", .lookup "rt:b"]).map Lookup.outcome =
      [.error (.uninspectable "EACCES"), .ok (.ok ⟨"rt:a", "first", some "/rt/a.ts"⟩),
        .ok (.ok ⟨"rt:a", "second", some "/rt/a.ts"⟩),
        .ok (.error (.unknownLibrary "b" ["a"]))] := by
  decide +kernel

end RuntimeDirectory

end UnitResolution
