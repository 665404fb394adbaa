import UnitResolution.Proofs.Context.Extent
import UnitResolution.Proofs.Library.History
import UnitResolution.Proofs.Script.Specifiers

/-!
# What can be reached from an entry

Units are told apart by their identifiers, and a file has infinitely many. A relative specifier
could lead from each of them to a new one; but shortened paths are in a normal form, and written
URLs are but for their gaps. Where the references to files beside each other have no gaps
themselves, and no library of the runtime is named like the directory above, only finitely many
identifiers with a source can be reached from an entry (`UnitResolution.Scene.closure_finite`), and
no others with a source are asked for.

A single gap is enough to reach infinitely many: a file that imports itself through it has a new
identifier every time (`UnitResolution.closure_infinite_of_gap`).
-/

namespace UnitResolution

open Text Identifier Url

theorem toNat_lt (c : Char) : c.toNat < 0x110000 := by
  have valid := c.valid
  unfold UInt32.isValidChar Nat.isValidChar at valid
  change c.toNat < 0xD800 ∨ 0xDFFF < c.toNat ∧ c.toNat < 0x110000 at valid
  omega

theorem finite_char : Finite Char := by
  have all : {c : Char | c.toNat < 0x110000} = Set.univ := Set.eq_univ_of_forall toNat_lt
  have numbered : (Set.preimage Char.toNat {n | n < 0x110000}).Finite :=
    (Set.finite_lt_nat 0x110000).preimage fun c _ d _ => Char.toNat_inj.mp
  exact Set.finite_univ_iff.mp (all ▸ numbered)

theorem finite_of_length_le (n : Nat) : {s : String | s.length ≤ n}.Finite := by
  have := finite_char
  have lists := (List.finite_length_le Char n).preimage fun s _ t _ => String.toList_injective
  refine lists.subset fun s short => ?_
  change s.toList.length ≤ n
  rwa [String.length_toList]

/-! ## Texts -/

namespace Context

variable {configuration : Configuration} {directory : String} {layout? : Option Layout}
  {disk : Disk} {identifier contents : String}

variable [Host]

/-- The texts that sources can have. -/
def texts (configuration : Configuration) (directory : String) (disk : Disk) : List String :=
  (match configuration.runtime with
    | .mock sources => sources.map (·.2)
    | .directory _ => []) ++
  (match configuration.entry with
    | .implicit file => (EntryDocument.files file directory).files.map (·.2)
    | .explicit _ => []) ++
  disk.entries.filterMap fun e =>
    match e.2 with
    | .file contents => some contents
    | _ => none

theorem mem_texts_of_find {path : String} (found : disk.find? path = some (.file contents)) :
    contents ∈ texts configuration directory disk :=
  List.mem_append_right _ (List.mem_filterMap.mpr ⟨_, Disk.mem_of_find? found, rfl⟩)

theorem Origin.mem_texts
    (origin : Origin configuration directory layout? disk identifier contents) :
    contents ∈ texts configuration directory disk := by
  cases origin with
  | mock choice _ found =>
      refine List.mem_append_left _ (List.mem_append_left _ ?_)
      rw [choice]
      exact List.mem_map.mpr ⟨_, Table.mem_of_lookup found, rfl⟩
  | entry choice held =>
      refine List.mem_append_left _ (List.mem_append_right _ ?_)
      obtain ⟨_, _, member⟩ := mem_of_serve held
      rw [choice]
      exact List.mem_map.mpr ⟨_, member, rfl⟩
  | runtime _ _ _ found => exact mem_texts_of_find found
  | file _ found => exact mem_texts_of_find found
  | package _ _ _ found => exact mem_texts_of_find found

end Context

/-! ## What identifiers are near -/

/-- The identifiers that specifiers can stand for without regard to the unit that holds them, with
what is tried for them. -/
def identifiersOf (specifiers : List String) : List String :=
  specifiers.flatMap fun specifier =>
    [specifier, String.ofList (ofAbsolutePath (Path.workedOut specifier.toList)),
      packageScheme ++ specifier].flatMap candidates

/-- An identifier is no longer than a length, and the path of a file has no more than some gaps. -/
structure Near (length gaps : Nat) (identifier : String) : Prop where
  short : identifier.length ≤ length
  few : hasScheme identifier fileScheme →
    ∀ u, FileUrl.parse? identifier.toList = some u → FileUrl.gaps u.path ≤ gaps

theorem Near.mono {length longer gaps : Nat} {identifier : String}
    (near : Near length gaps identifier) (le : length ≤ longer) : Near longer gaps identifier :=
  ⟨Nat.le_trans near.short le, near.few⟩

theorem exists_near (list : List String) :
    ∃ length gaps, ∀ identifier ∈ list, Near length gaps identifier := by
  obtain ⟨length, short⟩ := Context.exists_le_of_list String.length list
  obtain ⟨gaps, few⟩ := Context.exists_le_of_list
    (fun identifier : String => ((FileUrl.parse? identifier.toList).map fun u =>
      FileUrl.gaps u.path).getD 0) list
  refine ⟨length, gaps, fun identifier member => ⟨short identifier member, fun _ u read => ?_⟩⟩
  have le := few identifier member
  rwa [read] at le

namespace Sources

/-- The unit of a file refers to files beside it by specifiers without gaps. -/
def Straight (sources : Sources) (unit : String) : Prop :=
  ∀ source, sources unit = .ok (.ok source) → hasScheme unit fileScheme →
    ∀ specifier ∈ specifiersIn unit source.contents, isRelative specifier.toList →
      FileUrl.gaps (FileUrl.segmentsOf specifier.toList) = 0

instance (sources : Sources) (unit : String) : Decidable (sources.Straight unit) :=
  match found : sources unit with
  | .ok (.ok source) =>
      decidable_of_iff (hasScheme unit fileScheme →
        ∀ specifier ∈ specifiersIn unit source.contents, isRelative specifier.toList →
          FileUrl.gaps (FileUrl.segmentsOf specifier.toList) = 0)
        ⟨fun straight _ served => by
          cases found.symm.trans served
          exact straight, fun straight => straight source found⟩
  | .ok (.error _) => isTrue fun _ served => nomatch found.symm.trans served
  | .error _ => isTrue fun _ served => nomatch found.symm.trans served

section Reach

variable [Host]

variable {sources : Sources} {configuration : Configuration} {directory : String}
  {layout? : Option Layout} {disk : Disk} {size length gaps : Nat} {u v : String}
  (comes : ∀ v source, sources v = .ok (.ok source) →
    Context.Origin configuration directory layout? disk v source.contents)
  (bounded : Context.Bounded configuration directory layout? disk size)

include comes bounded

/-- What is tried where a reference is followed is near, if the base is. -/
theorem near_of_followed {base : FileUrl} {specifier : List Char} {source : Source}
    (near : Near length gaps u) (served : sources u = .ok (.ok source))
    (claimed : hasScheme u fileScheme)
    (read : FileUrl.parse? u.toList = some base)
    (straight : FileUrl.gaps (FileUrl.segmentsOf specifier) = 0)
    (room : 12 * size + gaps + 36 * specifier.length + 31 ≤ length)
    (tried : Tried (base.follow specifier).href v.toList) : Near length gaps v := by
  -- the base is short because it has a source, however it has been reached; only gaps can add up
  obtain ⟨_, read', here, le⟩ := (comes u source served).weight_path_le bounded claimed
  cases read.symm.trans read'
  have few := near.few claimed base read
  constructor
  · have longer := tried.length_le
    have followed := FileUrl.length_href_follow_le here specifier
    rw [String.length_toList] at longer
    rw [length_pathText] at followed
    omega
  · intro _ w found
    have written := FileUrl.written_href ((FileUrl.host_follow base specifier).trans here)
      (FileUrl.path_follow_ne_nil base specifier)
      (FileUrl.isSegment_follow base specifier (FileUrl.isSegment_of_parse read))
    obtain ⟨other, count, written⟩ := tried.written written
    have less := written.gaps_le found
    have added := FileUrl.gaps_follow_le base specifier
    unfold FileUrl.gaps at added straight few ⊢ less
    omega

/-- What is tried for a shortened path is near if it has a source. -/
theorem near_of_shortened
    (below : ∀ layout, layout? = some layout → layout.libraries.lookup ".." = none)
    {scheme p : List Char} (named : schemeOf? u.toList = some scheme)
    (other : ¬ hasScheme u fileScheme) (has : sources.Has v) (room : 2 * size + 9 ≤ length)
    (tried : Tried (scheme ++ ':' :: Path.normalize p) v.toList) : Near length gaps v := by
  obtain ⟨isName, rest, whole⟩ := isSchemeName_of_schemeOf named
  have foreign : scheme ≠ "file".toList := by
    rintro rfl
    have front : fileScheme.toList <+: lowerCase u.toList := by
      rw [whole]
      exact ⟨rest, rfl⟩
    exact other (List.isPrefixOf_iff_prefix.mpr front)
  obtain ⟨q, same, further⟩ := tried.behind
  have tidy := further.tidy (Path.tidy_normalize p)
  obtain ⟨source, served⟩ := has
  constructor
  · have le := (comes v source served).length_le bounded below isName same foreign tidy
    omega
  · intro claimed
    have name : "file".toList = scheme := eq_of_hasScheme isName same (by decide) claimed
    exact absurd name.symm foreign

/-- An import leads from a unit that is near to another one that is near, where the identifiers that
hang on specifiers alone are. -/
theorem near_of_edge {specifiers : List String} {longest : Nat} (near : Near length gaps u)
    (edge : sources.Edge u v)
    (written : ∀ identifier contents,
      Context.Origin configuration directory layout? disk identifier contents →
      specifiersIn identifier contents ⊆ specifiers)
    (short : ∀ specifier ∈ specifiers, specifier.length ≤ longest)
    (roots : ∀ identifier ∈ identifiersOf specifiers, Near length gaps identifier)
    (below : ∀ layout, layout? = some layout → layout.libraries.lookup ".." = none)
    (straight : sources.Straight u)
    (room : 12 * size + gaps + 36 * longest + 31 ≤ length) : Near length gaps v := by
  obtain ⟨imported, member, leads⟩ := edge
  obtain ⟨among, has⟩ := firstServed_eq_some leads
  obtain ⟨source, served, specifier, inside, stands⟩ := specifier_of_import member
  have listed : specifier ∈ specifiers := written u source.contents (comes u source served) inside
  have brief := short specifier listed
  have tried := tried_of_mem_candidates among
  have root {t : String} (first : t ∈ [specifier,
      String.ofList (ofAbsolutePath (Path.workedOut specifier.toList)), packageScheme ++ specifier])
      (among : v ∈ candidates t) : Near length gaps v :=
    roots v (List.mem_flatMap.mpr ⟨specifier, listed, List.mem_flatMap.mpr ⟨t, first, among⟩⟩)
  unfold resolveSpecifier at stands
  cases found : resolveChars specifier.toList u.toList with
  | error e =>
      rw [found] at stands
      cases stands
  | ok t =>
      rw [found] at stands
      cases stands
      rw [String.toList_ofList] at tried
      -- only where a path is followed or shortened does it matter from which unit
      cases resolved found with
      | identifier =>
          rw [String.ofList_toList] at among
          exact root List.mem_cons_self among
      | absolute => exact root (List.mem_cons_of_mem _ List.mem_cons_self) among
      | package =>
          have same : String.ofList (packageScheme.toList ++ specifier.toList) =
              packageScheme ++ specifier := by
            rw [String.ofList_append, String.ofList_toList, String.ofList_toList]
          rw [same] at among
          exact root (by simp) among
      | followed relative claimed read =>
          rw [← String.length_toList] at brief
          exact near_of_followed comes bounded near served claimed read
            (straight source served claimed specifier inside relative) (by omega) tried
      | shortened p named other =>
          exact near_of_shortened comes bounded below named other has (by omega) tried

omit bounded in
/-- Where sources come from finitely many places, where no library has the name of the directory
above, and where references to files beside each other have no gaps, finitely many units can be
reached. -/
theorem closure_finite_of_origin
    (below : ∀ layout, layout? = some layout → layout.libraries.lookup ".." = none) (entry : String)
    (straight : ∀ u ∈ sources.closure entry, sources.Straight u) :
    (sources.closure entry).Finite := by
  let texts := Context.texts configuration directory disk
  let specifiers := texts.flatMap fun text => Markup.scriptSpecifiers text ++
    (Script.parse text).statements.filterMap Script.Statement.specifier?
  have written (identifier contents : String)
      (origin : Context.Origin configuration directory layout? disk identifier contents) :
      specifiersIn identifier contents ⊆ specifiers := fun specifier inside =>
    List.mem_flatMap.mpr
      ⟨contents, origin.mem_texts, specifiersIn_subset identifier contents inside⟩
  obtain ⟨size, bounded⟩ := Context.exists_bounded configuration directory layout? disk
  obtain ⟨longest, short⟩ := Context.exists_le_of_list String.length specifiers
  obtain ⟨long, gaps, roots⟩ := exists_near (entry :: identifiersOf specifiers)
  -- every unit is bounded by the sources and by what specifiers add, so no step adds to the bound
  let length := long + (12 * size + gaps + 36 * longest + 31)
  have roots : ∀ identifier ∈ entry :: identifiersOf specifiers, Near length gaps identifier :=
    fun identifier member => (roots identifier member).mono (Nat.le_add_right _ _)
  obtain ⟨first, others⟩ := List.forall_mem_cons.mp roots
  refine (finite_of_length_le length).subset fun v reached => ?_
  suffices near : Near length gaps v from near.short
  induction reached with
  | refl => exact first
  | tail reaches edge near =>
      exact near_of_edge comes bounded near edge written short others below (straight _ reaches)
        (Nat.le_add_left _ _)

end Reach

end Sources

namespace Scene

section

variable [Host]

/-- What a context with standard resolvers can reach from an entry, whatever it has been used for,
is finite, and with it what is tried on the way. That holds if no reference from a file to one
beside it has a gap, and no library of the runtime is named like the directory above. What a library
asks for and gets a source for is among it. -/
theorem closure_finite (standardHook : Configuration → Strategy) (input : ConfigurationInput)
    (overrides : Overrides Strategy Strategy) (runtime : overrides.runtimeResolver = none)
    (files : overrides.fileResolvers = none) {c : Context Strategy Strategy} {log : List String}
    (created : Context.create standardHook input overrides = .created c log)
    (uses : List Context.Use) (s : Scene) (used : s.context = c.afterUses uses) (entry : String)
    (straight : ∀ u ∈ s.sources.closure entry, s.sources.Straight u)
    (below : ∀ layout, s.context.layout? s.disk = some layout →
      layout.libraries.lookup ".." = none) :
    (s.sources.closure entry).Finite ∧
    {v | ∃ u ∈ s.sources.closure entry, ∃ imported ∈ (s.sources.surface u).imports,
      v ∈ candidates imported}.Finite ∧
    ∀ (configuration : Configuration) (bound : Int) (calls : List Library.Call),
      let r := Session.reader configuration
      let state := r.after calls (Library.Reader.fresh bound s)
      r.Course s.sources (Library.Reader.Asked s.sources entry) state
        (Library.resolveLibrary r entry state).2 ∧
      r.Course s.sources (Library.Reader.Asked s.sources entry) state
        (Library.resolveProgram r entry state).2 := by
  obtain ⟨validated, _, follows⟩ := Context.follows_of_create created
  have follows : s.context.Follows validated overrides := used ▸ follows.afterUses uses
  have comes (v : String) (source : Source) (served : s.sources v = .ok (.ok source)) :=
    origin_of_source follows runtime files served
  have finite := Sources.closure_finite_of_origin comes below entry straight
  refine ⟨finite, ?_, fun configuration bound calls => ⟨?_, ?_⟩⟩
  · refine (finite.biUnion fun u _ =>
      ((s.sources.surface u).imports.flatMap candidates).finite_toSet).subset ?_
    rintro v ⟨u, reached, imported, member, among⟩
    exact Set.mem_biUnion reached (List.mem_flatMap.mpr ⟨imported, member, among⟩)
  · exact ((Library.Reader.ensures_resolveLibrary entry).after s.serves bound calls).2
  · exact ((Library.Reader.ensures_resolveProgram entry).after s.serves bound calls).2

/-- The scene of a context with nothing but files. -/
def ofFiles (files : List (String × String)) : Scene :=
  { ofMock [] with disk := .ofEntries (files.map fun file => (file.1, .file file.2)) }

end

/-- The input for a context with nothing but files. -/
def filesInput : ConfigurationInput where
  useMockRuntime := some true
  mockRuntime := some []
  packageRoot := some "/"

/-- Two files that import each other, one of which imports itself without its extension. -/
def pairScene : Scene := .ofFiles
  [("/p/a.ts", "import \"./b.ts?once\";\n"), ("/p/b.ts", "import \"./b\";\nimport \"./a.ts\";\n")]

/-- What can be reached from the first file where its identifier has a gap. -/
def pairUnits : List String := ["file:///p//a.ts", "file:///p//b.ts?once", "file:///p//b.ts"]

set_option maxRecDepth 8000 in
/-- With a gap in the identifier of the entry, three identifiers of two files can be reached. -/
theorem closure_finite_of_pair :
    (pairScene.sources.closure "file:///p//a.ts").Finite ∧
      "file:///p//b.ts?once" ∈ pairScene.sources.closure "file:///p//a.ts" := by
  have created : Context.create Strategy.inference filesInput ({} : Overrides Strategy Strategy) =
      .created (ofMock []).context [] := rfl
  have closed : pairScene.sources.Closed pairUnits := by decide +kernel
  have straight : ∀ u ∈ pairUnits, pairScene.sources.Straight u := by decide +kernel
  have edge : "file:///p//b.ts?once" ∈ pairScene.sources.targets "file:///p//a.ts" := by
    decide +kernel
  constructor
  · refine (closure_finite _ _ _ rfl rfl created [] pairScene rfl _ (fun u reached => ?_) ?_).1
    · exact straight u (closed.closure_subset List.mem_cons_self reached)
    · exact nofun
  · exact (Sources.mem_targets_iff.mp edge).mem_closure (Sources.mem_closure_self _)

end Scene

/-! ## A gap -/

/-- The text of a file that imports itself through a gap. -/
def gapText : String := "import \".//m.ts\";\n"

/-- A scene with nothing but this file. -/
def gapScene : Scene := Scene.ofFiles [("/p/m.ts", gapText)]

/-- A URL of the file, with a number of gaps. -/
def gapUrl (k : Nat) : FileUrl where
  host := []
  path := ['p'] :: List.replicate k [] ++ ["m.ts".toList]

/-- The identifier of the file with a number of gaps. -/
def gapUnit (k : Nat) : String := String.ofList (gapUrl k).href

section Gap

variable (k : Nat)

theorem mem_gapUrl {k : Nat} {segment : List Char} (member : segment ∈ (gapUrl k).path) :
    segment = ['p'] ∨ segment = [] ∨ segment = "m.ts".toList := by
  simp only [gapUrl, List.cons_append, List.mem_cons, List.mem_append, List.mem_replicate,
    List.not_mem_nil, or_false] at member
  tauto

theorem isSegment_gapUrl : ∀ segment ∈ (gapUrl k).path, FileUrl.IsSegment segment := by
  intro segment member
  have chars : ∀ c ∈ 'p' :: "m.ts".toList, IsSegmentChar c := isSegmentChar_of_all (by decide)
  rcases mem_gapUrl member with rfl | rfl | rfl
  · exact ⟨fun c inside => chars c (by simp_all), by decide, by decide⟩
  · exact FileUrl.isSegment_nil
  · exact ⟨fun c inside => chars c (List.mem_cons_of_mem _ inside), by decide, by decide⟩

theorem startsNormal_gapUrl : FileUrl.StartsNormal (gapUrl k).path := by
  rintro segment ⟨⟩
  decide

/-- A URL of the file ends in its name. -/
theorem ends_gapUrl : ∃ front, FileUrl.pathText (gapUrl k).path = front ++ "/m.ts".toList :=
  ⟨FileUrl.pathText (['p'] :: List.replicate k []), FileUrl.pathText_append _ _⟩

theorem toList_gapUnit :
    (gapUnit k).toList = "file://".toList ++ FileUrl.pathText (gapUrl k).path := by
  rw [gapUnit, String.toList_ofList, FileUrl.href_eq]
  exact List.append_nil _

theorem claimed_gapUnit : hasScheme (gapUnit k) fileScheme := by
  unfold hasScheme
  rw [toList_gapUnit, lowerCase_append]
  rfl

theorem filePath_gapUnit : Identifier.filePath? (gapUnit k) =
    some (String.ofList (FileUrl.pathText (gapUrl k).path)) := by
  refine Url.filePath_href rfl (List.cons_ne_nil _ _) (isSegment_gapUrl k)
    (startsNormal_gapUrl k) ?_
  intro segment member
  rcases mem_gapUrl member with rfl | rfl | rfl <;> decide

theorem find_gapUnit :
    gapScene.disk.find? (String.ofList (FileUrl.pathText (gapUrl k).path)) =
      some (.file gapText) := by
  have steps : Path.steps (gapUrl k).path = [['p'], "m.ts".toList] := by
    have around : Path.steps (List.replicate k []) = [] :=
      List.filter_eq_nil_iff.mpr fun segment member => by
        rw [List.eq_of_mem_replicate member]
        decide
    have whole : (gapUrl k).path = [['p']] ++ (List.replicate k [] ++ ["m.ts".toList]) := rfl
    rw [whole, Path.steps_append, Path.steps_append, around]
    decide
  have place : Disk.placeOf (String.ofList (FileUrl.pathText (gapUrl k).path)) = _ :=
    (Disk.placeOf_pathText (List.cons_ne_nil _ _) (isSegment_gapUrl k)).trans steps
  have entry : gapScene.disk.entryAt? [['p'], "m.ts".toList] = some (.file gapText) := rfl
  have filled : (String.ofList (FileUrl.pathText (gapUrl k).path)).isEmpty = false := by
    obtain ⟨front, whole⟩ := ends_gapUrl k
    rw [Bool.eq_false_iff, ne_eq, String.isEmpty_iff, whole, ← String.toList_inj,
      String.toList_ofList]
    simp
  have readable : '\x00' ∉ FileUrl.pathText (gapUrl k).path := by
    intro inside
    obtain ⟨segment, member, within⟩ := List.mem_flatMap.mp inside
    rcases mem_gapUrl member with rfl | rfl | rfl <;> exact absurd within (by decide)
  have file : Disk.endsAsDirectory (FileUrl.pathText (gapUrl k).path) = false := by
    obtain ⟨front, whole⟩ := ends_gapUrl k
    rw [whole, Disk.endsAsDirectory, List.reverse_append,
      List.getLast?_append_of_ne_nil _ (by decide)]
    rfl
  unfold Disk.find?
  rw [String.toList_ofList, if_neg (by simp [filled, readable]), place, entry, file]
  rfl

theorem claimant_gapUnit : gapScene.context.claimant? (gapUnit k) = some .file := by
  have used : gapScene.context.use.1 =
      .ok (Context.chainFor (.ofMock []) ({} : Overrides Strategy Strategy)) := rfl
  have resolvers : (Context.chainFor (.ofMock [])
      ({} : Overrides Strategy Strategy)).resolvers =
        [Resolver.ofMockSources [], .file, .ofPackageChoice (.single "/")] := rfl
  have other : ¬ (Resolver.ofMockSources []).claims (gapUnit k) := by
    intro claimed
    have first := Context.head?_of_hasScheme (claimed_gapUnit k) (c := 'f') rfl
    have same := Context.head?_of_hasScheme claimed (c := 'r') rfl
    exact absurd (first.symm.trans same) (by decide)
  have claimed : Resolver.file.claims (gapUnit k) := claimed_gapUnit k
  unfold Context.claimant?
  rw [used, Except.toOption, Option.bind_some, Chain.claimant?, resolvers,
    List.find?_cons_of_neg other, List.find?_cons_of_pos claimed]

/-- All of these identifiers have the text of the file. -/
theorem sources_gapUnit : gapScene.sources (gapUnit k) = .ok (.ok
    { identifier := gapUnit k, contents := gapText,
      path := some (String.ofList (FileUrl.pathText (gapUrl k).path)) }) := by
  have opens : Resolver.Opens gapScene.disk (gapUnit k) .file
      (String.ofList (FileUrl.pathText (gapUrl k).path)) := .file (filePath_gapUnit k)
  change (gapScene.context.resolve gapScene.disk (gapUnit k)).1.outcome = _
  rw [Context.resolve_of_claimant (claimant_gapUnit k), opens.outcome,
    Source.read_of_file (find_gapUnit k)]
  rfl

theorem specifiersIn_gapText (unit : String) (script : isHostDocument unit = false) :
    specifiersIn unit gapText = [".//m.ts"] := by
  unfold specifiersIn
  rw [script, if_neg Bool.false_ne_true]
  decide +kernel

theorem follow_gapUrl {base : FileUrl} (here : base.host = [])
    (path : base.path = (gapUrl k).path) : base.follow ".//m.ts".toList = gapUrl (k + 1) := by
  have directory : FileUrl.shorten base.path = ['p'] :: List.replicate k [] := by
    rw [path]
    exact FileUrl.shorten_concat (List.cons_ne_nil _ _) _
  have dot : FileUrl.pushSegment false (['p'] :: List.replicate k []) (encode isPathSet ['.']) =
      ['p'] :: List.replicate k [] := rfl
  have inside : ∀ segment ∈ [[], "m.ts".toList], FileUrl.IsSegment segment :=
    fun segment member => isSegment_gapUrl 1 segment (List.mem_cons_of_mem _ member)
  have pushed : (base.follow ".//m.ts".toList).path = (gapUrl (k + 1)).path := by
    have start : FileUrl.startsWithDriveLetter (FileUrl.clean ".//m.ts".toList) = false := by
      decide
    have segments : FileUrl.segmentsOf ".//m.ts".toList = [['.'], [], "m.ts".toList] := by decide
    rw [FileUrl.path_follow, start, if_neg Bool.false_ne_true, segments, directory,
      FileUrl.pushSegments, dot,
      FileUrl.pushSegments_eq_append inside (.inl (List.cons_ne_nil _ _))]
    · simp [gapUrl, List.replicate_succ']
    · exact fun empty => List.cons_ne_nil _ _ empty
  have rest : base.follow ".//m.ts".toList =
      { host := base.host, path := (base.follow ".//m.ts".toList).path } := rfl
  rw [rest, pushed, here]
  rfl

theorem resolve_gapUnit : resolveSpecifier ".//m.ts" (gapUnit k) = .ok (gapUnit (k + 1)) := by
  obtain ⟨base, read, here, path⟩ :=
    FileUrl.parse_href rfl (List.cons_ne_nil _ _) (isSegment_gapUrl k) (startsNormal_gapUrl k)
  have claimed := claimed_gapUnit k
  unfold hasScheme at claimed
  rw [gapUnit, String.toList_ofList] at claimed
  have relative : resolveRelative ".//m.ts".toList (gapUrl k).href =
      .ok (gapUrl (k + 1)).href := by
    unfold resolveRelative
    rw [if_pos claimed, read]
    dsimp only
    rw [follow_gapUrl k here path]
  have plain : ¬ (schemeOf? ".//m.ts".toList).isSome := by decide
  have beside : ¬ Path.isAbsolute ".//m.ts".toList := by decide
  have below : isRelative ".//m.ts".toList := by decide
  have found : resolveChars ".//m.ts".toList (gapUrl k).href = .ok (gapUrl (k + 1)).href := by
    unfold resolveChars
    rw [if_neg plain, if_neg beside, if_pos below, relative]
  have text : (gapUnit k).toList = (gapUrl k).href := String.toList_ofList
  unfold resolveSpecifier
  rw [text, found]
  rfl

theorem isHostDocument_gapUnit : isHostDocument (gapUnit k) = false := by
  obtain ⟨front, whole⟩ := ends_gapUrl k
  unfold isHostDocument
  dsimp only
  rw [toList_gapUnit, whole, ← List.append_assoc, lowerCase_append, List.reverse_append]
  rfl

theorem imports_gapUnit : (gapScene.sources.surface (gapUnit k)).imports = [gapUnit (k + 1)] := by
  refine imports_of_script (sources_gapUnit k) (isHostDocument_gapUnit k) ?_
  dsimp only
  rw [specifiersIn_gapText _ (isHostDocument_gapUnit k)]
  have added : Script.Surface.addSpecifier (gapUnit k) [] ".//m.ts" = .ok [gapUnit (k + 1)] := by
    unfold Script.Surface.addSpecifier
    rw [resolve_gapUnit]
    rfl
  rw [List.foldlM_cons, added]
  rfl

theorem edge_gapUnit : gapScene.sources.Edge (gapUnit k) (gapUnit (k + 1)) := by
  refine ⟨gapUnit (k + 1), ?_, Sources.leadsTo_self ?_ ⟨_, sources_gapUnit (k + 1)⟩⟩
  · rw [imports_gapUnit]
    exact List.mem_cons_self
  · obtain ⟨front, whole⟩ := ends_gapUrl (k + 1)
    rw [Bool.eq_false_iff, ne_eq, Sources.endsWith_slash_iff, toList_gapUnit, whole,
      ← List.append_assoc, List.getLast?_append_of_ne_nil _ (by decide)]
    decide

theorem gapUnit_injective : Function.Injective gapUnit := by
  have length (k : Nat) : (gapUnit k).toList.length = k + 14 := by
    have gaps : weight (List.replicate k []) = k := by simp [weight]
    rw [toList_gapUnit, List.length_append, length_pathText, gapUrl, List.cons_append, weight_cons,
      weight_append, gaps]
    simp
    omega
  intro k l same
  have lengths : (gapUnit k).toList.length = (gapUnit l).toList.length := by rw [same]
  rw [length, length] at lengths
  omega

end Gap

/-- A file that imports itself through a gap reaches infinitely many identifiers, all of which are
its own. -/
theorem closure_infinite_of_gap : (gapScene.sources.closure "file:///p/m.ts").Infinite := by
  have first : gapUnit 0 = "file:///p/m.ts" := by decide
  rw [← first]
  refine Set.infinite_of_injective_forall_mem gapUnit_injective fun k => ?_
  induction k with
  | zero => exact Sources.mem_closure_self _
  | succ k ih => exact (edge_gapUnit k).mem_closure ih

end UnitResolution
