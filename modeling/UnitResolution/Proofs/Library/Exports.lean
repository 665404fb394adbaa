import UnitResolution.Proofs.Library.Answers
import UnitResolution.Proofs.Script.Declarations

/-!
# The types of exports

A unit that imports a name searches the declarations of the unit that exports it
(`UnitResolution.Sources.typeBy_exported`). That unit itself looks the name up among its local
names, and among its own imports then. The two types are the same for a name that is declared once.
They may differ for a name that is declared again later, and for one that is not declared but
imported (`UnitResolution.Library.Reader.typeOf_imported`).

To compare them, a constant with the name as its value is written behind the unit that exports it.
That changes its text, but neither the graph nor what any unit means that does not lead to it
(`UnitResolution.Sources.Rewritten`).
-/

namespace UnitResolution

open Library Script

namespace Sources

variable {sources extended : Sources} {options : InferenceOptions} {m u v : String}

/-! ## A rewritten unit -/

/-- Sources that are the same but for the text of one unit, which exchanges the same with other
units. -/
structure Rewritten (sources extended : Sources) (m : String) : Prop where
  has : sources.Has m
  has' : extended.Has m
  others : ∀ v, v ≠ m → extended v = sources v
  exchanged : ∀ source source', sources m = .ok (.ok source) → extended m = .ok (.ok source') →
    surfaceIn m source'.contents = surfaceIn m source.contents

namespace Rewritten

variable (rewritten : Rewritten sources extended m)

include rewritten

theorem leadsTo (imported : String) : extended.leadsTo imported = sources.leadsTo imported := by
  unfold Sources.leadsTo
  induction Identifier.candidates imported with
  | nil => rfl
  | cons c rest ih =>
      unfold firstServed
      by_cases same : c = m
      · obtain ⟨source, served⟩ := rewritten.has
        obtain ⟨source', served'⟩ := rewritten.has'
        rw [same, served, served']
      · rw [rewritten.others c same, ih]

theorem surface (v : String) : extended.surface v = sources.surface v := by
  unfold Sources.surface
  by_cases same : v = m
  · obtain ⟨source, served⟩ := rewritten.has
    obtain ⟨source', served'⟩ := rewritten.has'
    rw [same, served, served']
    simp only [rewritten.exchanged source source' served served']
  · rw [rewritten.others v same]

theorem edge : extended.Edge = sources.Edge := by
  funext u v
  unfold Edge
  simp only [rewritten.surface, rewritten.leadsTo]

theorem closure (u : String) : extended.closure u = sources.closure u := by
  unfold Sources.closure Reaches
  rw [rewritten.edge]

theorem grounded (grounded : sources.Grounded u) : extended.Grounded u := by
  unfold Grounded at grounded ⊢
  rw [rewritten.edge]
  exact grounded

theorem room (u : String) : extended.room u = sources.room u := by
  unfold Sources.room searchKeys
  rw [rewritten.closure]
  simp only [rewritten.surface]

theorem stops {i : Interruption} (stops : extended.Stops v i) : sources.Stops v i := by
  cases stops with
  | source stopped =>
      by_cases same : v = m
      · obtain ⟨source, served⟩ := rewritten.has'
        rw [same, served] at stopped
        cases stopped
      · exact .source (rewritten.others v same ▸ stopped)
  | @text source' e served' stopped =>
      by_cases same : v = m
      · subst same
        obtain ⟨source, served⟩ := rewritten.has
        rw [rewritten.exchanged source source' served served'] at stopped
        exact .text served stopped
      · exact .text (rewritten.others v same ▸ served') stopped
  | imported member stopped =>
      rw [rewritten.surface] at member
      rw [rewritten.leadsTo] at stopped
      exact .imported member stopped

/-- A unit that does not lead to the rewritten one means what it has meant before. -/
theorem meaning (grounded : sources.Grounded u) (apart : ¬ sources.Reaches u m) :
    extended.meaning options u = sources.meaning options u := by
  induction grounded with
  | intro u below ih =>
      have grounded : sources.Grounded u := Acc.intro u below
      have itself : u ≠ m := fun same => apart (same ▸ .refl)
      have imported : extended.importedMeaning options u = sources.importedMeaning options u := by
        funext target
        unfold importedMeaning
        rw [rewritten.edge]
        by_cases edge : sources.Edge u target
        · rw [if_pos edge, if_pos edge]
          exact ih target edge fun leads => apart (.head edge leads)
        · rw [if_neg edge, if_neg edge]
      have searched : extended.search (sources.importedMeaning options u) =
          sources.search (sources.importedMeaning options u) := by
        funext imported name seen
        unfold search
        rw [rewritten.leadsTo]
      rw [meaning_eq grounded, meaning_eq (rewritten.grounded grounded), imported]
      unfold meaningBy typeBy unitBy
      rw [searched, rewritten.others u itself]

/-- Imports of the rewritten unit have the types that they have had before. -/
theorem typeBy (grounded : sources.Grounded m) {imported : String}
    (member : imported ∈ (sources.surface m).imports) (name : String) :
    extended.typeBy (extended.meaning options) imported name =
      sources.typeBy (sources.meaning options) imported name := by
  unfold Sources.typeBy search
  rw [rewritten.leadsTo]
  cases leads : sources.leadsTo imported with
  | error i => rfl
  | ok found =>
      cases found with
      | none => rfl
      | some target =>
          have edge : sources.Edge m target := ⟨imported, member, leads⟩
          have apart : ¬ sources.Reaches target m := fun back =>
            grounded.not_cycle (.head' edge back)
          simp only [bind, Except.bind, rewritten.meaning (grounded.inv edge) apart]

end Rewritten

/-! ## Reading a unit -/

/-- The type of what a unit binds a local name to. -/
def typeOfBinding (options : InferenceOptions)
    (typeOf : String → String → Except Interruption (Option String)) (surface : Surface)
    (localName : String) : Except Interruption (Option String) :=
  match surface.bindings.find? (·.localName == localName) with
  | none => return none
  | some binding =>
      if options.followImports then typeOf binding.source binding.importedName
      else return some unknownType

theorem read_eq (u text : String) :
    Script.read u text = (surfaceOf u (parse text).statements).map fun surface =>
      ⟨(parse text).statements, surface, (parse text).complaints.map
        (diagnosticOf u text.toList)⟩ := by
  change (surfaceOf u (parse text).statements >>= fun surface => pure _) = _
  cases surfaceOf u (parse text).statements <;> rfl

theorem surfaceIn_of_script (plain : ¬ Identifier.isHostDocument u) (contents : String) :
    surfaceIn u contents = surfaceOf u (parse contents).statements := by
  unfold surfaceIn
  rw [if_neg plain, read_eq]
  cases surfaceOf u (parse contents).statements <;> rfl

/-- The declarations of a script are inferred from its statements. -/
theorem unitBy_of_script {typeOf : String → String → Except Interruption (Option String)}
    {source : Source} (served : sources u = .ok (.ok source))
    (plain : ¬ Identifier.isHostDocument u) :
    sources.unitBy options typeOf u = do
      let surface ← orInterrupt (surfaceOf u (parse source.contents).statements)
      let declarations ← inferDeclarations surface.isExportedLocal options
        (typeOfBinding options typeOf surface) (parse source.contents).statements
      return .ok {
        identifier := u, kind := .script, surface, declarations
        diagnostics := (parse source.contents).complaints.map
          (diagnosticOf u source.contents.toList) } := by
  unfold unitBy
  rw [served]
  change (readUnit options typeOf u source.contents >>= fun unit => pure (Except.ok unit)) = _
  unfold readUnit
  rw [if_neg plain, read_eq]
  cases surfaceOf u (parse source.contents).statements with
  | error e => rfl
  | ok surface =>
      change ((inferDeclarations surface.isExportedLocal options
        (typeOfBinding options typeOf surface) (parse source.contents).statements >>=
          fun declarations => pure _) >>= fun unit => pure (Except.ok unit)) =
        (inferDeclarations surface.isExportedLocal options (typeOfBinding options typeOf surface)
          (parse source.contents).statements >>= fun declarations => pure _)
      cases inferDeclarations surface.isExportedLocal options
        (typeOfBinding options typeOf surface) (parse source.contents).statements <;> rfl

/-- A script has a unit if its declarations can be inferred. -/
theorem unitBy_eq_ok_iff {typeOf : String → String → Except Interruption (Option String)}
    {source : Source} (served : sources u = .ok (.ok source))
    (plain : ¬ Identifier.isHostDocument u) {surface : Surface}
    (exchanged : surfaceIn u source.contents = .ok surface) {declarations : List Declaration} :
    (∃ unit, sources.unitBy options typeOf u = .ok (.ok unit) ∧ unit.surface = surface ∧
      unit.declarations = declarations) ↔
    inferDeclarations surface.isExportedLocal options (typeOfBinding options typeOf surface)
      (parse source.contents).statements = .ok declarations := by
  rw [surfaceIn_of_script plain] at exchanged
  rw [unitBy_of_script served plain, exchanged]
  simp only [orInterrupt, Except.mapError, bind, Except.bind]
  cases inferDeclarations surface.isExportedLocal options (typeOfBinding options typeOf surface)
      (parse source.contents).statements with
  | error i => exact iff_of_false (fun ⟨_, impossible, _⟩ => nomatch impossible) nofun
  | ok found =>
      constructor
      · rintro ⟨unit, same, _, declared⟩
        cases same
        exact congrArg Except.ok declared
      · intro same
        cases same
        exact ⟨_, rfl, rfl, rfl⟩

/-- The type of an exported name is that of the first declaration of the local name behind it. -/
theorem typeBy_exported {imported name localName : String} {unit : LibraryUnit}
    (grounded : sources.Grounded m) (leads : sources.leadsTo imported = .ok (some m))
    (answered : sources.answer options m = .ok (.ok unit))
    (exported : unit.surface.exports.lookup name = some localName) :
    sources.typeBy (sources.meaning options) imported name = .ok (unit.typeOf? localName) := by
  unfold typeBy search
  rw [if_neg List.not_mem_nil, leads]
  simp only [bind, Except.bind, meaning_of_answer grounded answered, searchUnit, exported]
  rfl

/-! ## Constants that stand for names -/

/-- A constant behind the other statements of a unit has the type that its value has there. -/
theorem typeOf?_alias {typeOf : String → String → Except Interruption (Option String)}
    {source : Source} (served : sources u = .ok (.ok source))
    (plain : ¬ Identifier.isHostDocument u) {surface : Surface}
    (exchanged : surfaceIn u source.contents = .ok surface) {before : List Statement}
    {name value : String}
    (ends : (parse source.contents).statements = before ++ [.alias name value])
    (fresh : name ∉ declaredNames before) {unit : LibraryUnit}
    (read : sources.unitBy options typeOf u = .ok (.ok unit)) :
    ∃ declarations type,
      inferDeclarations surface.isExportedLocal options (typeOfBinding options typeOf surface)
        before = .ok declarations ∧
      nameType (localsOf declarations) (typeOfBinding options typeOf surface) value = .ok type ∧
      unit.typeOf? name = some type := by
  have kept : unit.surface = surface := by
    rw [unitBy_of_script served plain, ← surfaceIn_of_script plain, exchanged] at read
    simp only [orInterrupt, Except.mapError, bind, Except.bind] at read
    split at read
    · cases read
    · cases read
      rfl
  have typed := (unitBy_eq_ok_iff served plain exchanged).mp ⟨unit, read, kept, rfl⟩
  rw [ends, inferDeclarations_alias] at typed
  obtain ⟨declarations, earlier, typed⟩ := bind_eq_ok.mp typed
  obtain ⟨type, found, same⟩ := bind_eq_ok.mp typed
  refine ⟨declarations, type, earlier, found, ?_⟩
  obtain ⟨p, _, covers, rfl⟩ := covers_of_inferDeclarations earlier
  have absent : p.declarations.find? (·.name == name) = none := by
    have missing : name ∉ namesOf p.declarations := fun member =>
      fresh (covers.sublist.subset member)
    simpa [namesOf] using missing
  have declared := (Except.ok.inj same).symm
  rw [LibraryUnit.typeOf?, declared, List.find?_append, absent]
  simp

/-- The type of a name that is not declared is that of what it is bound to. -/
theorem nameType_of_lookup {locals : Locals}
    {lookupImport : String → Except Interruption (Option String)} {name type : String}
    (proper : name ≠ "undefined") (found : nameType locals lookupImport name = .ok type) :
    (∀ own, locals.lookup name = some own → type = own) ∧
      (locals.lookup name = none →
        ∃ answer, lookupImport name = .ok answer ∧ type = answer.getD unknownType) := by
  unfold nameType at found
  rw [if_neg proper] at found
  cases own : locals.lookup name with
  | some own =>
      rw [own] at found
      cases found
      exact ⟨fun _ same => Option.some.inj same, nofun⟩
  | none =>
      rw [own] at found
      cases looked : lookupImport name with
      | error i =>
          rw [looked] at found
          cases found
      | ok answer =>
          rw [looked] at found
          cases found
          exact ⟨nofun, fun _ => ⟨answer, rfl, rfl⟩⟩

/-- A constant behind another text leaves what the unit exchanges with others as it is. -/
theorem surfaceIn_alias {contents contents' name value : String}
    (plain : ¬ Identifier.isHostDocument u)
    (ends : (parse contents').statements = (parse contents).statements ++ [.alias name value]) :
    surfaceIn u contents' = surfaceIn u contents := by
  rw [surfaceIn_of_script plain, surfaceIn_of_script plain, ends]
  unfold surfaceOf
  rw [List.foldlM_append]
  cases (parse contents).statements.foldlM (Surface.addStatement u) {} <;> rfl

/-- Look-ups that type the bindings of a unit alike type its local names alike. -/
theorem typeOfBinding_congr {first second : String → String → Except Interruption (Option String)}
    {surface : Surface}
    (same : ∀ b ∈ surface.bindings,
      first b.source b.importedName = second b.source b.importedName) :
    typeOfBinding options first surface = typeOfBinding options second surface := by
  funext localName
  unfold typeOfBinding
  cases found : surface.bindings.find? (·.localName == localName) with
  | none => rfl
  | some b => simp only [same b (List.mem_of_find?_eq_some found)]

end Sources

namespace Library

/-- A local name of a script looked at from inside and from outside. In the first sources, another
unit binds a name to an export of the script, and ends with a constant that stands for this name. In
the second sources, the script itself ends with a constant that stands for the local name behind the
export. Neither constant is declared before. -/
structure Probe (sources extended : Sources) where
  /-- The script. -/
  exporter : String
  exportedName : String
  localName : String
  /-- The unit that binds a name to the export. -/
  importer : String
  binding : ImportBinding
  /-- The name of the constants. -/
  constant : String
  exporterSource : Source
  extendedSource : Source
  importerSource : Source
  statements : List Statement
  exporting : sources exporter = .ok (.ok exporterSource)
  extending : extended exporter = .ok (.ok extendedSource)
  others : ∀ v, v ≠ exporter → extended v = sources v
  isScript : ¬ Identifier.isHostDocument exporter
  exported : (sources.surface exporter).exports.lookup exportedName = some localName
  appended : (parse extendedSource.contents).statements =
    (parse exporterSource.contents).statements ++ [.alias constant localName]
  fresh : constant ∉ declaredNames (parse exporterSource.contents).statements
  importing : sources importer = .ok (.ok importerSource)
  isScript' : ¬ Identifier.isHostDocument importer
  bound : (sources.surface importer).bindings.find? (·.localName == binding.localName) =
    some binding
  named : binding.importedName = exportedName
  leads : sources.leadsTo binding.source = .ok (some exporter)
  ends : (parse importerSource.contents).statements =
    statements ++ [.alias constant binding.localName]
  fresh' : constant ∉ declaredNames statements
  free : binding.localName ∉ declaredNames statements
  proper : binding.localName ≠ "undefined"

namespace Probe

variable {sources extended : Sources} (probe : Probe sources extended)

theorem rewritten : sources.Rewritten extended probe.exporter where
  has := ⟨_, probe.exporting⟩
  has' := ⟨_, probe.extending⟩
  others := probe.others
  exchanged source source' served served' := by
    cases probe.exporting.symm.trans served
    cases probe.extending.symm.trans served'
    exact Sources.surfaceIn_alias probe.isScript probe.appended

theorem edge : sources.Edge probe.importer probe.exporter :=
  ⟨_, (Sources.imported_surface _).bindings _ (List.mem_of_find?_eq_some probe.bound), probe.leads⟩

variable {options : InferenceOptions}

/-- Outside, the constant has the type of the first declaration of the local name. -/
theorem typeOf?_importer (follows : options.followImports = true)
    (grounded : sources.Grounded probe.importer) {importer exporter : LibraryUnit}
    (possible : sources.possibleUnit options probe.importer (.ok (.ok importer)))
    (answered : sources.answer options probe.exporter = .ok (.ok exporter))
    (surface : exporter.surface = sources.surface probe.exporter) :
    importer.typeOf? probe.constant =
      some ((firstType? exporter.declarations probe.localName).getD unknownType) := by
  have read : sources.unitBy options (sources.typeBy (sources.meaning options)) probe.importer =
      .ok (.ok importer) :=
    (Sources.answer_eq grounded).symm.trans (Sources.eq_answer grounded possible).symm
  obtain ⟨source, served, exchanged, _⟩ := Sources.surfaceIn_of_possibleUnit possible
  cases probe.importing.symm.trans served
  obtain ⟨declarations, type, earlier, found, typed⟩ :=
    Sources.typeOf?_alias served probe.isScript' exchanged probe.ends probe.fresh' read
  obtain ⟨p, _, covers, rfl⟩ := covers_of_inferDeclarations earlier
  have missing : (localsOf p.declarations).lookup probe.binding.localName = none := by
    rw [lookup_localsOf, lastType?_eq_none_iff]
    exact fun member => probe.free (covers.sublist.subset member)
  obtain ⟨answer, looked, rfl⟩ := (Sources.nameType_of_lookup probe.proper found).2 missing
  have same : answer = exporter.typeOf? probe.localName := by
    have exported : exporter.surface.exports.lookup probe.binding.importedName =
        some probe.localName := by
      rw [surface, probe.named]
      exact probe.exported
    have bound : importer.surface.bindings.find? (·.localName == probe.binding.localName) =
        some probe.binding := by
      rw [Sources.surface_of_possibleUnit possible]
      exact probe.bound
    simp only [Sources.typeOfBinding, bound, follows, ↓reduceIte] at looked
    have searched := Sources.typeBy_exported (grounded.inv probe.edge) probe.leads answered exported
    exact Except.ok.inj (looked.symm.trans searched)
  rw [typed, same]
  rfl

/-- Inside, the constant has the type that the local name has behind all other statements. -/
theorem typeOf?_extension (grounded : sources.Grounded probe.exporter) {extension : LibraryUnit}
    (possible : extended.possibleUnit options probe.exporter (.ok (.ok extension))) :
    ∃ exporter inner, sources.answer options probe.exporter = .ok (.ok exporter) ∧
      exporter.surface = sources.surface probe.exporter ∧
      (∃ p : Progress, p.Covers (declaredNames (parse probe.exporterSource.contents).statements) ∧
        p.declarations = exporter.declarations) ∧
      nameType (localsOf exporter.declarations)
        (Sources.typeOfBinding options (sources.typeBy (sources.meaning options))
          (sources.surface probe.exporter)) probe.localName = .ok inner ∧
      extension.typeOf? probe.constant = some inner := by
  have rewritten := probe.rewritten
  have grounded' := rewritten.grounded grounded
  have read : extended.unitBy options (extended.typeBy (extended.meaning options))
      probe.exporter = .ok (.ok extension) :=
    (Sources.answer_eq grounded').symm.trans (Sources.eq_answer grounded' possible).symm
  obtain ⟨source, served, exchanged, _⟩ := Sources.surfaceIn_of_possibleUnit possible
  cases probe.extending.symm.trans served
  obtain ⟨declarations, inner, earlier, found, typed⟩ :=
    Sources.typeOf?_alias served probe.isScript exchanged probe.appended probe.fresh read
  -- the constant changes neither what the exporter exchanges nor what it sees of other units
  have before : surfaceIn probe.exporter probe.exporterSource.contents = .ok extension.surface := by
    rw [← Sources.surfaceIn_alias probe.isScript probe.appended]
    exact exchanged
  have surface : sources.surface probe.exporter = extension.surface :=
    Sources.surface_eq probe.exporting before
  have alike : Sources.typeOfBinding options (extended.typeBy (extended.meaning options))
      extension.surface =
      Sources.typeOfBinding options (sources.typeBy (sources.meaning options))
        extension.surface := by
    refine Sources.typeOfBinding_congr fun b member => rewritten.typeBy grounded ?_ _
    rw [← surface] at member
    exact (Sources.imported_surface _).bindings b member
  rw [alike] at earlier found
  obtain ⟨exporter, answered, kept, rfl⟩ :=
    (Sources.unitBy_eq_ok_iff probe.exporting probe.isScript before).mpr earlier
  obtain ⟨p, _, covers, same⟩ := covers_of_inferDeclarations earlier
  refine ⟨exporter, inner, (Sources.answer_eq grounded).trans answered, kept.trans surface.symm,
    ⟨p, covers, same⟩, ?_, typed⟩
  rw [surface]
  exact found

end Probe

namespace Reader

variable {σ : Type} {r : Reader σ} {sources extended : Sources}

/-- What leads to a unit needs at least the depth that the unit needs. -/
theorem Enough.of_reaches {u v : String} (enough : r.Enough sources u)
    (reaches : sources.Reaches u v) : r.Enough sources v := by
  have inside : sources.closure v ⊆ sources.closure u := fun w further => reaches.trans further
  have finite := enough.1.subset inside
  have keys : sources.searchKeys v ⊆ sources.searchKeys u :=
    Set.image2_subset (Set.biUnion_subset_biUnion_left inside)
      (Set.biUnion_subset_biUnion_left inside)
  have units := Set.ncard_le_ncard inside enough.1
  have names := Set.ncard_le_ncard keys (Sources.searchKeys_finite enough.1)
  have room := enough.2
  refine ⟨finite, ?_⟩
  unfold Sources.room at room ⊢
  omega

/-- What keeps a library from reading the script with the constant keeps it from reading the
importer. -/
theorem excuse_of_exporter (probe : Probe sources extended) {i : Interruption}
    (excuse : Stopping extended probe.exporter i ∨
      i = .tooDeep ∧ ¬ r.Enough extended probe.exporter) :
    Stopping sources probe.importer i ∨ i = .tooDeep ∧ ¬ r.Enough sources probe.importer := by
  have rewritten := probe.rewritten
  have reaches : sources.Reaches probe.importer probe.exporter := .single probe.edge
  rcases excuse with ⟨v, reached, stops⟩ | ⟨deep, excess⟩
  · rw [rewritten.closure] at reached
    exact .inl ⟨v, reaches.trans reached, rewritten.stops stops⟩
  · refine .inr ⟨deep, fun enough => excess ?_⟩
    have enough := enough.of_reaches reaches
    unfold Enough at enough ⊢
    rw [rewritten.closure, rewritten.room]
    exact enough

/-- The type that an importer sees is that of the first declaration of the local name behind the
export, or unknown if there is none. Inside, the name has the type of its last declaration, or the
type of what it is bound to if there is none; `undefined` always stands for itself. So the two are
the same for a name that is declared once. -/
theorem typeOf_imported (r : Reader σ) {sources extended : Sources} {s t : σ}
    (serves : r.surroundings.Serves s sources) (serves' : r.surroundings.Serves t extended)
    (follows : r.configuration.inference.followImports = true) (probe : Probe sources extended)
    (finite : (sources.closure probe.importer).Finite)
    (acyclic : ∀ v, sources.Reaches probe.importer v → ¬ Relation.TransGen sources.Edge v v)
    (bound bound' : Int) (calls calls' : List Call) :
    let options := r.configuration.inference
    let o := r.answerAfter bound s calls probe.importer
    let p := r.answerAfter bound' t calls' probe.exporter
    (∃ importer extension exporter outer inner,
      o = .ok (.ok importer) ∧ p = .ok (.ok extension) ∧
      sources.answer options probe.exporter = .ok (.ok exporter) ∧
      importer.typeOf? probe.constant = some outer ∧
      extension.typeOf? probe.constant = some inner ∧
      outer = (firstType? exporter.declarations probe.localName).getD unknownType ∧
      (probe.localName = "undefined" → inner = "undefined") ∧
      (probe.localName ≠ "undefined" →
        (∀ type, lastType? exporter.declarations probe.localName = some type → inner = type) ∧
        (lastType? exporter.declarations probe.localName = none →
          ∃ imported, Sources.typeOfBinding options (sources.typeBy (sources.meaning options))
              (sources.surface probe.exporter) probe.localName = .ok imported ∧
            inner = imported.getD unknownType) ∧
        ((declaredNames (parse probe.exporterSource.contents).statements).count
          probe.localName = 1 → outer = inner))) ∨
    ∃ i, (o = .error i ∨ p = .error i) ∧
      (Stopping sources probe.importer i ∨ i = .tooDeep ∧ ¬ r.Enough sources probe.importer) := by
  intro options o p
  have groundedImporter : sources.Grounded probe.importer := Sources.acc_of_finite finite acyclic
  have grounded : sources.Grounded probe.exporter := groundedImporter.inv probe.edge
  have left := ((ensures_resolveLibrary probe.importer).after serves bound calls).1
  have right := ((ensures_resolveLibrary probe.exporter).after serves' bound' calls').1
  rcases left.answered_or_excused with ⟨answer, importing, reached⟩ | ⟨i, stopped, excuse⟩
  · rcases right.answered_or_excused with ⟨answer', extending, reached'⟩ | ⟨i, stopped, excuse⟩
    · obtain ⟨importer, rfl, possible⟩ := Resolved.unit probe.importing reached
      obtain ⟨extension, rfl, possible'⟩ := Resolved.unit probe.extending reached'
      left
      obtain ⟨exporter, inner, answered, surface, ⟨_, covers, same⟩, found, inside⟩ :=
        probe.typeOf?_extension grounded possible'
      have outside := probe.typeOf?_importer follows groundedImporter possible answered surface
      refine ⟨importer, extension, exporter, _, inner, importing, extending, answered, outside,
        inside, rfl, fun special => ?_, fun proper => ?_⟩
      · rw [special] at found
        exact (Except.ok.inj found).symm
      · obtain ⟨declared, imported⟩ := Sources.nameType_of_lookup proper found
        rw [lookup_localsOf] at declared imported
        refine ⟨declared, imported, fun once => ?_⟩
        obtain ⟨type, first, last⟩ := covers.types_of_once once
        rw [same] at first last
        rw [first, declared type last, Option.getD_some]
    · exact .inr ⟨i, .inr stopped, excuse_of_exporter probe excuse⟩
  · exact .inr ⟨i, .inl stopped, excuse⟩

end Reader

/-! ## A name that is exported as it is imported -/

deriving instance DecidableEq for ImportedName, ExportedName

/-- Whether lists of statements are the same, and nothing but imports of names, exports of names and
constants that stand for names. -/
def sameNames : List Statement → List Statement → Bool
  | [], [] => true
  | .importFrom specifier name names :: rest, .importFrom specifier' name' names' :: rest' =>
      specifier == specifier' && name == name' && names == names' && sameNames rest rest'
  | .exportNames names :: rest, .exportNames names' :: rest' =>
      names == names' && sameNames rest rest'
  | .variables false .const [⟨some name, none, some (.identifier value)⟩] :: rest,
    .variables false .const [⟨some name', none, some (.identifier value')⟩] :: rest' =>
      name == name' && value == value' && sameNames rest rest'
  | _, _ => false

theorem eq_of_sameNames {list list' : List Statement} (same : sameNames list list') :
    list = list' := by
  fun_induction sameNames list list' with
  | case1 => rfl
  | case2 specifier name names rest specifier' name' names' rest' ih =>
      simp only [Bool.and_eq_true, beq_iff_eq] at same
      obtain ⟨⟨⟨rfl, rfl⟩, rfl⟩, further⟩ := same
      rw [ih further]
  | case3 names rest names' rest' ih =>
      simp only [Bool.and_eq_true, beq_iff_eq] at same
      obtain ⟨rfl, further⟩ := same
      rw [ih further]
  | case4 name value rest name' value' rest' ih =>
      simp only [Bool.and_eq_true, beq_iff_eq] at same
      obtain ⟨⟨rfl, rfl⟩, further⟩ := same
      rw [ih further]
  | case5 => cases same

/-- The texts of a unit that exports what it imports, and of a unit that imports that. -/
def relayTexts (extension : String) : List (String × String) :=
  [("rt:w", "import { a as x } from \"rt:m\";\nconst y = x;\n"),
    ("rt:m", "import { a } from \"rt:b\";\nexport { a };\n" ++ extension),
    ("rt:b", "export const a = 1;\n")]

/-- A scene with these units. -/
def relayScene (extension : String) : Scene := .ofMock (relayTexts extension)

set_option maxRecDepth 4000 in
theorem layered_relayScene : (relayScene "").sources.Layered ["rt:w", "rt:m", "rt:b"] := by
  decide +kernel

/-- The source of a unit of this scene. -/
def relaySource (extension identifier : String) : Source :=
  { identifier, contents := ((relayTexts extension).lookup identifier).getD "" }

set_option maxRecDepth 4000 in
/-- The name looked at from inside and from outside. -/
def relayProbe : Probe (relayScene "").sources (relayScene "const y = a;\n").sources where
  exporter := "rt:m"
  exportedName := "a"
  localName := "a"
  importer := "rt:w"
  binding := ⟨"x", "a", "rt:m"⟩
  constant := "y"
  exporterSource := relaySource "" "rt:m"
  extendedSource := relaySource "const y = a;\n" "rt:m"
  importerSource := relaySource "" "rt:w"
  statements := [.importFrom "rt:m" none [⟨"x", "a"⟩]]
  exporting := rfl
  extending := rfl
  others v differs := by
    refine Scene.sources_ofMock_congr ?_
    simp only [relayTexts, List.lookup_cons, beq_false_of_ne differs]
  isScript := by decide +kernel
  exported := by decide +kernel
  appended := eq_of_sameNames (by decide +kernel)
  fresh := by decide +kernel
  importing := rfl
  isScript' := by decide +kernel
  bound := by decide +kernel
  named := rfl
  leads := by decide +kernel
  ends := eq_of_sameNames (by decide +kernel)
  fresh' := by decide
  free := by decide
  proper := by decide

set_option maxRecDepth 4000 in
/-- The type of a name that is exported as it is imported is known inside and unknown outside. -/
theorem Reader.typeOf_imported_relayed :
    let r := Session.reader (.ofMock (relayTexts ""))
    let extension := "const y = a;\n"
    ∃ importer extended exporter,
      r.answerAfter 1 (relayScene "") [.library "rt:m"] "rt:w" = .ok (.ok importer) ∧
      r.answerAfter 512 (relayScene extension) [] "rt:m" = .ok (.ok extended) ∧
      (relayScene "").sources.answer {} "rt:m" = .ok (.ok exporter) ∧
      importer.typeOf? "y" = some "unknown" ∧ extended.typeOf? "y" = some "number" ∧
      (firstType? exporter.declarations "a").getD unknownType = "unknown" := by
  intro r extension
  have member : "rt:w" ∈ ["rt:w", "rt:m", "rt:b"] := List.mem_cons_self
  have types : typeFound? "y" (r.answerAfter 1 (relayScene "") [.library "rt:m"] "rt:w") =
        some "unknown" ∧
      typeFound? "y" (r.answerAfter 512 (relayScene extension) [] "rt:m") = some "number" := by
    decide +kernel
  obtain ⟨importer, outside, outer⟩ := ok_of_typeFound types.1
  obtain ⟨extended, inside, inner⟩ := ok_of_typeFound types.2
  have compared := typeOf_imported r (relayScene "").serves (relayScene extension).serves rfl
    relayProbe (layered_relayScene.closed.finite member) (layered_relayScene.acyclic member) 1 512
    [.library "rt:m"] []
  rcases compared with
    ⟨importer', _, exporter, type, _, outside', _, answered, typed, _, same, _⟩ |
      ⟨i, stopped | stopped, _⟩
  · cases outside.symm.trans outside'
    cases outer.symm.trans typed
    exact ⟨importer, extended, exporter, outside, inside, answered, outer, inner, same.symm⟩
  · cases outside.symm.trans stopped
  · cases inside.symm.trans stopped

end Library

end UnitResolution
