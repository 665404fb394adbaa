import UnitResolution.Proofs.Library.Graph

/-!
# What units are imported by

Every import of a unit is what one of the specifiers in its text stands for
(`UnitResolution.specifier_of_import`). The specifiers do not depend on the identifier of the unit,
but for its being that of a host document.
-/

namespace UnitResolution

open Identifier

namespace Script

namespace Surface

/-- A specifier adds the import that it stands for. -/
def addSpecifier (unit : String) (imports : List String) (specifier : String) :
    Except SpecifierError (List String) :=
  (resolveSpecifier specifier unit).map fun imported => addOnce imported imports

/-- A statement adds what its specifier stands for to the imports, and nothing else. -/
theorem imports_addStatement (unit : String) (s : Surface) (st : Statement) :
    (s.addStatement unit st).map (·.imports) =
      match st.specifier? with
      | some specifier => addSpecifier unit s.imports specifier
      | none => .ok s.imports := by
  cases written : st.specifier? with
  | none =>
      rw [addStatement_own unit s written]
      rfl
  | some specifier =>
      change _ = addSpecifier unit s.imports specifier
      unfold addSpecifier
      cases resolved : resolveSpecifier specifier unit with
      | error e =>
          rw [addStatement_error s written resolved]
          rfl
      | ok source =>
          obtain ⟨after, taken, takes⟩ := addStatement_from s written resolved
          rw [taken]
          exact congrArg Except.ok takes.imports

end Surface

/-- The imports of a script hang on nothing but the specifiers of its statements. -/
theorem imports_surfaceOf (unit : String) (statements : List Statement) :
    (surfaceOf unit statements).map (·.imports) =
      (statements.filterMap Statement.specifier?).foldlM (Surface.addSpecifier unit) [] := by
  suffices ∀ start : Surface,
      (statements.foldlM (Surface.addStatement unit) start).map (·.imports) =
      (statements.filterMap Statement.specifier?).foldlM (Surface.addSpecifier unit)
        start.imports from this {}
  intro start
  induction statements generalizing start with
  | nil => rfl
  | cons st rest ih =>
      have step := Surface.imports_addStatement unit start st
      rw [List.foldlM_cons]
      cases written : st.specifier? with
      | none =>
          rw [written] at step
          rw [List.filterMap_cons_none written]
          cases taken : start.addStatement unit st with
          | error e =>
              rw [taken] at step
              cases step
          | ok next =>
              rw [taken] at step
              have same : next.imports = start.imports := Except.ok.inj step
              rw [← same]
              exact ih next
      | some specifier =>
          rw [written] at step
          dsimp only at step
          rw [List.filterMap_cons_some written, List.foldlM_cons, ← step]
          cases taken : start.addStatement unit st with
          | error e => rfl
          | ok next => exact ih next

/-- Every import that specifiers add is what one of them stands for. -/
theorem specifier_of_imports {unit imported : String} {specifiers imports : List String}
    (added : specifiers.foldlM (Surface.addSpecifier unit) [] = .ok imports)
    (member : imported ∈ imports) :
    ∃ specifier ∈ specifiers, resolveSpecifier specifier unit = .ok imported := by
  let o : Outcomes (Except SpecifierError) := .answers fun _ => True
  have known : o.holds (fun imports => ∀ imported ∈ imports, ∃ specifier ∈ specifiers,
      resolveSpecifier specifier unit = .ok imported)
      (specifiers.foldlM (Surface.addSpecifier unit) []) := by
    refine o.foldlM_keeps specifiers ?_ (List.forall_mem_nil _)
    intro imports specifier among known
    refine Outcomes.holds_answers_iff.mpr fun more added imported member => ?_
    obtain ⟨source, resolved, rfl⟩ := map_eq_ok.mp added
    rcases Surface.mem_addOnce.mp member with before | rfl
    · exact known imported before
    · exact ⟨specifier, among, resolved⟩
  exact Outcomes.holds_answers_iff.mp known imports added imported member

end Script

/-! ## Texts of units -/

/-- The specifiers in the text of a unit. -/
def specifiersIn (identifier contents : String) : List String :=
  if isHostDocument identifier then Markup.scriptSpecifiers contents
  else (Script.parse contents).statements.filterMap Script.Statement.specifier?

/-- There are finitely many specifiers in a text, whatever it is the text of. -/
theorem specifiersIn_subset (identifier contents : String) :
    specifiersIn identifier contents ⊆ Markup.scriptSpecifiers contents ++
      (Script.parse contents).statements.filterMap Script.Statement.specifier? := by
  unfold specifiersIn
  split
  · exact List.subset_append_left _ _
  · exact List.subset_append_right _ _

theorem specifier_of_surfaceIn {identifier contents imported : String} {s : Script.Surface}
    (exchanged : surfaceIn identifier contents = .ok s) (member : imported ∈ s.imports) :
    ∃ specifier ∈ specifiersIn identifier contents,
      resolveSpecifier specifier identifier = .ok imported := by
  unfold surfaceIn at exchanged
  unfold specifiersIn
  split at exchanged
  · next document =>
      rw [if_pos document]
      obtain ⟨unique, imports, rfl⟩ := map_eq_ok.mp exchanged
      obtain ⟨identifiers, found, same⟩ := bind_eq_ok.mp imports
      cases same
      exact mem_of_mapM found (List.mem_eraseDups.mp member)
  · next script =>
      rw [if_neg script]
      have imports := Script.imports_surfaceOf identifier (Script.parse contents).statements
      obtain ⟨script, read, rfl⟩ := map_eq_ok.mp exchanged
      obtain ⟨surface, found, same⟩ := bind_eq_ok.mp read
      cases same
      rw [found] at imports
      exact Script.specifier_of_imports imports.symm member

/-- Every import of a unit is what a specifier in its text stands for. -/
theorem specifier_of_import {sources : Sources} {unit imported : String}
    (member : imported ∈ (sources.surface unit).imports) :
    ∃ source, sources unit = .ok (.ok source) ∧ ∃ specifier ∈ specifiersIn unit source.contents,
      resolveSpecifier specifier unit = .ok imported := by
  unfold Sources.surface at member
  split at member
  · next source served =>
      cases exchanged : surfaceIn unit source.contents with
      | error e =>
          rw [exchanged] at member
          cases member
      | ok s =>
          rw [exchanged] at member
          exact ⟨source, served, specifier_of_surfaceIn exchanged member⟩
  · cases member

/-- The imports of a script are what the specifiers in its text add. -/
theorem imports_of_script {sources : Sources} {unit : String} {source : Source}
    {imports : List String} (served : sources unit = .ok (.ok source))
    (script : isHostDocument unit = false)
    (added : (specifiersIn unit source.contents).foldlM (Script.Surface.addSpecifier unit) [] =
      .ok imports) : (sources.surface unit).imports = imports := by
  have imported := Script.imports_surfaceOf unit (Script.parse source.contents).statements
  rw [specifiersIn, script, if_neg Bool.false_ne_true, ← imported] at added
  obtain ⟨s, found, rfl⟩ := map_eq_ok.mp added
  have exchanged : surfaceIn unit source.contents = .ok s := by
    unfold surfaceIn Script.read
    dsimp only
    rw [script, if_neg Bool.false_ne_true, found]
    rfl
  rw [Sources.surface_eq served exchanged]

end UnitResolution
