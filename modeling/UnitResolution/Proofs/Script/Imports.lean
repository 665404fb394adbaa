import UnitResolution.Markup.Scripts
import UnitResolution.Proofs.Outcome
import UnitResolution.Script.Surface
import Mathlib.Data.List.Nodup

/-!
# What comes from imports

A statement with a specifier imports the unit that this stands for, and takes something from it; any
other statement sets its exports, and does nothing else
(`UnitResolution.Script.Surface.addStatement_cases`).

So whatever a script binds, passes on by name or passes on as a whole comes from a unit that it
imports, and every unit is imported once (`UnitResolution.Script.Surface.Imported`). That holds at
the beginning and is kept by every statement, so it holds of what a script is read to exchange with
other units (`UnitResolution.Script.imported_of_read`).
-/

namespace UnitResolution.Script

open Identifier

/-- The specifier of the unit to which a statement refers. -/
def Statement.specifier? : Statement → Option String
  | importFrom specifier _ _ => some specifier
  | exportFrom specifier _ => some specifier
  | _ => none

/-- The exports of a function or class with a local name. -/
def Exposure.entries (localName : String) : Exposure → List (String × String)
  | internal => []
  | named => [(localName, localName)]
  | default => [("default", localName)]

/-- The exports that a statement sets: exported names, with the local names behind them. -/
def Statement.exposures : Statement → List (String × String)
  | exportNames names => names.map fun n => (n.exportedName, n.sourceName)
  | exportDefault (.identifier name) => [("default", name)]
  | function exposure name => exposure.entries (name.getD "default")
  | classDeclaration exposure name => exposure.entries (name.getD "default")
  | «variables» true _ list => list.filterMap fun v => v.name.map fun name => (name, name)
  | _ => []

namespace Surface

/-! ## What a statement does -/

section Statement

variable {unit specifier source : String} {s after : Surface} {st : Statement}

/-- Export local names, one after the other. -/
def setExports (s : Surface) (entries : List (String × String)) : Surface :=
  { s with exports := entries.foldl (fun table e => Table.set e.1 e.2 table) s.exports }

theorem foldl_setExport (entries : List (String × String)) (s : Surface) :
    entries.foldl (fun s e => s.setExport e.1 e.2) s = s.setExports entries := by
  induction entries generalizing s with
  | nil => rfl
  | cons e rest ih => exact ih (s.setExport e.1 e.2)

/-- A surface is another one with more that comes from a unit. -/
structure TakesFrom (source : String) (s after : Surface) : Prop where
  imports : after.imports = s.imports
  exports : after.exports = s.exports
  bindings : ∀ b ∈ after.bindings, b ∈ s.bindings ∨ b.source = source
  reExports : ∀ e ∈ after.reExports, e ∈ s.reExports ∨ e.source = source
  starExports : after.starExports = s.starExports ∨
    after.starExports = addOnce source s.starExports

theorem foldl_addBinding (names : List ImportedName) (s : Surface) :
    names.foldl (fun s n => s.addBinding n.localName n.importedName source) s =
      { s with
        bindings := s.bindings ++ names.map fun n => ⟨n.localName, n.importedName, source⟩ } := by
  induction names generalizing s with
  | nil => rw [List.map_nil, List.append_nil]; rfl
  | cons n rest ih =>
      rw [List.foldl_cons, ih, List.map_cons, List.append_cons]
      rfl

theorem takesFrom_addBindings (s : Surface) {bound : List ImportBinding}
    (sources : ∀ b ∈ bound, b.source = source) :
    TakesFrom source s { s with bindings := s.bindings ++ bound } where
  imports := rfl
  exports := rfl
  bindings b member := (List.mem_append.mp member).imp_right (sources b)
  reExports _ := .inl
  starExports := .inl rfl

theorem takesFrom_passOn (s : Surface) (what : ReExported) :
    TakesFrom source s (s.passOn source what) where
  imports := by cases what <;> rfl
  exports := by cases what <;> rfl
  bindings b member := by cases what <;> exact .inl member
  reExports e member := by
    cases what with
    | everything => exact .inl member
    | namespaceObject => exact .inl member
    | names list =>
        refine (List.mem_append.mp member).imp_right fun passed => ?_
        obtain ⟨n, _, rfl⟩ := List.mem_map.mp passed
        rfl
  starExports := by
    cases what with
    | everything => exact .inr rfl
    | namespaceObject => exact .inl rfl
    | names list => exact .inl rfl

/-- A statement with a specifier imports what this stands for, and takes something from it. -/
theorem addStatement_from (s : Surface) (written : st.specifier? = some specifier)
    (resolved : resolveSpecifier specifier unit = .ok source) :
    ∃ after, s.addStatement unit st = .ok after ∧ TakesFrom source (s.addImport source) after := by
  cases st with
  | importFrom _ defaultName names =>
      cases written
      refine ⟨_, by rw [addStatement, resolved]; rfl, ?_⟩
      rw [foldl_addBinding]
      cases defaultName with
      | none =>
          apply takesFrom_addBindings
          intro b member
          obtain ⟨n, _, rfl⟩ := List.mem_map.mp member
          rfl
      | some name =>
          dsimp only [Option.elim, addBinding]
          rw [List.append_assoc]
          apply takesFrom_addBindings
          intro b member
          rcases List.mem_cons.mp member with rfl | member
          · rfl
          · obtain ⟨n, _, rfl⟩ := List.mem_map.mp member
            rfl
  | exportFrom _ what =>
      cases written
      exact ⟨_, by rw [addStatement, resolved]; rfl, takesFrom_passOn _ what⟩
  | _ => cases written

/-- A specifier without an identifier stops the reading. -/
theorem addStatement_error (s : Surface) (written : st.specifier? = some specifier)
    {e : SpecifierError} (failed : resolveSpecifier specifier unit = .error e) :
    s.addStatement unit st = .error e := by
  cases st with
  | importFrom _ _ _ =>
      cases written
      rw [addStatement, failed]
      rfl
  | exportFrom _ _ =>
      cases written
      rw [addStatement, failed]
      rfl
  | _ => cases written

/-- A statement without a specifier sets its exports. -/
theorem addStatement_own (unit : String) (s : Surface) (own : st.specifier? = none) :
    s.addStatement unit st = .ok (s.setExports st.exposures) := by
  have exposed (exposure : Exposure) (name : Option String) :
      s.expose exposure name = s.setExports (exposure.entries (name.getD "default")) := by
    cases exposure <;> rfl
  cases st with
  | importFrom _ _ _ => cases own
  | exportFrom _ _ => cases own
  | exportNames names =>
      rw [Statement.exposures, ← foldl_setExport, List.foldl_map]
      rfl
  | exportDefault value => cases value <;> rfl
  | function exposure name => exact congrArg Except.ok (exposed exposure name)
  | classDeclaration exposure name => exact congrArg Except.ok (exposed exposure name)
  | «variables» exported kind list =>
      cases exported with
      | false => rfl
      | true =>
          rw [Statement.exposures, ← foldl_setExport, List.foldl_filterMap, addStatement]
          congr
          funext s v
          cases v.name <;> rfl
  | other => rfl

/-- What a statement does if it is taken in. -/
theorem addStatement_cases (taken : s.addStatement unit st = .ok after) :
    (st.specifier? = none ∧ after = s.setExports st.exposures) ∨
      ∃ specifier source, st.specifier? = some specifier ∧
        resolveSpecifier specifier unit = .ok source ∧
        TakesFrom source (s.addImport source) after := by
  cases written : st.specifier? with
  | none =>
      rw [addStatement_own unit s written] at taken
      cases taken
      exact .inl ⟨rfl, rfl⟩
  | some specifier =>
      cases resolved : resolveSpecifier specifier unit with
      | error e =>
          rw [addStatement_error s written resolved] at taken
          cases taken
      | ok source =>
          obtain ⟨_, same, takes⟩ := addStatement_from s written resolved
          cases same.symm.trans taken
          exact .inr ⟨specifier, source, rfl, resolved, takes⟩

/-- A statement is not taken in if its specifier has no identifier. -/
theorem specifier_of_error {e : SpecifierError} (failed : s.addStatement unit st = .error e) :
    ∃ specifier, st.specifier? = some specifier ∧ resolveSpecifier specifier unit = .error e := by
  cases written : st.specifier? with
  | none =>
      rw [addStatement_own unit s written] at failed
      cases failed
  | some specifier =>
      cases resolved : resolveSpecifier specifier unit with
      | error other =>
          rw [addStatement_error s written resolved] at failed
          cases failed
          exact ⟨specifier, rfl, resolved⟩
      | ok source =>
          obtain ⟨_, taken, _⟩ := addStatement_from s written resolved
          cases taken.symm.trans failed

/-- A statement with a specifier sets no exports. -/
theorem exposures_of_specifier (written : st.specifier? = some specifier) : st.exposures = [] := by
  cases st with
  | importFrom _ _ _ => rfl
  | exportFrom _ _ => rfl
  | _ => cases written

end Statement

/-! ## What comes from imports -/

/-- Everything that is taken from another unit is taken from an import, and no import is listed
twice. -/
structure Imported (s : Surface) : Prop where
  bindings : ∀ b ∈ s.bindings, b.source ∈ s.imports
  reExports : ∀ e ∈ s.reExports, e.source ∈ s.imports
  starExports : ∀ source ∈ s.starExports, source ∈ s.imports
  nodup : s.imports.Nodup

@[simp] theorem mem_addOnce {x y : String} {list : List String} :
    y ∈ addOnce x list ↔ y ∈ list ∨ y = x := by
  unfold addOnce
  split
  · next present =>
      constructor
      · exact Or.inl
      · rintro (member | rfl)
        · exact member
        · exact present
  · rw [List.mem_append, List.mem_singleton]

theorem nodup_addOnce {x : String} {list : List String} (nodup : list.Nodup) :
    (addOnce x list).Nodup := by
  unfold addOnce
  split
  · exact nodup
  · next absent =>
      exact List.nodup_append.mpr
        ⟨nodup, List.nodup_singleton x, fun a member b single => by
          rw [List.mem_singleton.mp single]
          rintro rfl
          exact absent member⟩

namespace Imported

variable {s : Surface}

/-- Imports that are each listed once, and nothing that is taken from them. -/
theorem ofImports {imports : List String} (nodup : imports.Nodup) :
    Imported { imports := imports } where
  bindings _ member := (List.not_mem_nil member).elim
  reExports _ member := (List.not_mem_nil member).elim
  starExports _ member := (List.not_mem_nil member).elim
  nodup := nodup

theorem empty : Imported {} := ofImports List.nodup_nil

/-- Exports do not matter. -/
theorem setExports (imported : s.Imported) (entries : List (String × String)) :
    (s.setExports entries).Imported :=
  ⟨imported.bindings, imported.reExports, imported.starExports, imported.nodup⟩

theorem addImport (imported : s.Imported) (source : String) : (s.addImport source).Imported where
  bindings b member := mem_addOnce.mpr (Or.inl (imported.bindings b member))
  reExports e member := mem_addOnce.mpr (Or.inl (imported.reExports e member))
  starExports source member := mem_addOnce.mpr (Or.inl (imported.starExports source member))
  nodup := nodup_addOnce imported.nodup

/-- From an import, anything may be taken. -/
theorem takesFrom {source : String} {after : Surface} (imported : s.Imported)
    (present : source ∈ s.imports) (takes : TakesFrom source s after) : after.Imported where
  bindings b member := by
    rw [takes.imports]
    rcases takes.bindings b member with member | rfl
    · exact imported.bindings b member
    · exact present
  reExports e member := by
    rw [takes.imports]
    rcases takes.reExports e member with member | rfl
    · exact imported.reExports e member
    · exact present
  starExports other member := by
    rw [takes.imports]
    rcases takes.starExports with same | same
    · exact imported.starExports other (same ▸ member)
    · rw [same, mem_addOnce] at member
      rcases member with member | rfl
      · exact imported.starExports other member
      · exact present
  nodup := by
    rw [takes.imports]
    exact imported.nodup

/-- Taking in a statement keeps that everything comes from imports. -/
theorem addStatement {unit : String} {after : Surface} (imported : s.Imported) (st : Statement)
    (taken : s.addStatement unit st = .ok after) : after.Imported := by
  obtain ⟨_, rfl⟩ | ⟨_, source, _, _, takes⟩ := addStatement_cases taken
  · exact imported.setExports st.exposures
  · exact (imported.addImport source).takesFrom (mem_addOnce.mpr (.inr rfl)) takes

end Imported

end Surface

/-- What the statements of a unit exchange with other units comes from its imports. -/
theorem imported_of_surfaceOf {unit : String} {statements : List Statement} {s : Surface}
    (exchanged : surfaceOf unit statements = .ok s) : s.Imported := by
  let o : Outcomes (Except SpecifierError) := .answers fun _ => True
  have imported : o.holds Surface.Imported (surfaceOf unit statements) := by
    refine o.foldlM_keeps statements ?_ Surface.Imported.empty
    intro before st _ imported
    exact Outcomes.holds_answers_iff.mpr fun after taken => imported.addStatement st taken
  exact Outcomes.holds_answers_iff.mp imported s exchanged

/-- What a script exchanges with other units comes from its imports. -/
theorem imported_of_read {unit text : String} {script : Contents}
    (done : read unit text = .ok script) : script.surface.Imported := by
  obtain ⟨s, exchanged, same⟩ := bind_eq_ok.mp done
  cases same
  exact imported_of_surfaceOf exchanged

end UnitResolution.Script

namespace UnitResolution.Markup

theorem nodup_eraseDups {α : Type} [BEq α] [LawfulBEq α] (list : List α) :
    list.eraseDups.Nodup := by
  induction h : list.length using Nat.strongRecOn generalizing list with
  | ind n ih =>
      cases list with
      | nil => exact List.nodup_nil
      | cons a rest =>
          rw [List.eraseDups_cons, List.nodup_cons]
          constructor
          · intro member
            have kept := List.mem_filter.mp (List.mem_eraseDups.mp member)
            simp only [beq_self_eq_true, Bool.not_true, Bool.false_eq_true, and_false] at kept
          · refine ih _ ?_ _ rfl
            rw [← h]
            exact Nat.lt_succ_of_le (List.length_filter_le _ rest)

/-- A host document imports every unit once. -/
theorem nodup_scriptImports {unit text : String} {imports : List String}
    (done : scriptImports unit text = .ok imports) : imports.Nodup := by
  obtain ⟨identifiers, _, same⟩ := bind_eq_ok.mp done
  cases same
  exact nodup_eraseDups identifiers

end UnitResolution.Markup

namespace UnitResolution

open Identifier Script

/-- What the text of a unit exchanges with other units. -/
def surfaceIn (identifier contents : String) : Except SpecifierError Surface :=
  if isHostDocument identifier then
    (Markup.scriptImports identifier contents).map fun scripts => { imports := scripts }
  else (Script.read identifier contents).map (·.surface)

theorem imported_of_surfaceIn {identifier contents : String} {s : Surface}
    (exchanged : surfaceIn identifier contents = .ok s) : s.Imported := by
  unfold surfaceIn at exchanged
  split at exchanged
  · obtain ⟨imports, scripts, rfl⟩ := map_eq_ok.mp exchanged
    exact Surface.Imported.ofImports (Markup.nodup_scriptImports scripts)
  · obtain ⟨script, done, rfl⟩ := map_eq_ok.mp exchanged
    exact imported_of_read done

end UnitResolution
