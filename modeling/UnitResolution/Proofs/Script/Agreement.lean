import UnitResolution.Proofs.Script.Declarations
import UnitResolution.Proofs.Script.Specifiers

/-!
# The surface of a script and its declarations

A script is gone through twice: once for what it exchanges with other units, and once for what it
declares. Both agree. The surface reflects the statements
(`UnitResolution.Script.Surface.Reflects`), every name that a declaration exports has been declared,
and a declaration is marked as exported exactly if its name stands behind an export
(`UnitResolution.Script.Surface.Agrees`). That is so for every text, however imports are looked up
(`UnitResolution.Script.read_agrees`).
-/

namespace UnitResolution

/-- Entries that are set behind others are set in the table of these. -/
theorem Table.ofList_append {α : Type} (before behind : List (String × α)) :
    Table.ofList (before ++ behind) =
      behind.foldl (fun table entry => Table.set entry.1 entry.2 table) (Table.ofList before) :=
  List.foldl_append

namespace Script

open Identifier

/-- A statement that declares variables, a function or a class. -/
def Statement.IsDeclaration : Statement → Prop
  | function _ _ | classDeclaration _ _ | «variables» _ _ _ => True
  | _ => False

namespace Surface

/-- What a script with the given statements exchanges with other units. -/
structure Reflects (statements : List Statement) (s : Surface) : Prop where
  /-- Everything that is taken from another unit is taken from an import, and no import is listed
  twice. -/
  imported : s.Imported
  /-- No unit is passed on twice as a whole. -/
  starExports : s.starExports.Nodup
  /-- The exports are those that the statements set, one after the other. -/
  exports : s.exports = Table.ofList (statements.flatMap Statement.exposures)

/-- Declarations of the given statements, beside what these exchange with other units. -/
structure Agrees (s : Surface) (statements : List Statement) (list : List Declaration) : Prop where
  /-- A local name that a declaration exports is declared. -/
  declared : ∀ st ∈ statements, st.IsDeclaration → ∀ entry ∈ st.exposures,
    ∃ d ∈ list, d.name = entry.2
  /-- The declarations that are marked as exported are those of names behind exports. -/
  exported : ∀ d ∈ list, d.exported = true ↔ ∃ entry ∈ s.exports, entry.2 = d.name

/-! ## Reading statements -/

namespace Reflects

variable {unit : String} {s after : Surface} {before : List Statement}

theorem empty : Reflects [] {} where
  imported := .empty
  starExports := List.nodup_nil
  exports := rfl

/-- A statement that is taken in is reflected. -/
theorem addStatement (reflects : s.Reflects before) (st : Statement)
    (taken : s.addStatement unit st = .ok after) : after.Reflects (before ++ [st]) where
  imported := reflects.imported.addStatement st taken
  starExports := by
    obtain ⟨_, rfl⟩ | ⟨_, source, _, _, takes⟩ := addStatement_cases taken
    · exact reflects.starExports
    · rcases takes.starExports with same | same
      · rw [same]
        exact reflects.starExports
      · rw [same]
        exact nodup_addOnce reflects.starExports
  exports := by
    rw [List.flatMap_append, List.flatMap_singleton, Table.ofList_append, ← reflects.exports]
    obtain ⟨_, rfl⟩ | ⟨specifier, source, written, _, takes⟩ := addStatement_cases taken
    · rfl
    · rw [exposures_of_specifier written]
      exact takes.exports

end Reflects

theorem isExportedLocal_iff {s : Surface} {name : String} :
    s.isExportedLocal name = true ↔ ∃ entry ∈ s.exports, entry.2 = name := by
  simp only [isExportedLocal, List.any_eq_true, beq_iff_eq]

end Surface

/-- What statements exchange with other units reflects them, or a specifier has no identifier. -/
theorem reflects_surfaceOf (unit : String) (statements : List Statement) :
    Outcomes.IsAnswer
      (fun e => ∃ specifier ∈ statements.filterMap Statement.specifier?,
        resolveSpecifier specifier unit = .error e)
      (Surface.Reflects statements) (surfaceOf unit statements) := by
  refine (Outcomes.answers _).foldlM (P := Surface.Reflects) statements ?_ .empty
  intro before s st member reflects
  cases taken : s.addStatement unit st with
  | ok after => exact reflects.addStatement st taken
  | error e =>
      obtain ⟨specifier, written, failed⟩ := Surface.specifier_of_error taken
      exact ⟨specifier, List.mem_filterMap.mpr ⟨st, member, written⟩, failed⟩

/-! ## Declaring names -/

theorem Exposure.snd_of_mem_entries {exposure : Exposure} {localName : String}
    {entry : String × String} (member : entry ∈ exposure.entries localName) :
    entry.2 = localName := by
  cases exposure with
  | internal => cases member
  | named => rw [List.mem_singleton.mp member]
  | default => rw [List.mem_singleton.mp member]

/-- The local names that a declaration exports are names that it declares. -/
theorem Statement.IsDeclaration.mem_declaredNames {st : Statement} (declares : st.IsDeclaration)
    {entry : String × String} (member : entry ∈ st.exposures) : entry.2 ∈ st.declaredNames := by
  cases st with
  | function exposure name =>
      rw [Exposure.snd_of_mem_entries member]
      exact List.mem_singleton_self _
  | classDeclaration exposure name =>
      rw [Exposure.snd_of_mem_entries member]
      exact List.mem_singleton_self _
  | «variables» exported kind list =>
      cases exported with
      | false => cases member
      | true =>
          obtain ⟨v, among, same⟩ := List.mem_filterMap.mp member
          obtain ⟨name, named, rfl⟩ := Option.map_eq_some_iff.mp same
          exact List.mem_filterMap.mpr ⟨v, among, named⟩
  | _ => cases declares

/-- Declarations that statements make for their names agree with what marks them as exported. -/
theorem Progress.Declares.agrees {s : Surface} {statements : List Statement} {p : Progress}
    (declares : p.Declares s.isExportedLocal (declaredNames statements)) :
    s.Agrees statements p.declarations where
  declared st among declaration entry member := by
    apply List.mem_map.mp
    apply declares.covers.all
    exact List.mem_flatMap.mpr ⟨st, among, declaration.mem_declaredNames member⟩
  exported d member := by
    rw [declares.exported_eq d member]
    exact Surface.isExportedLocal_iff

/-- For every text, reading it comes to what reflects its statements, or a specifier in it has no
identifier. Then inferring its declarations comes to what agrees with that, or looking up an import
fails. -/
theorem read_agrees (unit text : String) (options : InferenceOptions) {ε σ : Type}
    (lookupImport : String → ExceptT ε (StateM σ) (Option String)) (start : σ) :
    Outcomes.IsAnswer
      (fun e => ∃ specifier ∈ (parse text).statements.filterMap Statement.specifier?,
        resolveSpecifier specifier unit = .error e)
      (fun script => script.surface.Reflects script.statements ∧
        Outcomes.IsAnswer
          (fun e => ∃ name state, (lookupImport name state).1 = .error e)
          (script.surface.Agrees script.statements)
          (inferDeclarations script.surface.isExportedLocal options lookupImport
            script.statements start).1)
      (read unit text) := by
  unfold read
  dsimp only
  generalize parse text = script
  refine (Outcomes.answers _).bind (reflects_surfaceOf unit script.statements) ?_
  intro surface reflects
  refine ⟨reflects, ?_⟩
  let o : Outcomes (ExceptT ε (StateM σ)) :=
    .answersFrom fun e => ∃ name state, (lookupImport name state).1 = .error e
  have answered (name : String) : o.holds (fun _ => True) (lookupImport name) := by
    intro state
    cases outcome : (lookupImport name state).1 with
    | ok answer => trivial
    | error e => exact ⟨name, state, outcome⟩
  exact holds_inferDeclarations o answered (fun p declares => declares.agrees) start

-- a function with two signatures is declared once, and a pattern neither exports nor declares
set_option maxRecDepth 4000 in
example :
    let text := "export function f(): void;\nexport function f() {}\n" ++
      "export const [a] = b, c = 2;\nexport default class {}\n"
    let statements := (parse text).statements
    let list := Id.run (inferDeclarations (fun _ => true) {} (fun _ => none) statements)
    Table.ofList (statements.flatMap Statement.exposures) =
        [("f", "f"), ("c", "c"), ("default", "default")] ∧
      namesOf list = ["f", "c", "default"] := by
  decide +kernel

end Script

end UnitResolution
