import UnitResolution.Configuration.ProjectFile
import UnitResolution.Context.Basic
import UnitResolution.Proofs.Library.Meaning

/-!
# Everything that is reported is an error

A diagnostic may be a remark, but the library never makes one: whatever is wrong with a source, a
context, a project file or the text of a unit is an error. So hiding remarks hides nothing, and
whoever is told anything is told of an error.
-/

namespace UnitResolution

/-! ## Single diagnostics -/

@[simp] theorem Diagnostic.isError_error (code : Code) (message : String) (hint : Option String) :
    (error code message hint).isError = true :=
  rfl

theorem SourceFault.isError_diagnostic (identifier : String) (fault : SourceFault) :
    (fault.diagnostic identifier).isError = true := by
  cases fault with
  | packagePath fault => cases fault <;> rfl
  | layout fault => cases fault <;> rfl
  | _ => rfl

theorem Refusal.isError_diagnostic (refusal : Refusal) : refusal.diagnostic.isError = true := by
  cases refusal <;> rfl

theorem ProjectFile.Fault.isError_diagnostic (fault : ProjectFile.Fault) :
    fault.diagnostic.isError = true := by
  cases fault <;> rfl

/-! ## The texts of units -/

/-- The diagnostic tells what is wrong with the text of a unit. -/
structure Diagnostic.OfText (d : Diagnostic) : Prop where
  code : d.code = Code.malformedUnit.name
  isError : d.isError = true

theorem Script.ofText_of_read {unit text : String} {script : Script.Contents}
    (read : Script.read unit text = .ok script) {d : Diagnostic} (member : d ∈ script.diagnostics) :
    d.OfText := by
  unfold Script.read at read
  obtain ⟨surface, _, same⟩ := bind_eq_ok.mp read
  cases same
  obtain ⟨complaint, _, rfl⟩ := List.mem_map.mp member
  exact ⟨rfl, rfl⟩

/-- Whatever it imports, a unit has no diagnostics but those of its text. -/
theorem Library.ofText_of_readUnit {options : Script.InferenceOptions}
    {typeOf : String → String → Possibly (Option String)} {u contents : String} {unit : LibraryUnit}
    (read : readUnit options typeOf u contents (.ok unit)) {d : Diagnostic}
    (member : d ∈ unit.diagnostics) : d.OfText := by
  unfold readUnit at read
  split at read
  · rcases read with ⟨scripts, _, done⟩ | ⟨i, _, impossible⟩
    · cases done
      cases member
    · cases impossible
  · rcases read with ⟨script, lifted, done⟩ | ⟨i, _, impossible⟩
    · cases found : Script.read u contents with
      | error e => rw [found] at lifted; cases lifted
      | ok contained =>
          rw [found] at lifted
          cases lifted
          rcases done with ⟨declarations, _, typed⟩ | ⟨i, _, impossible⟩
          · cases typed
            exact Script.ofText_of_read found member
          · cases impossible
    · cases impossible

end UnitResolution
