import UnitResolution.Identifier.Specifier

/-!
# Interruptions

Most failures are part of an answer. An `Interruption` is what stops an operation altogether, so
that it answers nothing. What the operation has changed until then stays changed, so an operation
with a state is an `Interruptible` over that state.
-/

namespace UnitResolution

/-- What stops an operation altogether. -/
inductive Interruption
  /-- A specifier is counted from an identifier that is no URL. -/
  | invalidUrl
  /-- Something on the disk cannot be looked at, or not be listed, or a resolver of the caller gives
  up, for a reason. -/
  | uninspectable (reason : String)
  /-- Units are nested too deeply. -/
  | tooDeep
  deriving Repr, DecidableEq

/-- The interruption by a specifier without an identifier. -/
def Interruption.ofSpecifier : Identifier.SpecifierError → Interruption
  | .invalidUrl => .invalidUrl

/-- An operation with a state that can be interrupted. -/
abbrev Interruptible (σ α : Type) := ExceptT Interruption (StateM σ) α

end UnitResolution
