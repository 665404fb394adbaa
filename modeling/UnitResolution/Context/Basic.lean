import UnitResolution.Options
import UnitResolution.Resolver.Chain

/-!
# Contexts

A `Context` holds the two parts of an analysis: a chain of resolvers, and a hook that makes the
resolver of libraries. It is `unconfigured` until both are attached and `configured` then; its first
use makes it `sealed`, so that no part can be replaced any more, and `disposed` is its end. The hook
is invoked by the first look at the resolver of libraries, and never again.

What a hook is and what it makes is left open.
-/

namespace UnitResolution

/-- The stages in the life of a context. -/
inductive Stage
  | unconfigured
  | configured
  | sealed
  | disposed
  deriving Repr, DecidableEq

/-- The word for a stage. -/
def Stage.word : Stage → String
  | unconfigured => "unconfigured"
  | configured => "configured"
  | «sealed» => "sealed"
  | disposed => "disposed"

/-- The parts that are attached to a context. -/
inductive Part
  | chain
  | hook
  deriving Repr, DecidableEq

/-- Why a context refuses an operation. -/
inductive Refusal
  /-- A part is replaced after the first use. -/
  | replaced (part : Part)
  /-- The context is at its end. -/
  | ended
  /-- A part is missing. -/
  | missing (part : Part)
  deriving Repr, DecidableEq

/-- The diagnostic of a refusal. -/
def Refusal.diagnostic : Refusal → Diagnostic
  | replaced part =>
      let what :=
        match part with
        | .chain => "resolver chain"
        | .hook => "library resolver factory"
      .error .contextSealed ("Cannot replace the " ++ what ++ " of a sealed analysis context")
        (some "Create a new context instead")
  | ended => .error .contextDisposed "Analysis context has been disposed"
  | missing part =>
      let what :=
        match part with
        | .chain => "source factory"
        | .hook => "library resolver factory"
      .error .contextIncomplete ("Analysis context has no " ++ what ++ " attached")
        (some "Attach a source factory and a library resolver factory first")

/-- The parts of an analysis, with hooks of type `η` that make resolvers of type `ρ`. -/
structure Context (η ρ : Type) where
  options : AnalysisOptions
  stage : Stage := .unconfigured
  chain : Option Chain := none
  hook : Option η := none
  /-- What the hook has made, until the end of the context. -/
  made : Option ρ := none

namespace Context

variable {η ρ : Type}

/-- The context with the stage that its parts give it. -/
def updateStage (c : Context η ρ) : Context η ρ :=
  if c.chain.isSome && c.hook.isSome then { c with stage := .configured } else c

/-- Why a part cannot be attached. -/
def whyFixed (c : Context η ρ) (part : Part) : Option Refusal :=
  match c.stage with
  | .sealed => some (.replaced part)
  | .disposed => some .ended
  | _ => none

/-- Attach a chain of resolvers. -/
def attachChain (c : Context η ρ) (chain : Chain) : Except Refusal Unit × Context η ρ :=
  match c.whyFixed .chain with
  | some refusal => (.error refusal, c)
  | none => (.ok (), updateStage { c with chain := some chain })

/-- Attach a hook. -/
def attachHook (c : Context η ρ) (hook : η) : Except Refusal Unit × Context η ρ :=
  match c.whyFixed .hook with
  | some refusal => (.error refusal, c)
  | none => (.ok (), updateStage { c with hook := some hook })

/-- Use the context: its chain, if it is complete and not at its end. -/
def use (c : Context η ρ) : Except Refusal Chain × Context η ρ :=
  match c.stage, c.chain with
  | .disposed, _ => (.error .ended, c)
  | _, none => (.error (.missing .chain), c)
  | .unconfigured, some _ => (.error (.missing .hook), c)
  | _, some chain => (.ok chain, { c with stage := .sealed })

variable [Host]

/-- The answer of the chain to an identifier, and the context afterwards. -/
def resolve (c : Context η ρ) (disk : Disk) (identifier : String) :
    Answer (Except Diagnostic Source) × Context η ρ :=
  match c.use with
  | (.error refusal, c) => (⟨.ok (.error refusal.diagnostic), []⟩, c)
  | (.ok chain, c) =>
      let (answer, chain) := chain.resolve disk identifier
      let outcome := answer.outcome.map fun found =>
        found.mapError (SourceFault.diagnostic identifier)
      (⟨outcome, answer.log⟩, { c with chain := some chain })

/-- The resolver of libraries; `invoke` is what invoking a hook does. -/
def libraryResolver {m : Type → Type} [Monad m] (invoke : η → m ρ) (c : Context η ρ) :
    m (Except Refusal ρ × Context η ρ) :=
  match c.use with
  | (.error refusal, c) => return (.error refusal, c)
  | (.ok _, c) =>
      match c.made, c.hook with
      | some made, _ => return (.ok made, c)
      | none, none => return (.error (.missing .hook), c)
      | none, some hook => do
          let made ← invoke hook
          return (.ok made, { c with made := some made })

/-- End the context. -/
def dispose (c : Context η ρ) : Context η ρ := { c with stage := .disposed, made := none }

/-- The names of the resolvers of the chain. -/
def chainNames? (c : Context η ρ) : Option (List String) := c.chain.map Chain.names

/-- The name of the resolver that answers for an identifier. -/
def claimantName? (c : Context η ρ) (identifier : String) : Option String := do
  return (← (← c.chain).claimant? identifier).name

end Context

end UnitResolution
