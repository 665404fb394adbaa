import UnitResolution.Configuration.Validation
import UnitResolution.Context.Basic

/-!
# Creating contexts

`Context.create` makes a context that is ready for use: it checks the input, puts the chain of
resolvers in order, mints a context, and attaches both parts to it. Either a configured context
comes out, or none: a minted context that refuses a part is disposed.
-/

namespace UnitResolution

variable [Host]

/-- What a caller puts in the place of the parts that a configuration asks for. -/
structure Overrides (η ρ : Type) where
  runtimeResolver : Option Resolver := none
  /-- The resolvers of files and packages, all of which are replaced. -/
  fileResolvers : Option (List Resolver) := none
  hook : Option η := none
  /-- How a context is made of its options. -/
  mint : AnalysisOptions → Context η ρ := fun options => { options }
  /-- The directory from which relative paths are counted. -/
  directory : String := String.ofList Path.workingDirectory

/-- How the creation of a context ends. -/
inductive Creation (η ρ : Type)
  /-- Something is wrong with the input; no context has been minted. -/
  | invalid (violations : List Violation)
  /-- The minted context, now disposed, has refused a part. -/
  | refused (refusal : Refusal) (minted : Context η ρ)
  /-- The context is ready. -/
  | created (context : Context η ρ) (log : List String)

namespace Context

variable {η ρ : Type}

/-- The chain of resolvers for a configuration. -/
def chainFor (configuration : Configuration) (overrides : Overrides η ρ) : Chain :=
  let runtime :=
    overrides.runtimeResolver.getD
      (.ofRuntimeChoice configuration.verbose configuration.runtime)
  let entry :=
    match configuration.entry with
    | .implicit file => some (.ofEntry file overrides.directory)
    | .explicit _ => none
  let files :=
    overrides.fileResolvers.getD [.file, .ofPackageChoice configuration.packages]
  .compose runtime entry files

/-- Attach both parts to a context. -/
def attach (c : Context η ρ) (chain : Chain) (hook : η) : Except Refusal Unit × Context η ρ :=
  match c.attachChain chain with
  | (.error refusal, c) => (.error refusal, c)
  | (.ok (), c) => c.attachHook hook

/-- The line that tells in which order resolvers are asked. -/
def chainLine (chain : Chain) : String :=
  "[unitgraph] Resolver chain: " ++ String.intercalate " -> " chain.names

/-- Create a context for an input. `standardHook` is the hook for a configuration where no other
one is given. -/
def create (standardHook : Configuration → η) (input : ConfigurationInput)
    (overrides : Overrides η ρ) : Creation η ρ :=
  match Configuration.validate input overrides.directory with
  | .error violations => .invalid violations
  | .ok configuration =>
      let chain := chainFor configuration overrides
      let minted := overrides.mint { cacheSize := AnalysisOptions.standardCacheSize }
      match minted.attach chain (overrides.hook.getD (standardHook configuration)) with
      | (.error refusal, c) => .refused refusal c.dispose
      | (.ok (), c) => .created c (if configuration.verbose then [chainLine chain] else [])

end Context

end UnitResolution
