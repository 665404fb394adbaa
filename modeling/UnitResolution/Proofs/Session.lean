import UnitResolution.Proofs.Library.Graph
import UnitResolution.Session

/-!
# The sources of a session

Resolving an identifier changes the scene: the context becomes sealed, and a runtime library finds
its layout. Neither changes what any identifier resolves to, as long as the disk stays as it is. So
a scene has one source for every identifier, in whatever order they are asked for
(`UnitResolution.Scene.serves`).
-/

namespace UnitResolution

variable [Host]

variable {disk : Disk} {identifier other : String}

/-! ## Resolvers -/

theorem RuntimeDirectory.lookup_lookup (library : RuntimeDirectory) :
    ((library.lookup disk identifier).2.lookup disk other).1.outcome =
      (library.lookup disk other).1.outcome := by
  unfold lookup ensureLayout
  cases known : library.layout with
  | some layout => simp only [known]
  | none =>
      cases found : Layout.discover disk library.path with
      | error i => simp only [known, found]
      | ok layout => rfl

namespace Resolver

variable (r : Resolver)

theorem name_resolve : (r.resolve disk identifier).2.name = r.name := by
  cases r <;> simp only [resolve, name]

theorem claims_resolve : (r.resolve disk identifier).2.claims other = r.claims other := by
  cases r <;> simp only [resolve, claims]

theorem resolve_resolve :
    ((r.resolve disk identifier).2.resolve disk other).1.outcome =
      (r.resolve disk other).1.outcome := by
  cases r with
  | runtimeDirectory library =>
      simp only [resolve]
      exact library.lookup_lookup
  | _ => simp only [resolve]

end Resolver

/-! ## Chains -/

namespace Chain

variable {unclaimed refused : SourceFault} (resolvers : List Resolver)

theorem names_resolveBy :
    (resolveBy disk identifier unclaimed resolvers).2.map Resolver.name =
      resolvers.map Resolver.name := by
  induction resolvers with
  | nil => rfl
  | cons r rest ih =>
      unfold resolveBy
      split
      · rw [List.map_cons, List.map_cons, Resolver.name_resolve]
      · rw [List.map_cons, List.map_cons, ih]

theorem resolveBy_resolveBy :
    (resolveBy disk other refused (resolveBy disk identifier unclaimed resolvers).2).1.outcome =
      (resolveBy disk other refused resolvers).1.outcome := by
  induction resolvers with
  | nil => rfl
  | cons r rest ih =>
      by_cases claimed : r.claims identifier
      · rw [resolveBy, if_pos claimed]
        simp only [resolveBy, Resolver.claims_resolve]
        split
        · exact r.resolve_resolve
        · rfl
      · rw [resolveBy, if_neg claimed]
        simp only [resolveBy]
        split
        · rfl
        · exact ih

theorem resolve_resolve (c : Chain) :
    ((c.resolve disk identifier).2.resolve disk other).1.outcome =
      (c.resolve disk other).1.outcome := by
  unfold resolve names
  dsimp only
  rw [names_resolveBy]
  exact resolveBy_resolveBy c.resolvers

end Chain

/-! ## Scenes -/

theorem Context.resolve_resolve {η ρ : Type} (c : Context η ρ) :
    ((c.resolve disk identifier).2.resolve disk other).1.outcome =
      (c.resolve disk other).1.outcome := by
  obtain ⟨options, stage, chain, hook, made⟩ := c
  cases chain with
  | none => cases stage <;> rfl
  | some chain =>
      cases stage with
      | unconfigured => rfl
      | disposed => rfl
      | configured => simp only [resolve, use, Chain.resolve_resolve]
      | «sealed» => simp only [resolve, use, Chain.resolve_resolve]

namespace Scene

theorem resolve_resolve (s : Scene) :
    (resolve other (resolve identifier s).2).1 = (resolve other s).1 :=
  s.context.resolve_resolve

/-- The sources of a scene. -/
def sources (s : Scene) : Sources := fun identifier => (resolve identifier s).1

/-- A scene has the same sources, whatever it has been asked for. -/
theorem serves (s : Scene) : surroundings.Serves s s.sources := by
  intro later course
  induction course with
  | refl => exact fun _ => rfl
  | source identifier _ _ ih => exact fun other => (resolve_resolve _).trans (ih other)
  | log line _ ih => exact ih

end Scene

/-! ## Mock runtime libraries -/

/-- The configuration with nothing but a mock runtime library of the given texts. -/
def Configuration.ofMock (texts : List (String × String)) : Configuration where
  runtime := .mock texts
  packages := .single "/"
  entry := .explicit none
  inference := {}
  verbose := false

/-- The scene of a context with nothing but a mock runtime library of the given texts. -/
def Scene.ofMock (texts : List (String × String)) : Scene where
  context :=
    { options := { cacheSize := AnalysisOptions.standardCacheSize }
      stage := .configured
      chain := some (Context.chainFor (.ofMock texts) ({} : Overrides Strategy Strategy))
      hook := some (.inference (.ofMock texts)) }
  disk := {}

/-- What such a scene has for an identifier hangs on what is listed for it. -/
theorem Scene.sources_ofMock_congr {texts texts' : List (String × String)}
    (same : texts.lookup identifier = texts'.lookup identifier) :
    (Scene.ofMock texts).sources identifier = (Scene.ofMock texts').sources identifier := by
  have outcome (list : List (String × String)) :
      (Scene.ofMock list).sources identifier =
        (Chain.resolve (Context.chainFor (.ofMock list) ({} : Overrides Strategy Strategy)) {}
          identifier).1.outcome.map
          fun found => found.mapError (SourceFault.diagnostic identifier) := rfl
  have found : MockRuntime.lookup? ⟨texts, true⟩ identifier =
      MockRuntime.lookup? ⟨texts', true⟩ identifier := by
    rw [MockRuntime.lookup?, MockRuntime.lookup?, same]
  rw [outcome, outcome]
  by_cases claimed : Identifier.hasScheme identifier Identifier.runtimeScheme
  · simp [Chain.resolve, Context.chainFor, Chain.compose, Configuration.ofMock, Chain.resolveBy,
      Resolver.ofRuntimeChoice, Resolver.ofMockSources, Resolver.claims, claimed, Resolver.resolve,
      found]
  · simp [Chain.resolve, Context.chainFor, Chain.compose, Configuration.ofMock, Chain.resolveBy,
      Resolver.ofRuntimeChoice, Resolver.ofMockSources, Resolver.claims, claimed]
    rfl

end UnitResolution
