import UnitResolution.Proofs.Context.Inspection
import UnitResolution.Proofs.Session

/-!
# Where sources come from

With its standard resolvers, a context has a source for an identifier only where the configuration
provides one: in the mock runtime library, at a path that the layout of the runtime library
prescribes, in the entry document, at the path of a file, or below a root of packages
(`UnitResolution.Context.Origin`). A scene with such a context stays one, and has the sources that
can come from there (`UnitResolution.Scene.origin_of_source`).
-/

namespace UnitResolution

variable [Host]

variable {disk : Disk} {identifier : String}

namespace Context

variable {η ρ : Type} {configuration : Configuration} {overrides : Overrides η ρ}
  {c : Context η ρ} {r : Resolver}

/-- The layout of the runtime library in a directory, which is found out now if it has not been
before. -/
def layout? (c : Context η ρ) (disk : Disk) : Option Layout := do
  match ((← c.runtimeLibrary?).ensureLayout disk).1.outcome with
  | .ok (.ok layout) => some layout
  | _ => none

/-- Where the text of an identifier comes from. -/
inductive Origin (configuration : Configuration) (directory : String) (layout? : Option Layout)
    (disk : Disk) (identifier contents : String) : Prop
  | mock {sources : List (String × String)} (choice : configuration.runtime = .mock sources)
      (claimed : Identifier.hasScheme identifier Identifier.runtimeScheme)
      (found : sources.lookup identifier = some contents)
  | runtime {layout : Layout} {path : String} (known : layout? = some layout)
      (claimed : Identifier.hasScheme identifier Identifier.runtimeScheme)
      (named : layout.fileOf? identifier = some path)
      (found : disk.find? path = some (.file contents))
  | entry {file path : String} (choice : configuration.entry = .implicit file)
      (held : (EntryDocument.files file directory).serve? identifier = some (path, contents))
  | file {path : String} (named : Identifier.filePath? identifier = some path)
      (found : disk.find? path = some (.file contents))
  | package {root : String} {p : List Char} (among : root ∈ configuration.packages.roots)
      (claimed : Identifier.hasScheme identifier Identifier.packageScheme)
      (inside : PackagePath.ofIdentifier identifier.toList = .ok p)
      (found : disk.find? (Resolver.packageFile (Path.absoluteString root) p) =
        some (.file contents))

/-- What a context has a source for is what the resolver that claims it provides. -/
theorem provides_of_resolve {source : Source}
    (served : (c.resolve disk identifier).1.outcome = .ok (.ok source)) :
    ∃ r, c.claimant? identifier = some r ∧ r.Provides disk identifier source := by
  cases claimant : c.claimant? identifier with
  | none =>
      obtain ⟨d, answered⟩ : ∃ d, (c.resolve disk identifier).1.outcome = .ok (.error d) :=
        resolve_of_unclaimed claimant
      rw [answered] at served
      cases served
  | some r =>
      rw [resolve_of_claimant claimant] at served
      obtain ⟨found, answer, same⟩ := map_eq_ok.mp served
      cases found with
      | error fault => cases same
      | ok other =>
          cases same
          exact ⟨r, rfl, Resolver.provides_of_resolve answer⟩

/-- What a context with standard resolvers answers comes from where its configuration says. -/
theorem Follows.origin (follows : c.Follows configuration overrides)
    (runtime : overrides.runtimeResolver = none) (files : overrides.fileResolvers = none)
    {source : Source} (served : (c.resolve disk identifier).1.outcome = .ok (.ok source)) :
    Origin configuration overrides.directory (c.layout? disk) disk identifier source.contents := by
  obtain ⟨r, claimant, provides⟩ := provides_of_resolve served
  have claimed : r.claims identifier = true := by
    obtain ⟨chain, known, _⟩ := follows
    exact (claimant_mem known claimant).2
  rcases follows.claimant runtime files claimant with
    ⟨sources, choice, rfl⟩ | ⟨library, _, front, rfl⟩ | ⟨file, choice, rfl⟩ | rfl | rfl
  · cases provides with
    | opened opens => cases opens
    | mock found =>
        refine .mock choice claimed ?_
        unfold MockRuntime.lookup? at found
        split at found
        · next held => rw [held, found]
        · cases found
  · cases provides with
    | opened opens read =>
        obtain ⟨contents, found, rfl⟩ := Source.read_eq_ok read
        cases opens with
        | runtime known named =>
            refine .runtime ?_ claimed named found
            simp only [layout?, front, known, bind, Option.bind]
  · cases provides with
    | opened opens => cases opens
    | memory held => exact .entry choice held
  · cases provides with
    | opened opens read =>
        obtain ⟨contents, found, rfl⟩ := Source.read_eq_ok read
        cases opens with
        | file named => exact .file named found
  · obtain ⟨root, among, p, inside, _, found⟩ := provides.of_packageChoice
    refine .package among ?_ inside found
    cases choice : configuration.packages <;> rw [choice] at claimed <;> exact claimed

end Context

namespace Scene

variable {configuration : Configuration} {s : Scene}

/-- A scene has sources where the configuration of its context provides them. -/
theorem origin_of_source {overrides : Overrides Strategy Strategy}
    (follows : s.context.Follows configuration overrides)
    (runtime : overrides.runtimeResolver = none) (files : overrides.fileResolvers = none)
    {source : Source} (served : s.sources identifier = .ok (.ok source)) :
    Context.Origin configuration overrides.directory (s.context.layout? s.disk) s.disk identifier
      source.contents :=
  follows.origin runtime files served

/-- The sources of a scene are never nested too deeply themselves. -/
theorem sources_ne_tooDeep (s : Scene) (identifier : String) :
    s.sources identifier ≠ .error .tooDeep := by
  intro stopped
  have answer : (s.context.resolve s.disk identifier).1.outcome = .error .tooDeep := stopped
  obtain ⟨_, _, _, _, impossible⟩ := Context.resolve_eq_error_iff.mp answer
  cases impossible

end Scene

end UnitResolution
