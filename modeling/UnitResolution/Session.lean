import UnitResolution.Context.Creation
import UnitResolution.Library.Program

/-!
# Sessions

A `Session` is a context in use: together with the disk that its resolvers read, the lines that have
been logged, and the memory of its resolver of libraries. The memory outlives the end of the
context, but nothing new can be read then.
-/

namespace UnitResolution

/-- A way of resolving libraries. -/
inductive Strategy
  /-- Read units through the context and type their declarations. -/
  | inference (configuration : Configuration)
  /-- Refuse every unit. -/
  | refusing
  deriving Repr, DecidableEq

/-- A context with the disk that its resolvers read and the lines that have been logged. -/
structure Scene where
  context : Context Strategy Strategy
  disk : Disk
  log : List String := []

/-- A context in use. -/
structure Session where
  scene : Scene
  memory : Memory

variable [Host]

namespace Scene

/-- Log lines. -/
def logLines (lines : List String) (s : Scene) : Scene := { s with log := s.log ++ lines }

/-- The source of an identifier. -/
def resolve (identifier : String) : Interruptible Scene (Except Diagnostic Source) := fun s =>
  let (answer, context) := s.context.resolve s.disk identifier
  (answer.outcome, logLines answer.log { s with context })

/-- The surroundings of a library that reads through a context. -/
def surroundings : Surroundings Scene where
  source := resolve
  log line := logLines [line]

end Scene

namespace Session

/-- The session of a context that has not read anything. -/
def start (context : Context Strategy Strategy) (disk : Disk) (log : List String := []) : Session :=
  { scene := { context, disk, log }, memory := .empty context.options.cacheSize }

/-- Change the context of a session by an operation that also yields something. -/
def onContext {α : Type}
    (operation : Context Strategy Strategy → α × Context Strategy Strategy) (s : Session) :
    α × Session :=
  let (a, context) := operation s.scene.context
  (a, { s with scene := { s.scene with context } })

/-- The source of an identifier. -/
def resolve (identifier : String) : Interruptible Session (Except Diagnostic Source) := fun s =>
  let (outcome, scene) := Scene.resolve identifier s.scene
  (outcome, { s with scene })

/-- The way in which the context resolves libraries. -/
def libraryStrategy (s : Session) : Except Refusal Strategy × Session :=
  s.onContext fun c => Id.run (c.libraryResolver (m := Id) pure)

/-- An operation of a library. -/
def inLibrary {α : Type} (operation : Library.Operation Scene α) : Interruptible Session α :=
  fun s =>
    let (outcome, memory, scene) := operation (s.memory, s.scene)
    (outcome, { scene, memory })

/-- The reader of a library that reads through a context. -/
def reader (configuration : Configuration) : Library.Reader Scene :=
  { configuration, surroundings := Scene.surroundings }

/-- The unit of an identifier. -/
def resolveLibrary (strategy : Strategy) (identifier : String) :
    Interruptible Session (Except Report LibraryUnit) :=
  match strategy with
  | .refusing => return .error {}
  | .inference configuration =>
      inLibrary (Library.resolveLibrary (reader configuration) identifier)

/-- The program of an entry. -/
def resolveProgram (strategy : Strategy) (entry : String) :
    Interruptible Session (Except Report Program) :=
  match strategy with
  | .refusing => return .error {}
  | .inference configuration =>
      inLibrary (Library.resolveProgram (reader configuration) entry)

end Session

end UnitResolution
