import UnitResolution.Session

/-!
# Commands

The three commands that work on a session: `chain` lists the resolvers, `resolve` shows the source
of an identifier, and `analyze` shows the declarations of an entry and of everything that it
imports. A command yields text, remarks that have not stopped it, and perhaps a closing line.
-/

namespace UnitResolution.CommandLine

variable [Host]

/-- What a command yields. -/
structure Output where
  text : String
  diagnostics : List Diagnostic := []
  summary : Option String := none
  deriving Repr, DecidableEq

/-- Lines in one text. -/
def lines (l : List String) : String := String.intercalate "\n" l

/-! ## The chain of resolvers -/

/-- The lines of resolvers, numbered from a given number on. -/
def resolverLines : Nat → List Resolver → List String
  | _, [] => []
  | n, r :: rest =>
      (toString n ++ ". " ++ r.name ++ " (" ++ r.scheme ++ ")") :: resolverLines (n + 1) rest

/-- List the resolvers in the order in which they are asked. -/
def chainOutput (s : Session) : Except Report Output :=
  match s.scene.context.chain with
  | none =>
      .error (.single
        (.error .contextIncomplete "Analysis context has no source factory attached"))
  | some chain => .ok { text := lines (resolverLines 1 chain.resolvers) }

/-! ## Sources -/

/-- Show the source of an identifier. -/
def resolveOutput (identifier : String) : Interruptible Session (Except Report Output) := do
  match ← Session.resolve identifier with
  | .error d => return .error (.single d)
  | .ok source => return .ok { text := source.contents }

/-! ## Declarations -/

/-- The line of a declaration. -/
def declarationLine (d : Script.Declaration) : String :=
  "  " ++ (if d.exported then "export " else "") ++ d.kind.word ++ " " ++ d.name ++ ": " ++ d.type

/-- The lines of a unit. -/
def unitLines (u : LibraryUnit) : List String :=
  (u.identifier ++ " (" ++ u.kind.word ++ ")") ::
    match u.kind with
    | .hostDocument => u.imports.map ("  script " ++ ·)
    | .script => u.declarations.map declarationLine

/-- The closing line of an analysis. -/
def summaryOf (count : Nat) (entry : String) : String :=
  "Analyzed " ++ toString count ++ " unit" ++ (if count = 1 then "" else "s") ++ " from " ++ entry

/-- Show the declarations of a program. -/
def programOutput (entry : String) (p : Program) : Output :=
  { text := lines (p.units.flatMap unitLines)
    diagnostics := p.report.diagnostics
    summary := some (summaryOf p.units.length entry) }

/-- Show the declarations of an entry and of everything that it imports. -/
def analyzeOutput (entry : String) : Interruptible Session (Except Report Output) := fun s =>
  match s.libraryStrategy with
  | (.error refusal, s) => (.ok (.error (.single refusal.diagnostic)), s)
  | (.ok strategy, s) =>
      let (outcome, s) := Session.resolveProgram strategy entry s
      (outcome.map (·.map (programOutput entry)), s)

/-! ## Commands by their names -/

/-- The commands that work on a session. -/
inductive Command
  | resolve
  | chain
  | analyze
  deriving Repr, DecidableEq

/-- The command of the given name. -/
def Command.ofName? : String → Option Command
  | "resolve" => some .resolve
  | "chain" => some .chain
  | "analyze" => some .analyze
  | _ => none

/-- Whether a command needs an identifier. -/
def Command.needsIdentifier : Command → Bool
  | resolve => true
  | chain => false
  | analyze => true

/-- Carry out a command on a session. -/
def Command.output (identifier : String) : Command → Interruptible Session (Except Report Output)
  | resolve => resolveOutput identifier
  | chain => fun s => (.ok (chainOutput s), s)
  | analyze => analyzeOutput identifier

end UnitResolution.CommandLine
