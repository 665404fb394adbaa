import UnitResolution.Resolver.Basic

/-!
# Chains of resolvers

A `Chain` puts resolvers in an order. The first one that claims an identifier answers for it, and
its answer stands, also where it has no source: no later resolver is asked. A chain has at least one
resolver, and `Chain.ofList?` refuses an empty list.
-/

namespace UnitResolution

variable [Host]

/-- Resolvers in the order in which they are asked. -/
structure Chain where
  resolvers : List Resolver
  resolvers_ne_nil : resolvers ≠ []

namespace Chain

/-- The diagnostic of a chain without resolvers. -/
def emptyDiagnostic : Diagnostic :=
  .error .emptyChain "A source factory needs at least one resolver"

/-- The chain of the given resolvers, if there are any. -/
def ofList? : List Resolver → Except Diagnostic Chain
  | [] => .error emptyDiagnostic
  | first :: rest => .ok ⟨first :: rest, List.cons_ne_nil first rest⟩

/-- A runtime library in front, the entry document behind it if there is one, and then the resolvers
of files. -/
def compose (runtime : Resolver) (entry : Option Resolver) (files : List Resolver) : Chain :=
  ⟨runtime :: entry.toList ++ files, by simp⟩

/-- The names of the resolvers. -/
def names (c : Chain) : List String := c.resolvers.map Resolver.name

/-- The resolver that answers for an identifier. -/
def claimant? (c : Chain) (identifier : String) : Option Resolver :=
  c.resolvers.find? (Resolver.claims identifier)

/-- The answer of the first of several resolvers that claims an identifier, and the resolvers as
they are afterwards. -/
def resolveBy (disk : Disk) (identifier : String) (unclaimed : SourceFault) :
    List Resolver → Answer (Except SourceFault Source) × List Resolver
  | [] => (⟨.ok (.error unclaimed), []⟩, [])
  | r :: rest =>
      if r.claims identifier then
        let (answer, r) := r.resolve disk identifier
        (answer, r :: rest)
      else
        let (answer, rest) := resolveBy disk identifier unclaimed rest
        (answer, r :: rest)

theorem resolveBy_ne_nil (disk : Disk) (identifier : String) (unclaimed : SourceFault)
    (resolvers : List Resolver) (h : resolvers ≠ []) :
    (resolveBy disk identifier unclaimed resolvers).2 ≠ [] := by
  cases resolvers with
  | nil => exact absurd rfl h
  | cons r rest => simp only [resolveBy]; split <;> simp

/-- The answer of a chain to an identifier, and the chain as it is afterwards. -/
def resolve (c : Chain) (disk : Disk) (identifier : String) :
    Answer (Except SourceFault Source) × Chain :=
  let answered := resolveBy disk identifier (.unclaimed c.names) c.resolvers
  (answered.1, ⟨answered.2, resolveBy_ne_nil disk identifier _ _ c.resolvers_ne_nil⟩)

end Chain

end UnitResolution
