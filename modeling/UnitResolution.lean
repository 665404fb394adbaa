import UnitResolution.Main
import UnitResolution.Proofs.Outcome
import UnitResolution.Proofs.Correspondence
import UnitResolution.Proofs.Text.Utf8
import UnitResolution.Proofs.Path
import UnitResolution.Proofs.Path.Ways
import UnitResolution.Proofs.Url.Decoding
import UnitResolution.Proofs.Url.Written
import UnitResolution.Proofs.Identifier.Scheme
import UnitResolution.Proofs.Url.Encoding
import UnitResolution.Proofs.Identifier.Specifier
import UnitResolution.Proofs.Url.Walk
import UnitResolution.Proofs.Script.Imports
import UnitResolution.Proofs.Script.Declarations
import UnitResolution.Proofs.Script.Specifiers
import UnitResolution.Proofs.Markup.EntryDocument
import UnitResolution.Proofs.Session
import UnitResolution.Proofs.Library.Graph
import UnitResolution.Proofs.Library.Meaning
import UnitResolution.Proofs.Library.Coherence
import UnitResolution.Proofs.Library.Reading
import UnitResolution.Proofs.Library.Eviction
import UnitResolution.Proofs.Library.Lockstep
import UnitResolution.Proofs.Library.Walk
import UnitResolution.Proofs.Library.History
import UnitResolution.Proofs.Library.Answers
import UnitResolution.Proofs.Library.Programs
import UnitResolution.Proofs.Library.Nesting
import UnitResolution.Proofs.Library.Exports
import UnitResolution.Proofs.Resolver.Opening
import UnitResolution.Proofs.Resolver.Confinement
import UnitResolution.Proofs.Context.Inspection
import UnitResolution.Proofs.Context.Lifecycle
import UnitResolution.Proofs.Context.Dispatch
import UnitResolution.Proofs.Context.Origin
import UnitResolution.Proofs.Context.Extent
import UnitResolution.Proofs.Context.Reach
import UnitResolution.Proofs.Library.Ending
import UnitResolution.Proofs.Configuration.Validation
import UnitResolution.Proofs.Configuration.Located
import UnitResolution.Proofs.Context.Creation
import UnitResolution.Proofs.Library.Locality
import UnitResolution.Proofs.Library.Changing
import UnitResolution.Proofs.Severity
import UnitResolution.Proofs.Library.Invariance
import UnitResolution.Proofs.Context.ImplicitEntry
import UnitResolution.Proofs.CommandLine.ExitCode
import UnitResolution.Proofs.Context.Log
import UnitResolution.Proofs.Library.Verbosity
import UnitResolution.Proofs.CommandLine.Observation
import UnitResolution.Proofs.Library.Recency
import UnitResolution.Proofs.Resolver.Relative
import UnitResolution.Proofs.Library.Trails
import UnitResolution.Proofs.Library.Search
import UnitResolution.Proofs.Library.Usage
import UnitResolution.Proofs.Library.Builds
import UnitResolution.Proofs.RuntimeLibrary.Snapshot
import UnitResolution.Proofs.RuntimeLibrary.Names
import UnitResolution.Proofs.Identifier.FilePath
import UnitResolution.Proofs.Identifier.FileReference
import UnitResolution.Proofs.Configuration.Settled
import UnitResolution.Proofs.CommandLine.Replacement
import UnitResolution.Proofs.CommandLine.Groups
import UnitResolution.Proofs.Script.TypeText.Pieces
import UnitResolution.Proofs.Script.TypeText.Reading
import UnitResolution.Proofs.Script.TypeText.Composition
import UnitResolution.Proofs.Script.Grouping
import UnitResolution.Proofs.Configuration.Nearest
import UnitResolution.Proofs.Script.Knowledge
import UnitResolution.Proofs.Script.Agreement
