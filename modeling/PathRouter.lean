import PathRouter.Config.Layers
import PathRouter.SharedCache
import PathRouter.Registry.Session
import PathRouter.Template.Compose
import PathRouter.Proofs.Lookup
import PathRouter.Proofs.Caching
import PathRouter.Proofs.Loading
import PathRouter.Proofs.Listing
import PathRouter.Proofs.Rearranging
import PathRouter.Proofs.Runs
import PathRouter.Proofs.Reading.Changes
import PathRouter.Proofs.Reading.Growth
import PathRouter.Proofs.Reading.Trees
import PathRouter.Proofs.Reading.Places
import PathRouter.Proofs.Reading.Tracking
import PathRouter.Proofs.Reading.Embedding
import PathRouter.Proofs.Reading.Numbering
import PathRouter.Proofs.Reading.Standalone
import PathRouter.Proofs.Reading.Limits
import PathRouter.Proofs.Tokens
import PathRouter.Proofs.Composition
import PathRouter.Proofs.Cutting
import PathRouter.Proofs.Grammar
import PathRouter.Proofs.Spelling
import PathRouter.Proofs.Agreement
import PathRouter.Proofs.Rereading
import PathRouter.Proofs.Capturing
import PathRouter.Proofs.Grouping
import PathRouter.Proofs.Binding
import PathRouter.Proofs.Resolving
import PathRouter.Proofs.Recovering
import PathRouter.Proofs.Writing
import PathRouter.Proofs.Recency
import PathRouter.Proofs.Setup
import PathRouter.Proofs.Reloading
import PathRouter.Proofs.Ties
import PathRouter.Proofs.Identity
import PathRouter.Proofs.Diagnostics
import PathRouter.Proofs.Fingerprinting
import PathRouter.Proofs.Shadowing
import PathRouter.Proofs.Preferring
import PathRouter.Proofs.Satisfying
import PathRouter.Proofs.Registering
import PathRouter.Proofs.Lifetimes
import PathRouter.Proofs.Capacity
import PathRouter.Proofs.Counting
import PathRouter.Proofs.Doubles
import PathRouter.Proofs.Overriding
import PathRouter.Proofs.Ranges
import PathRouter.Proofs.Dividing
import PathRouter.Proofs.Refusing
import PathRouter.Proofs.Layout
import PathRouter.Proofs.Substituting
import PathRouter.Proofs.Validating
import PathRouter.Proofs.Wildcards
import PathRouter.Proofs.Reporting
import PathRouter.Proofs.Catalogue
import PathRouter.Proofs.Hashing
import PathRouter.Proofs.Weighing
