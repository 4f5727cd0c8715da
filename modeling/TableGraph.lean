import TableGraph.Api.Execution
import TableGraph.Schema.Outline
import TableGraph.Store.Introspection
import TableGraph.Proofs.Naming.History
import TableGraph.Proofs.Catalog.Build
import TableGraph.Proofs.Catalog.Relations
import TableGraph.Proofs.Naming.TypeName
import TableGraph.Proofs.Catalog.TypeNames
import TableGraph.Proofs.Resolver.Defaults
import TableGraph.Proofs.Catalog.Compiled
import TableGraph.Proofs.Catalog.RootFields
import TableGraph.Proofs.Catalog.ForeignKeys
import TableGraph.Proofs.Catalog.Closure
import TableGraph.Proofs.Catalog.ValidNames
import TableGraph.Proofs.Catalog.Canonical
import TableGraph.Proofs.Store.Chains
import TableGraph.Proofs.Store.Select
import TableGraph.Proofs.Resolver.Questions
import TableGraph.Proofs.Resolver.Related
import TableGraph.Proofs.Resolver.Changes
import TableGraph.Proofs.Resolver.Standing
import TableGraph.Proofs.Resolver.Gate
import TableGraph.Proofs.Request.Merging
import TableGraph.Proofs.Resolver.Descent
import TableGraph.Proofs.Catalog.History
import TableGraph.Proofs.Document.Tokens
import TableGraph.Proofs.Document.Reading
import TableGraph.Proofs.Catalog.Rendering
import TableGraph.Proofs.Catalog.ReadBack
import TableGraph.Proofs.Catalog.Layers
import TableGraph.Proofs.Api.History
import TableGraph.Proofs.Catalog.Spelling
import TableGraph.Proofs.Document.Binding
import TableGraph.Proofs.Api.Binding
import TableGraph.Proofs.Store.Writing
import TableGraph.Proofs.Resolver.Supplied
import TableGraph.Proofs.Resolver.Put
import TableGraph.Proofs.Number.Numerals
import TableGraph.Proofs.Store.Order
import TableGraph.Proofs.Request.Reading
import TableGraph.Proofs.Resolver.Pages
import TableGraph.Proofs.Resolver.TablePages
import TableGraph.Proofs.Store.OwnValues
import TableGraph.Proofs.Store.Numbered
import TableGraph.Proofs.Resolver.WrittenRow
import TableGraph.Proofs.Concurrency.Interleaving
import TableGraph.Proofs.Store.Keeping
import TableGraph.Proofs.Concurrency.Writes
import TableGraph.Proofs.Concurrency.Calls
import TableGraph.Proofs.Concurrency.Serial
import TableGraph.Proofs.Concurrency.Totals
import TableGraph.Proofs.Store.Failures
import TableGraph.Proofs.Resolver.Errands
import TableGraph.Proofs.Resolver.Contained
import TableGraph.Proofs.Store.Introspected
import TableGraph.Proofs.Resolver.Excluded
import TableGraph.Proofs.Api.Connecting
import TableGraph.Proofs.Api.Refresh
import TableGraph.Proofs.Store.Returning
import TableGraph.Proofs.Store.Filtering
import TableGraph.Proofs.Request.Clauses
import TableGraph.Proofs.Request.Grouping
import TableGraph.Proofs.Request.Fragments
import TableGraph.Proofs.Request.Grammar
import TableGraph.Proofs.Request.RoundTrip
import TableGraph.Proofs.Request.Sound
import TableGraph.Proofs.Resolver.RootFragments
import TableGraph.Proofs.Request.Joined
import TableGraph.Proofs.Request.Paging
import TableGraph.Proofs.Resolver.Offsets
import TableGraph.Proofs.Resolver.OwnFragments
import TableGraph.Proofs.Resolver.Layering
import TableGraph.Proofs.Request.Prefixes
import TableGraph.Proofs.Api.FailedAdditions
import TableGraph.Proofs.Api.FailedConnections
import TableGraph.Proofs.Resolver.Delegation
import TableGraph.Proofs.Resolver.PageRows
import TableGraph.Proofs.Resolver.Counting
import TableGraph.Proofs.Catalog.Locality
import TableGraph.Proofs.Value.Plain
import TableGraph.Proofs.Schema.KeyOrder
import TableGraph.Proofs.Catalog.Links
import TableGraph.Proofs.Schema.RoundTrip
