import HybridSearch.Attempt
import HybridSearch.Coercion
import HybridSearch.CommandLine.Arguments
import HybridSearch.CommandLine.Run
import HybridSearch.CommandLine.Spec
import HybridSearch.CommandLine.Words
import HybridSearch.Config
import HybridSearch.Decimal.Layout
import HybridSearch.Decimal.Reader
import HybridSearch.Decimal.Shortest
import HybridSearch.Digest
import HybridSearch.DomainName.Ascii
import HybridSearch.DomainName.Label
import HybridSearch.DomainName.Mapping
import HybridSearch.DomainName.Normal
import HybridSearch.DomainName.Property.Combining
import HybridSearch.DomainName.Property.Composite
import HybridSearch.DomainName.Property.Direction
import HybridSearch.DomainName.Property.Expansion
import HybridSearch.DomainName.Property.Ideograph
import HybridSearch.DomainName.Property.Image
import HybridSearch.DomainName.Property.Joining
import HybridSearch.DomainName.Property.Permitted
import HybridSearch.DomainName.Punycode
import HybridSearch.Embedding.Gateway
import HybridSearch.Embedding.Remote
import HybridSearch.Embedding.Trigram
import HybridSearch.Error
import HybridSearch.Files.Archive
import HybridSearch.Files.Path
import HybridSearch.Files.Tree
import HybridSearch.Ingest.Batch
import HybridSearch.Ingest.Csv
import HybridSearch.Ingest.Report
import HybridSearch.Ingest.Source
import HybridSearch.Json.Basic
import HybridSearch.Json.Entries
import HybridSearch.Json.Number
import HybridSearch.Json.Printer
import HybridSearch.Json.Reader
import HybridSearch.Main
import HybridSearch.Present.InstantSearch
import HybridSearch.Proofs.Attempt
import HybridSearch.Proofs.CommandLine.Filters
import HybridSearch.Proofs.CommandLine.Spec
import HybridSearch.Proofs.Embedding.Gateway
import HybridSearch.Proofs.Embedding.LifeCycle
import HybridSearch.Proofs.Embedding.Trigram
import HybridSearch.Proofs.Files.Archive
import HybridSearch.Proofs.Files.Confinement
import HybridSearch.Proofs.Files.Discovery
import HybridSearch.Proofs.Files.Failure
import HybridSearch.Proofs.Ingest.Accounting
import HybridSearch.Proofs.Ingest.Amount
import HybridSearch.Proofs.Ingest.Assignment
import HybridSearch.Proofs.Ingest.Conflict
import HybridSearch.Proofs.Ingest.Course
import HybridSearch.Proofs.Ingest.Declared
import HybridSearch.Proofs.Ingest.Identity
import HybridSearch.Proofs.Ingest.Ingested
import HybridSearch.Proofs.Ingest.Interleaving
import HybridSearch.Proofs.Ingest.Making
import HybridSearch.Proofs.Ingest.Numeric
import HybridSearch.Proofs.Ingest.Overwriting
import HybridSearch.Proofs.Ingest.RoundTrip
import HybridSearch.Proofs.Ingest.Schedule
import HybridSearch.Proofs.Ingest.Values
import HybridSearch.Proofs.Ingest.Watched
import HybridSearch.Proofs.Ingest.Writes
import HybridSearch.Proofs.Json.Opening
import HybridSearch.Proofs.Log
import HybridSearch.Proofs.Number.Binary64
import HybridSearch.Proofs.Number.Decimal
import HybridSearch.Proofs.Number.Integer
import HybridSearch.Proofs.Number.Magnitude
import HybridSearch.Proofs.Number.Numeral
import HybridSearch.Proofs.Number.Order
import HybridSearch.Proofs.Number.RoundTrip
import HybridSearch.Proofs.Number.Rounding
import HybridSearch.Proofs.Number.Shortest
import HybridSearch.Proofs.Ranking
import HybridSearch.Proofs.Removal.Accounting
import HybridSearch.Proofs.Removal.Documents
import HybridSearch.Proofs.Removal.Drop
import HybridSearch.Proofs.Removal.Erasure
import HybridSearch.Proofs.Removal.Hits
import HybridSearch.Proofs.Removal.Sweep
import HybridSearch.Proofs.Schema.Attributes
import HybridSearch.Proofs.Schema.Expansion
import HybridSearch.Proofs.Schema.Key
import HybridSearch.Proofs.Search.Clause
import HybridSearch.Proofs.Search.Combination
import HybridSearch.Proofs.Search.Compile
import HybridSearch.Proofs.Search.Distance
import HybridSearch.Proofs.Search.Embeddings
import HybridSearch.Proofs.Search.Escape
import HybridSearch.Proofs.Search.Expansion
import HybridSearch.Proofs.Search.Failure
import HybridSearch.Proofs.Search.Gathering
import HybridSearch.Proofs.Search.Isolation
import HybridSearch.Proofs.Search.Limit
import HybridSearch.Proofs.Search.Literal
import HybridSearch.Proofs.Search.Membership
import HybridSearch.Proofs.Search.Nearest
import HybridSearch.Proofs.Search.Neighbours
import HybridSearch.Proofs.Search.Parents
import HybridSearch.Proofs.Search.Probe
import HybridSearch.Proofs.Search.Projection
import HybridSearch.Proofs.Search.Reassembly
import HybridSearch.Proofs.Search.Recall
import HybridSearch.Proofs.Search.References
import HybridSearch.Proofs.Search.Repetition
import HybridSearch.Proofs.Search.Satisfied
import HybridSearch.Proofs.Search.Shape
import HybridSearch.Proofs.Search.StoredReferences
import HybridSearch.Proofs.Server.Agreement
import HybridSearch.Proofs.Server.Commands
import HybridSearch.Proofs.Server.Descriptions
import HybridSearch.Proofs.Server.Documents
import HybridSearch.Proofs.Server.ErrorLine
import HybridSearch.Proofs.Server.HashLog
import HybridSearch.Proofs.Server.HashServer
import HybridSearch.Proofs.Server.Pairs
import HybridSearch.Proofs.Server.Respelling
import HybridSearch.Proofs.Service.Journal
import HybridSearch.Proofs.Service.Origin
import HybridSearch.Proofs.Service.Run
import HybridSearch.Proofs.Service.Search
import HybridSearch.Proofs.Service.Separation
import HybridSearch.Proofs.Service.Session
import HybridSearch.Proofs.Service.Upload
import HybridSearch.Proofs.Store.Calls
import HybridSearch.Proofs.Store.Catalogue
import HybridSearch.Proofs.Store.Fields
import HybridSearch.Proofs.Store.Glob
import HybridSearch.Proofs.Store.Lookup
import HybridSearch.Proofs.Store.Overwriting
import HybridSearch.Proofs.Store.Records
import HybridSearch.Proofs.Text.Affix
import HybridSearch.Proofs.Text.Lowercase
import HybridSearch.Proofs.Text.Split
import HybridSearch.Proofs.Text.Trim
import HybridSearch.Proofs.Text.Utf8
import HybridSearch.Proofs.Vector.Codec
import HybridSearch.Proofs.Vector.Single
import HybridSearch.Query.Basic
import HybridSearch.Query.Compile
import HybridSearch.Query.Escape
import HybridSearch.Query.Predicate
import HybridSearch.Query.Request
import HybridSearch.Ranking
import HybridSearch.Record
import HybridSearch.Removal.Documents
import HybridSearch.Removal.Sweep
import HybridSearch.Schema.Declaration
import HybridSearch.Schema.Field
import HybridSearch.Schema.Index
import HybridSearch.Schema.Key
import HybridSearch.Search.Execute
import HybridSearch.Search.Hit
import HybridSearch.Search.Parent
import HybridSearch.Server.Command
import HybridSearch.Server.ErrorLine
import HybridSearch.Server.InfoReply
import HybridSearch.Server.Link
import HybridSearch.Server.Reply
import HybridSearch.Server.SearchReply
import HybridSearch.Server.Store
import HybridSearch.Service
import HybridSearch.Store.Basic
import HybridSearch.Store.Dict
import HybridSearch.Store.Faults
import HybridSearch.Store.Glob
import HybridSearch.Store.Matching
import HybridSearch.Store.Memory
import HybridSearch.Text.Ascii
import HybridSearch.Text.Class
import HybridSearch.Text.CodeRange
import HybridSearch.Text.Lowercase
import HybridSearch.Text.Property.Alphabetic
import HybridSearch.Text.Property.Case
import HybridSearch.Text.Property.Mark
import HybridSearch.Text.Property.Number
import HybridSearch.Text.Property.Unprintable
import HybridSearch.Text.Quoted
import HybridSearch.Text.Split
import HybridSearch.Text.Trim
import HybridSearch.Text.Utf8
import HybridSearch.Url.Address
import HybridSearch.Url.Basic
import HybridSearch.Url.Error
import HybridSearch.Url.Host
import HybridSearch.Url.Path
import HybridSearch.Url.Percent
import HybridSearch.Url.Reader
import HybridSearch.Vector.Metric
import HybridSearch.Vector.Precision
import HybridSearch.Vector.Single
