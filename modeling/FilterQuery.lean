import FilterQuery.CommandLine
import FilterQuery.CommandLine.Arguments
import FilterQuery.Configuration
import FilterQuery.Configuration.Load
import FilterQuery.Context
import FilterQuery.Document
import FilterQuery.Error
import FilterQuery.Filter
import FilterQuery.Filter.Display
import FilterQuery.Filter.Replacement
import FilterQuery.Json
import FilterQuery.Json.Reader
import FilterQuery.Json.Writer
import FilterQuery.Like
import FilterQuery.Like.Engine
import FilterQuery.Main
import FilterQuery.Memory
import FilterQuery.Memory.Order
import FilterQuery.Memory.Path
import FilterQuery.Memory.Predicate
import FilterQuery.NameIndex
import FilterQuery.Number
import FilterQuery.Number.Reading
import FilterQuery.Number.Shortest
import FilterQuery.Page
import FilterQuery.Proofs.Compilation.Agreement
import FilterQuery.Proofs.Like.Size
import FilterQuery.Proofs.Compilation.Mandatory
import FilterQuery.Proofs.Compilation.Selection
import FilterQuery.Proofs.Compilation.Sharing
import FilterQuery.Proofs.Filter.Truth
import FilterQuery.Proofs.Memory.Evaluation
import FilterQuery.Proofs.Memory.Node
import FilterQuery.Proofs.Memory.Record
import FilterQuery.Proofs.Path.Resolution
import FilterQuery.Proofs.Path.Route
import FilterQuery.Proofs.Path.Rows
import FilterQuery.Proofs.Registry.Origin
import FilterQuery.Proofs.Relational.Choice
import FilterQuery.Proofs.Relational.Restriction
import FilterQuery.Proofs.Relational.Selection
import FilterQuery.Proofs.Sql.Pattern
import FilterQuery.Proofs.Sql.Rows
import FilterQuery.Query
import FilterQuery.Query.Encode
import FilterQuery.Query.Reader
import FilterQuery.Registry
import FilterQuery.Registry.Cache
import FilterQuery.Relational
import FilterQuery.Relational.Path
import FilterQuery.Scalar
import FilterQuery.Scalar.Coerce
import FilterQuery.Scalar.Timestamp
import FilterQuery.Scalar.Uuid
import FilterQuery.Schema
import FilterQuery.Schema.Encode
import FilterQuery.Schema.Indexed
import FilterQuery.Settings
import FilterQuery.Sql
import FilterQuery.Sql.Render
import FilterQuery.Text.Blank
import FilterQuery.Text.CaseFold
import FilterQuery.Text.Cased
import FilterQuery.Text.CodeTable
import FilterQuery.Text.Lowercase
import FilterQuery.Text.Printable
import FilterQuery.Text.Quoted
import FilterQuery.Text.Split
import FilterQuery.Toml
import FilterQuery.Toml.Literal
import FilterQuery.Toml.Moment
import FilterQuery.Toml.Reader
import FilterQuery.Proofs.Path.Label
import FilterQuery.Proofs.Relational.Joins
import FilterQuery.Proofs.Relational.Columns
import FilterQuery.Proofs.Relational.Labelling
import FilterQuery.Proofs.Text.Ascii
import FilterQuery.Proofs.Relational.Shadowing
import FilterQuery.Proofs.Relational.Scoping
import FilterQuery.Proofs.Relational.FirstUse
import FilterQuery.Proofs.Relational.Provenance
import FilterQuery.Proofs.Compilation.Acceptance
import FilterQuery.Proofs.Sql.Answer
import FilterQuery.Proofs.Relational.RootRows
import FilterQuery.Proofs.Memory.NumericOrder
import FilterQuery.Proofs.Memory.SortOrder
import FilterQuery.Proofs.Memory.Sorting
import FilterQuery.Proofs.Memory.Paging
import FilterQuery.Proofs.Filter.Possibility
import FilterQuery.Proofs.Memory.Pruning
import FilterQuery.Proofs.Query.Grammar
import FilterQuery.Proofs.Query.RoundTrip
import FilterQuery.Proofs.Query.Concatenation
import FilterQuery.Proofs.Document.Reading
import FilterQuery.Proofs.Document.Meaning
import FilterQuery.Proofs.Filter.Shape
import FilterQuery.Proofs.Registry.Construction
import FilterQuery.Proofs.Compilation.Totality
import FilterQuery.Proofs.Text.Casing
import FilterQuery.Proofs.Like.Language
import FilterQuery.Proofs.Like.LetterCase
import FilterQuery.Proofs.Memory.Expansion
import FilterQuery.Proofs.Memory.Partition
import FilterQuery.Proofs.Memory.Encoding
import FilterQuery.Proofs.Registry.Reach
import FilterQuery.Proofs.Registry.Caching
import FilterQuery.Proofs.Registry.Following
import FilterQuery.Proofs.Filter.Address
import FilterQuery.Proofs.Filter.Replacing
import FilterQuery.Proofs.Memory.Monotone
import FilterQuery.Proofs.Number.Spelling
import FilterQuery.Proofs.Memory.TextOrder
import FilterQuery.Proofs.Document.SortKeys
import FilterQuery.Proofs.Query.Faults
import FilterQuery.Proofs.Text.Quoting
import FilterQuery.Proofs.Filter.Notation
import FilterQuery.Proofs.Schema.Lookup
import FilterQuery.Proofs.Path.Spelling
import FilterQuery.Proofs.Compilation.Spelling
