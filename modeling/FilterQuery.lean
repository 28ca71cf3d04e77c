import FilterQuery.Calendar.Date
import FilterQuery.Calendar.Instant
import FilterQuery.Console
import FilterQuery.Field
import FilterQuery.FieldType
import FilterQuery.Filter
import FilterQuery.Formula
import FilterQuery.Formula.Derivation
import FilterQuery.Grammar
import FilterQuery.Guid
import FilterQuery.Json
import FilterQuery.Json.Read
import FilterQuery.Keyed
import FilterQuery.Kind
import FilterQuery.Main
import FilterQuery.Node
import FilterQuery.Node.Call
import FilterQuery.Node.Comparison
import FilterQuery.Node.Registers
import FilterQuery.Notice
import FilterQuery.Number.Binary64
import FilterQuery.Number.Integer
import FilterQuery.Number.Shortest
import FilterQuery.Predicate
import FilterQuery.Proofs.Completeness
import FilterQuery.Proofs.NodeSteps
import FilterQuery.Proofs.Noninterference
import FilterQuery.Proofs.Placeholders
import FilterQuery.Proofs.Reading
import FilterQuery.Proofs.Rendering
import FilterQuery.Proofs.Soundness
import FilterQuery.Refusal
import FilterQuery.Schema
import FilterQuery.Schema.Text
import FilterQuery.SortTable
import FilterQuery.Text.Alphabetic
import FilterQuery.Text.Blank
import FilterQuery.Text.Bytes
import FilterQuery.Text.CaseTables
import FilterQuery.Text.Cased
import FilterQuery.Text.Casing
import FilterQuery.Text.Cluster
import FilterQuery.Text.ClusterTables
import FilterQuery.Text.Escaped
import FilterQuery.Text.Hex
import FilterQuery.Text.Printable
import FilterQuery.Text.Quoted
import FilterQuery.Text.Ranges
import FilterQuery.Text.Typed
import FilterQuery.Token
import FilterQuery.Token.Scan
import FilterQuery.Traversal
import FilterQuery.Value
import FilterQuery.Whitelist
import FilterQuery.Yield
import FilterQuery.Proofs.Composition
import FilterQuery.Proofs.LetterCase
import FilterQuery.Proofs.Caseless
import FilterQuery.Proofs.CaseInsensitivity
import FilterQuery.Proofs.Handover
import FilterQuery.Proofs.Typing
import FilterQuery.Proofs.Tiling
import FilterQuery.Proofs.Spacing
import FilterQuery.Proofs.Quotation
import FilterQuery.Proofs.FirstRefusal
import FilterQuery.Proofs.Grouping
import FilterQuery.Proofs.Attribution
import FilterQuery.Proofs.Vocabulary
import FilterQuery.Proofs.Completion
import FilterQuery.Proofs.Presentation
import FilterQuery.Proofs.Extension
import FilterQuery.Proofs.InPlace
import FilterQuery.Proofs.Coherence
import FilterQuery.Proofs.Spellings
import FilterQuery.Proofs.Recovery
import FilterQuery.Whitelist.History
import FilterQuery.Proofs.FirstWins
import FilterQuery.Proofs.FirstFault
import FilterQuery.Proofs.Declaration
import FilterQuery.Proofs.Separators
import FilterQuery.Proofs.Orderings
import FilterQuery.Proofs.NormalForm
import FilterQuery.Proofs.DoubledSpaces
import FilterQuery.Proofs.DefaultOrder
import FilterQuery.Proofs.Documents
import FilterQuery.Proofs.Persistence
import FilterQuery.Proofs.Naming
import FilterQuery.Proofs.Bookkeeping
