import PaperFilter.Main
import PaperFilter.Proofs.Query.WellFormed
import PaperFilter.Proofs.Query.NormalForm
import PaperFilter.Proofs.Query.Reading
import PaperFilter.Proofs.Query.Acceptance
import PaperFilter.Proofs.Query.Spelling
import PaperFilter.Proofs.Query.Canonical
import PaperFilter.Proofs.Query.Rendering
import PaperFilter.Proofs.Query.RenderedNesting
import PaperFilter.Proofs.Query.Evaluation
import PaperFilter.Proofs.Query.Composition
import PaperFilter.Proofs.Query.Nodes
import PaperFilter.Proofs.Unicode.Blank
import PaperFilter.Proofs.Query.Lowercase
import PaperFilter.Proofs.Query.Refusal
import PaperFilter.Proofs.Query.LetterCase
import PaperFilter.Proofs.Filter.Expression
import PaperFilter.Proofs.Cli.Check
import PaperFilter.Proofs.Json.Members
import PaperFilter.Proofs.Json.Strings
import PaperFilter.Proofs.Decimal.Shortest
import PaperFilter.Proofs.Json.Numbers
import PaperFilter.Proofs.Json.Values
import PaperFilter.Proofs.Json.Reading
import PaperFilter.Proofs.Document.Decoding
import PaperFilter.Proofs.Document.Kept
import PaperFilter.Proofs.Query.Leaves
import PaperFilter.Proofs.Text.Runs
import PaperFilter.Proofs.Token
import PaperFilter.Proofs.Document.Titles
import PaperFilter.Proofs.Filter.Titles
import PaperFilter.Proofs.Toml.Strings
import PaperFilter.Proofs.Toml.Scalars
import PaperFilter.Proofs.Toml.Lines
import PaperFilter.Proofs.Toml.Documents
import PaperFilter.Proofs.Config.Toml
import PaperFilter.Proofs.Config.Store
import PaperFilter.Proofs.Query.Layout
import PaperFilter.Proofs.Query.Causes
import PaperFilter.Proofs.Document.Lines
import PaperFilter.Proofs.Query.Monotone
import PaperFilter.Proofs.Query.Parentheses
import PaperFilter.Proofs.Query.Completion
import PaperFilter.Proofs.Query.Padding
import PaperFilter.Proofs.Filter.Punctuation
import PaperFilter.Proofs.Filter.Batches
import PaperFilter.Proofs.Document.Faults
import PaperFilter.Proofs.Cli.Commands
import PaperFilter.Proofs.Cli.Filtering
import PaperFilter.Proofs.Query.Conjunctions
import PaperFilter.Proofs.Token.Chunks
import PaperFilter.Proofs.Query.Wildcard
import PaperFilter.Proofs.Query.Words
import PaperFilter.Proofs.Query.Height
import PaperFilter.Proofs.Query.Progress
import PaperFilter.Proofs.Document.TitleTokens
import PaperFilter.Proofs.Document.Abstracts
import PaperFilter.Proofs.Filter.LineBreaks
import PaperFilter.Proofs.Document.NormalForms
import PaperFilter.Proofs.Document.Links
import PaperFilter.Proofs.Config.Partial
