import CodeMetrics.Entries
import CodeMetrics.Entries.Sorted
import CodeMetrics.Decimal.Layout
import CodeMetrics.Json.Number
import CodeMetrics.Json.Document
import CodeMetrics.Json.Printer
import CodeMetrics.Text.Blank
import CodeMetrics.Text.Quoted
import CodeMetrics.Json.Decode
import CodeMetrics.Report.Json
import CodeMetrics.JavaScript.Functions
import CodeMetrics.JavaScript.Dependencies
import CodeMetrics.JavaScript.Analysis
import CodeMetrics.Result.Json
import CodeMetrics.JavaScript.Branches.Json
import CodeMetrics.Plugin.HookPlugin
import CodeMetrics.Pipeline.Builder
import CodeMetrics.Project
import CodeMetrics.Result.Storage
import CodeMetrics.Toml.Document
import CodeMetrics.Config.Search
import CodeMetrics.Proofs.Counting
import CodeMetrics.Proofs.Resumption
import CodeMetrics.Proofs.Scopes
import CodeMetrics.Proofs.Trace
import CodeMetrics.Proofs.Finite
import CodeMetrics.Proofs.Reading
import CodeMetrics.Proofs.RoundTrip
import CodeMetrics.Proofs.Numerals
import CodeMetrics.Proofs.Quoting
import CodeMetrics.Proofs.Cognitive
import CodeMetrics.Proofs.Documents
import CodeMetrics.Proofs.Printed
import CodeMetrics.Proofs.Files
import CodeMetrics.Proofs.Keeping
import CodeMetrics.Proofs.Recall
import CodeMetrics.Proofs.Separation
import CodeMetrics.Proofs.Branching
import CodeMetrics.Proofs.FirstFault
import CodeMetrics.Proofs.Comments
import CodeMetrics.Proofs.FlagKey
import CodeMetrics.Proofs.Reprocessing
import CodeMetrics.Proofs.Depths
import CodeMetrics.Proofs.Listings
import CodeMetrics.Proofs.Sizes
import CodeMetrics.Proofs.Growth
import CodeMetrics.Proofs.Dominance
import CodeMetrics.Proofs.Remarks
import CodeMetrics.Proofs.Parameters
import CodeMetrics.Proofs.Tolerance
import CodeMetrics.Proofs.Nearest
import CodeMetrics.Proofs.Layers
import CodeMetrics.Proofs.Means
import CodeMetrics.Proofs.TextLines
import CodeMetrics.Proofs.Assembly
