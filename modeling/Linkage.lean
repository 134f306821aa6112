import Linkage.Analysis
import Linkage.Analyzer.Basic
import Linkage.Analyzer.Discovery
import Linkage.Assoc
import Linkage.Command.Execution
import Linkage.Command.Grammar
import Linkage.Command.Invocation
import Linkage.Command.Misuse
import Linkage.Command.Scope
import Linkage.Command.Words
import Linkage.Decimal.Reader
import Linkage.Decimal.Shortest
import Linkage.Fault
import Linkage.FileTree
import Linkage.Finding
import Linkage.Glob
import Linkage.Graph.Basic
import Linkage.Graph.Cycles
import Linkage.Host
import Linkage.Json.Basic
import Linkage.Json.Encoding
import Linkage.Json.Finite
import Linkage.Json.Printer
import Linkage.Json.Reader
import Linkage.Location
import Linkage.Log.Configure
import Linkage.Log.Logger
import Linkage.Log.Notes
import Linkage.Log.Record
import Linkage.Log.Stamp
import Linkage.Main
import Linkage.Multimap
import Linkage.Naming
import Linkage.Orphans
import Linkage.Path
import Linkage.Pattern
import Linkage.Project
import Linkage.Proofs.Actions
import Linkage.Proofs.Analysis
import Linkage.Proofs.Decoding
import Linkage.Proofs.Dependents
import Linkage.Proofs.Detectors
import Linkage.Proofs.Documents
import Linkage.Proofs.Edits
import Linkage.Proofs.Exclusions
import Linkage.Proofs.FileChanges
import Linkage.Proofs.FileTree
import Linkage.Proofs.Graph.Components
import Linkage.Proofs.Graph.Coverage
import Linkage.Proofs.Graph.Forest
import Linkage.Proofs.Graph.Invariant
import Linkage.Proofs.Graph.Iterations
import Linkage.Proofs.Graph.Parts
import Linkage.Proofs.Graph.Recursion
import Linkage.Proofs.Graph.Renaming
import Linkage.Proofs.Graph.Reports
import Linkage.Proofs.Graph.Steps
import Linkage.Proofs.Groups
import Linkage.Proofs.IndexFiles
import Linkage.Proofs.Json.Numbers
import Linkage.Proofs.Json.RoundTrip
import Linkage.Proofs.Logging
import Linkage.Proofs.Multimap
import Linkage.Proofs.Orphans
import Linkage.Proofs.Path
import Linkage.Proofs.Pattern
import Linkage.Proofs.Relocation
import Linkage.Proofs.Separators
import Linkage.Proofs.Service
import Linkage.Proofs.Settings
import Linkage.Proofs.Specifiers
import Linkage.Proofs.Summary
import Linkage.Proofs.SymbolKeys
import Linkage.Proofs.UnusedExports
import Linkage.Proofs.Usages
import Linkage.Query
import Linkage.RepoMap.Basic
import Linkage.RepoMap.Decode
import Linkage.RepoMap.Load
import Linkage.Report
import Linkage.Resolution
import Linkage.Service.Request
import Linkage.Service.Respond
import Linkage.Service.Target
import Linkage.Settings.Basic
import Linkage.Settings.Decode
import Linkage.Settings.Load
import Linkage.Text.Base64
import Linkage.Text.Blank
import Linkage.Text.CaseTable
import Linkage.Text.DigitTable
import Linkage.Text.Integer
import Linkage.Text.Lower
import Linkage.Text.Newline
import Linkage.Text.PrintTable
import Linkage.Text.Quoted
import Linkage.Text.Utf8
import Linkage.Unused
import Linkage.UsageIndex
import Linkage.Workspace
import Linkage.Yaml.Block
import Linkage.Yaml.Cursor
import Linkage.Yaml.Fault
import Linkage.Yaml.Form
import Linkage.Yaml.Merge
import Linkage.Yaml.Node
import Linkage.Yaml.Plain
import Linkage.Yaml.Quoted
import Linkage.Yaml.Scalar
import Linkage.Yaml.Tag
import Linkage.Yaml.Timestamp
import Linkage.Yaml.Token
import Linkage.Yaml.Value
