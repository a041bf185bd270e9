import RiskGauge.Analysis.Report
import RiskGauge.Api.Diff
import RiskGauge.Config
import RiskGauge.Database.Dump
import RiskGauge.Database.Load
import RiskGauge.Detect.Scanner
import RiskGauge.File.Tree
import RiskGauge.Graph.Build
import RiskGauge.Graph.Impact
import RiskGauge.Json.Printer
import RiskGauge.Json.Reader
import RiskGauge.Main
import RiskGauge.Pattern.Reader
import RiskGauge.Proofs.Analysis.Assess
import RiskGauge.Proofs.Analysis.Shares
import RiskGauge.Proofs.Analysis.Versions
import RiskGauge.Proofs.Api.Changes
import RiskGauge.Proofs.Api.Declarations
import RiskGauge.Proofs.Api.Distance
import RiskGauge.Proofs.CommandLine.Analyze
import RiskGauge.Proofs.CommandLine.Arguments
import RiskGauge.Proofs.Database.Document
import RiskGauge.Proofs.Database.Load
import RiskGauge.Proofs.Database.RoundTrip
import RiskGauge.Proofs.Database.Vectors
import RiskGauge.Proofs.Detect.Order
import RiskGauge.Proofs.Exact
import RiskGauge.Proofs.Graph.Accounting
import RiskGauge.Proofs.Graph.Change
import RiskGauge.Proofs.Graph.Reach
import RiskGauge.Proofs.Pattern.Advance
import RiskGauge.Proofs.Reply.Fences
import RiskGauge.Proofs.Score.Blend
import RiskGauge.Proofs.Score.Monotone
import RiskGauge.Proofs.Structure.Alignment
import RiskGauge.Reply.Snippet
import RiskGauge.Resource.Scan
import RiskGauge.Score.Fusion
import RiskGauge.Script.Parse
import RiskGauge.Script.Tag
import RiskGauge.Structure.ChangedLines
import RiskGauge.Structure.CorePath
import RiskGauge.Structure.Schema
import RiskGauge.Proofs.Pattern.Scan
import RiskGauge.Proofs.Pattern.InLine
import RiskGauge.Proofs.Resource.Counters
import RiskGauge.Proofs.Pattern.Words
import RiskGauge.Proofs.Resource.LoopWords
import RiskGauge.Proofs.Detect.Combined
import RiskGauge.Proofs.Curves
import RiskGauge.Proofs.Detect.Cosine
import RiskGauge.Proofs.Detect.Malformed
import RiskGauge.Proofs.Detect.Proximity
import RiskGauge.Proofs.Detect.Report
import RiskGauge.Proofs.Detect.Presence
import RiskGauge.Proofs.Reply.Pairing
import RiskGauge.Proofs.Reply.SafeName
import RiskGauge.Proofs.Text.Case
import RiskGauge.Proofs.Pattern.Language
import RiskGauge.Proofs.Reply.Cue
import RiskGauge.Proofs.Reply.Asked
import RiskGauge.Proofs.Reply.LastName
import RiskGauge.Proofs.Config
import RiskGauge.Proofs.Database.Nulls
import RiskGauge.Proofs.Score.Resource
import RiskGauge.Proofs.SyntaxTree.Preorder
import RiskGauge.Proofs.Detect.AddedLines
import RiskGauge.Proofs.Script.Tag
import RiskGauge.Proofs.Pattern.Visits
import RiskGauge.Proofs.Resource.Braces
import RiskGauge.Proofs.Resource.Headers
import RiskGauge.Proofs.Resource.Blocks
