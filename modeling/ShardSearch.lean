import ShardSearch.Bucket
import ShardSearch.Command.Arguments
import ShardSearch.Command.Catalog
import ShardSearch.Command.Context
import ShardSearch.Command.Display
import ShardSearch.Command.Invocation
import ShardSearch.Command.Presentation
import ShardSearch.Command.Program
import ShardSearch.Command.Search
import ShardSearch.Decimal.Binary64
import ShardSearch.Decimal.Shortest
import ShardSearch.Document
import ShardSearch.Engine
import ShardSearch.Entry
import ShardSearch.Event
import ShardSearch.Fetch
import ShardSearch.Files.Path
import ShardSearch.Files.Snapshot
import ShardSearch.Highlight
import ShardSearch.Json.Container
import ShardSearch.Json.Fault
import ShardSearch.Json.Number
import ShardSearch.Json.Printer
import ShardSearch.Json.Scan
import ShardSearch.Json.Skip
import ShardSearch.Json.Value
import ShardSearch.Keyed
import ShardSearch.Load.Basic
import ShardSearch.Load.Overlap
import ShardSearch.Location
import ShardSearch.Main
import ShardSearch.Passage
import ShardSearch.Proofs.KeyedOrder
import ShardSearch.Settings
import ShardSearch.Shard
import ShardSearch.Store
import ShardSearch.Style
import ShardSearch.Text.CaseClass
import ShardSearch.Text.CaseRun
import ShardSearch.Text.Lowercase
import ShardSearch.Text.Numeral
import ShardSearch.Text.Quoted
import ShardSearch.Text.Range
import ShardSearch.Text.Search
import ShardSearch.Text.Visibility
import ShardSearch.Toml.Document
import ShardSearch.Toml.Reader
import ShardSearch.Toml.Scan
import ShardSearch.Tree.Basic
import ShardSearch.Tree.Decode
import ShardSearch.Tree.Encode
import ShardSearch.Tree.Scan
import ShardSearch.Tree.Walk
import ShardSearch.Proofs.TreePath
import ShardSearch.Proofs.Keywords
import ShardSearch.Engine.Overlap
import ShardSearch.Proofs.CacheInvariant
import ShardSearch.Proofs.CallRuns
import ShardSearch.Proofs.SearchSession
import ShardSearch.Proofs.Shadowing
import ShardSearch.Proofs.SearchOverlap
import ShardSearch.Proofs.SerialSearch
import ShardSearch.Proofs.SlotOrder
import ShardSearch.Proofs.LoadOverlap
import ShardSearch.Proofs.LoadOutcome
import ShardSearch.Proofs.RequestedAgain
import ShardSearch.Proofs.RequestHistory
import ShardSearch.Proofs.JsonScalars
import ShardSearch.Proofs.JsonGrammar
import ShardSearch.Proofs.WireForm
import ShardSearch.Proofs.ByteOffsets
import ShardSearch.Proofs.ShortestDescent
import ShardSearch.Proofs.Narrowing
import ShardSearch.Proofs.JsonCuts
import ShardSearch.Proofs.Truncation
import ShardSearch.Proofs.JsonPrinted
import ShardSearch.Proofs.DepthLimit
import ShardSearch.Proofs.RoundTrip
import ShardSearch.Proofs.FirstWins
import ShardSearch.Proofs.MergeOrder
import ShardSearch.Proofs.SearchEffect
import ShardSearch.Proofs.ConsistentMarks
import ShardSearch.Proofs.CaseStability
import ShardSearch.Proofs.Paragraphs
import ShardSearch.Proofs.MarkedPieces
import ShardSearch.Proofs.JsonReport
import ShardSearch.Proofs.Ordinals
