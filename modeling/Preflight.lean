import Preflight.CommandLine.Session
import Preflight.Main
import Preflight.Service
import Preflight.Proofs.Graph.Cycles
import Preflight.Proofs.Graph.Coverage
import Preflight.Proofs.Run.Completion
import Preflight.Proofs.Run.FileOrder
import Preflight.Proofs.Run.History
import Preflight.Proofs.Run.ScanScope
import Preflight.Proofs.Run.SettingsProject
import Preflight.Proofs.Run.TestAdded
import Preflight.Proofs.Config.Values
import Preflight.Proofs.FileTree.IgnoreRule
import Preflight.Proofs.FileTree.SourceWalk
import Preflight.Proofs.Graph.CommentedImport
import Preflight.Proofs.Graph.Relocation
import Preflight.Proofs.CommandLine.Arguments
import Preflight.Proofs.Report.Json
import Preflight.Proofs.Risk.FinalProfile
import Preflight.Proofs.Run.SameReport
import Preflight.Proofs.FileTree.Exclusion
import Preflight.Proofs.Graph.Search
import Preflight.Proofs.Graph.CacheHistory
import Preflight.Proofs.Run.Recommendations
import Preflight.Proofs.Risk.ActionItems
import Preflight.Proofs.Scoring.Worse
import Preflight.Proofs.Tests.Placement
import Preflight.Proofs.Source.CommentLines
import Preflight.Proofs.Source.Mutations
import Preflight.Proofs.Source.CommentReading
import Preflight.Proofs.Text.Escape
import Preflight.Proofs.Report.Color
import Preflight.Proofs.Scoring.ExactBands
import Preflight.Proofs.Risk.BriefingSentences
import Preflight.Proofs.Report.MarkdownTable
import Preflight.Proofs.Log.SetupHistory
import Preflight.Proofs.Source.WalkOrder
