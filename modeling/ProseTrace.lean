import ProseTrace.Text.ByteRange
import ProseTrace.Text.Window
import ProseTrace.Text.Quoted
import ProseTrace.Text.Newline
import ProseTrace.Text.Numeral
import ProseTrace.Decimal.Spelling
import ProseTrace.Json.Inline
import ProseTrace.Json.Reader
import ProseTrace.Json.Writer
import ProseTrace.Document.Source
import ProseTrace.Document.World
import ProseTrace.Extract.Builder
import ProseTrace.Finding.Collector
import ProseTrace.Finding.Located
import ProseTrace.Config.Options
import ProseTrace.Config.Load
import ProseTrace.Checker.Engine
import ProseTrace.Checker.Remote
import ProseTrace.Checker.Server
import ProseTrace.Checker.Selection
import ProseTrace.Checker.Recorder
import ProseTrace.Report
import ProseTrace.Url.Check
import ProseTrace.Decimal.Reading
import ProseTrace.Proofs.Finding.LocatedReference
import ProseTrace.Proofs.Report.EndToEnd
import ProseTrace.Proofs.Text.WindowRuns
import ProseTrace.Proofs.Document.Boundaries
import ProseTrace.Proofs.Report.CheckedSegments
import ProseTrace.Proofs.Checker.ClientRuns
import ProseTrace.Proofs.Document.FileBytes
import ProseTrace.Proofs.Checker.FailedChecks
import ProseTrace.Proofs.Checker.HostWatch
import ProseTrace.Proofs.Checker.ServerWatch
import ProseTrace.Proofs.Checker.ServerRuns
import ProseTrace.Proofs.Checker.EngineRuns
import ProseTrace.Proofs.Checker.SameFindings
import ProseTrace.Proofs.Checker.FailedStarts
import ProseTrace.Proofs.Report.CollectorRuns
import ProseTrace.Proofs.Extract.BuilderRuns
import ProseTrace.Proofs.Text.AnchoredWindows
import ProseTrace.Proofs.Report.LocatedReports
import ProseTrace.Proofs.Config.Validation
import ProseTrace.Proofs.Checker.UnitPlaces
import ProseTrace.Proofs.Extract.RangeRuns
import ProseTrace.Proofs.Report.Configuring
import ProseTrace.Proofs.Checker.EngineFaults
import ProseTrace.Proofs.Checker.MatchLists
import ProseTrace.Proofs.Document.ByteSlices
import ProseTrace.Proofs.Checker.StartupWait
import ProseTrace.Proofs.Checker.RemoteSelection
import ProseTrace.Proofs.Checker.RuleLists
import ProseTrace.Proofs.Report.FileLookups
import ProseTrace.Proofs.Config.Loading
import ProseTrace.Proofs.Text.RangeAlgebra
