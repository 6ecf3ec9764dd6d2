import Decomment.Text.Blank
import Decomment.Text.Lines
import Decomment.Source.Comments
import Decomment.Source.Pragma
import Decomment.Source.Clean
import Decomment.Json.Quote
import Decomment.Settings
import Decomment.Strip
import Decomment.Report
import Decomment.Files.Path
import Decomment.Files.Error
import Decomment.Files.Workspace
import Decomment.Files.System
import Decomment.Config.Mismatch
import Decomment.Json.Error
import Decomment.Json.Lexeme
import Decomment.Text.Printable
import Decomment.Number.Shortest
import Decomment.Number.Text
import Decomment.Number.Scale
import Decomment.Json.Skip
import Decomment.Config.Fields
import Decomment.Config.Json
import Decomment.Number.Nearest
import Decomment.Toml.Token
import Decomment.Toml.Document
import Decomment.Config.Toml
import Decomment.Toml.Error
import Decomment.Failure
import Decomment.Run
import Decomment.Batch
import Decomment.Batch.Parallel
import Decomment.Config.Load
import Decomment.Text.Similarity
import Decomment.Cli.Flag
import Decomment.Cli.Parse
import Decomment.Cli.Invoke
import Decomment.Main
import Decomment.Proofs.Lists
import Decomment.Proofs.Comments
import Decomment.Proofs.BlankLines
import Decomment.Proofs.Clean
import Decomment.Proofs.Pragma
import Decomment.Proofs.Paths
import Decomment.Proofs.Workspace
import Decomment.Proofs.Jobs
import Decomment.Proofs.Parallel
import Decomment.Proofs.LineEndings
import Decomment.Proofs.ConfigLoad
import Decomment.Proofs.Quoted
import Decomment.Proofs.SettingsText
import Decomment.Proofs.CommandLine
import Decomment.Proofs.CommentRules
import Decomment.Proofs.RunOutcomes
import Decomment.Proofs.SortedJobs
import Decomment.Json.Value
import Decomment.Proofs.ReportJson
import Decomment.Proofs.Skipping
import Decomment.Proofs.InlineObject
