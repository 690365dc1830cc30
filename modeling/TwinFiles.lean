import TwinFiles.CommandLine.Printer
import TwinFiles.Csv.Reader
import TwinFiles.Json.Parser
import TwinFiles.Main
import TwinFiles.Proofs.Group.Order
import TwinFiles.Proofs.Group.Refinement
import TwinFiles.Proofs.Run.Formats
import TwinFiles.Proofs.Scan.Answer
import TwinFiles.Proofs.Scan.Cleanup
import TwinFiles.Proofs.Tree.Change
import TwinFiles.Proofs.Scan.Order
import TwinFiles.Proofs.Run.Unseen
import TwinFiles.Proofs.Tree.Spelling
import TwinFiles.Proofs.Scan.Spelling
import TwinFiles.Proofs.Scan.Reclaimable
import TwinFiles.Proofs.Scan.Given
import TwinFiles.Proofs.CommandLine.PlainText
import TwinFiles.Proofs.CommandLine.Expression
import TwinFiles.Proofs.Settings.LiteralText
import TwinFiles.Proofs.Program.Ending
import TwinFiles.Proofs.Settings.Layer
import TwinFiles.Proofs.Settings.Precedence
import TwinFiles.Proofs.Run.Destination
import TwinFiles.Proofs.Run.Flush
import TwinFiles.Proofs.Group.Narrowing
import TwinFiles.Proofs.Scan.Walk
import TwinFiles.Proofs.Scan.Prefix
import TwinFiles.Proofs.Scan.Links
import TwinFiles.Proofs.Tree.Loops
import TwinFiles.Proofs.Scan.Invalid
import TwinFiles.Proofs.Settings.WrongTypes
import TwinFiles.Proofs.Run.Color
import TwinFiles.Proofs.Group.Exact
import TwinFiles.Proofs.Program.StartErrors
