import Lexis.Text.Alphabetic
import Lexis.Text.CodePoints
import Lexis.Text.Quoted
import Lexis.Text.Line
import Lexis.Scan.Munch
import Lexis.Scan.Trivia
import Lexis.Scan.Lexeme
import Lexis.Lexer
import Lexis.Report
import Lexis.Diagnostic
import Lexis.Decimal
import Lexis.Toml.Document
import Lexis.Settings.OfToml
import Lexis.Program.World
import Lexis.Main
import Lexis.Proofs.Lexer.Partition
import Lexis.Proofs.Lexer.Progress
import Lexis.Proofs.Lexer.Condense
import Lexis.Proofs.Lexer.LineFeed
import Lexis.Proofs.Lexer.Resume
import Lexis.Proofs.Lexer.LineStart
import Lexis.Proofs.Lexer.Rejoin
import Lexis.Proofs.Lexer.Literal
import Lexis.Proofs.Scan.Shielded
import Lexis.Proofs.Lexer.LiteralLine
import Lexis.Proofs.Lexer.Stepping
import Lexis.Proofs.Scan.LongestMatch
import Lexis.Proofs.Lexer.Alike
import Lexis.Proofs.Program.Ends
import Lexis.Proofs.Program.FileTree
import Lexis.Proofs.Program.Session
import Lexis.Proofs.Program.Effects
import Lexis.Proofs.Scan.QuotedLiteral
import Lexis.Proofs.Scan.LongestNumeral
import Lexis.Proofs.Lexer.NumeralForm
import Lexis.Proofs.Report.Listing
import Lexis.Proofs.Lexer.Skip
import Lexis.Proofs.Scan.LiteralForms
import Lexis.Proofs.Text.Place
import Lexis.Proofs.Report.Diagnostic
import Lexis.Proofs.Report.FirstSeen
import Lexis.Proofs.Report.Statistics
import Lexis.Proofs.Report.References
import Lexis.Proofs.Program.Prompt
import Lexis.Proofs.Program.Status
import Lexis.Proofs.Cursor.Safety
