import Reckoner.Expr.Assembly
import Reckoner.Expr.Printer
import Reckoner.Expr.Signature
import Reckoner.Main
import Reckoner.Proofs.Batches
import Reckoner.Proofs.CacheHistory
import Reckoner.Proofs.CsvRecords
import Reckoner.Proofs.CursorRuns
import Reckoner.Proofs.DirectUse
import Reckoner.Proofs.EarliestFaults
import Reckoner.Proofs.ExitCommands
import Reckoner.Proofs.Layouts
import Reckoner.Proofs.MissingOperand
import Reckoner.Proofs.PostOrder
import Reckoner.Proofs.PrintedForms
import Reckoner.Proofs.Signatures
import Reckoner.Proofs.Spacing
import Reckoner.Proofs.Strictness
