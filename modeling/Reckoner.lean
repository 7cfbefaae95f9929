import Reckoner.Main
import Reckoner.Proofs.Evaluation.Agreement
import Reckoner.Proofs.Evaluation.Display
import Reckoner.Proofs.Expr.Prefixes
import Reckoner.Proofs.Expr.Printing
import Reckoner.Proofs.Remote.Agreement
import Reckoner.Service
import Reckoner.Proofs.Expr.Tokens
import Reckoner.Json.Bytes
import Reckoner.Proofs.Evaluation.Widths
import Reckoner.Proofs.Json.Bytes
import Reckoner.Remote.Transfer
import Reckoner.Proofs.Remote.Outcomes
import Reckoner.Proofs.Query.Settling
import Reckoner.Proofs.Query.Provenance
import Reckoner.Proofs.Envelope.Codec
import Reckoner.Proofs.Evaluation.Attempts.Powers
import Reckoner.Proofs.Console.Sessions
import Reckoner.Proofs.Expr.Listing
import Reckoner.Proofs.Settings.Origins
import Reckoner.Proofs.Log.Thresholds
import Reckoner.Proofs.Service.RequestIds
import Reckoner.RequestId.Scope
import Reckoner.Proofs.RequestId.Scopes
import Reckoner.Proofs.RequestId.Tickets
