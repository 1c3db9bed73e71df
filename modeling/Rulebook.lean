import Rulebook.Proofs.CombinedText
import Rulebook.Proofs.Evaluability
import Rulebook.Proofs.Transport
import Rulebook.Service.Route
import Rulebook.Service.Target
import Rulebook.Telemetry.Log
import Rulebook.Telemetry.Observability
import Rulebook.Proofs.Limits
import Rulebook.Proofs.Tracing
import Rulebook.Proofs.Json.Reading
import Rulebook.Proofs.Nodes
import Rulebook.Proofs.Ingestion
import Rulebook.Proofs.Service.Evaluation
import Rulebook.Proofs.Mirroring
import Rulebook.Proofs.Service.Accounting
import Rulebook.Proofs.Service.Depth
import Rulebook.Proofs.Settings.Keys
import Rulebook.Proofs.Settings.Loading
import Rulebook.Proofs.Parser.Conservation
import Rulebook.Proofs.Parser.Faults
import Rulebook.Proofs.Refusal
import Rulebook.Proofs.Node.Verdict
import Rulebook.Proofs.RadixLiterals
import Rulebook.Proofs.Coherence
import Rulebook.Proofs.Normality
import Rulebook.Proofs.Numeral.Literals
import Rulebook.Proofs.Numeral.Comparison
import Rulebook.Proofs.Spacing
import Rulebook.Proofs.Decimal
import Rulebook.Proofs.NumberOperands
import Rulebook.Proofs.NumberDisplay
import Rulebook.Proofs.Results
