import Rulebook.Main
import Rulebook.Json.Writer
import Rulebook.Kind.Counter
import Rulebook.Proofs.Accumulation
import Rulebook.Proofs.Attributes
import Rulebook.Proofs.Cascade
import Rulebook.Proofs.CommandLine
import Rulebook.Proofs.Cycle.Calls
import Rulebook.Proofs.Cycle.Nesting
import Rulebook.Proofs.Cycle.Reported
import Rulebook.Proofs.Document.Account
import Rulebook.Proofs.Document.LoadOrder
import Rulebook.Proofs.Document.SkipOrder
import Rulebook.Proofs.Document.Skipped
import Rulebook.Proofs.Document.Writing
import Rulebook.Proofs.FieldOrder
import Rulebook.Proofs.Grouping
import Rulebook.Proofs.IntegerFields
import Rulebook.Proofs.Invariance
import Rulebook.Proofs.IssueExport
import Rulebook.Proofs.LateBinding
import Rulebook.Proofs.LineErrors
import Rulebook.Proofs.NamesInLines
import Rulebook.Proofs.PathItself
import Rulebook.Proofs.Reachability
import Rulebook.Proofs.Registrations
import Rulebook.Proofs.Respacing
import Rulebook.Proofs.RuleEdits
import Rulebook.Proofs.Separators
import Rulebook.Proofs.StoredFields
import Rulebook.Proofs.TemplateParts
import Rulebook.Proofs.Traversal
import Rulebook.Proofs.UnreadVariables
import Rulebook.Proofs.UsableKinds
import Rulebook.Proofs.VariableFrame
import Rulebook.Proofs.VariableIndependence
import Rulebook.Proofs.WrittenRule
