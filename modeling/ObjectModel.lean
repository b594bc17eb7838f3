import ObjectModel.Main
import ObjectModel.ArrayLike
import ObjectModel.Cli.FileTree
import ObjectModel.Codec.Object
import ObjectModel.Proofs.Reconciliation
import ObjectModel.Proofs.Redefinition
import ObjectModel.Proofs.Outcomes
import ObjectModel.Proofs.Sameness
import ObjectModel.Proofs.Copying
import ObjectModel.Proofs.Permanence
import ObjectModel.Proofs.Assignment
import ObjectModel.Proofs.PropertyTable
import ObjectModel.Proofs.Chain
import ObjectModel.Proofs.Enumeration
import ObjectModel.Proofs.Functions
import ObjectModel.Proofs.Links
import ObjectModel.Proofs.Closure
import ObjectModel.Proofs.Upholds
import ObjectModel.Proofs.ClosedWorld
import ObjectModel.Proofs.Steps
import ObjectModel.Proofs.Scenario
import ObjectModel.Proofs.Digits
import ObjectModel.Proofs.EventLog
import ObjectModel.Proofs.AuditTrail
import ObjectModel.Proofs.Silence
import ObjectModel.Proofs.Verdicts
import ObjectModel.Proofs.Numerals
import ObjectModel.Proofs.JsonText
import ObjectModel.Proofs.Snapshot
import ObjectModel.Proofs.PrototypeWalk
import ObjectModel.Proofs.Decoding
import ObjectModel.Proofs.ManifestText
import ObjectModel.Proofs.LiteralText
import ObjectModel.Proofs.Accounting
import ObjectModel.Proofs.FileTree
import ObjectModel.Proofs.DanglingLinks
import ObjectModel.Proofs.Evidence
import ObjectModel.Proofs.Integrity
import ObjectModel.Proofs.Key
import ObjectModel.Proofs.KeyOrder
import ObjectModel.Proofs.Initialiser
import ObjectModel.Proofs.Push
import ObjectModel.Proofs.Search
import ObjectModel.Proofs.ArrayLiteral
import ObjectModel.Proofs.Callbacks
import ObjectModel.Proofs.Arguments
import ObjectModel.Proofs.Conversion
import ObjectModel.Proofs.Vocabulary
import ObjectModel.Proofs.SpokenWorld
import ObjectModel.Proofs.OneLine
import ObjectModel.Proofs.Details
import ObjectModel.Proofs.Report
