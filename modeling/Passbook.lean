import Passbook.Store
import Passbook.Rule.Evaluation
import Passbook.Reconcile.Flow
import Passbook.Render
import Passbook.Source.Static
import Passbook.Pipeline
import Passbook.Proofs.Foundations
import Passbook.Proofs.Decimal
import Passbook.Proofs.Store
import Passbook.Proofs.Store.Balance
import Passbook.Proofs.Entry
import Passbook.Proofs.Reconcile.Reports
import Passbook.Proofs.Reconcile.Reconciled
import Passbook.Proofs.Reconcile.Flows
import Passbook.Proofs.Reconcile.Conservation
import Passbook.Proofs.Reconcile.Ownership
import Passbook.Proofs.Rule.Evaluation
import Passbook.Proofs.Rule.Soundness
import Passbook.Proofs.Store.Correction
import Passbook.Proofs.Json
import Passbook.Proofs.Source.Documents
import Passbook.Proofs.Render
import Passbook.Proofs.Source.Static
import Passbook.Proofs.Text
import Passbook.Proofs.Pipeline.Run
import Passbook.Proofs.Rule.Reading
import Passbook.Proofs.Rule.Recognition
import Passbook.Proofs.Rule.Line
import Passbook.Proofs.Entry.Literal
import Passbook.Proofs.Rule.Deciding
import Passbook.Proofs.Source.Reported
import Passbook.Proofs.Rule.Compiling
import Passbook.Proofs.Rule.Locality
import Passbook.Proofs.Reconcile.Transfers
import Passbook.Proofs.Reconcile.Rearranging
import Passbook.Proofs.Reconcile.Widening
import Passbook.Proofs.Reconcile.Pairing
import Passbook.Proofs.Pipeline.Stages
import Passbook.Proofs.Session
import Passbook.Proofs.Rule.Passes
import Passbook.Proofs.Reconcile.FirstRefusal
import Passbook.Proofs.Reconcile.Repeating
import Passbook.Proofs.Reconcile.ExactSums
import Passbook.Proofs.Rule.Furthest
