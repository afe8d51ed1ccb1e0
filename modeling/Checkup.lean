import Checkup.Json.Reader
import Checkup.Main
import Checkup.Probe.Script
import Checkup.Proofs.Cause.Membership
import Checkup.Proofs.Command.ExitCodes
import Checkup.Proofs.Engine.Findings
import Checkup.Proofs.Engine.Flags
import Checkup.Proofs.Engine.Inquiries
import Checkup.Proofs.Engine.Masking
import Checkup.Proofs.Engine.Pacing
import Checkup.Proofs.Engine.Pruning
import Checkup.Proofs.Engine.Retry
import Checkup.Proofs.Engine.Seclusion
import Checkup.Proofs.Engine.Signals
import Checkup.Proofs.Json.RoundTrip
import Checkup.Proofs.Log.Delivery
import Checkup.Proofs.Probe.Addresses
import Checkup.Proofs.Probe.Versions
import Checkup.Proofs.Report.Grouping
import Checkup.Proofs.Report.Restoring
import Checkup.Proofs.Report.Views
import Checkup.Proofs.Scope.Awaiting
import Checkup.Proofs.Scope.Narrowing
import Checkup.Proofs.Session.Configuring
