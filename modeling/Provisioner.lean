import Provisioner.Api
import Provisioner.Space.Document
import Provisioner.Resource.Adapter
import Provisioner.Resource.GenieSpace
import Provisioner.Resource.AppDeployment
import Provisioner.Resource.MetricView
import Provisioner.Resource.SqlExecution
import Provisioner.Resource.Echo
import Provisioner.Provider
import Provisioner.Workspace
import Provisioner.Log.Setup
import Provisioner.Session.Step
import Provisioner.Proofs.Space.Reading
import Provisioner.Proofs.GenieSpace.Drift
import Provisioner.Proofs.Provider.Outcomes
import Provisioner.Proofs.Session.Atomicity
import Provisioner.Proofs.Provider.Requests
import Provisioner.Proofs.Session.Trace
import Provisioner.Proofs.Session.CallLog
import Provisioner.Proofs.GenieSpace.Identity
import Provisioner.Proofs.GenieSpace.LastWrite
import Provisioner.Proofs.GenieSpace.Removal
import Provisioner.Proofs.Provider.Alike
import Provisioner.Proofs.Session.Alike
import Provisioner.Proofs.GenieSpace.Isolation
import Provisioner.Proofs.GenieSpace.Lookup
import Provisioner.Proofs.Session.Returned
import Provisioner.Proofs.Session.EventLog
import Provisioner.Proofs.MetricView.Import
import Provisioner.Proofs.MetricView.Chains
import Provisioner.Proofs.AppDeployment.Import
import Provisioner.Proofs.Json.Accepted
import Provisioner.Proofs.Json.Unambiguous
import Provisioner.Proofs.Space.Damage
import Provisioner.Proofs.Json.AnyValue
import Provisioner.Proofs.Space.Places
import Provisioner.Proofs.Space.Written
import Provisioner.Proofs.Json.Nulls
import Provisioner.Proofs.Space.Absences
import Provisioner.Proofs.Json.Positions
import Provisioner.Proofs.Space.Positional
import Provisioner.Proofs.Provider.Dispatch
import Provisioner.Proofs.Workspace.Deployments
import Provisioner.Proofs.AppDeployment.Drift
import Provisioner.Proofs.GenieSpace.Lifecycle
import Provisioner.Proofs.Session.Refresh
import Provisioner.Proofs.Workspace.Failures
import Provisioner.Proofs.Workspace.Numbers
import Provisioner.Proofs.Workspace.Statements
import Provisioner.Proofs.Session.Failures
import Provisioner.Proofs.Workspace.Fresh
