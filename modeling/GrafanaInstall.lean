import GrafanaInstall.Main
import GrafanaInstall.Json.Pointer
import GrafanaInstall.Testbed
import GrafanaInstall.Testbed.Script
import GrafanaInstall.Proofs.Resource.RoundTrip
import GrafanaInstall.Proofs.Store.Sound
import GrafanaInstall.Proofs.Store.Calls
import GrafanaInstall.Proofs.Program.Task
import GrafanaInstall.Proofs.Watched
import GrafanaInstall.Proofs.Program.Asks
import GrafanaInstall.Proofs.Install.GivesUp
import GrafanaInstall.Proofs.Install.Stages
import GrafanaInstall.Proofs.Install.Settled
import GrafanaInstall.Proofs.Install.Convergence
import GrafanaInstall.Proofs.Trial
import GrafanaInstall.Proofs.Install.Interruption
import GrafanaInstall.Proofs.Resource.Stored
import GrafanaInstall.Proofs.Install.Removal
import GrafanaInstall.Proofs.Controller.Finalizer
import GrafanaInstall.Proofs.Controller.Orphans
import GrafanaInstall.Proofs.Http.StatusPatch
import GrafanaInstall.Proofs.Store.Frame
import GrafanaInstall.Proofs.Controller.Rest
import GrafanaInstall.Proofs.Errand
import GrafanaInstall.Proofs.Http.Api
import GrafanaInstall.Proofs.Http.Contention
import GrafanaInstall.Proofs.Install.Isolation
import GrafanaInstall.Proofs.Install.Undoing
import GrafanaInstall.Proofs.Manifest.Agreement
import GrafanaInstall.Proofs.Install.Idle
import GrafanaInstall.Proofs.Install.OperatorGroups
import GrafanaInstall.Proofs.Install.Migration
import GrafanaInstall.Proofs.Install.Takeover
import GrafanaInstall.Proofs.Rehearsal
import GrafanaInstall.Proofs.Oracle
import GrafanaInstall.Proofs.Install.Failures
import GrafanaInstall.Proofs.Install.Clearing
import GrafanaInstall.Proofs.Controller.Deletion
import GrafanaInstall.Proofs.Http.Finalizers
import GrafanaInstall.Proofs.Install.Resumption
import GrafanaInstall.Proofs.Install.Change
import GrafanaInstall.Proofs.Resource.Printed
import GrafanaInstall.Proofs.Http.Apply
import GrafanaInstall.Proofs.Http.Overwrite
import GrafanaInstall.Proofs.Controller.Namespace
import GrafanaInstall.Proofs.Resource.Normal
import GrafanaInstall.Proofs.Controller.Finding
import GrafanaInstall.Proofs.Controller.Status
import GrafanaInstall.Proofs.Install.Order
