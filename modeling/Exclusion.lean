import Exclusion.Main
import Exclusion.Proofs.Json.Reading
import Exclusion.Script.Style
import Exclusion.Store.Conformance
import Exclusion.Proofs.Json.Restore
import Exclusion.Proofs.Json.Origin
import Exclusion.Proofs.Time.Milli
import Exclusion.Proofs.Rule.Wire
import Exclusion.Proofs.Audit.Wire
import Exclusion.Proofs.Script.Escaping
import Exclusion.Proofs.Script.Reading
import Exclusion.Proofs.Store.Write
import Exclusion.Proofs.Workspace.Plan
import Exclusion.Proofs.Rule.Firing
import Exclusion.Proofs.Rule.Validity
import Exclusion.Proofs.Workspace.Stored
import Exclusion.Proofs.Workspace.Publication
import Exclusion.Proofs.Workspace.Call
import Exclusion.Proofs.Workspace.Recording
import Exclusion.Proofs.Workspace.History
import Exclusion.Proofs.Workspace.Trail
import Exclusion.Proofs.Workspace.Outage
import Exclusion.Proofs.Workspace.Eviction
import Exclusion.Proofs.Workspace.Serving
import Exclusion.Proofs.Workspace.Usable
import Exclusion.Proofs.Audit.Change
import Exclusion.Proofs.Scheduler.Tick
import Exclusion.Proofs.Scheduler.Watch
import Exclusion.Proofs.Scheduler.Coverage
import Exclusion.Proofs.Scheduler.Window
import Exclusion.Proofs.CommandLine.Diff
import Exclusion.Proofs.Script.Fingerprint
import Exclusion.Proofs.Workspace.Failing
import Exclusion.Proofs.Workspace.Refusal
import Exclusion.Proofs.Store.Key
import Exclusion.Proofs.Json.Carry
import Exclusion.Proofs.Scheduler.Change
import Exclusion.Proofs.CommandLine.Stored
import Exclusion.Proofs.Workspace.Locality
import Exclusion.Proofs.Workspace.Sharing
import Exclusion.Proofs.Audit.Capacity
import Exclusion.Proofs.Script.Style
import Exclusion.Proofs.Workspace.Script
import Exclusion.Proofs.Workspace.Cache
import Exclusion.Proofs.Scheduler.Purging
import Exclusion.Proofs.Audit.SingleEdit
import Exclusion.Proofs.Audit.Difference
import Exclusion.Proofs.Workspace.Editing
import Exclusion.Proofs.Rule.Duality
import Exclusion.Proofs.Rule.Evaluation
import Exclusion.Proofs.Text.Lowercase
import Exclusion.Proofs.Rule.Widening
import Exclusion.Proofs.Rule.Union
import Exclusion.Proofs.Audit.Recording
import Exclusion.Proofs.Rule.WellFormed
import Exclusion.Proofs.Script.SafeText
import Exclusion.Proofs.Rule.Undo
import Exclusion.Proofs.Workspace.Undoing
import Exclusion.Proofs.Json.Sorted
import Exclusion.Proofs.Json.Lookup
import Exclusion.Proofs.Page.Reading
import Exclusion.Proofs.Rule.Normalization
