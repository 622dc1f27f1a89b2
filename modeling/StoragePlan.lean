import StoragePlan.Proofs.Arrangement
import StoragePlan.Proofs.Ancestry
import StoragePlan.Proofs.Rank
import StoragePlan.Proofs.Calls
import StoragePlan.Proofs.Registry
import StoragePlan.Proofs.Sorting
import StoragePlan.Proofs.Deadlock
import StoragePlan.Proofs.Mirroring
import StoragePlan.Session.Command
import StoragePlan.Session.Validate
import StoragePlan.Viewer.Graph
import StoragePlan.Viewer.Event
import StoragePlan.Viewer.Settings
import StoragePlan.Proofs.Phases
import StoragePlan.Proofs.Records
import StoragePlan.Proofs.SoundTree
import StoragePlan.Proofs.Balance
import StoragePlan.Proofs.Pruning
import StoragePlan.Proofs.Execution
import StoragePlan.Proofs.Scheduling
import StoragePlan.Proofs.Closure
import StoragePlan.Proofs.Lineage
import StoragePlan.Proofs.Reflection
import StoragePlan.Proofs.Reversal
import StoragePlan.Proofs.Recreation
import StoragePlan.Proofs.Reduction
import StoragePlan.Proofs.Membership
import StoragePlan.Proofs.Wiping
import StoragePlan.Proofs.Lifecycle
import StoragePlan.Proofs.Extension
import StoragePlan.Proofs.Census
import StoragePlan.Proofs.Survival
import StoragePlan.Proofs.Atomicity
import StoragePlan.Proofs.Stability
import StoragePlan.Proofs.Discarding
import StoragePlan.Proofs.Resizing
import StoragePlan.Proofs.Journal
import StoragePlan.Proofs.Identity
import StoragePlan.Proofs.Facts
import StoragePlan.Proofs.Integrity
import StoragePlan.Proofs.Strata
import StoragePlan.Proofs.Reporting
import StoragePlan.Proofs.Traversal
import StoragePlan.Proofs.Admission
import StoragePlan.Proofs.Diagnosis
import StoragePlan.Proofs.Layering
import StoragePlan.Proofs.Dismantling
import StoragePlan.Proofs.Picking
import StoragePlan.Proofs.ResizeField
import StoragePlan.Proofs.Creation
import StoragePlan.Proofs.Provisioning
import StoragePlan.Proofs.Fitting
import StoragePlan.Proofs.Vacancy
import StoragePlan.Proofs.Numerals
import StoragePlan.Proofs.PartitionNames
import StoragePlan.Proofs.Obsoletion
import StoragePlan.Proofs.SettingsFile
import StoragePlan.Proofs.WorkspaceWidth
