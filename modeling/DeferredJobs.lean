import DeferredJobs.Main
import DeferredJobs.DryRun
import DeferredJobs.Proofs.Query.Ordering
import DeferredJobs.Proofs.Suspension.Families
import DeferredJobs.Proofs.Tolerance.Readers
import DeferredJobs.Proofs.Batch.Misrouting
import DeferredJobs.Proofs.Suspension.Canonical
import DeferredJobs.Proofs.Suspension.Strictness
import DeferredJobs.Proofs.Suspension.Assembly
import DeferredJobs.Proofs.Backoff
import DeferredJobs.Proofs.Batch.Exactness
import DeferredJobs.Proofs.Modification.Priority
import DeferredJobs.Proofs.Migration.Plan
import DeferredJobs.Proofs.Window
import DeferredJobs.Proofs.Query.VariableFilter
import DeferredJobs.Proofs.Integers
import DeferredJobs.Proofs.Configuration.Writers
import DeferredJobs.Proofs.Job.Registration
import DeferredJobs.Proofs.Query.Parentheses
import DeferredJobs.Proofs.Configuration.Arrays
