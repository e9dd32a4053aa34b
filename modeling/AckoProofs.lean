import AckoProofs.Access.Confine
import AckoProofs.Admission.MetricLabels
import AckoProofs.Admission.Storage
import AckoProofs.Budget.Default
import AckoProofs.Conf.PerPod
import AckoProofs.Conf.Ports
import AckoProofs.Config.Phantom
import AckoProofs.Dynamic.Encoders
import AckoProofs.Objects.Isolation
import AckoProofs.Objects.PolicyConvergence
import AckoProofs.Operations.Exclusion
import AckoProofs.Operations.Finish
import AckoProofs.Pod.Racks
import AckoProofs.Pod.Scheduling
import AckoProofs.Reconcile.Breaker
import AckoProofs.Reconcile.Converged
import AckoProofs.Reconcile.Recorded
import AckoProofs.Reconcile.Sticky
import AckoProofs.Restart.Effective
import AckoProofs.Restart.EscapeHatch
import AckoProofs.Restart.Marker
import AckoProofs.Restart.Once
import AckoProofs.Restart.Terminate
import AckoProofs.Restart.Truthful
import AckoProofs.Scale.Safety
import AckoProofs.Scale.Serial
import AckoProofs.Status.ConfigApplied
import AckoProofs.Storage.Leak
import AckoProofs.Template.Deferred
import AckoProofs.Template.Precedence
import AckoProofs.Volumes.Dirty
