/-
The AerospikeCluster object as the API server holds it and the reconcile loop reads and writes it,
the edits users make to it, and the events of a reconcile pass.
-/
import AckoProofs.Lib.Shared
import AckoProofs.Restart.Pass
import AckoProofs.Scale.Drain

namespace Acko

/-! ## The object -/

/-- `AerospikePhase`; `none` is the empty phase of a new object. -/
inductive Phase
  | none
  | inProgress
  | completed
  | error
  | scalingUp
  | scalingDown
  | waitingForMigration
  | rollingRestart
  | aclSync
  | paused
  | deleting
  | configDegraded
  | backoffActive
  deriving DecidableEq, Repr

/-- The spec: the part that the scaling and the restart read, and what the reconcile loop itself
looks at. -/
structure ObjectSpec where
  spec : ClusterSpec
  paused : Option Bool
  templateRef : Option String
  hasAccessControl : Bool

structure ObjectStatus where
  phase : Phase
  phaseReason : String
  pendingRestartPods : List String
  failedReconcileCount : Nat
  lastReconcileError : String
  observedGeneration : Nat
  appliedSpec : Option ObjectSpec
  aerospikeConfig : Option Config
  unstableSince : List (String × Time)

structure ClusterObject where
  name : String
  uid : String
  generation : Nat
  /-- The object has a deletion timestamp. -/
  deleting : Bool
  /-- The storage finalizer is on the object. -/
  finalizer : Bool
  spec : ObjectSpec
  status : ObjectStatus

variable (o : ClusterObject)

/-- The cluster as the scaling and the restart see it. -/
def ClusterObject.toCluster : Cluster :=
  ⟨o.name, o.uid, o.spec.spec, ⟨o.status.aerospikeConfig, o.status.unstableSince⟩⟩

def ClusterObject.withPhase (phase : Phase) (reason : String) : ClusterObject :=
  { o with status := { o.status with phase := phase, phaseReason := reason } }

/-! ## Edits of users -/

inductive UserEdit
  | spec (s : ObjectSpec)
  | status (s : ObjectStatus)
  | delete

/-- The API server counts a generation for each new spec. -/
def applyEdit : UserEdit → ClusterObject
  | .spec s => { o with spec := s, generation := o.generation + 1 }
  | .status s => { o with status := s }
  | .delete => { o with deleting := true }

/-! ## Events of a pass -/

inductive PassEvent
  /-- A pass has read the object. -/
  | started
  /-- `reconcileCluster` is entered with the spec of this generation. -/
  | processed (generation : Nat) (spec : ObjectSpec)
  /-- A write of the status, with the phase it leaves. -/
  | persisted (phase : Phase)
  /-- `setConfigDegraded` has written its phase; `attended` says that the user has the cluster
  paused or deleted. -/
  | degraded (attended : Bool)
  /-- `updateStatusAndPhase` has written this status. -/
  | recorded (status : ObjectStatus)
  | services
  | scale (e : ScaleEvent)
  | auxiliary
  | operations
  | readinessGates
  | restart (rackID : Int) (e : Effect)
  | acl
  | cascadePVCs

/-- The event stands for work on the cluster's resources, not on the object's status. -/
def PassEvent.touches : PassEvent → Bool
  | .started => false
  | .processed _ _ => false
  | .persisted _ => false
  | .degraded _ => false
  | .recorded _ => false
  | _ => true

abbrev Op := Shared.Prog ClusterObject UserEdit PassEvent

abbrev OpWorld := Shared.World ClusterObject UserEdit PassEvent

abbrev OpEntry := Shared.Entry UserEdit PassEvent

/-! ## Plain objects -/

def ObjectStatus.fresh : ObjectStatus := ⟨.none, "", [], 0, "", 0, none, none, []⟩

/-- A new object with the finalizer and every optional field unset. -/
def ClusterObject.fresh (name image : String) : ClusterObject :=
  ⟨name, "uid", 1, false, true, ⟨(Cluster.bare name image).spec, none, none, false⟩, .fresh⟩

def OpWorld.start : OpWorld := ⟨o, 0, [], []⟩

end Acko
