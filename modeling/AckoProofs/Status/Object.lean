/-
The status of a cluster as it is published: the conditions, one entry for each pod, and the object that
carries them.
-/
import AckoProofs.Reconcile.Object

namespace Acko

/-! ## The object -/

inductive ConditionType
  | available
  | ready
  | configApplied
  | aclSynced
  | migrationComplete
  | reconciliationPaused
  | reconcileHealthy
  | dynamicConfigDegraded
  deriving DecidableEq, Repr

/-- `metav1.Condition`, without the time of its last transition. -/
structure StatusCondition where
  type : ConditionType
  status : ConditionStatus
  observedGeneration : Nat
  reason : String
  message : String
  deriving DecidableEq, Repr

inductive RestartReason
  | configChanged
  | imageChanged
  | podSpecChanged
  | manualRestart
  | warmRestart
  deriving DecidableEq, Repr

structure DynamicConfigChangeStatus where
  path : String
  oldValue : String
  newValue : String
  result : String
  deriving DecidableEq, Repr

structure AerospikePodStatus where
  podIP : String
  hostIP : String
  image : String
  podPort : Int
  servicePort : Int
  rack : Int
  initializedVolumes : List String
  isRunningAndReady : Bool
  configHash : String
  podSpecHash : String
  dynamicConfigStatus : String
  dynamicConfigChanges : List DynamicConfigChangeStatus
  dirtyVolumes : List String
  nodeID : String
  clusterName : String
  accessEndpoints : List String
  readinessGateSatisfied : Bool
  lastRestartReason : Option RestartReason
  lastRestartTime : Option Time
  unstableSince : Option Time
  migratingPartitions : Option Int
  deriving DecidableEq, Repr

/-- The zero value, which a map gives for a pod it has no entry of. -/
def AerospikePodStatus.zero : AerospikePodStatus :=
  ⟨"", "", "", 0, 0, 0, [], false, "", "", "", [], [], "", "", [], false, none, none, none, none⟩

structure MigrationStatus where
  inProgress : Bool
  remainingPartitions : Int
  lastChecked : Time
  deriving DecidableEq, Repr

/-- The entries of the pods by name; the order of the list stands for that of an iteration. -/
abbrev PodStatuses := List (String × AerospikePodStatus)

structure AerospikeClusterStatus where
  phase : Phase
  phaseReason : String
  size : Int
  replicas : Int
  health : String
  observedGeneration : Nat
  selector : String
  aerospikeConfig : Option Config
  pods : PodStatuses
  conditions : List StatusCondition
  aerospikeClusterSize : Int
  migrationStatus : Option MigrationStatus
  appliedSpec : Option ObjectSpec
  pendingRestartPods : List String
  lastReconcileTime : Option Time

/-- The cluster as `updateStatusAndPhase` works on it. -/
structure PublishedCluster where
  name : String
  generation : Nat
  spec : ObjectSpec
  status : AerospikeClusterStatus

def PublishedCluster.fresh (name image : String) : PublishedCluster :=
  { name := name
    generation := 1
    spec := (ClusterObject.fresh name image).spec
    status := ⟨.none, "", 0, 0, "", 0, "", none, [], [], 0, none, none, [], none⟩ }

/-! ## Conditions -/

/-- The condition in the place of the one of its type, or at the end. -/
def putCondition (new : StatusCondition) : List StatusCondition → List StatusCondition
  | [] => [new]
  | existing :: rest => if existing.type = new.type then new :: rest else existing :: putCondition new rest

/-- `setCondition`. A condition that has all of the new values already is left as it is, which is the
same where the transition time is left out. -/
def PublishedCluster.setCondition (cluster : PublishedCluster) (type : ConditionType) (status : Bool)
    (reason message : String) : PublishedCluster :=
  { cluster with status := { cluster.status with
    conditions := putCondition
      ⟨type, if status then .conditionTrue else .conditionFalse, cluster.generation, reason, message⟩
      cluster.status.conditions } }

def PublishedCluster.removeCondition (cluster : PublishedCluster) (type : ConditionType) : PublishedCluster :=
  { cluster with status := { cluster.status with conditions := cluster.status.conditions.filter (·.type ≠ type) } }

def PublishedCluster.condition (cluster : PublishedCluster) (type : ConditionType) : Option StatusCondition :=
  cluster.status.conditions.find? (·.type = type)

def PublishedCluster.isTrue (cluster : PublishedCluster) (type : ConditionType) : Bool :=
  (cluster.condition type).any (·.status = .conditionTrue)

theorem find_putCondition (new : StatusCondition) (type : ConditionType) : ∀ conditions : List StatusCondition,
    (putCondition new conditions).find? (·.type = type) =
      if new.type = type then some new else conditions.find? (·.type = type)
  | [] => by by_cases h : new.type = type <;> simp [putCondition, h]
  | existing :: rest => by
    have ih := find_putCondition new type rest
    unfold putCondition
    by_cases he : existing.type = new.type
    · rw [if_pos he]
      by_cases h : new.type = type <;> simp [h, he]
    · rw [if_neg he]
      by_cases hx : existing.type = type
      · rw [hx] at he
        rw [List.find?_cons_of_pos (by simpa using hx), List.find?_cons_of_pos (by simpa using hx),
          if_neg (Ne.symm he)]
      · rw [List.find?_cons_of_neg (by simpa using hx), List.find?_cons_of_neg (by simpa using hx), ih]

section Conditions

variable {cluster : PublishedCluster} {type other : ConditionType} {status : Bool} {reason message : String}

theorem isTrue_setCondition : (cluster.setCondition type status reason message).isTrue type = status := by
  unfold PublishedCluster.isTrue PublishedCluster.condition PublishedCluster.setCondition
  rw [find_putCondition, if_pos rfl]
  cases status <;> rfl

theorem isTrue_setCondition_of_ne (h : type ≠ other) :
    (cluster.setCondition type status reason message).isTrue other = cluster.isTrue other := by
  unfold PublishedCluster.isTrue PublishedCluster.condition PublishedCluster.setCondition
  rw [find_putCondition, if_neg h]

theorem isTrue_removeCondition_of_ne (h : type ≠ other) :
    (cluster.removeCondition type).isTrue other = cluster.isTrue other := by
  have hsame : (fun c : StatusCondition => decide (decide (c.type ≠ type) = true ∧ decide (c.type = other) = true)) =
      fun c => decide (c.type = other) := by
    funext c
    by_cases hc : c.type = other
    · simp [hc, Ne.symm h]
    · simp [hc]
  unfold PublishedCluster.isTrue PublishedCluster.condition PublishedCluster.removeCondition
  rw [List.find?_filter, hsame]

theorem isTrue_congr {a b : PublishedCluster} (h : a.status.conditions = b.status.conditions) :
    a.isTrue type = b.isTrue type := by
  unfold PublishedCluster.isTrue PublishedCluster.condition
  rw [h]

end Conditions

end Acko
