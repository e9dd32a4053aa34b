/-
Pods and StatefulSets as far as the operator reads them, and the parts of an AerospikeCluster that
the restart and scaling code looks at.
-/
import AckoProofs.Config.Value
import AckoProofs.Kube.Names

namespace Acko

/-! ## Pods -/

/-- A point in time or a duration, in nanoseconds. -/
abbrev Time := Int

def minute : Time := 60 * 10 ^ 9

inductive PodPhase
  | pending | running | succeeded | failed | unknown
  deriving DecidableEq, Repr

inductive ConditionStatus
  | conditionTrue | conditionFalse | conditionUnknown
  deriving DecidableEq, Repr

structure PodCondition where
  type : String
  status : ConditionStatus
  deriving DecidableEq, Repr

def podReadyCondition : String := "Ready"

def aerospikeReadinessGateConditionType : String := "acko.io/aerospike-ready"

def aerospikeContainerName : String := "aerospike-server"

structure Container where
  name : String
  image : String
  deriving DecidableEq, Repr

/-- The config-hash, podspec-hash and storage-hash annotations of a pod or of a pod template. An
annotation that is absent reads as the empty text. -/
structure Hashes where
  config : String
  podSpec : String
  storage : String
  deriving DecidableEq, Repr

structure Pod where
  name : String
  hashes : Hashes
  deletionTimestamp : Option Time
  phase : PodPhase
  conditions : List PodCondition
  readinessGates : List String
  containers : List Container
  podIP : String
  deriving DecidableEq, Repr

/-- Running, with the Ready condition True. -/
def isPodReady (pod : Pod) : Bool :=
  pod.phase = .running &&
    pod.conditions.any fun c => c.type = podReadyCondition && c.status = .conditionTrue

def Pod.aerospikeImage (pod : Pod) : Option String :=
  (pod.containers.find? (·.name = aerospikeContainerName)).map (·.image)

/-- Highest ordinal first. -/
def listRackPods (pods : List Pod) : List Pod :=
  pods.insertionSort fun a b => podOrdinal b.name ≤ podOrdinal a.name

theorem mem_listRackPods {pods : List Pod} {p : Pod} : p ∈ listRackPods pods ↔ p ∈ pods :=
  (List.perm_insertionSort _ pods).mem_iff

theorem length_listRackPods (pods : List Pod) : (listRackPods pods).length = pods.length :=
  (List.perm_insertionSort _ pods).length_eq

/-- What the API server answers to a delete. -/
inductive DeleteReply
  | deleted
  | notFound
  | failed (reason : String)
  deriving DecidableEq

/-! ## StatefulSets -/

inductive PodManagementPolicy
  | orderedReady | parallel
  deriving DecidableEq, Repr

/-- The rack's StatefulSet: `replicas` is `spec.replicas`, `hashes` the template's annotations. -/
structure StatefulSet where
  name : String
  replicas : Option Int
  hashes : Hashes
  podManagementPolicy : PodManagementPolicy
  deriving DecidableEq, Repr

/-- `statefulSetReplicas`: an unset count reads as zero. -/
def statefulSetReplicas (sts : StatefulSet) : Int := sts.replicas.getD 0

/-! ## Clusters -/

structure Rack where
  id : Int
  aerospikeConfig : Option Config

structure RackConfig where
  racks : List Rack
  scaleDownBatchSize : Option IntOrString
  maxIgnorablePods : Option IntOrString
  rollingUpdateBatchSize : Option IntOrString

structure ClusterSpec where
  size : Int
  image : String
  aerospikeConfig : Option Config
  rackConfig : Option RackConfig
  rollingUpdateBatchSize : Option Int
  enableDynamicConfigUpdate : Option Bool
  readinessGateEnabled : Option Bool
  podManagementPolicy : Option PodManagementPolicy

structure ClusterStatus where
  aerospikeConfig : Option Config
  /-- `status.pods[name].unstableSince`, where the pod has one. -/
  unstableSince : List (String × Time)

structure Cluster where
  name : String
  uid : String
  spec : ClusterSpec
  status : ClusterStatus

variable (cluster : Cluster)

/-- `getRacks`: a cluster without racks has the default rack 0. -/
def getRacks : List Rack :=
  match cluster.spec.rackConfig with
  | some rc => if rc.racks.isEmpty then [⟨0, none⟩] else rc.racks
  | none => [⟨0, none⟩]

/-- `getRackSize`: the racks share the pods evenly, the first ones taking those left over. -/
def getRackSize (racks : List Rack) (rackIndex : Nat) : Int :=
  let baseSize := cluster.spec.size.tdiv racks.length
  if (rackIndex : Int) < cluster.spec.size.tmod racks.length then baseSize + 1 else baseSize

/-- The config of a rack: the cluster's with the rack's own merged over it. -/
def getEffectiveConfig (rack : Rack) : Option Config :=
  match cluster.spec.aerospikeConfig, rack.aerospikeConfig with
  | none, rackConfig => rackConfig
  | some config, none => some config
  | some config, some rackConfig => some (DeepMerge config rackConfig)

def isReadinessGateEnabled : Bool := cluster.spec.readinessGateEnabled = some true

/-! ## Plain objects -/

def Cluster.bare (name image : String) : Cluster :=
  ⟨name, "uid", ⟨1, image, none, none, none, none, none, none⟩, ⟨none, []⟩⟩

def Pod.serving (name image podIP : String) (hashes : Hashes) : Pod :=
  ⟨name, hashes, none, .running, [⟨podReadyCondition, .conditionTrue⟩], [], [⟨aerospikeContainerName, image⟩], podIP⟩

end Acko
