/-
The AerospikeCluster resource as far as its config, its racks, its disruption budgets and its services
are concerned, and the template spec that a cluster may refer to and override.
-/
import AckoProofs.Config.Map
import AckoProofs.Pod.Spec

namespace Acko

/-! ## Templates -/

/-- `TemplateHeartbeatConfig`; an empty mode and a zero are unset. -/
structure TemplateHeartbeatConfig where
  mode : String
  interval : Int
  timeout : Int
  deriving DecidableEq

structure TemplateNetworkConfig where
  heartbeat : Option TemplateHeartbeatConfig
  deriving DecidableEq

structure TemplateAerospikeConfig where
  namespaceDefaults : Option ConfigMap
  service : Option ConfigMap
  network : Option TemplateNetworkConfig

/-- `AerospikeClusterTemplateSpec` without the scheduling, the resources and the racks. -/
structure ClusterTemplateSpec extends AerospikeClusterTemplateSpec where
  image : String
  size : Option Int
  aerospikeConfig : Option TemplateAerospikeConfig
  monitoring : Option AerospikeMonitoringSpec
  aerospikeNetworkPolicy : Option AerospikeNetworkPolicy

/-! ## Clusters -/

/-- A rack; its ID is a Go `int`. -/
structure DeclaredRack where
  id : Int
  idRange : -2 ^ 63 ≤ id ∧ id < 2 ^ 63
  rackLabel : String
  aerospikeConfig : Option ConfigMap
  maxUnavailable : Option IntOrString

structure DeclaredRackConfig where
  racks : List DeclaredRack
  scaleDownBatchSize : Option IntOrString
  maxIgnorablePods : Option IntOrString
  rollingUpdateBatchSize : Option IntOrString

inductive NetworkPolicyType
  | kubernetes | cilium
  deriving DecidableEq

/-- `NetworkPolicyConfig`; an empty type is `none`. -/
structure NetworkPolicyConfig where
  enabled : Bool
  type : Option NetworkPolicyType
  deriving DecidableEq

/-- `LoadBalancerSpec`; a zero port and an empty policy are unset. -/
structure LoadBalancerSpec where
  annotations : StringMap
  labels : StringMap
  externalTrafficPolicy : String
  port : Int
  targetPort : Int
  loadBalancerSourceRanges : List String

/-- The fields of the spec that admission reads. -/
structure DeclaredSpec where
  size : Int
  image : String
  aerospikeConfig : Option ConfigMap
  rackConfig : Option DeclaredRackConfig
  maxUnavailable : Option IntOrString
  disablePDB : Option Bool
  templateRef : Option String
  overrides : Option ClusterTemplateSpec
  aerospikeNetworkPolicy : Option AerospikeNetworkPolicy
  headlessService : Option AerospikeServiceSpec
  podService : Option AerospikeServiceSpec
  /-- `seedsFinderServices.loadBalancer`. -/
  seedsLoadBalancer : Option LoadBalancerSpec
  monitoring : Option AerospikeMonitoringSpec
  networkPolicyConfig : Option NetworkPolicyConfig

structure DeclaredCluster where
  name : String
  uid : String
  spec : DeclaredSpec

def DeclaredSpec.racks (spec : DeclaredSpec) : List DeclaredRack :=
  match spec.rackConfig with
  | some rc => rc.racks
  | none => []

def DeclaredSpec.sizeKnown (spec : DeclaredSpec) : Bool := spec.size ≠ 0 || spec.templateRef.isNone

def defaultRack : DeclaredRack := ⟨0, by decide, "", none, none⟩

namespace DeclaredCluster

variable (cluster : DeclaredCluster)

/-- `getRacks`. -/
def getRacks : List DeclaredRack :=
  match cluster.spec.rackConfig with
  | some rc => if rc.racks.isEmpty then [defaultRack] else rc.racks
  | none => [defaultRack]

/-- The first racks take the remainder. -/
def getRackSize (racks : List DeclaredRack) (rackIndex : Nat) : Int :=
  let baseSize := cluster.spec.size.tdiv racks.length
  if (rackIndex : Int) < cluster.spec.size.tmod racks.length then baseSize + 1 else baseSize

/-- The rack's own keys win. -/
def getEffectiveConfig (rack : DeclaredRack) : Option ConfigMap :=
  match cluster.spec.aerospikeConfig, rack.aerospikeConfig with
  | none, rackConfig => rackConfig
  | some config, none => some config
  | some config, some rackConfig => some (config.deepMerge rackConfig)

theorem getRacks_eq :
    cluster.getRacks = if cluster.spec.racks = [] then [defaultRack] else cluster.spec.racks := by
  unfold getRacks DeclaredSpec.racks
  cases cluster.spec.rackConfig with
  | none => rfl
  | some rc => simp only [List.isEmpty_iff]

theorem getRacks_ne_nil : cluster.getRacks ≠ [] := by
  rw [getRacks_eq]
  split <;> simp_all

end DeclaredCluster

/-! ## The cluster that the pod's template is made from -/

/-- The two records have the template and the overrides of one object. -/
structure DeclaredSpec.Describes (spec : DeclaredSpec) (cluster : AerospikeCluster) : Prop where
  templateRef : spec.templateRef = cluster.spec.templateRef
  overrides : spec.overrides.map (·.toAerospikeClusterTemplateSpec) = cluster.spec.overrides

/-! ## The cluster that restarts and scaling look at -/

def DeclaredRack.toRack (rack : DeclaredRack) : Rack := ⟨rack.id, rack.aerospikeConfig.map (·.entries)⟩

/-- The parts that the restart and scaling code reads. -/
def DeclaredCluster.toCluster (cluster : DeclaredCluster) : Cluster where
  name := cluster.name
  uid := cluster.uid
  spec :=
    { size := cluster.spec.size
      image := cluster.spec.image
      aerospikeConfig := cluster.spec.aerospikeConfig.map (·.entries)
      rackConfig := cluster.spec.rackConfig.map fun rc =>
        ⟨rc.racks.map (·.toRack), rc.scaleDownBatchSize, rc.maxIgnorablePods, rc.rollingUpdateBatchSize⟩
      rollingUpdateBatchSize := none
      enableDynamicConfigUpdate := none
      readinessGateEnabled := none
      podManagementPolicy := none }
  status := ⟨none, []⟩

theorem getRacks_toCluster (cluster : DeclaredCluster) :
    getRacks cluster.toCluster = cluster.getRacks.map (·.toRack) := by
  unfold Acko.getRacks DeclaredCluster.getRacks DeclaredCluster.toCluster
  cases cluster.spec.rackConfig with
  | none => rfl
  | some rc =>
    simp only [Option.map_some, List.isEmpty_map]
    split <;> rfl

theorem getRackSize_toCluster (cluster : DeclaredCluster) (i : Nat) :
    getRackSize cluster.toCluster (getRacks cluster.toCluster) i = cluster.getRackSize cluster.getRacks i := by
  rw [getRacks_toCluster]
  unfold Acko.getRackSize DeclaredCluster.getRackSize
  rw [List.length_map]
  rfl

theorem getEffectiveConfig_toCluster (cluster : DeclaredCluster) (rack : DeclaredRack) :
    getEffectiveConfig cluster.toCluster rack.toRack = (cluster.getEffectiveConfig rack).map (·.entries) := by
  unfold Acko.getEffectiveConfig DeclaredCluster.getEffectiveConfig DeclaredCluster.toCluster DeclaredRack.toRack
  cases cluster.spec.aerospikeConfig <;> cases rack.aerospikeConfig <;> rfl

/-! ## Plain objects -/

theorem one_lt_idBound : 1 < 2 ^ 63 := by decide
theorem two_lt_idBound : 2 < 2 ^ 63 := by decide

def DeclaredRack.plain (id : Nat) (h : id < 2 ^ 63) (config : Option ConfigMap) : DeclaredRack :=
  ⟨id, ⟨by omega, by omega⟩, "", config, none⟩

def DeclaredCluster.plain (name image : String) (size : Int) (racks : List DeclaredRack) : DeclaredCluster :=
  ⟨name, name ++ "-uid", ⟨size, image, none, some ⟨racks, none, none, none⟩, none, none, none, none, none, none, none,
    none, none, none⟩⟩

end Acko
