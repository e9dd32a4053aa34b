/-
The pod template of a rack (`BuildPodTemplateSpec`). It is rendered from the cluster, the rack and the
config hash; the affinity objects it points to are written into on the way, so the cluster and the rack
that later steps see are part of the result.
-/
import AckoProofs.Pod.Affinity
import AckoProofs.Pod.Container

namespace Acko

/-! ## Metadata -/

def configHashKey : String := "acko.io/config-hash"
def podSpecHashKey : String := "acko.io/podspec-hash"
def storageHashKey : String := "acko.io/storage-hash"

def ingressBandwidthKey : String := "kubernetes.io/ingress-bandwidth"
def egressBandwidthKey : String := "kubernetes.io/egress-bandwidth"

def insertUnlessEmpty (key value : String) (m : StringMap) : StringMap := if value = "" then m else m.insert key value

def bandwidthAnnotations (config : Option BandwidthConfig) (annotations : StringMap) : StringMap :=
  match config with
  | none => annotations
  | some b =>
    insertUnlessEmpty egressBandwidthKey b.egress (insertUnlessEmpty ingressBandwidthKey b.ingress annotations)

variable (cluster : AerospikeCluster)

def AerospikeCluster.podMetadata : ObjectMeta :=
  (cluster.spec.podSpec.bind (·.metadata)).getD ⟨∅, ∅⟩

def templateLabels (rackID : Int) : StringMap :=
  mapsCopy (labelsForRack cluster.name rackID).toMap cluster.podMetadata.labels

/-- The user's annotations are copied last. -/
def templateAnnotations (configHash : String) : StringMap :=
  mapsCopy (bandwidthAnnotations cluster.spec.bandwidthConfig (Labels.toMap [(configHashKey, configHash)]))
    cluster.podMetadata.annotations

/-! ## Containers -/

variable (storageSpec : Option AerospikeStorageSpec)

/-- A user's container with the mounts that the storage section attaches to it. -/
def withStorageMounts (isSidecar : Bool) (c : TemplateContainer) : TemplateContainer :=
  { c with volumeMounts := c.volumeMounts ++ volumeMountsForContainer storageSpec c.name isSidecar }

def AerospikeCluster.userInitContainers : List TemplateContainer :=
  (cluster.spec.podSpec.map (·.initContainers)).getD []

def AerospikeCluster.userSidecars : List TemplateContainer :=
  (cluster.spec.podSpec.map (·.sidecars)).getD []

def templateInitContainers : List TemplateContainer :=
  buildInitContainer cluster storageSpec (volumeMountsForContainer storageSpec initContainerName false) [] ::
    cluster.userInitContainers.map (withStorageMounts storageSpec false)

def exporterSidecars : List TemplateContainer :=
  match cluster.spec.monitoring with
  | some monitoring =>
    if monitoring.enabled then [buildExporterSidecar monitoring cluster.spec.aerospikeAccessControl] else []
  | none => []

def templateContainers : List TemplateContainer :=
  buildAerospikeContainer cluster
      ((buildVolumes storageSpec).2 ++ [.of aerospikeConfigVolumeName aerospikeConfigPath false]) ::
    exporterSidecars cluster ++ cluster.userSidecars.map (withStorageMounts storageSpec true)

def templateVolumes (configMapName : String) : List Volume :=
  (buildVolumes storageSpec).1 ++
    [⟨configMapVolumeName, .configMap ⟨configMapName, none⟩⟩, ⟨aerospikeConfigVolumeName, .emptyDir ⟨"", none⟩⟩]

/-! ## Settings of the pod -/

/-- `applyPodSpecSettings`, apart from the affinity. -/
def applyPodSpecSettings (podSpec : PodSpec) (spec : AerospikePodSpec) : PodSpec :=
  { podSpec with
    tolerations := if spec.tolerations.isEmpty then podSpec.tolerations else spec.tolerations
    nodeSelector := if spec.nodeSelector = ∅ then podSpec.nodeSelector else spec.nodeSelector
    securityContext := spec.securityContext <|> podSpec.securityContext
    serviceAccountName := if spec.serviceAccountName = "" then podSpec.serviceAccountName else spec.serviceAccountName
    dnsPolicy := if spec.dnsPolicy = "" then podSpec.dnsPolicy else spec.dnsPolicy
    hostNetwork := spec.hostNetwork || podSpec.hostNetwork
    imagePullSecrets := if spec.imagePullSecrets.isEmpty then podSpec.imagePullSecrets else spec.imagePullSecrets
    readinessGates := podSpec.readinessGates ++
      if spec.readinessGateEnabled = some true then [aerospikeReadinessGateConditionType] else []
    topologySpreadConstraints := if spec.topologySpreadConstraints.isEmpty then podSpec.topologySpreadConstraints
      else spec.topologySpreadConstraints
    priorityClassName := if spec.priorityClassName = "" then podSpec.priorityClassName else spec.priorityClassName }

/-- `applyRackPodSpecOverrides`, apart from the affinity. -/
def applyRackPodSpecOverrides (podSpec : PodSpec) (rackPod : RackPodSpec) : PodSpec :=
  { podSpec with
    tolerations := if rackPod.tolerations.isEmpty then podSpec.tolerations else rackPod.tolerations
    nodeSelector := if rackPod.nodeSelector = ∅ then podSpec.nodeSelector else rackPod.nodeSelector }

/-! ## The template -/

/-- The storage of a rack: its own where it has one, else that of the spec. -/
def effectiveStorage (rack : Option RackSpec) : Option AerospikeStorageSpec :=
  rack.bind (·.storage) <|> cluster.spec.storage

theorem effectiveStorage_some {cluster : AerospikeCluster} {rack : RackSpec} {storage : AerospikeStorageSpec}
    (h : rack.storage = some storage) : effectiveStorage cluster (some rack) = some storage := by
  simp [effectiveStorage, h]

theorem effectiveStorage_none {cluster : AerospikeCluster} {rack : RackSpec} (h : rack.storage = none) :
    effectiveStorage cluster (some rack) = cluster.spec.storage := by
  simp [effectiveStorage, h]

/-- The template, and the cluster and rack as its rendering leaves them. -/
structure Rendered where
  template : PodTemplateSpec
  cluster : AerospikeCluster
  rack : Option RackSpec

/-- The cluster with another object as `spec.podSpec.affinity`. -/
def AerospikeCluster.withAffinity (affinity : Option Affinity) : AerospikeCluster :=
  { cluster with spec := { cluster.spec with
    podSpec := cluster.spec.podSpec.map fun podSpec => { podSpec with affinity := affinity } } }

def RackSpec.withAffinity (rack : RackSpec) (affinity : Option Affinity) : RackSpec :=
  { rack with podSpec := rack.podSpec.map fun podSpec => { podSpec with affinity := affinity } }

/-- The pod with the settings of the cluster and then those of the rack. -/
def templatePodSpec (rack : Option RackSpec) (configMapName : String) : PodSpec :=
  let storageSpec := effectiveStorage cluster rack
  let podSpec : PodSpec :=
    { initContainers := templateInitContainers cluster storageSpec
      containers := templateContainers cluster storageSpec
      volumes := templateVolumes storageSpec configMapName
      terminationGracePeriodSeconds := some ((cluster.spec.podSpec.bind (·.terminationGracePeriodSeconds)).getD 60)
      automountServiceAccountToken := if cluster.externalServiceType.isSome then some true else none
      affinity := (renderAffinity cluster rack).current
      tolerations := []
      nodeSelector := ∅
      securityContext := none
      serviceAccountName := ""
      dnsPolicy := ""
      hostNetwork := false
      imagePullSecrets := []
      readinessGates := []
      topologySpreadConstraints := []
      priorityClassName := "" }
  let podSpec := match cluster.spec.podSpec with
    | some spec => applyPodSpecSettings podSpec spec
    | none => podSpec
  match rack.bind (·.podSpec) with
  | some rackPod => applyRackPodSpecOverrides podSpec rackPod
  | none => podSpec

/-- The template of a rack's pods. -/
def buildPodTemplateSpec (rack : Option RackSpec) (rackID : Int) (configMapName configHash : String) : Rendered where
  template :=
    { labels := templateLabels cluster rackID
      annotations := templateAnnotations cluster configHash
      spec := templatePodSpec cluster rack configMapName }
  cluster := cluster.withAffinity (renderAffinity cluster rack).cluster
  rack := rack.map (·.withAffinity (renderAffinity cluster rack).rack)

/-! ## Mounts -/

def PodSpec.mounts (podSpec : PodSpec) : List VolumeMount :=
  (podSpec.initContainers ++ podSpec.containers).flatMap (·.volumeMounts)

def AerospikeCluster.userMounts : List VolumeMount :=
  (cluster.userInitContainers ++ cluster.userSidecars).flatMap (·.volumeMounts)

end Acko
