/-
The parts of an AerospikeCluster and of its racks that the pod template is rendered from and that an
update is admitted by, and the pod template. A slice or map that is nil and one that is empty are the
same here; an object that the operator carries along without reading it is its JSON text.
-/
import AckoProofs.Kube.Pod
import AckoProofs.Storage.Volume

namespace Acko

/-- An object that is carried along unread, as its JSON text. -/
abbrev RawJSON := String

/-! ## Affinity -/

inductive NodeSelectorOperator
  | opIn | opNotIn | opExists | opDoesNotExist | opGt | opLt
  deriving DecidableEq

structure NodeSelectorRequirement where
  key : String
  operator : NodeSelectorOperator
  values : List String
  deriving DecidableEq

/-- The requirements of a term are all to hold. -/
structure NodeSelectorTerm where
  matchExpressions : List NodeSelectorRequirement
  matchFields : List NodeSelectorRequirement
  deriving DecidableEq

/-- One of the terms is to hold. -/
structure NodeSelector where
  nodeSelectorTerms : List NodeSelectorTerm
  deriving DecidableEq

/-- `required` and `preferred` are the fields `…DuringSchedulingIgnoredDuringExecution`. -/
structure NodeAffinity where
  required : Option NodeSelector
  preferred : List (Int × NodeSelectorTerm)
  deriving DecidableEq

structure PodAffinityTerm where
  labelSelector : Option LabelSelector
  namespaces : List String
  topologyKey : String
  namespaceSelector : Option LabelSelector
  matchLabelKeys : List String
  mismatchLabelKeys : List String
  deriving DecidableEq

/-- `corev1.PodAffinity` and `corev1.PodAntiAffinity`. -/
structure PodAffinity where
  required : List PodAffinityTerm
  preferred : List (Int × PodAffinityTerm)
  deriving DecidableEq

structure Affinity where
  nodeAffinity : Option NodeAffinity
  podAffinity : Option PodAffinity
  podAntiAffinity : Option PodAffinity
  deriving DecidableEq

/-- The zero values that a Go composite literal starts from. -/
def NodeAffinity.empty : NodeAffinity := ⟨none, []⟩
def PodAffinity.empty : PodAffinity := ⟨[], []⟩
def Affinity.empty : Affinity := ⟨none, none, none⟩

structure Toleration where
  key : String
  operator : String
  value : String
  effect : String
  tolerationSeconds : Option Int
  deriving DecidableEq

/-! ## Containers -/

inductive EnvVarSource
  | fieldRef (fieldPath : String)
  | secretKeyRef (name key : String)
  | other (source : RawJSON)
  deriving DecidableEq

structure EnvVar where
  name : String
  value : String
  valueFrom : Option EnvVarSource
  deriving DecidableEq

def EnvVar.text (name value : String) : EnvVar := ⟨name, value, none⟩
def EnvVar.field (name fieldPath : String) : EnvVar := ⟨name, "", some (.fieldRef fieldPath)⟩

structure ContainerPort where
  name : String
  containerPort : Int
  protocol : String
  hostPort : Int
  hostIP : String
  deriving DecidableEq

def ContainerPort.tcp (name : String) (containerPort : Int) : ContainerPort := ⟨name, containerPort, "TCP", 0, ""⟩

structure ResourceRequirements where
  limits : StringMap
  requests : StringMap
  claims : List (String × String)
  deriving DecidableEq

def ResourceRequirements.empty : ResourceRequirements := ⟨∅, ∅, []⟩

inductive ProbeHandler
  | exec (command : List String)
  | httpGet (path : String) (port : Int)
  | other (handler : RawJSON)
  deriving DecidableEq

structure Probe where
  handler : ProbeHandler
  initialDelaySeconds : Int
  periodSeconds : Int
  timeoutSeconds : Int
  failureThreshold : Int
  deriving DecidableEq

inductive Lifecycle
  | preStopExec (command : List String)
  | other (lifecycle : RawJSON)
  deriving DecidableEq

/-- `corev1.Container` of a pod template; `rest` holds the fields that only a user's container sets. -/
structure TemplateContainer extends Container where
  command : List String
  ports : List ContainerPort
  env : List EnvVar
  resources : ResourceRequirements
  volumeMounts : List VolumeMount
  lifecycle : Option Lifecycle
  readinessProbe : Option Probe
  livenessProbe : Option Probe
  securityContext : Option RawJSON
  rest : Option RawJSON
  deriving DecidableEq

/-! ## The spec -/

structure AerospikeContainerSpec where
  resources : Option ResourceRequirements
  securityContext : Option RawJSON
  deriving DecidableEq

structure AerospikePodSpec where
  aerospikeContainerSpec : Option AerospikeContainerSpec
  sidecars : List TemplateContainer
  initContainers : List TemplateContainer
  imagePullSecrets : List String
  nodeSelector : StringMap
  tolerations : List Toleration
  affinity : Option Affinity
  securityContext : Option RawJSON
  serviceAccountName : String
  dnsPolicy : String
  hostNetwork : Bool
  multiPodPerHost : Option Bool
  terminationGracePeriodSeconds : Option Int
  topologySpreadConstraints : List RawJSON
  podManagementPolicy : Option PodManagementPolicy
  metadata : Option ObjectMeta
  readinessGateEnabled : Option Bool
  priorityClassName : String
  deriving DecidableEq

structure ServiceMonitorSpec where
  enabled : Bool
  interval : String
  labels : StringMap
  deriving DecidableEq

structure PrometheusRuleSpec where
  enabled : Bool
  labels : StringMap
  customRules : List RawJSON
  deriving DecidableEq

structure AerospikeMonitoringSpec where
  enabled : Bool
  exporterImage : String
  port : Int
  resources : Option ResourceRequirements
  env : List EnvVar
  metricLabels : StringMap
  serviceMonitor : Option ServiceMonitorSpec
  prometheusRule : Option PrometheusRuleSpec
  deriving DecidableEq

inductive ServiceType
  | clusterIP | nodePort | loadBalancer
  deriving DecidableEq

def ServiceType.text : ServiceType → String
  | .clusterIP => "ClusterIP"
  | .nodePort => "NodePort"
  | .loadBalancer => "LoadBalancer"

/-- `AerospikeServiceSpec`; an empty `serviceType` is `none`. -/
structure AerospikeServiceSpec where
  metadata : Option ObjectMeta
  serviceType : Option ServiceType
  deriving DecidableEq

inductive AerospikeNetworkType
  | pod | hostInternal | hostExternal | configuredIP
  deriving DecidableEq

structure AerospikeNetworkPolicy where
  accessType : Option AerospikeNetworkType
  alternateAccessType : Option AerospikeNetworkType
  fabricType : Option AerospikeNetworkType
  customAccessNetworkNames : List String
  customAlternateAccessNetworkNames : List String
  customFabricNetworkNames : List String
  deriving DecidableEq

structure AerospikeUserSpec where
  name : String
  secretName : String
  roles : List String
  deriving DecidableEq

/-- `AerospikeAccessControlSpec` as far as the template is rendered from it. -/
structure AerospikeAccessControlSpec where
  users : List AerospikeUserSpec
  deriving DecidableEq

structure BandwidthConfig where
  ingress : String
  egress : String
  deriving DecidableEq

structure RackPodSpec where
  affinity : Option Affinity
  tolerations : List Toleration
  nodeSelector : StringMap
  deriving DecidableEq

/-- A rack with what its pods are rendered from. -/
structure RackSpec where
  id : Int
  zone : String
  region : String
  nodeName : String
  rackLabel : String
  storage : Option AerospikeStorageSpec
  podSpec : Option RackPodSpec
  deriving DecidableEq

inductive OperationKind
  | warmRestart | podRestart
  deriving DecidableEq

structure OperationSpec where
  kind : OperationKind
  id : String
  podList : List String
  deriving DecidableEq

/-- `AerospikeClusterTemplateSpec` as far as the storage is concerned. -/
structure AerospikeClusterTemplateSpec where
  storage : Option TemplateStorage
  deriving DecidableEq

/-- `AerospikeClusterSpec`; `racks` are those of `rackConfig`, none where it is absent. -/
structure AerospikeClusterSpec where
  image : String
  storage : Option AerospikeStorageSpec
  racks : List RackSpec
  aerospikeNetworkPolicy : Option AerospikeNetworkPolicy
  podSpec : Option AerospikePodSpec
  aerospikeAccessControl : Option AerospikeAccessControlSpec
  monitoring : Option AerospikeMonitoringSpec
  bandwidthConfig : Option BandwidthConfig
  k8sNodeBlockList : List String
  podService : Option AerospikeServiceSpec
  operations : List OperationSpec
  templateRef : Option String
  overrides : Option AerospikeClusterTemplateSpec
  deriving DecidableEq

structure AerospikeCluster where
  name : String
  spec : AerospikeClusterSpec
  deriving DecidableEq

/-! ## The pod template -/

/-- `corev1.PodSpec` as far as the operator writes it. -/
structure PodSpec where
  initContainers : List TemplateContainer
  containers : List TemplateContainer
  volumes : List Volume
  terminationGracePeriodSeconds : Option Int
  automountServiceAccountToken : Option Bool
  affinity : Option Affinity
  tolerations : List Toleration
  nodeSelector : StringMap
  securityContext : Option RawJSON
  serviceAccountName : String
  dnsPolicy : String
  hostNetwork : Bool
  imagePullSecrets : List String
  readinessGates : List String
  topologySpreadConstraints : List RawJSON
  priorityClassName : String
  deriving DecidableEq

structure PodTemplateSpec where
  labels : StringMap
  annotations : StringMap
  spec : PodSpec
  deriving DecidableEq

/-! ## Plain objects -/

def AerospikePodSpec.empty : AerospikePodSpec :=
  ⟨none, [], [], [], ∅, [], none, none, "", "", false, none, none, [], none, none, none, ""⟩

def RackSpec.bare (id : Int) : RackSpec := ⟨id, "", "", "", "", none, none⟩

def AerospikeCluster.bare (name image : String) : AerospikeCluster :=
  ⟨name, ⟨image, none, [], none, none, none, none, none, [], none, [], none, none⟩⟩

end Acko
