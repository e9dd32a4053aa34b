/-
The network policies of a cluster, of Kubernetes and of Cilium: whom they admit to which port, and how
`reconcileNetworkPolicy` brings the one that the spec asks for about.
-/
import AckoProofs.Admission.Declared
import AckoProofs.Lib.Sync
import AckoProofs.Objects.Store
import AckoProofs.Pod.Container

namespace Acko

/-! ## The policy of Kubernetes -/

structure NetworkPolicyPort where
  protocol : String
  port : IntOrString
  deriving DecidableEq

def NetworkPolicyPort.tcp (port : Int) : NetworkPolicyPort := ⟨"TCP", .int port⟩

/-- An ingress rule; the peers are selected by their labels, and a rule without peers is for everyone. -/
structure NetworkPolicyIngressRule where
  ports : List NetworkPolicyPort
  peers : List LabelSelector
  deriving DecidableEq

structure NetworkPolicy where
  name : String
  labels : StringMap
  podSelector : LabelSelector
  policyTypes : List String
  ingress : List NetworkPolicyIngressRule

def networkPolicyName (clusterName : String) : String := clusterName ++ "-netpol"

variable (cluster : DeclaredCluster)

/-- `cluster.Spec.Monitoring != nil && cluster.Spec.Monitoring.Enabled`, with the port. -/
def DeclaredCluster.metricsPort : Option Int :=
  (cluster.spec.monitoring.filter (·.enabled)).map (·.port)

/-- Fabric and heartbeat only within the cluster. -/
def buildK8sNetworkPolicy (name : String) : NetworkPolicy where
  name := name
  labels := (labelsForCluster cluster.name).toMap
  podSelector := ⟨(selectorLabelsForCluster cluster.name).toMap, []⟩
  policyTypes := ["Ingress"]
  ingress :=
    [ -- Intra-cluster: fabric and heartbeat.
      ⟨[.tcp fabricPort, .tcp heartbeatPort], [⟨(selectorLabelsForCluster cluster.name).toMap, []⟩]⟩,
      -- Clients.
      ⟨[.tcp servicePort], []⟩ ] ++
    match cluster.metricsPort with
    | some port => [⟨[.tcp port], []⟩]
    | none => []

/-! ## The policy of Cilium -/

/-- An ingress rule of Cilium: the labels of its endpoints, and its ports as texts with their protocols. -/
structure CiliumIngressRule where
  fromEndpoints : List StringMap
  toPorts : List (String × String)
  deriving DecidableEq

structure CiliumNetworkPolicySpec where
  endpointSelector : StringMap
  ingress : List CiliumIngressRule
  deriving DecidableEq

def buildCiliumNetworkPolicySpec : CiliumNetworkPolicySpec where
  endpointSelector := (selectorLabelsForCluster cluster.name).toMap
  ingress :=
    [ ⟨[(selectorLabelsForCluster cluster.name).toMap],
      [(toString fabricPort, "TCP"), (toString heartbeatPort, "TCP")]⟩,
      ⟨[], [(toString servicePort, "TCP")]⟩ ] ++
    match cluster.metricsPort with
    | some port => [⟨[], [(toString port, "TCP")]⟩]
    | none => []

/-! ## Who is admitted -/

/-- What both kinds of rules say: labels of peers, everyone where there are none, and TCP ports. -/
structure IngressRule where
  peers : List StringMap
  ports : List String

/-- The pods with these labels may connect to the port. -/
def IngressRule.Admits (rule : IngressRule) (peer : StringMap) (port : String) : Prop :=
  port ∈ rule.ports ∧ (rule.peers = [] ∨ ∃ selector ∈ rule.peers,
    ∀ key value, selector.lookup key = some value → peer.lookup key = some value)

def NetworkPolicyPort.text (p : NetworkPolicyPort) : String :=
  match p.port with
  | .int port => toString port
  | .str name => name

def NetworkPolicy.rules (policy : NetworkPolicy) : List IngressRule :=
  policy.ingress.map fun rule => ⟨rule.peers.map (·.matchLabels), (rule.ports.filter (·.protocol = "TCP")).map (·.text)⟩

def CiliumNetworkPolicySpec.rules (spec : CiliumNetworkPolicySpec) : List IngressRule :=
  spec.ingress.map fun rule => ⟨rule.fromEndpoints, (rule.toPorts.filter (·.2 = "TCP")).map (·.1)⟩

/-- The rules of a cluster: its own pods on the fabric and heartbeat ports, everyone on the service port and
on the port of the metrics. -/
def DeclaredCluster.ingressRules : List IngressRule :=
  [ ⟨[(selectorLabelsForCluster cluster.name).toMap], [toString fabricPort, toString heartbeatPort]⟩,
    ⟨[], [toString servicePort]⟩ ] ++
  match cluster.metricsPort with
  | some port => [⟨[], [toString port]⟩]
  | none => []

theorem rules_buildK8sNetworkPolicy (name : String) :
    (buildK8sNetworkPolicy cluster name).rules = cluster.ingressRules := by
  unfold NetworkPolicy.rules buildK8sNetworkPolicy DeclaredCluster.ingressRules
  cases cluster.metricsPort <;> rfl

theorem rules_buildCiliumNetworkPolicySpec : (buildCiliumNetworkPolicySpec cluster).rules = cluster.ingressRules := by
  unfold CiliumNetworkPolicySpec.rules buildCiliumNetworkPolicySpec DeclaredCluster.ingressRules
  cases cluster.metricsPort <;> rfl

/-! ## Reconciling -/

structure StoredNetworkPolicy where
  policy : NetworkPolicy
  owner : Option String

/-- A CiliumNetworkPolicy as it is stored; the operator reads it as an unstructured object. -/
structure StoredCiliumPolicy where
  labels : StringMap
  owner : Option String
  spec : Option CiliumNetworkPolicySpec

structure Policies where
  k8s : Option StoredNetworkPolicy
  cilium : Option StoredCiliumPolicy

inductive PolicyRequest
  | k8s (change : Keyed.Change StoredNetworkPolicy)
  | cilium (change : Keyed.Change StoredCiliumPolicy)

def Policies.apply (policies : Policies) : PolicyRequest → Policies
  | .k8s change => { policies with k8s := change.on policies.k8s }
  | .cilium change => { policies with cilium := change.on policies.cilium }

/-- An error of a Get other than that there is no such object: the CRD is not installed, the access is denied, or
the call did not get through. -/
inductive GetError
  | noMatch (text : String)
  | forbidden (text : String)
  | other (text : String)

def GetError.text : GetError → String
  | .noMatch text => text
  | .forbidden text => text
  | .other text => text

abbrev PolicyPlan := Plan Policies PolicyRequest ApiError

def k8sNetworkPolicyChanged (existing desired : NetworkPolicy) : Bool :=
  !(existing.podSelector = desired.podSelector ∧ existing.policyTypes = desired.policyTypes ∧
    existing.ingress = desired.ingress) || existing.labels ≠ desired.labels

def ciliumPolicyChanged (existing : StoredCiliumPolicy) (spec : CiliumNetworkPolicySpec) (labels : StringMap) : Bool :=
  existing.spec ≠ some spec || existing.labels ≠ labels

/-- `reconcileK8sNetworkPolicy`, given what the Get answers. -/
def reconcileK8sNetworkPolicy (enabled : Bool)
    (existing : Except GetError (Option StoredNetworkPolicy)) : Except ApiError PolicyPlan :=
  let npName := networkPolicyName cluster.name
  let np := buildK8sNetworkPolicy cluster npName
  match existing with
  | .error e => if enabled then .error (.other ("getting NetworkPolicy " ++ npName ++ ": " ++ e.text)) else .ok .done
  | .ok existing =>
    let wanted := if enabled then some ⟨np, some cluster.uid⟩ else none
    .ok (Plan.sync .k8s unlessGone (fun e => k8sNetworkPolicyChanged e.policy np)
      (fun e => { e with policy := { np with name := e.policy.name } }) wanted existing)

/-- `reconcileCiliumNetworkPolicy`, given what the Get answers. -/
def reconcileCiliumNetworkPolicy (enabled : Bool)
    (existing : Except GetError (Option StoredCiliumPolicy)) : Except ApiError PolicyPlan :=
  let npName := networkPolicyName cluster.name
  let spec := buildCiliumNetworkPolicySpec cluster
  let labels := (labelsForCluster cluster.name).toMap
  match existing with
  | .error e =>
    if !enabled then .ok .done else
    match e with
    -- The CRD is not installed or not accessible: the policy is left out.
    | .noMatch _ => .ok .done
    | .forbidden _ => .ok .done
    | .other text => .error (.other ("getting CiliumNetworkPolicy " ++ npName ++ ": " ++ text))
  | .ok existing =>
    let wanted := if enabled then some ⟨labels, some cluster.uid, some spec⟩ else none
    .ok (Plan.sync .cilium unlessGone (fun e => ciliumPolicyChanged e spec labels)
      (fun e => { e with spec := some spec, labels := labels }) wanted existing)

namespace DeclaredCluster

def networkPolicyEnabled (cluster : DeclaredCluster) : Bool := cluster.spec.networkPolicyConfig.any (·.enabled)

def networkPolicyType (cluster : DeclaredCluster) : NetworkPolicyType :=
  (cluster.spec.networkPolicyConfig.bind (·.type)).getD .kubernetes

end DeclaredCluster

def answered {α : Type} (get : Option GetError) (existing : Option α) : Except GetError (Option α) :=
  match get with
  | some e => .error e
  | none => .ok existing

/-- Looks only at the kind that the spec names. -/
def reconcileNetworkPolicy (get : Option GetError) (policies : Policies) : Except ApiError PolicyPlan :=
  match cluster.networkPolicyType with
  | .cilium => reconcileCiliumNetworkPolicy cluster cluster.networkPolicyEnabled (answered get policies.cilium)
  | .kubernetes => reconcileK8sNetworkPolicy cluster cluster.networkPolicyEnabled (answered get policies.k8s)

end Acko
