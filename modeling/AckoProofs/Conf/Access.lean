/-
The config that a rack's aerospike.conf is rendered from (`reconcileConfigMap` up to the rendering): the
rack's effective config, or a minimal one where there is none, with the access-address placeholders that
the init container resolves.
-/
import AckoProofs.Admission.Default
import AckoProofs.Conf.Generate
import AckoProofs.Status.Publish

namespace Acko

/-! ## Placeholders -/

def placeholderPodIP : String := "MY_POD_IP"
def placeholderNodeIP : String := "MY_NODE_IP"
def placeholderExternalAddress : String := "MY_EXTERNAL_ADDRESS"
def placeholderExternalPort : String := "MY_EXTERNAL_PORT"

/-- `placeholderForNetworkType`; `none` is the empty text. -/
def placeholderForNetworkType : Option AerospikeNetworkType → Option String
  | some .hostInternal | some .hostExternal => some placeholderNodeIP
  | some .pod => some placeholderPodIP
  | some .configuredIP | none => none

def AerospikeNetworkType.text : Option AerospikeNetworkType → String
  | some .pod => "pod"
  | some .hostInternal => "hostInternal"
  | some .hostExternal => "hostExternal"
  | some .configuredIP => "configuredIP"
  | none => ""

/-- The placeholder of a network type under a key that the user has not set. -/
def putPlaceholder (svcSection : Config) (key : String) (type : Option AerospikeNetworkType) : Config :=
  match placeholderForNetworkType type with
  | some placeholder => putIfAbsent svcSection key (.leaf (.str placeholder))
  | none => svcSection

/-- The warning that an address was replaced. -/
def describeAddressOverride (svcSection : Config) (userAddress : Option Value)
    (alternateAccessType : Option AerospikeNetworkType) (replacement : String) : List String :=
  match svcSection.lookup "alternate-access-address" with
  | none => []
  | some current =>
    if Value.asString current = some replacement then []
    else match userAddress with
      | some userAddress =>
          ["overrode network.service.alternate-access-address (" ++ Value.fmtV userAddress ++ ") with " ++
          replacement ++
            ": the per-pod service is the externally reachable endpoint, so the operator resolves the address from it"]
      | none =>
          ["overrode the alternate-access-address derived from spec.aerospikeNetworkPolicy.alternateAccessType=" ++
          AerospikeNetworkType.text alternateAccessType ++ " (" ++ Value.fmtV current ++ ") with " ++ replacement ++
          ": the per-pod service is the externally reachable endpoint, so it takes precedence over the network policy"]

def injectService (svcSection : Config) (policy : AerospikeNetworkPolicy) (podServiceType : Option ServiceType) :
    Config × List String :=
  let svc := putPlaceholder svcSection "access-address" policy.accessType
  let userAddress := svc.lookup "alternate-access-address"
  let svc := putPlaceholder svc "alternate-access-address" policy.alternateAccessType
  let oldPort := svc.lookup "alternate-access-port"
  match podServiceType with
  | some .loadBalancer =>
    -- The load balancer serves the service port itself, so no other port is advertised.
    ((DocTree.put svc "alternate-access-address" (.leaf (.str placeholderExternalAddress))).filter
        fun e => e.1 ≠ "alternate-access-port",
      describeAddressOverride svc userAddress policy.alternateAccessType placeholderExternalAddress ++
        match oldPort with
        | some old =>
            ["removed network.service.alternate-access-port (" ++ Value.fmtV old ++ "): a LoadBalancer per-pod " ++
            "service serves the service port, so an explicit alternate-access-port would advertise a port nothing " ++
            "listens on"]
        | none => [])
  | some .nodePort =>
    (DocTree.put (DocTree.put svc "alternate-access-address" (.leaf (.str placeholderNodeIP))) "alternate-access-port"
        (.leaf (.str placeholderExternalPort)),
      describeAddressOverride svc userAddress policy.alternateAccessType placeholderNodeIP ++
        match oldPort with
        | some old => if Value.asString old = some placeholderExternalPort then [] else
            ["overrode network.service.alternate-access-port (" ++ Value.fmtV old ++
              ") with the allocated nodePort: the " ++
              "operator creates the per-pod NodePort service, so the live service is the authority on its port"]
        | none => [])
  | _ => (svc, [])

/-- Placeholders for the init script to fill in. -/
def injectAccessAddressPlaceholders (config : Config) (policy : Option AerospikeNetworkPolicy)
    (podServiceType : Option ServiceType) : Config × List String :=
  match policy, config.section "network" with
  | some policy, some networkSection =>
    match networkSection.section "service" with
    | some svcSection =>
      let (svc, overrides) := injectService svcSection policy podServiceType
      (DocTree.put config "network" (.map (DocTree.put networkSection "service" (.map svc))), overrides)
    | none => (config, [])
  | _, _ => (config, [])

/-! ## What is rendered for a rack -/

def minimalConfig (clusterName : String) : Config :=
  [("service", .map [("cluster-name", .leaf (.str clusterName))]),
    ("network", .map
      [("service", .map [("address", .leaf (.str "any")), ("port", .leaf (.int servicePort))]),
        ("heartbeat", .map [("mode", .leaf (.str "mesh")), ("port", .leaf (.int heartbeatPort))]),
        ("fabric", .map [("address", .leaf (.str "any")), ("port", .leaf (.int fabricPort))])])]

namespace DeclaredCluster

variable (cluster : DeclaredCluster)

def configOf (rack : DeclaredRack) : Config :=
  match cluster.getEffectiveConfig rack with
  | some config => config.entries
  | none => minimalConfig cluster.name

def renderedConfig (rack : DeclaredRack) : Config :=
  (injectAccessAddressPlaceholders (cluster.configOf rack) cluster.spec.aerospikeNetworkPolicy
    (cluster.spec.podService.bind (·.serviceType))).1

def allPodNames : List String :=
  cluster.getRacks.zipIdx.flatMap fun (rack, i) =>
    (List.range (cluster.getRackSize cluster.getRacks i).toNat).map (podName (statefulSetName cluster.name rack.id))

end DeclaredCluster

def meshSeedPort (config : Config) : Int :=
  match (config.section "network").bind fun netCfg => netCfg.section "heartbeat" with
  | some hbCfg => match hbCfg.lookup "port" with
    | some port => Publish.intFromAny heartbeatPort port
    | none => heartbeatPort
  | none => heartbeatPort

/-- The text of a rack's aerospike.conf in a Kubernetes namespace, or the error of `reconcileConfigMap`. -/
def rackConf (cluster : DeclaredCluster) (rack : DeclaredRack) (namespace_ : String) : Except String String :=
  let config := cluster.renderedConfig rack
  (generateConfForPod config cluster.name namespace_ cluster.allPodNames (meshSeedPort config)).mapError
    ("generating aerospike.conf: " ++ ·)

/-! ## What the placeholders leave alone -/

def accessKeys : List String := ["access-address", "alternate-access-address", "alternate-access-port"]

theorem lookup_putPlaceholder {key other : String} (hne : other ≠ key) (m : Config)
    (type : Option AerospikeNetworkType) :
    (putPlaceholder m key type).lookup other = m.lookup other := by
  unfold putPlaceholder
  split
  · rw [lookup_putIfAbsent, if_neg fun h => hne h.1]
  · rfl

theorem lookup_injectService {key : String} (hkey : key ∉ accessKeys) (svc : Config) (policy : AerospikeNetworkPolicy)
    (type : Option ServiceType) : (injectService svc policy type).1.lookup key = svc.lookup key := by
  simp only [accessKeys, List.mem_cons, List.not_mem_nil, or_false, not_or] at hkey
  obtain ⟨haccess, haddress, hport⟩ := hkey
  have hplain : (putPlaceholder (putPlaceholder svc "access-address" policy.accessType) "alternate-access-address"
      policy.alternateAccessType).lookup key = svc.lookup key := by
    rw [lookup_putPlaceholder haddress, lookup_putPlaceholder haccess]
  unfold injectService
  dsimp only
  split
  · show List.lookup key (List.filter (fun e => decide (e.1 ≠ "alternate-access-port")) _) = _
    rw [DocTree.lookup_filter_key (fun k => decide (k ≠ "alternate-access-port")), if_pos (decide_eq_true hport),
      DocTree.lookup_put, if_neg haddress, hplain]
  · rw [DocTree.lookup_put, if_neg hport, DocTree.lookup_put, if_neg haddress, hplain]
  · exact hplain

theorem DeclaredCluster.renderedConfig_cases (cluster : DeclaredCluster) (rack : DeclaredRack) :
    cluster.renderedConfig rack = cluster.configOf rack ∨
      ∃ p net svc, (cluster.configOf rack).section "network" = some net ∧ net.section "service" = some svc ∧
        cluster.renderedConfig rack = DocTree.put (cluster.configOf rack) "network" (.map (DocTree.put net "service"
          (.map (injectService svc p (cluster.spec.podService.bind (·.serviceType))).1))) := by
  unfold DeclaredCluster.renderedConfig injectAccessAddressPlaceholders
  split
  · rename_i p net _ hnet
    split
    · rename_i svc hsvc
      exact Or.inr ⟨p, net, svc, hnet, hsvc, rfl⟩
    · exact Or.inl rfl
  · exact Or.inl rfl

end Acko
