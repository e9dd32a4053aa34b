/-
The ports of a rack's nodes: what aerospike.conf sets, and what the probes, the container, the exporter, the
Services, the network policies and the operator's own client use. All but the file and the exporter's
environment are fixed; the file says the same exactly if the effective config of the rack has the operator's
ports, as a number or as a text.
-/
import AckoProofs.Conf.Injection
import AckoProofs.Conf.Render
import AckoProofs.Objects.NetworkPolicy
import AckoProofs.Objects.Services
import AckoProofs.Volumes.Script

namespace Acko

open Stanza (valuesOf under map mapAll words read)

open DocTree (wellKeyedFields mem_of_lookup nodup_keys leafAt wellKeyedFields_put)

/-! ## Ports in the file -/

/-- The words after `port` in a subsection of the network. -/
def confPorts (conf : List (Stanza (List String))) (sub : String) : List (List String) :=
  valuesOf "port" (under [sub] (under ["network"] conf))

/-- The port that a config gives a subsection of the network. -/
def portValue (config : Config) (sub : String) : Option Value :=
  ((config.section "network").bind (·.section sub)).bind (·.lookup "port")

/-- The values that an entry of a subsection is written with, a line for each: outside the heartbeat a nil is left out
and a list comes item by item; a map gives a block and no line. -/
def lineValues (sub : String) : Value → List Value
  | .map _ => []
  | .leaf s => if s = .nil ∧ sub ≠ "heartbeat" then [] else [.leaf s]
  | .list l => if sub = "heartbeat" then [.list l] else l.filter fun v => v.asMap.isNone

/-- Of the trees of a map's entries, only that of the key counts where the others give nothing. -/
theorem treeInOrder_flatMap {β : Type} {g : Stanza ConfLabel → List β} {m : Config} (hkeys : wellKeyedFields m = true)
    (key : String) (tree : String → Value → ConfTree) (hother : ∀ k w, k ≠ key → ∀ s ∈ tree k w, g s = []) :
    (treeInOrder (m.map fun e => (e.1, tree e.1 e.2))).flatMap g =
      (m.lookup key).elim [] fun v => (tree key v).flatMap g := by
  have hperm := List.perm_insertionSort (fun a b : String × ConfTree => a.1 ≤ b.1)
    (m.map fun e => (e.1, tree e.1 e.2))
  have hnodup : ((m.map fun e => (e.1, tree e.1 e.2)).map (·.1)).Nodup := by
    rw [List.map_map]
    exact nodup_keys hkeys
  have hrest : ∀ e ∈ (m.map fun e => (e.1, tree e.1 e.2)).insertionSort (·.1 ≤ ·.1), e.1 ≠ key →
      e.2.flatMap g = [] := by
    intro e he hne
    obtain ⟨⟨k, w⟩, -, rfl⟩ := List.mem_map.1 (hperm.mem_iff.1 he)
    exact List.flatMap_eq_nil_iff.2 (hother k w hne)
  rw [treeInOrder, ← List.flatMap_def, List.flatMap_assoc]
  cases h : m.lookup key with
  | none =>
    refine List.flatMap_eq_nil_iff.2 fun e he => hrest e he fun heq => ?_
    obtain ⟨⟨k, w⟩, hmem, rfl⟩ := List.mem_map.1 (hperm.mem_iff.1 he)
    cases heq
    exact not_mem_of_lookup h w hmem
  | some v =>
    have hmem : (key, tree key v) ∈ m.map fun e => (e.1, tree e.1 e.2) :=
      List.mem_map.2 ⟨(key, v), mem_of_lookup h, rfl⟩
    exact Keyed.flatMap_of_key ((hperm.map _).nodup_iff.2 hnodup) (hperm.mem_iff.2 hmem) hrest

theorem under_of_ne {key : String} {s : Stanza ConfLabel} (h : s.label.key ≠ key) :
    under [key] [s.map ConfLabel.words] = [] := by
  cases s with
  | line label => rfl
  | block label body =>
    have hne : label.words ≠ [key] := fun heq => h (List.cons.inj heq).1
    simp [under, map, hne]

theorem under_block (key : String) (body : ConfTree) :
    under [key] [(Stanza.block ⟨key, none⟩ body).map ConfLabel.words] = mapAll ConfLabel.words body := by
  have hwords : ConfLabel.words ⟨key, none⟩ = [key] := rfl
  simp [under, map, hwords]

theorem valuesOf_of_ne {key : String} {s : Stanza ConfLabel} (h : s.label.key ≠ key) :
    valuesOf key [s.map ConfLabel.words] = [] := by
  cases s with
  | line label =>
    have hne : label.key ≠ key := h
    simp [valuesOf, map, ConfLabel.words, hne]
  | block label body => rfl

theorem valuesOf_keyStanza (key : String) (v : Value) :
    valuesOf key [(keyStanza key v).map ConfLabel.words] = [words (formatValue v)] := by
  simp [valuesOf, map, ConfLabel.words, keyStanza]

/-! ## Keys of the trees -/

theorem key_itemTree (ns : Bool) (key : String) (v : Value) : (itemTree ns key v).label.key = key := by
  cases v <;> (rw [itemTree]; rfl)

theorem key_itemsTree (ns : Bool) (key : String) : ∀ (l : List Value), ∀ s ∈ itemsTree ns key l, s.label.key = key
  | [], s, hs => by
    rw [itemsTree] at hs
    cases hs
  | v :: l, s, hs => by
    rw [itemsTree] at hs
    rcases List.mem_cons.1 hs with rfl | hs
    · exact key_itemTree ns key v
    · exact key_itemsTree ns key l s hs

theorem key_entryTree (key : String) (v : Value) : ∀ s ∈ entryTree false key v, s.label.key = key := by
  intro s hs
  cases v with
  | leaf x =>
    rw [entryTree] at hs
    split at hs
    · cases hs
    · rw [List.mem_singleton.1 hs]
      rfl
  | map m =>
    rw [entryTree, if_neg (by simp)] at hs
    rw [List.mem_singleton.1 hs]
    rfl
  | list l =>
    rw [entryTree, if_neg (by simp)] at hs
    exact key_itemsTree false key l s hs

theorem fieldsTree_eq_map (ns : Bool) : ∀ m : Config, fieldsTree ns m = m.map fun e => (e.1, entryTree ns e.1 e.2)
  | [] => by rw [fieldsTree, List.map_nil]
  | (k, v) :: m => by rw [fieldsTree, fieldsTree_eq_map ns m, List.map_cons]

theorem key_networkEntryTree (key : String) (v : Value) : (networkEntryTree key v).label.key = key := by
  cases v <;> rfl

/-! ## The port of a subsection -/

section Lookup

variable {seeds : List String} {config net m : Config}

theorem under_network (hkeys : wellKeyedFields config = true) :
    under ["network"] (mapAll ConfLabel.words (confTree config seeds)) =
      (config.section "network").elim [] fun net =>
        under ["network"] [(networkTree seeds net).map ConfLabel.words] := by
  rw [Stanza.under_mapAll, confTree_eq, treeInOrder_flatMap hkeys "network" (sectionTree seeds)]
  · rw [Config.section]
    cases config.lookup "network" with
    | none => rfl
    | some v =>
      cases v with
      | leaf s => cases s <;> rfl
      | list l => rfl
      | map net => exact List.flatMap_singleton _ _
  · intro k v hne x hx
    refine under_of_ne ?_
    have hlabel : x.label ∈ topLabels k v := by
      rw [← label_sectionTree seeds]
      exact List.mem_map_of_mem hx
    rcases key_of_mem_topLabels hlabel with hkey | hkey
    · rw [hkey]
      exact hne
    · rw [hkey]
      decide

def subsectionTree (seeds : List String) (sub : String) (v : Value) : Stanza ConfLabel :=
  if sub = "heartbeat" then heartbeatTree (v.asMap.getD []) seeds else networkEntryTree sub v

theorem key_subsectionTree (sub : String) (v : Value) : (subsectionTree seeds sub v).label.key = sub := by
  unfold subsectionTree
  split
  · rename_i h
    rw [h]
    rfl
  · exact key_networkEntryTree sub v

theorem under_subsection (hkeys : wellKeyedFields net = true) (sub : String) :
    under [sub] (under ["network"] [(networkTree seeds net).map ConfLabel.words]) =
      (net.lookup sub).elim [] fun v => under [sub] [(subsectionTree seeds sub v).map ConfLabel.words] := by
  have htree : networkTree seeds net =
      .block ⟨"network", none⟩ (treeInOrder (net.map fun e => (e.1, [subsectionTree seeds e.1 e.2]))) := rfl
  rw [htree, under_block, Stanza.under_mapAll,
    treeInOrder_flatMap hkeys sub (fun k w => [subsectionTree seeds k w])]
  · simp only [List.flatMap_singleton]
  · intro k w hne x hx
    rw [List.mem_singleton.1 hx]
    refine under_of_ne ?_
    rw [key_subsectionTree]
    exact hne

theorem valuesOf_items (l : List Value) :
    (itemsTree false "port" l).flatMap (fun s => valuesOf "port" [s.map ConfLabel.words]) =
      (l.filter fun v => v.asMap.isNone).map fun v => words (formatValue v) := by
  induction l with
  | nil =>
    rw [itemsTree]
    rfl
  | cons v l ih =>
    rw [itemsTree, List.flatMap_cons, ih]
    cases v with
    | leaf s =>
      rw [itemTree, valuesOf_keyStanza]
      rfl
    | list l =>
      rw [itemTree, valuesOf_keyStanza]
      rfl
    | map m =>
      rw [itemTree]
      rfl

theorem valuesOf_mapTree {sub : String} (hsub : sub ≠ "heartbeat") (hkeys : wellKeyedFields m = true) :
    valuesOf "port" (mapAll ConfLabel.words (mapTree m)) =
      (m.lookup "port").elim [] fun v => (lineValues sub v).map fun v => words (formatValue v) := by
  rw [Stanza.valuesOf_mapAll, mapTree, fieldsTree_eq_map, treeInOrder_flatMap hkeys "port"]
  · cases m.lookup "port" with
    | none => rfl
    | some v =>
      show (entryTree false "port" v).flatMap _ = _
      cases v with
      | leaf s =>
        by_cases hs : s = .nil
        · have hline : lineValues sub (.leaf s) = [] := if_pos ⟨hs, hsub⟩
          rw [entryTree, if_pos ⟨rfl, hs⟩, Option.elim_some, hline]
          rfl
        · have hline : lineValues sub (.leaf s) = [.leaf s] := if_neg fun h => hs h.1
          rw [entryTree, if_neg fun h => hs h.2, List.flatMap_singleton, valuesOf_keyStanza, Option.elim_some, hline]
          rfl
      | map m =>
        rw [entryTree, if_neg (by simp), List.flatMap_singleton]
        rfl
      | list l =>
        have hline : lineValues sub (.list l) = l.filter fun v => (Value.asMap v).isNone := if_neg hsub
        rw [entryTree, if_neg (by simp), valuesOf_items, Option.elim_some, hline]
  · intro k w hne x hx
    refine valuesOf_of_ne ?_
    rw [key_entryTree k w x hx]
    exact hne

theorem valuesOf_heartbeat (hkeys : wellKeyedFields m = true) :
    valuesOf "port" (under ["heartbeat"] [(heartbeatTree m seeds).map ConfLabel.words]) =
      (m.lookup "port").elim [] fun v => (lineValues "heartbeat" v).map fun v => words (formatValue v) := by
  let kept := m.filter fun e => e.1 ≠ "mesh-seed-address-port"
  have hkept : wellKeyedFields kept = true := DocTree.wellKeyedFields_filter _ hkeys
  have hport : kept.lookup "port" = m.lookup "port" :=
    DocTree.lookup_filter_key (fun k => decide (k ≠ "mesh-seed-address-port")) "port" m
  have hseeds : ∀ seeds : List String, (seeds.map fun seed => Stanza.line ⟨"mesh-seed-address-port", some seed⟩).flatMap
      (fun x => valuesOf "port" [x.map ConfLabel.words]) = [] := by
    intro seeds
    refine List.flatMap_eq_nil_iff.2 fun x hx => ?_
    obtain ⟨seed, -, rfl⟩ := List.mem_map.1 hx
    have hne : "mesh-seed-address-port" ≠ "port" := by decide
    exact valuesOf_of_ne hne
  have htree : heartbeatTree m seeds = .block ⟨"heartbeat", none⟩
      (treeInOrder (kept.map fun e => (e.1, [networkEntryTree e.1 e.2])) ++
        seeds.map fun seed => .line ⟨"mesh-seed-address-port", some seed⟩) := rfl
  rw [htree, under_block, Stanza.valuesOf_mapAll, List.flatMap_append, hseeds, List.append_nil,
    treeInOrder_flatMap hkept "port" (fun k w => [networkEntryTree k w]), hport]
  · cases m.lookup "port" with
    | none => rfl
    | some v =>
      show [networkEntryTree "port" v].flatMap _ = _
      rw [List.flatMap_singleton]
      cases v with
      | leaf s =>
        have hline : lineValues "heartbeat" (.leaf s) = [.leaf s] := if_neg fun h => h.2 rfl
        rw [Option.elim_some, hline]
        exact valuesOf_keyStanza "port" (.leaf s)
      | list l => exact valuesOf_keyStanza "port" (.list l)
      | map m => rfl
  · intro k w hne x hx
    rw [List.mem_singleton.1 hx]
    refine valuesOf_of_ne ?_
    rw [key_networkEntryTree]
    exact hne

theorem valuesOf_subsection {sub : String} {v : Value} (hkeys : DocTree.wellKeyed v = true) :
    valuesOf "port" (under [sub] [(subsectionTree seeds sub v).map ConfLabel.words]) =
      (v.asMap.bind (·.lookup "port")).elim [] fun v => (lineValues sub v).map fun v => words (formatValue v) := by
  unfold subsectionTree
  split
  · rename_i hsub
    subst hsub
    cases v with
    | leaf s => exact valuesOf_heartbeat rfl
    | list l => exact valuesOf_heartbeat rfl
    | map m => exact valuesOf_heartbeat hkeys
  · rename_i hsub
    cases v with
    | leaf s => rfl
    | list l => rfl
    | map m =>
      rw [networkEntryTree, under_block]
      exact valuesOf_mapTree hsub hkeys

/-- The ports that the file of a config has for a subsection. -/
theorem confPorts_confTree (hkeys : wellKeyedFields config = true) (sub : String) :
    confPorts (mapAll ConfLabel.words (confTree config seeds)) sub =
      (portValue config sub).elim [] fun v => (lineValues sub v).map fun v => words (formatValue v) := by
  rw [confPorts, under_network hkeys, portValue]
  cases hnet : config.section "network" with
  | none => rfl
  | some net =>
    have hnetkeys : wellKeyedFields net = true := wellKeyed_section hkeys hnet
    rw [Option.elim_some, under_subsection hnetkeys, Option.bind_some, Config.section]
    cases hsub : net.lookup sub with
    | none => rfl
    | some v =>
      rw [Option.elim_some, valuesOf_subsection (DocTree.wellKeyed_of_lookup hnetkeys hsub)]
      rfl

end Lookup

theorem lookups_of_leafAt {config : Config} {a b c : String} {s : Scalar}
    (h : leafAt [a, b, c] (.map config) = some s) : ∃ net m, config.lookup a = some (.map net) ∧
      net.lookup b = some (.map m) ∧ m.lookup c = some (.leaf s) := by
  simp only [DocTree.leafAt_cons, DocTree.leafAt_singleton] at h
  obtain ⟨net, ha, m, hb, hc⟩ := h
  exact ⟨net, m, ha, hb, hc⟩

variable {s t : Plan.Session Objects Request} {answer : Nat → Plan.Answer ApiError} {sub : String}
  {cluster : DeclaredCluster}

/-! ## The config that is rendered -/

theorem wellKeyed_putPlaceholder {m : Config} (h : wellKeyedFields m = true) (key : String)
    (type : Option AerospikeNetworkType) : wellKeyedFields (putPlaceholder m key type) = true := by
  unfold putPlaceholder
  split
  · unfold putIfAbsent
    split
    · exact h
    · exact wellKeyedFields_put rfl h
  · exact h

theorem wellKeyed_injectService {svc : Config} (h : wellKeyedFields svc = true) (policy : AerospikeNetworkPolicy)
    (type : Option ServiceType) : wellKeyedFields (injectService svc policy type).1 = true := by
  have hplain := wellKeyed_putPlaceholder (wellKeyed_putPlaceholder h "access-address" policy.accessType)
    "alternate-access-address" policy.alternateAccessType
  unfold injectService
  dsimp only
  split
  · exact DocTree.wellKeyedFields_filter _ (wellKeyedFields_put rfl hplain)
  · exact wellKeyedFields_put rfl (wellKeyedFields_put rfl hplain)
  · exact hplain

section Rendered

variable (cluster : DeclaredCluster) (rack : DeclaredRack)

theorem distinct_renderedConfig : wellKeyedFields (cluster.renderedConfig rack) = true := by
  have hkeys := distinct_configOf cluster rack
  rcases cluster.renderedConfig_cases rack with h | ⟨p, net, svc, hnet, hsvc, h⟩
  · rw [h]
    exact hkeys
  · rw [h]
    have hnetkeys := wellKeyed_section hkeys hnet
    have hinjected : DocTree.wellKeyed
        (.map (injectService svc p (cluster.spec.podService.bind (·.serviceType))).1) = true :=
      wellKeyed_injectService (wellKeyed_section hnetkeys hsvc) p _
    have hnet' : DocTree.wellKeyed (.map (DocTree.put net "service" (.map (injectService svc p
        (cluster.spec.podService.bind (·.serviceType))).1))) = true := wellKeyedFields_put hinjected hnetkeys
    exact wellKeyedFields_put hnet' hkeys

theorem portValue_renderedConfig (sub : String) :
    portValue (cluster.renderedConfig rack) sub = portValue (cluster.configOf rack) sub := by
  rcases cluster.renderedConfig_cases rack with h | ⟨p, net, svc, hnet, hsvc, h⟩
  · rw [h]
  · rw [Config.section_eq_some] at hnet hsvc
    rw [h]
    simp only [portValue, Config.section, DocTree.lookup_put, hnet]
    by_cases hsub : sub = "service"
    · subst hsub
      simp [hsvc, Value.asMap, DocTree.lookup_put, @lookup_injectService "port" (by decide)]
    · simp [Value.asMap, DocTree.lookup_put, hsub]

end Rendered

/-! ## Ports elsewhere -/

def wordAfter (flag : String) : List String → Option String
  | [] => none
  | w :: ws => if w = flag then ws.head? else wordAfter flag ws

/-- The port of an `asinfo` command. -/
def probePort (probe : Probe) : Option String :=
  match probe.handler with
  | .exec command => wordAfter "-p" (command.flatMap words)
  | _ => none

def containerPortOf (container : TemplateContainer) (name : String) : Option Int :=
  (container.ports.find? (·.name = name)).map (·.containerPort)

def Service.portOf (svc : Service) (name : String) : Option (Int × IntOrString) :=
  (svc.ports.find? (·.name = name)).map fun p => (p.port, p.targetPort)

/-- Clients reach the service port, the pods of the cluster reach the fabric and heartbeat ports, and no rule
is about another port but that of the metrics. -/
structure RulesAgree (cluster : DeclaredCluster) (rules : List IngressRule) (ports : String → Int) : Prop where
  clients : ∀ peer, ∃ rule ∈ rules, rule.Admits peer (toString (ports "service"))
  members : ∀ peer, carries (selectorLabelsForCluster cluster.name) peer = true → ∀ sub ∈ ["fabric", "heartbeat"],
    ∃ rule ∈ rules, rule.Admits peer (toString (ports sub))
  only : ∀ rule ∈ rules, ∀ port ∈ rule.ports, (∃ sub ∈ networkSubsections, port = toString (ports sub)) ∨
    ∃ metrics, cluster.metricsPort = some metrics ∧ port = toString metrics

/-- Every place has the ports of the file, by the names of the network's subsections. -/
structure PortsAgree (cluster : DeclaredCluster) (conf : List (Stanza (List String))) (ports : String → Int) :
    Prop where
  conf : ∀ sub ∈ networkSubsections, confPorts conf sub = [[toString (ports sub)]]
  container : ∀ full mounts, ∀ sub ∈ networkSubsections,
    containerPortOf (buildAerospikeContainer full mounts) sub = some (ports sub)
  liveness : ∀ full mounts, (buildAerospikeContainer full mounts).livenessProbe.bind probePort =
    some (toString (ports "service"))
  readiness : ∀ full mounts, (buildAerospikeContainer full mounts).readinessProbe.bind probePort =
    some (toString (ports "service"))
  exporter : ∀ monitoring, cluster.spec.monitoring = some monitoring → ∀ kubelet acl,
    variableValue kubelet (buildExporterSidecar monitoring acl).env "AS_PORT" = toString (ports "service")
  /-- The headless Service after a reconcile without an error. -/
  headless : ∀ answer s t, Plan.exec Objects.apply answer (reconcileHeadlessService cluster) s = (none, t) →
    ∃ svc, t.state.services.lookup (headlessServiceName cluster.name) = some svc ∧
      ∀ sub ∈ networkSubsections, svc.portOf sub = some (ports sub, .int (ports sub))
  /-- The Service of a pod has the service port and no port but these. -/
  podService : ∀ podService pod answer s t,
    Plan.exec Objects.apply answer (reconcilePodService cluster podService pod) s = (none, t) →
    ∃ svc, t.state.services.lookup (podServiceName pod) = some svc ∧
      svc.portOf "service" = some (ports "service", .int (ports "service")) ∧
      ∀ p ∈ svc.ports, p.name ∈ networkSubsections ∧ p.port = ports p.name ∧ p.targetPort = .int (ports p.name)
  networkPolicy : ∀ name, RulesAgree cluster (buildK8sNetworkPolicy cluster name).rules ports
  ciliumPolicy : RulesAgree cluster (buildCiliumNetworkPolicySpec cluster).rules ports
  client : Publish.getServicePort (cluster.spec.aerospikeConfig.map (·.entries)) = ports "service"

/-- The port that the operator assumes for a subsection. -/
def fixedPort (sub : String) : Int := (operatorFixedNetworkPorts.lookup sub).getD 0

/-! ## What is the same in every cluster -/

theorem containerPortOf_aerospike (full : AerospikeCluster) (mounts : List VolumeMount) (h : sub ∈ networkSubsections) :
    containerPortOf (buildAerospikeContainer full mounts) sub = some (fixedPort sub) :=
  networkSubsections_cases h rfl rfl rfl

theorem probePort_liveness : probePort buildLivenessProbe = some (toString (fixedPort "service")) := by decide

theorem probePort_readiness : probePort buildReadinessProbe = some (toString (fixedPort "service")) := by decide

theorem filter_adminEnv (acl : Option AerospikeAccessControlSpec) :
    (adminEnv acl).filter (·.name = "AS_PORT") = [] := by
  unfold adminEnv
  split <;> rfl

theorem filter_metricLabelsEnv (labels : StringMap) : (metricLabelsEnv labels).filter (·.name = "AS_PORT") = [] := by
  unfold metricLabelsEnv
  split <;> rfl

/-- The exporter's environment before `monitoring.env`. -/
def exporterEnv (monitoring : AerospikeMonitoringSpec) (acl : Option AerospikeAccessControlSpec) : List EnvVar :=
  [.text "AS_HOST" "127.0.0.1", .text "AS_PORT" (toString servicePort)] ++
    (adminEnv acl ++ metricLabelsEnv monitoring.metricLabels)

variable {monitoring : AerospikeMonitoringSpec}

theorem env_buildExporterSidecar (acl : Option AerospikeAccessControlSpec) :
    (buildExporterSidecar monitoring acl).env = exporterEnv monitoring acl ++ monitoring.env := by
  rw [buildExporterSidecar, exporterEnv]
  simp only [List.append_assoc]

theorem variableValue_exporterEnv (kubelet : Kubelet) (acl : Option AerospikeAccessControlSpec) :
    variableValue kubelet (exporterEnv monitoring acl) "AS_PORT" = toString (fixedPort "service") := by
  unfold exporterEnv
  rcases variableValue_last kubelet [.text "AS_HOST" "127.0.0.1", .text "AS_PORT" (toString servicePort)] "AS_PORT"
    (adminEnv acl ++ metricLabelsEnv monitoring.metricLabels) with ⟨-, hvalue⟩ | ⟨v, vars, hlast, -⟩
  · rw [hvalue]
    exact value_referenceFree kubelet _ (v := .text "AS_PORT" (toString servicePort)) (by decide) (by decide)
  · rw [List.filter_append, filter_adminEnv, filter_metricLabelsEnv] at hlast
    cases hlast

/-- A kubelet that has nothing behind a reference gives no value but the one that is written. -/
theorem value_of_bare {vars : List (String × String)} {v : EnvVar} {port : String} (hport : port ≠ "")
    (hfree : '$' ∉ v.value.toList) (h : Kubelet.value ⟨fun _ => "", []⟩ vars v = port) : v.value = port := by
  by_cases hempty : v.value = ""
  · rw [Kubelet.value, if_neg (not_not.2 hempty)] at h
    cases hfrom : v.valueFrom <;> rw [hfrom] at h <;> exact absurd h.symm hport
  · rwa [value_referenceFree _ _ hempty hfree] at h

/-- The exporter is left its port unless the last `AS_PORT` of `monitoring.env` is another one. -/
theorem exporter_port_iff (hplain : ∀ v ∈ monitoring.env, v.name = "AS_PORT" → '$' ∉ v.value.toList) :
    (∀ kubelet acl, variableValue kubelet (buildExporterSidecar monitoring acl).env "AS_PORT" =
        toString (fixedPort "service")) ↔
      ∀ v, (monitoring.env.filter (·.name = "AS_PORT")).getLast? = some v →
        v.value = toString (fixedPort "service") := by
  simp only [env_buildExporterSidecar]
  constructor
  · intro h v hv
    have hmem := List.mem_filter.1 (List.mem_of_getLast? hv)
    have hvalue := h ⟨fun _ => "", []⟩ none
    rcases variableValue_last ⟨fun _ => "", []⟩ (exporterEnv monitoring none) "AS_PORT" monitoring.env with
      ⟨hnone, -⟩ | ⟨w, vars, hw, hlast⟩
    · rw [hnone] at hv
      cases hv
    · cases hv.symm.trans hw
      rw [hlast] at hvalue
      exact value_of_bare (by decide) (hplain v hmem.1 (of_decide_eq_true hmem.2)) hvalue
  · intro h kubelet acl
    rcases variableValue_last kubelet (exporterEnv monitoring acl) "AS_PORT" monitoring.env with
      ⟨-, hvalue⟩ | ⟨v, vars, hlast, hvalue⟩
    · rw [hvalue, variableValue_exporterEnv]
    · have hport := h v hlast
      have hfree : v.value ≠ "" ∧ '$' ∉ v.value.toList := by
        rw [hport]
        decide
      rw [hvalue, value_referenceFree kubelet vars hfree.1 hfree.2, hport]

theorem service_of_reconcileService {kind name : String} {created : Service} {onCreate : ApiError → Option ApiError}
    {needsUpdate : Service → Bool} {updated : Service → Service} {P : Service → Prop} (hcreated : P created)
    (hupdated : ∀ existing, P (updated existing)) (hsame : ∀ existing, needsUpdate existing = false → P existing)
    (h : Plan.exec Objects.apply answer (reconcileService kind name created onCreate needsUpdate updated) s =
      (none, t)) :
    ∃ svc, t.state.services.lookup name = some svc ∧ P svc := by
  have hwp : Plan.wp Objects.apply (fun _ _ => True) (fun t => (∃ svc, t.services.lookup name = some svc ∧ P svc) ∧
      ∀ other, other ≠ name → t.services.lookup other = s.state.services.lookup other)
      (reconcileService kind name created onCreate needsUpdate updated) s.state :=
    wp_reconcileService (fun _ => trivial) (fun _ _ _ => trivial) hcreated hupdated hsame
  exact ((Plan.exec_sound hwp h).1 rfl).1

theorem headless_ports (h : Plan.exec Objects.apply answer (reconcileHeadlessService cluster) s = (none, t)) :
    ∃ svc, t.state.services.lookup (headlessServiceName cluster.name) = some svc ∧ svc.ports = headlessPorts := by
  refine service_of_reconcileService (P := fun svc => svc.ports = headlessPorts) rfl (fun _ => rfl) ?_ h
  intro existing hsame
  simp only [headlessServiceNeedsUpdate, Bool.or_eq_false_iff, decide_eq_false_iff_not, not_not] at hsame
  exact hsame.2

theorem podService_ports {podService : AerospikeServiceSpec} {pod : String}
    (h : Plan.exec Objects.apply answer (reconcilePodService cluster podService pod) s = (none, t)) :
    ∃ svc, t.state.services.lookup (podServiceName pod) = some svc ∧
      svc.ports = podServicePorts (podServiceType podService) := by
  refine service_of_reconcileService (P := fun svc => svc.ports = podServicePorts (podServiceType podService)) rfl
    (fun _ => rfl) ?_ h
  intro existing hsame
  simp only [podServiceNeedsUpdate, Bool.or_eq_false_iff, decide_eq_false_iff_not, not_not] at hsame
  exact hsame.2

theorem mem_podServicePorts {svcType : ServiceType} {p : ServicePort} (h : p ∈ podServicePorts svcType) :
    p.name ∈ networkSubsections ∧ p.port = fixedPort p.name ∧ p.targetPort = .int (fixedPort p.name) := by
  have hmem : p ∈
      [ServicePort.tcp "service" servicePort, .tcp "fabric" fabricPort, .tcp "heartbeat" heartbeatPort] := by
    unfold podServicePorts at h
    dsimp only at h
    split at h
    · exact h
    · rw [List.mem_singleton.1 h]
      exact List.mem_cons_self
  simp only [List.mem_cons, List.not_mem_nil, or_false] at hmem
  rcases hmem with rfl | rfl | rfl <;> decide

theorem rulesAgree_ingressRules (cluster : DeclaredCluster) : RulesAgree cluster cluster.ingressRules fixedPort := by
  refine ⟨fun peer => ?_, fun peer hpeer sub hsub => ?_, fun rule hrule port hport => ?_⟩
  · exact ⟨_, List.mem_append_left _ (List.mem_cons_of_mem _ List.mem_cons_self), List.mem_singleton_self _, Or.inl rfl⟩
  · have hport : toString (fixedPort sub) ∈ [toString fabricPort, toString heartbeatPort] := by
      simp only [List.mem_cons, List.not_mem_nil, or_false] at hsub
      rcases hsub with rfl | rfl <;> decide
    refine ⟨_, List.mem_append_left _ List.mem_cons_self, hport, Or.inr ⟨_, List.mem_singleton_self _, ?_⟩⟩
    intro key value hkey
    rw [lookup_toMap] at hkey
    exact carries_eq_true.1 hpeer key value (mem_of_lookup hkey)
  · unfold DeclaredCluster.ingressRules at hrule
    simp only [List.mem_append, List.mem_cons, List.not_mem_nil, or_false] at hrule
    rcases hrule with (rfl | rfl) | hrule
    · refine Or.inl ?_
      simp only [List.mem_cons, List.not_mem_nil, or_false] at hport
      rcases hport with rfl | rfl
      · exact ⟨"fabric", by decide, rfl⟩
      · exact ⟨"heartbeat", by decide, rfl⟩
    · exact Or.inl ⟨"service", by decide, List.mem_singleton.1 hport⟩
    · cases hmetrics : cluster.metricsPort with
      | none =>
        rw [hmetrics] at hrule
        cases hrule
      | some metrics =>
        rw [hmetrics] at hrule
        rw [List.mem_singleton.1 hrule] at hport
        exact Or.inr ⟨metrics, rfl, List.mem_singleton.1 hport⟩

/-- The client's port is read from the cluster's own config, without the digits after the point. -/
theorem getServicePort_of_admitted {others : OtherChecks} {user : DeclaredCluster}
    (h : admitCluster others user = .ok cluster) :
    Publish.getServicePort (cluster.spec.aerospikeConfig.map (·.entries)) = fixedPort "service" := by
  obtain ⟨config, hconfig, hports⟩ := clusterPort_of_admitted h
  obtain ⟨s, hs, -, hextract⟩ := hports "service" servicePort (by decide)
  obtain ⟨net, m, hnet, hsvc, hport⟩ := lookups_of_leafAt hs
  have hread : Publish.intFromAny Publish.defaultAeroPort (.leaf s) = servicePort := by
    cases s with
    | nil => cases hextract
    | bool b => cases hextract
    | str t => cases hextract
    | int i =>
      simp only [extractPort] at hextract
      split at hextract
      · cases hextract
      · exact Except.ok.inj hextract
    | float mantissa e =>
      simp only [extractPort] at hextract
      split at hextract
      · cases hextract
      · have hint := Except.ok.inj hextract
        unfold intOfFloat at hint
        dsimp only at hint
        split at hint
        · exact hint
        · exact absurd hint (by decide)
  rw [hconfig, Option.map_some]
  unfold Publish.getServicePort
  rw [Option.getD_some, Config.get, hnet]
  simp only [Option.getD_some, hsvc, hport]
  exact hread

/-! ## A rack with the operator's ports -/

/-- Each subsection of the rack's effective config has one line with a port, which says the operator's, and the last
`AS_PORT` that is set for the exporter is the operator's too. -/
structure OperatorPorts (cluster : DeclaredCluster) (rack : DeclaredRack) : Prop where
  ports : ∀ sub ∈ networkSubsections, ∃ v, portValue (cluster.configOf rack) sub = some v ∧
    (lineValues sub v).map (fun v => words (formatValue v)) = [[toString (fixedPort sub)]]
  exporter : ∀ monitoring, cluster.spec.monitoring = some monitoring →
    ∀ v, (monitoring.env.filter (·.name = "AS_PORT")).getLast? = some v → v.value = toString (fixedPort "service")

theorem plainText_allPodNames (hname : isDNSLabel cluster.name = true) :
    ∀ pod ∈ cluster.allPodNames, plainText pod = true := by
  intro pod hpod
  unfold DeclaredCluster.allPodNames at hpod
  obtain ⟨⟨rack, i⟩, -, hpod⟩ := List.mem_flatMap.1 hpod
  obtain ⟨ordinal, -, rfl⟩ := List.mem_map.1 hpod
  unfold podName statefulSetName
  simp only [plainText_append]
  exact ⟨⟨⟨⟨plainText_dnsLabel hname, by decide⟩, plainText_int rack.id⟩, by decide⟩, plainText_nat ordinal⟩

theorem read_rackConf {rack : DeclaredRack} {namespace_ text : String}
    (hfits : FitsLines (confTree (cluster.renderedConfig rack) [])) (hname : isDNSLabel cluster.name = true)
    (hns : isDNSLabel namespace_ = true) (h : rackConf cluster rack namespace_ = .ok text) :
    read text = some (mapAll ConfLabel.words (confTree (cluster.renderedConfig rack)
      (cluster.allPodNames.map (meshSeed cluster.name namespace_ (meshSeedPort (cluster.renderedConfig rack)))))) := by
  unfold rackConf at h
  dsimp only at h
  generalize meshSeedPort (cluster.renderedConfig rack) = port at h ⊢
  cases hgen : generateConfForPod (cluster.renderedConfig rack) cluster.name namespace_ cluster.allPodNames port with
  | error e =>
    rw [hgen] at h
    cases h
  | ok t =>
    rw [hgen] at h
    cases h
    have hseeds : ∀ seed ∈ cluster.allPodNames.map (meshSeed cluster.name namespace_ port), plainText seed = true := by
      intro seed hseed
      obtain ⟨pod, hpod, rfl⟩ := List.mem_map.1 hseed
      unfold meshSeed
      simp only [plainText_append]
      exact ⟨⟨⟨plainText_allPodNames hname pod hpod, ⟨⟨⟨by decide, plainText_dnsLabel hname⟩, by decide⟩,
        plainText_dnsLabel hns⟩, by decide⟩, by decide⟩, plainText_int port⟩
    rw [generateConfForPod_eq hgen, read_layout, fitsLines_confTree hseeds]
    exact hfits

theorem headless_agrees (h : Plan.exec Objects.apply answer (reconcileHeadlessService cluster) s = (none, t)) :
    ∃ svc, t.state.services.lookup (headlessServiceName cluster.name) = some svc ∧
      ∀ sub ∈ networkSubsections, svc.portOf sub = some (fixedPort sub, .int (fixedPort sub)) := by
  obtain ⟨svc, hlook, hports⟩ := headless_ports h
  refine ⟨svc, hlook, fun sub hsub => ?_⟩
  rw [Service.portOf, hports]
  exact networkSubsections_cases hsub rfl rfl rfl

theorem podService_agrees {podService : AerospikeServiceSpec} {pod : String}
    (h : Plan.exec Objects.apply answer (reconcilePodService cluster podService pod) s = (none, t)) :
    ∃ svc, t.state.services.lookup (podServiceName pod) = some svc ∧
      svc.portOf "service" = some (fixedPort "service", .int (fixedPort "service")) ∧
      ∀ p ∈ svc.ports, p.name ∈ networkSubsections ∧ p.port = fixedPort p.name ∧
        p.targetPort = .int (fixedPort p.name) := by
  obtain ⟨svc, hlook, hports⟩ := podService_ports h
  refine ⟨svc, hlook, ?_, fun p hp => ?_⟩
  · rw [Service.portOf, hports]
    unfold podServicePorts
    dsimp only
    split <;> rfl
  · rw [hports] at hp
    exact mem_podServicePorts hp

def servicePortConfig (port : Scalar) : ConfigMap :=
  ⟨[("network", .map [("service", .map [("port", .leaf port)])])], rfl⟩

def portsRack (port : Option Scalar) : DeclaredRack := .plain 1 one_lt_idBound (port.map servicePortConfig)

def portsUser (port : Scalar) (rackPort : Option Scalar) : DeclaredCluster :=
  let cluster := DeclaredCluster.plain "db" "aerospike:ce-8.1.1.1" 1 [portsRack rackPort]
  { cluster with spec := { cluster.spec with
      aerospikeConfig := some (servicePortConfig port)
      monitoring := some ⟨true, "exporter:1.0", 9145, none, [], ∅, none, none⟩ } }

/-- The service port in the file of a rack, for a cluster that is admitted. -/
def servicePortRead (user : DeclaredCluster) (rack : DeclaredRack) : Option (List (List String)) :=
  match admitCluster .none user with
  | .ok cluster => match rackConf cluster rack "default" with
    | .ok text => (read text).map (confPorts · "service")
    | .error _ => none
  | .error _ => none

end Acko
