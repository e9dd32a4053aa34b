/-
Template resolution as far as the config, the size, the image, the monitoring and the network policy of a
cluster are concerned: the overrides are merged over the template's snapshot, what the cluster leaves unset is
filled in from the result, and the outcome is checked once more. A template's config reaches the `service`
section, three keys of `network.heartbeat` and the entries of `namespaces`.
-/
import AckoProofs.Admission.Cluster
import AckoProofs.Lib.Merge
import AckoProofs.Template.Storage

namespace Acko

open DocTree
  (merge mergeValue wellKeyedFields_merge place Missing put wellKeyedFields wellKeyed wellKeyedFields_put wellKeyedList
  wellKeyed_of_lookup lookup_put)

/-! ## Merging the overrides over the template -/

mutual
/-- `deepMergeMapBaseFirst`, its loop on what is merged so far. -/
def deepMergeMapBaseFirst (result : Config) : Config → Config
  | [] => result
  | (k, v) :: override =>
    match mergedMaps (result.lookup k) v with
    | some merged => deepMergeMapBaseFirst (put result k (.map merged)) override
    | none => deepMergeMapBaseFirst (put result k v) override
/-- The recursion, taken where both values are maps. -/
def mergedMaps (baseVal : Option Value) : Value → Option Config
  | .map overrideMap => match baseVal with
    | some (.map baseMap) => some (deepMergeMapBaseFirst baseMap overrideMap)
    | _ => none
  | _ => none
end

mutual
theorem deepMergeMapBaseFirst_eq : ∀ base override : Config, deepMergeMapBaseFirst base override = merge base override
  | base, [] => by rw [deepMergeMapBaseFirst, merge]
  | base, (k, v) :: override => by
    have hvalue := mergedMaps_eq (base.lookup k) v
    rw [deepMergeMapBaseFirst, merge, ← hvalue]
    cases mergedMaps (base.lookup k) v with
    | some merged => exact deepMergeMapBaseFirst_eq _ override
    | none => exact deepMergeMapBaseFirst_eq _ override
theorem mergedMaps_eq : ∀ (baseVal : Option Value) (v : Value),
    ((mergedMaps baseVal v).map .map).getD v = mergeValue baseVal v
  | _, .leaf s => rfl
  | _, .list l => rfl
  | baseVal, .map m => by
    rcases baseVal with _ | (s | l | baseMap)
    · rfl
    · rfl
    · rfl
    · exact congrArg DocTree.map (deepMergeMapBaseFirst_eq baseMap m)
end

theorem wellKeyed_deepMergeMapBaseFirst (base override : ConfigMap) :
    wellKeyedFields (deepMergeMapBaseFirst base.entries override.entries) = true := by
  rw [deepMergeMapBaseFirst_eq]
  exact wellKeyedFields_merge base.distinct override.distinct

/-- The two merges agree; the override once more changes nothing; a path that leaves the override by a missing key
reads the base; and a scalar or a list of the override stands at its path. -/
theorem merge_laws (base override : ConfigMap) :
    let merged := DeepMerge base.entries override.entries
    deepMergeMapBaseFirst base.entries override.entries = merged ∧
    DeepMerge merged override.entries = merged ∧
    (∀ p, Missing p (.map override.entries) → place p (.map merged) = place p (.map base.entries)) ∧
    ∀ p v, (∀ m, v ≠ .map m) → place p (.map override.entries) = some v → place p (.map merged) = some v :=
  ⟨deepMergeMapBaseFirst_eq _ _, DocTree.merge_merge_self override.distinct,
    fun _ hmissing => DocTree.place_merge_of_missing override.distinct hmissing,
    fun _ _ hv hp => DocTree.place_merge_of_place hv override.distinct hp⟩

def nonEmptyMap (m : Option ConfigMap) : Option ConfigMap := m.filter fun m => !m.entries.isEmpty

/-- A map of the overrides over the template's; an empty one counts as unset. -/
def mergeTemplateMap (base override : Option ConfigMap) : Option ConfigMap :=
  match nonEmptyMap override with
  | some m => some ⟨deepMergeMapBaseFirst (base.getD .empty).entries m.entries,
      wellKeyed_deepMergeMapBaseFirst (base.getD .empty) m⟩
  | none => base

def mergeTemplateHeartbeatConfig (base override : Option TemplateHeartbeatConfig) : Option TemplateHeartbeatConfig :=
  match base, override with
  | none, override => override
  | some base, none => some base
  | some base, some override => some
    { mode := if override.mode ≠ "" then override.mode else base.mode
      interval := if override.interval ≠ 0 then override.interval else base.interval
      timeout := if override.timeout ≠ 0 then override.timeout else base.timeout }

def mergeTemplateNetworkConfig (base override : Option TemplateNetworkConfig) : Option TemplateNetworkConfig :=
  match base, override with
  | none, override => override
  | some base, none => some base
  | some base, some override => some
    { heartbeat := if override.heartbeat.isSome then mergeTemplateHeartbeatConfig base.heartbeat override.heartbeat
        else base.heartbeat }

/-- Section by section, the override wins. -/
def mergeTemplateAerospikeConfig (base override : Option TemplateAerospikeConfig) : Option TemplateAerospikeConfig :=
  match base, override with
  | none, override => override
  | some base, none => some base
  | some base, some override => some
    { namespaceDefaults := mergeTemplateMap base.namespaceDefaults override.namespaceDefaults
      service := mergeTemplateMap base.service override.service
      network := if override.network.isSome then mergeTemplateNetworkConfig base.network override.network
        else base.network }

/-- `MergeTemplateSpec`; the snapshot is there when it is called. -/
def ClusterTemplateSpec.mergeTemplateSpec (base : ClusterTemplateSpec) (override : Option ClusterTemplateSpec) :
    ClusterTemplateSpec :=
  match override with
  | none => base
  | some override =>
    { storage := override.storage <|> base.storage
      image := if override.image ≠ "" then override.image else base.image
      size := override.size <|> base.size
      aerospikeConfig := mergeTemplateAerospikeConfig base.aerospikeConfig override.aerospikeConfig
      monitoring := override.monitoring <|> base.monitoring
      aerospikeNetworkPolicy := override.aerospikeNetworkPolicy <|> base.aerospikeNetworkPolicy }

/-- The storage of the merged template is the one that the pod's model merges by itself. -/
theorem templateStorage_of_describes {spec : DeclaredSpec} {cluster : AerospikeCluster} (h : spec.Describes cluster)
    (snapshot : ClusterTemplateSpec) :
    templateStorage snapshot.toAerospikeClusterTemplateSpec cluster =
      spec.templateRef.bind fun _ => (snapshot.mergeTemplateSpec spec.overrides).storage := by
  unfold templateStorage
  rw [← h.templateRef, ← h.overrides]
  cases spec.overrides with
  | none => rfl
  | some overrides => rfl

/-! ## Filling in the config -/

/-- `getOrCreateSection`; what is not a map is replaced. -/
def getOrCreateSection (m : Config) (key : String) : Config := (m.section key).getD []

/-- The service section over the template's. -/
def applyServiceDefaults (service : Option ConfigMap) (config : Config) : Except String Config :=
  match nonEmptyMap service with
  | none => .ok config
  | some tmpl =>
    match config.lookup "service" with
    | some (.map existing) => .ok (put config "service" (.map (deepMergeMapBaseFirst tmpl.entries existing)))
    | some existing => .error ("aerospikeConfig.service has type " ++ Value.typeName existing ++
        ", expected map; refusing to overwrite with template defaults")
    | none => .ok (put config "service" (.map (deepMergeMapBaseFirst tmpl.entries [])))

/-- The values of the template's heartbeat section that count: a mode that is not empty and positive numbers. -/
def TemplateHeartbeatConfig.entries (hb : TemplateHeartbeatConfig) : Config :=
  (if hb.mode ≠ "" then [("mode", .leaf (.str hb.mode))] else []) ++
  (if 0 < hb.interval then [("interval", .leaf (.int hb.interval))] else []) ++
  if 0 < hb.timeout then [("timeout", .leaf (.int hb.timeout))] else []

def applyHeartbeatDefaults (network : Option TemplateNetworkConfig) (config : Config) : Config :=
  match network.bind (·.heartbeat) with
  | none => config
  | some hb =>
    let networkSection := getOrCreateSection config "network"
    let heartbeatSection := putDefaults (getOrCreateSection networkSection "heartbeat") hb.entries
    put config "network" (.map (put networkSection "heartbeat" (.map heartbeatSection)))

def namespaceWithDefaults (defaults : Config) : Value → Value
  | .map nsMap => .map (deepMergeMapBaseFirst defaults nsMap)
  | v => v

/-- Only keys the namespace lacks. -/
def applyNamespaceDefaults (defaults : Option ConfigMap) (config : Config) : Config :=
  match nonEmptyMap defaults with
  | none => config
  | some defaults =>
    match config.lookup "namespaces" with
    | some (.list nsList) =>
      put config "namespaces" (.list (nsList.map (namespaceWithDefaults defaults.entries)))
    | _ => config

def applyTemplateEntries (tmplConfig : TemplateAerospikeConfig) (config : Config) : Except String Config := do
  let config ← applyServiceDefaults tmplConfig.service config
  .ok (applyNamespaceDefaults tmplConfig.namespaceDefaults (applyHeartbeatDefaults tmplConfig.network config))

/-! ## Distinct keys -/

theorem wellKeyed_getOrCreateSection {m : Config} (h : wellKeyedFields m = true) (key : String) :
    wellKeyedFields (getOrCreateSection m key) = true := by
  unfold getOrCreateSection
  cases hs : m.section key with
  | none => rfl
  | some s => exact wellKeyed_section h hs

variable {config config' : Config} {tmplConfig : TemplateAerospikeConfig}

theorem applyServiceDefaults_eq_ok {service : Option ConfigMap}
    (h : applyServiceDefaults service config = .ok config') :
    nonEmptyMap service = none ∧ config' = config ∨ ∃ tmpl s, nonEmptyMap service = some tmpl ∧
      (config.lookup "service" = some (.map s) ∨ config.lookup "service" = none ∧ s = []) ∧
      config' = put config "service" (.map (merge tmpl.entries s)) := by
  unfold applyServiceDefaults at h
  split at h
  · rename_i hempty
    cases h
    exact Or.inl ⟨hempty, rfl⟩
  · rename_i tmpl htmpl
    refine Or.inr ⟨tmpl, ?_⟩
    split at h
    · rename_i s hs
      cases h
      exact ⟨s, htmpl, Or.inl hs, by rw [deepMergeMapBaseFirst_eq]⟩
    · cases h
    · rename_i hs
      cases h
      exact ⟨[], htmpl, Or.inr ⟨hs, rfl⟩, rfl⟩

theorem wellKeyed_heartbeatEntries (hb : TemplateHeartbeatConfig) : wellKeyedFields hb.entries = true := by
  unfold TemplateHeartbeatConfig.entries
  split <;> split <;> split <;> rfl

variable {network : Option TemplateNetworkConfig}

theorem wellKeyed_applyHeartbeatDefaults {config : Config} (h : wellKeyedFields config = true) :
    wellKeyedFields (applyHeartbeatDefaults network config) = true := by
  unfold applyHeartbeatDefaults
  split
  · exact h
  · rename_i hb hhb
    have hnet := wellKeyed_getOrCreateSection h "network"
    have hsec : wellKeyed (.map (putDefaults (getOrCreateSection (getOrCreateSection config "network") "heartbeat")
        hb.entries)) = true :=
      wellKeyed_putDefaults (wellKeyed_heartbeatEntries hb) (wellKeyed_getOrCreateSection hnet "heartbeat")
    have hnet' : wellKeyed (.map (put (getOrCreateSection config "network") "heartbeat" (.map
        (putDefaults (getOrCreateSection (getOrCreateSection config "network") "heartbeat") hb.entries)))) = true :=
      wellKeyedFields_put hsec hnet
    exact wellKeyedFields_put hnet' h

theorem wellKeyed_namespacesWithDefaults {defaults : ConfigMap} : ∀ {l : List Value}, wellKeyedList l = true →
    wellKeyedList (l.map (namespaceWithDefaults defaults.entries)) = true
  | [], _ => rfl
  | v :: l, h => by
    rw [wellKeyedList, Bool.and_eq_true] at h
    rw [List.map_cons, wellKeyedList, Bool.and_eq_true]
    refine ⟨?_, wellKeyed_namespacesWithDefaults h.2⟩
    cases v with
    | leaf s => exact h.1
    | list l => exact h.1
    | map nsMap => exact wellKeyed_deepMergeMapBaseFirst defaults ⟨nsMap, h.1⟩

theorem wellKeyed_applyNamespaceDefaults {defaults : Option ConfigMap} (h : wellKeyedFields config = true) :
    wellKeyedFields (applyNamespaceDefaults defaults config) = true := by
  unfold applyNamespaceDefaults
  split
  · exact h
  · rename_i defaults hdefaults
    split
    · rename_i nsList hns
      have hlist : wellKeyedList nsList = true := wellKeyed_of_lookup h hns
      have hlist' : wellKeyed (.list (nsList.map (namespaceWithDefaults defaults.entries))) = true :=
        wellKeyed_namespacesWithDefaults hlist
      exact wellKeyedFields_put hlist' h
    · exact h

theorem applyTemplateEntries_eq_ok (h : applyTemplateEntries tmplConfig config = .ok config') : ∃ mid,
      applyServiceDefaults tmplConfig.service config = .ok mid ∧
      config' =
        applyNamespaceDefaults tmplConfig.namespaceDefaults (applyHeartbeatDefaults tmplConfig.network mid) := by
  unfold applyTemplateEntries at h
  cases hsvc : applyServiceDefaults tmplConfig.service config with
  | error e =>
    rw [hsvc] at h
    cases h
  | ok mid =>
    rw [hsvc] at h
    cases h
    exact ⟨mid, rfl, rfl⟩

theorem wellKeyed_applyServiceDefaults {service : Option ConfigMap}
    (h : applyServiceDefaults service config = .ok config') (hkeys : wellKeyedFields config = true) :
    wellKeyedFields config' = true := by
  rcases applyServiceDefaults_eq_ok h with ⟨-, rfl⟩ | ⟨tmpl, s, -, hs, rfl⟩
  · exact hkeys
  · have hskeys : wellKeyedFields s = true := by
      rcases hs with hs | ⟨-, rfl⟩
      · exact wellKeyed_of_lookup hkeys hs
      · rfl
    have hmap : wellKeyed (.map (merge tmpl.entries s)) = true :=
      wellKeyedFields_merge tmpl.distinct hskeys
    exact wellKeyedFields_put hmap hkeys

theorem wellKeyed_applyTemplateEntries (h : applyTemplateEntries tmplConfig config = .ok config')
    (hkeys : wellKeyedFields config = true) : wellKeyedFields config' = true := by
  obtain ⟨mid, hmid, rfl⟩ := applyTemplateEntries_eq_ok h
  exact wellKeyed_applyNamespaceDefaults (wellKeyed_applyHeartbeatDefaults (wellKeyed_applyServiceDefaults hmid hkeys))

/-! ## The sections afterwards -/

def entriesOf (m : Option ConfigMap) : Config := (m.getD .empty).entries

theorem entriesOf_of_nonEmptyMap {m : Option ConfigMap} :
    (∀ m', nonEmptyMap m = some m' → entriesOf m = m'.entries) ∧ (nonEmptyMap m = none → entriesOf m = []) := by
  unfold nonEmptyMap entriesOf
  cases m with
  | none => exact ⟨fun m' h => (by cases h), fun _ => rfl⟩
  | some m =>
    rw [Option.filter_some]
    cases hempty : m.entries.isEmpty with
    | true => exact ⟨fun m' h => (by cases h), fun _ => List.isEmpty_iff.1 hempty⟩
    | false => exact ⟨fun m' h => (by cases h; rfl), fun h => (by cases h)⟩

theorem entriesOf_mergeTemplateMap (base override : Option ConfigMap) :
    entriesOf (mergeTemplateMap base override) = merge (entriesOf base) (entriesOf override) := by
  unfold mergeTemplateMap
  cases h : nonEmptyMap override with
  | none => rw [entriesOf_of_nonEmptyMap.2 h, merge]
  | some m =>
    rw [entriesOf_of_nonEmptyMap.1 m h]
    exact deepMergeMapBaseFirst_eq ..

def namespacesWithDefaults (defaults : Config) : Value → Value
  | .list nsList => .list (nsList.map (namespaceWithDefaults defaults))
  | v => v

theorem namespacesWithDefaults_nil {v : Value} (h : wellKeyed v = true) : namespacesWithDefaults [] v = v := by
  cases v with
  | leaf s => rfl
  | map m => rfl
  | list l =>
    have hsame : ∀ ns ∈ l, namespaceWithDefaults [] ns = id ns := by
      intro ns hns
      cases ns with
      | leaf s => rfl
      | list l => rfl
      | map nsMap =>
        rw [namespaceWithDefaults, deepMergeMapBaseFirst_eq, DocTree.merge_nil_left (DocTree.wellKeyed_of_mem h hns)]
        rfl
    rw [namespacesWithDefaults, List.map_congr_left hsame, List.map_id]

theorem lookup_applyHeartbeatDefaults {key : String} (hkey : key ≠ "network") :
    (applyHeartbeatDefaults network config).lookup key = config.lookup key := by
  unfold applyHeartbeatDefaults
  split
  · rfl
  · rw [lookup_put, if_neg hkey]

theorem lookup_applyNamespaceDefaults {defaults : Option ConfigMap} {config : Config}
    (hkeys : wellKeyedFields config = true) (key : String) :
    (applyNamespaceDefaults defaults config).lookup key = if key = "namespaces" then
      (config.lookup "namespaces").map (namespacesWithDefaults (entriesOf defaults)) else config.lookup key := by
  unfold applyNamespaceDefaults
  split
  · rename_i hempty
    rw [entriesOf_of_nonEmptyMap.2 hempty]
    split
    · rename_i hkey
      rw [hkey]
      cases hns : config.lookup "namespaces" with
      | none => rfl
      | some v => rw [Option.map_some, namespacesWithDefaults_nil (wellKeyed_of_lookup hkeys hns)]
    · rfl
  · rename_i m hm
    rw [entriesOf_of_nonEmptyMap.1 m hm]
    split
    · rename_i nsList hns
      rw [lookup_put, hns]
      rfl
    · rename_i hother
      split
      · rename_i hkey
        rw [hkey]
        cases hns : config.lookup "namespaces" with
        | none => rfl
        | some v =>
          cases v with
          | list l => exact absurd hns (hother l)
          | leaf s => rfl
          | map m => rfl
      · rfl

structure TemplatedConfig (tmplConfig : TemplateAerospikeConfig) (config config' : Config) : Prop where
  service : entriesOf tmplConfig.service = [] ∧ config'.lookup "service" = config.lookup "service" ∨
    ∃ s, (config.lookup "service" = some (.map s) ∨ config.lookup "service" = none ∧ s = []) ∧
      config'.lookup "service" = some (.map (merge (entriesOf tmplConfig.service) s))
  network : config'.lookup "network" = (applyHeartbeatDefaults tmplConfig.network config).lookup "network"
  namespaces : config'.lookup "namespaces" =
    (config.lookup "namespaces").map (namespacesWithDefaults (entriesOf tmplConfig.namespaceDefaults))

theorem applyHeartbeatDefaults_congr {config₁ config₂ : Config}
    (h : config₁.lookup "network" = config₂.lookup "network") :
    (applyHeartbeatDefaults network config₁).lookup "network" =
      (applyHeartbeatDefaults network config₂).lookup "network" := by
  unfold applyHeartbeatDefaults getOrCreateSection Config.section
  rw [h]
  split
  · exact h
  · rw [lookup_put, lookup_put, if_pos rfl, if_pos rfl]

theorem templatedConfig_of_apply (h : applyTemplateEntries tmplConfig config = .ok config')
    (hkeys : wellKeyedFields config = true) : TemplatedConfig tmplConfig config config' := by
  obtain ⟨mid, hmid, rfl⟩ := applyTemplateEntries_eq_ok h
  have hmidkeys := wellKeyed_applyServiceDefaults hmid hkeys
  have hlookup := @lookup_applyNamespaceDefaults tmplConfig.namespaceDefaults _
    (@wellKeyed_applyHeartbeatDefaults tmplConfig.network _ hmidkeys)
  have hother : ∀ key, key ≠ "service" → mid.lookup key = config.lookup key := by
    intro key hkey
    rcases applyServiceDefaults_eq_ok hmid with ⟨-, rfl⟩ | ⟨tmpl, s, -, -, rfl⟩
    · rfl
    · rw [lookup_put, if_neg hkey]
  refine ⟨?_, ?_, ?_⟩
  · rw [hlookup, if_neg (by decide), lookup_applyHeartbeatDefaults (by decide)]
    rcases applyServiceDefaults_eq_ok hmid with ⟨hempty, rfl⟩ | ⟨tmpl, s, htmpl, hs, rfl⟩
    · exact Or.inl ⟨entriesOf_of_nonEmptyMap.2 hempty, rfl⟩
    · refine Or.inr ⟨s, hs, ?_⟩
      rw [lookup_put, if_pos rfl, entriesOf_of_nonEmptyMap.1 tmpl htmpl]
  · rw [hlookup, if_neg (by decide)]
    exact applyHeartbeatDefaults_congr (hother "network" (by decide))
  · rw [hlookup, if_pos rfl, lookup_applyHeartbeatDefaults (by decide), hother "namespaces" (by decide)]

/-! ## The cluster -/

/-- Template values where the cluster has none. -/
def applyAerospikeConfig (tmplConfig : Option TemplateAerospikeConfig) (config : Option ConfigMap) :
    Except String (Option ConfigMap) :=
  match tmplConfig with
  | none => .ok config
  | some tmplConfig =>
    match h : applyTemplateEntries tmplConfig (config.getD .empty).entries with
    | .ok entries => .ok (some ⟨entries, wellKeyed_applyTemplateEntries h (config.getD .empty).distinct⟩)
    | .error e => .error e

def defaultExporterImage : String := "aerospike/aerospike-prometheus-exporter:1.16.1"
def defaultExporterPort : Int := 9145

/-- The whole section, with defaults. -/
def applyMonitoring (tmplMonitoring monitoring : Option AerospikeMonitoringSpec) : Option AerospikeMonitoringSpec :=
  match tmplMonitoring with
  | none => monitoring
  | some tmpl =>
    let m := monitoring.getD tmpl
    some <| if m.enabled then
      { m with
        exporterImage := if m.exporterImage = "" then defaultExporterImage else m.exporterImage
        port := if m.port = 0 then defaultExporterPort else m.port }
    else m

/-- The template fills what the spec leaves out. -/
def applyTemplate (tmpl : ClusterTemplateSpec) (spec : DeclaredSpec) : Except String DeclaredSpec := do
  let config ← applyAerospikeConfig tmpl.aerospikeConfig spec.aerospikeConfig
  .ok { spec with
    aerospikeConfig := config
    image := if spec.image = "" then tmpl.image else spec.image
    size := if spec.size = 0 then tmpl.size.getD 0 else spec.size
    monitoring := applyMonitoring tmpl.monitoring spec.monitoring
    aerospikeNetworkPolicy := spec.aerospikeNetworkPolicy <|> tmpl.aerospikeNetworkPolicy }

/-! ## The checks after it -/

def validateMergedNetworkTLSCE (config : Config) : List String := validateNetworkTLSCE "merged aerospikeConfig" config

/-- The enterprise-only keys of the `i`-th namespace. -/
def mergedNamespaceErrors (entry : Value) (i : Nat) : List String :=
  match entry.asMap with
  | none => []
  | some nsMap =>
    let nsName := ((nsMap.lookup "name").bind Value.asString).getD "<unknown>"
    enterpriseOnlyNamespaceKeys.flatMap fun (key, reason) => if (nsMap.lookup key).isSome then
      ["merged namespace[" ++ toString i ++ "] " ++ quoted nsName ++ ": '" ++ key ++ "' is not allowed (" ++ reason ++
        ")"]
      else []

/-- No enterprise key in the merged config. -/
def validateMergedConfigCE (config : Config) : List String :=
  (if (config.lookup "xdr").isSome then
    ["merged aerospikeConfig must not contain 'xdr' section (XDR is Enterprise-only)"] else []) ++
  (if (config.lookup "tls").isSome then
    ["merged aerospikeConfig must not contain 'tls' section (TLS is Enterprise-only)"] else []) ++
  validateMergedNetworkTLSCE config ++
  (match config.section "security" with
    | some secMap => enterpriseOnlySecurityKeys.flatMap fun (key, reason) => if (secMap.lookup key).isSome then
        ["merged aerospikeConfig.security." ++ key ++ " is not allowed in CE edition (" ++ reason ++ ")"] else []
    | none => []) ++
  (((config.lookup "namespaces").bind Value.asList).getD []).zipIdx.flatMap fun (entry, i) =>
    mergedNamespaceErrors entry i

/-- The edition's checks on the merged spec. -/
def validateMergedSpecCE (spec : DeclaredSpec) : List String :=
  (match enterpriseImage spec.image with
    | some .repository => ["merged spec.image " ++ quoted spec.image ++
        " references the enterprise repository (aerospike-server-enterprise)"]
    | some .edition => ["merged spec.image " ++ quoted spec.image ++ " is an Enterprise Edition image"]
    | none => []) ++
  (if spec.size < 1 ∨ maxCEClusterSize < spec.size then ["merged spec.size " ++ toString spec.size ++
    " must be between 1 and " ++ toString maxCEClusterSize ++ " (CE limit)"] else []) ++
  match spec.aerospikeConfig with
  | some config => validateMergedConfigCE config.entries
  | none => []

/-- `Resolve`, with the snapshot of the template once it has been fetched. -/
def resolve (snapshot : Option ClusterTemplateSpec) (cluster : DeclaredCluster) : Except String DeclaredCluster :=
  match cluster.spec.templateRef with
  | none => .ok cluster
  | some templateRef =>
    match snapshot with
    | none => .error ("template snapshot is missing or has no spec; cannot resolve template " ++ quoted templateRef)
    | some snapshot =>
      match applyTemplate (snapshot.mergeTemplateSpec cluster.spec.overrides) cluster.spec with
      | .error e => .error ("applying template " ++ quoted templateRef ++ " to cluster spec: " ++ e)
      | .ok spec =>
        if spec.image = "" then .error ("spec.image is required: neither the cluster spec nor template " ++
          quoted templateRef ++ " provides an image")
        else if spec.size = 0 then .error ("spec.size is required: neither the cluster spec nor template " ++
          quoted templateRef ++ " provides a size")
        else
          let errs := validateMergedSpecCE spec
          if errs.isEmpty then .ok { cluster with spec := spec }
          else .error ("resolved spec violates CE constraints after applying template " ++ quoted templateRef ++ ": " ++
            "; ".intercalate errs)

/-! ## What a resolved cluster is like -/

theorem applyAerospikeConfig_eq_ok {tmplConfig : Option TemplateAerospikeConfig} {config config' : Option ConfigMap}
    (h : applyAerospikeConfig tmplConfig config = .ok config') :
    applyTemplateEntries (tmplConfig.getD ⟨none, none, none⟩) (config.getD .empty).entries =
      .ok (config'.getD .empty).entries := by
  unfold applyAerospikeConfig at h
  split at h
  · cases h
    rfl
  · split at h
    · rename_i entries hentries
      cases h
      exact hentries
    · cases h

theorem applyTemplate_eq_ok {tmpl : ClusterTemplateSpec} {spec spec' : DeclaredSpec}
    (h : applyTemplate tmpl spec = .ok spec') :
    applyAerospikeConfig tmpl.aerospikeConfig spec.aerospikeConfig = .ok spec'.aerospikeConfig ∧
      spec'.size = (if spec.size = 0 then tmpl.size.getD 0 else spec.size) ∧ spec'.rackConfig = spec.rackConfig ∧
      spec'.maxUnavailable = spec.maxUnavailable := by
  unfold applyTemplate at h
  cases hconfig : applyAerospikeConfig tmpl.aerospikeConfig spec.aerospikeConfig with
  | error e =>
    rw [hconfig] at h
    cases h
  | ok config =>
    rw [hconfig] at h
    cases h
    exact ⟨rfl, rfl, rfl, rfl⟩

theorem resolve_eq_ok {snapshot : ClusterTemplateSpec} {cluster resolved : DeclaredCluster} {templateRef : String}
    (href : cluster.spec.templateRef = some templateRef) (h : resolve (some snapshot) cluster = .ok resolved) :
    applyTemplate (snapshot.mergeTemplateSpec cluster.spec.overrides) cluster.spec = .ok resolved.spec ∧
      resolved.name = cluster.name ∧ validateMergedSpecCE resolved.spec = [] := by
  unfold resolve at h
  rw [href] at h
  dsimp only at h
  split at h
  · cases h
  · rename_i spec hspec
    split at h
    · cases h
    · split at h
      · cases h
      · split at h
        · rename_i herrs
          cases h
          exact ⟨hspec, rfl, List.isEmpty_iff.1 herrs⟩
        · cases h

end Acko
