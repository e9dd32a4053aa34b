/-
The Community Edition checks of a config map (`validateAerospikeConfig`) and their closure under the
merge of a rack's config over the cluster's. The warnings are left out. The errors that come from a Go
map with several offending keys are listed in the order the source declares the keys.
-/
import AckoProofs.Admission.Validate
import AckoProofs.Config.Map

namespace Acko

open DocTree (leafAt walk_cons_map walk wellKeyedFields merge lookup_merge_none mergeValue)

def maxCENamespaces : Nat := 2

/-! ## Network -/

def tlsKeyPrefix : String := "tls-"

/-- `strings.HasPrefix(key, tlsKeyPrefix)`. -/
def isTLSKey (key : String) : Bool := tlsKeyPrefix.toList.isPrefixOf key.toList

def tlsNetworkSubsections : List String := ["service", "heartbeat", "fabric"]

/-- No TLS in the network or its subsections. -/
def validateNetworkTLSCE (fieldPath : String) (config : Config) : List String :=
  match config.section "network" with
  | none => []
  | some netCfg =>
    (if (netCfg.lookup "tls").isSome then
      [fieldPath ++ ".network must not contain 'tls' section (TLS is Enterprise-only)"] else []) ++
    tlsNetworkSubsections.flatMap fun subsection =>
      match netCfg.section subsection with
      | none => []
      | some subMap => ((sortedKeys subMap).filter isTLSKey).map fun key =>
          fieldPath ++ ".network." ++ subsection ++ "." ++ key ++
            " is not allowed in CE edition (TLS is Enterprise-only)"

def heartbeatMode (config : Config) : Option String :=
  ((config.section "network").bind fun netCfg => netCfg.section "heartbeat").bind fun hbCfg =>
    (hbCfg.lookup "mode").bind Value.asString

/-! ## Namespaces -/

def enterpriseOnlyNamespaceKeys : List (String × String) :=
  [("compression", "data compression is Enterprise-only"), ("compression-level", "data compression is Enterprise-only"),
    ("durable-delete", "durable deletes is Enterprise-only"), ("fast-restart", "fast restart is Enterprise-only"),
    ("index-type", "index-type flash/pmem is Enterprise-only"),
    ("sindex-type", "sindex-type flash/pmem is Enterprise-only"),
    ("rack-id", "rack-id in namespace is Enterprise-only; use operator rackConfig instead"),
    ("strong-consistency", "strong consistency is Enterprise-only"),
    ("tomb-raider-eligible-age", "tomb-raider is Enterprise-only"),
    ("tomb-raider-period", "tomb-raider is Enterprise-only")]

/-- What is wrong with a replication factor, apart from the size of the cluster. -/
def replicationFactorProblem (rf : Value) : Option String :=
  let outside := some ("replication-factor must be between 1 and 4 (got " ++ rf.fmtV ++ ")")
  match rf with
  | .leaf (.int v) => if v < 1 ∨ 4 < v then outside else none
  | .leaf (.float m e) => if floatLt m e 1 || ltFloat 4 m e then outside else none
  | rf => some ("replication-factor must be an integer, got " ++ rf.typeName ++ " (" ++ rf.fmtV ++ ")")

/-- No enterprise key, and a factor in range. -/
def validateNamespaceConfig (nsMap : Config) (index : Nat) : List String :=
  let nsName := ((nsMap.lookup "name").bind Value.asString).getD "<unknown>"
  let place := "namespace[" ++ toString index ++ "] " ++ quoted nsName ++ ": "
  (enterpriseOnlyNamespaceKeys.flatMap fun (key, reason) => if (nsMap.lookup key).isSome then
    [place ++ "'" ++ key ++ "' is not allowed (" ++ reason ++ ")"] else []) ++
  match (nsMap.lookup "replication-factor").bind replicationFactorProblem with
  | some problem => [place ++ problem]
  | none => []

/-- The name of a namespace entry that counts for the test of duplicates. -/
def namespaceName (entry : Value) : Option String :=
  (entry.asMap.bind fun nsMap => (nsMap.lookup "name").bind Value.asString).filter (· ≠ "")

/-- The errors of the `i`-th namespace; `seen` are the names before it. -/
def namespaceErrors (seen : List String) (entry : Value) (i : Nat) : List String :=
  match entry.asMap with
  | none => ["aerospikeConfig.namespaces[" ++ toString i ++ "] must be a map, got " ++ entry.typeName]
  | some nsMap =>
    (if (nsMap.lookup "name").isNone then
      ["aerospikeConfig.namespaces[" ++ toString i ++ "] is missing required 'name' key"] else []) ++
    (match namespaceName entry with
      | some name => if name ∈ seen then ["aerospikeConfig.namespaces[" ++ toString i ++
          "]: duplicate namespace name " ++ quoted name ++ "; each namespace must have a unique name"] else []
      | none => []) ++
    validateNamespaceConfig nsMap i

def validateNamespaces : Value → List String
  | .list ns =>
    (if maxCENamespaces < ns.length then ["aerospikeConfig.namespaces count " ++ toString ns.length ++
      " exceeds CE maximum of " ++ toString maxCENamespaces] else []) ++
    ns.zipIdx.flatMap fun (entry, i) => namespaceErrors ((ns.take i).filterMap namespaceName) entry i
  | .map ns => ["aerospikeConfig.namespaces must be a list of namespace maps " ++
      "(e.g. [\x7bname: foo, ...\x7d, \x7bname: bar, ...\x7d]), got map with " ++ toString ns.length ++
      " entries; per-namespace validation cannot run on the map form"]
  | v => ["aerospikeConfig.namespaces must be a list of namespace maps (e.g. [\x7bname: foo, ...\x7d]), got " ++
      v.typeName]

/-! ## Security and logging -/

def enterpriseOnlySecurityKeys : List (String × String) :=
  [("tls", "TLS within the security stanza is Enterprise-only"), ("ldap", "LDAP authentication is Enterprise-only"),
    ("log", "security audit logging is Enterprise-only"), ("syslog", "security syslog sink is Enterprise-only")]

def enterpriseOnlyLoggingContexts : List (String × String) :=
  [("audit", "security audit context is Enterprise-only"),
    ("report-data-op", "data-op audit reporting is Enterprise-only"),
    ("report-data-op-user", "data-op-user audit reporting is Enterprise-only"),
    ("report-data-op-role", "data-op-role audit reporting is Enterprise-only"),
    ("report-sys-admin", "sys-admin audit reporting is Enterprise-only"),
    ("report-user-admin", "user-admin audit reporting is Enterprise-only"),
    ("report-violation", "violation audit reporting is Enterprise-only"),
    ("report-authentication", "authentication audit reporting is Enterprise-only")]

def validateSecuritySection : Value → List String
  | .map secMap => enterpriseOnlySecurityKeys.flatMap fun (key, reason) => if (secMap.lookup key).isSome then
      ["aerospikeConfig.security." ++ key ++ " is not allowed in CE edition (" ++ reason ++ ")"] else []
  | v => ["aerospikeConfig.security must be a map, got " ++ v.typeName]

def sinkErrors (entry : Value) (i : Nat) : List String :=
  let place := "aerospikeConfig.logging[" ++ toString i ++ "]"
  match entry with
  | .map logMap =>
    (match logMap.lookup "name" with
      | none => [place ++ " is missing the required 'name' key"]
      | some name => if (Value.asString name).getD "" = "" then
          [place ++ ".name must be a non-empty string, got " ++ Value.typeName name] else []) ++
    enterpriseOnlyLoggingContexts.flatMap fun (key, reason) => if (logMap.lookup key).isSome then
      [place ++ "." ++ key ++ " is not allowed in CE edition (" ++ reason ++ ")"] else []
  | v => [place ++ " must be a map, got " ++ v.typeName]

def validateLoggingSection : Value → List String
  | .list logs => logs.zipIdx.flatMap fun (entry, i) => sinkErrors entry i
  | v => ["aerospikeConfig.logging must be a list, got " ++ v.typeName]

/-! ## The map -/

def sectionErrors (config : Config) (key : String) (errors : Value → List String) : List String :=
  match config.lookup key with
  | some v => errors v
  | none => []

def mustBeMap (key : String) : Value → List String
  | .map _ => []
  | v => ["aerospikeConfig." ++ key ++ " must be a map, got " ++ v.typeName]

/-- The edition's checks, section by section. -/
def validateAerospikeConfig (config : Config) : List String :=
  sectionErrors config "xdr" (fun _ => ["aerospikeConfig must not contain 'xdr' section (XDR is Enterprise-only)"]) ++
  sectionErrors config "tls" (fun _ => ["aerospikeConfig must not contain 'tls' section (TLS is Enterprise-only)"]) ++
  validateNetworkTLSCE "aerospikeConfig" config ++
  sectionErrors config "namespaces" validateNamespaces ++
  sectionErrors config "security" validateSecuritySection ++
  sectionErrors config "service" (mustBeMap "service") ++
  sectionErrors config "network" (mustBeMap "network") ++
  sectionErrors config "logging" validateLoggingSection ++
  match (heartbeatMode config).filter (· ≠ "mesh") with
  | some mode => ["aerospikeConfig.network.heartbeat.mode must be 'mesh' for CE (got " ++ quoted mode ++
      "); multicast is Enterprise-only"]
  | none => []

/-! ## What a config without errors is like -/

variable {config base upper : Config} {key : String}

theorem sectionErrors_eq_nil {errors : Value → List String} :
    sectionErrors config key errors = [] ↔ ∀ v, config.lookup key = some v → errors v = [] := by
  unfold sectionErrors
  cases config.lookup key <;> simp

theorem mustBeMap_eq_nil {v : Value} : mustBeMap key v = [] ↔ ∃ m, v = .map m := by
  cases v <;> simp [mustBeMap]

theorem maps_of_validateNamespaces {v : Value} (h : validateNamespaces v = []) :
    ∃ l, v = .list l ∧ ∀ entry ∈ l, ∃ nsMap, entry = .map nsMap := by
  cases v with
  | leaf s => cases h
  | map m => cases h
  | list l =>
    refine ⟨l, rfl, fun entry hentry => ?_⟩
    rw [validateNamespaces, List.append_eq_nil_iff, List.flatMap_eq_nil_iff] at h
    obtain ⟨i, hi⟩ := List.mem_iff_getElem?.1 hentry
    have herrors := h.2 (entry, i) (List.mem_zipIdx_iff_getElem?.2 hi)
    cases entry with
    | leaf s => cases herrors
    | list l => cases herrors
    | map m => exact ⟨m, rfl⟩

theorem bannedKeys_eq_nil {keys : List (String × String)} {m : Config} {text : String × String → String} :
    (keys.flatMap fun key => if (m.lookup key.1).isSome then [text key] else []) = [] ↔
      ∀ key ∈ keys, m.lookup key.1 = none := by
  rw [List.flatMap_eq_nil_iff]
  refine forall₂_congr fun key _ => ?_
  cases m.lookup key.1 <;> simp

structure NoNetworkTLS (netCfg : Config) : Prop where
  tls : netCfg.lookup "tls" = none
  endpoints : ∀ sub ∈ tlsNetworkSubsections, ∀ subMap, netCfg.section sub = some subMap →
    ∀ key, isTLSKey key = true → subMap.lookup key = none

theorem validateNetworkTLSCE_eq_nil {fieldPath : String} :
    validateNetworkTLSCE fieldPath config = [] ↔ ∀ netCfg, config.section "network" = some netCfg →
      NoNetworkTLS netCfg := by
  unfold validateNetworkTLSCE
  cases config.section "network" with
  | none => simp
  | some netCfg =>
    have hsub : ∀ sub, (match netCfg.section sub with
        | none => []
        | some subMap => ((sortedKeys subMap).filter isTLSKey).map fun key =>
            fieldPath ++ ".network." ++ sub ++ "." ++ key ++ " is not allowed in CE edition (TLS is Enterprise-only)") =
          [] ↔
          ∀ subMap, netCfg.section sub = some subMap → ∀ key, isTLSKey key = true → subMap.lookup key = none := by
      intro sub
      cases netCfg.section sub with
      | none => simp
      | some subMap =>
        simp only [List.map_eq_nil_iff, List.filter_eq_nil_iff, mem_sortedKeys, Option.some.injEq, forall_eq']
        refine forall_congr' fun key => ?_
        cases subMap.lookup key <;> simp
    have htls : (if (netCfg.lookup "tls").isSome then
        [fieldPath ++ ".network must not contain 'tls' section (TLS is Enterprise-only)"] else []) = [] ↔
          netCfg.lookup "tls" = none := by
      cases netCfg.lookup "tls" <;> simp
    simp only [List.append_eq_nil_iff, List.flatMap_eq_nil_iff, hsub, htls, Option.some.injEq, forall_eq']
    exact ⟨fun h => ⟨h.1, h.2⟩, fun h => ⟨h.tls, h.endpoints⟩⟩

theorem validateSecuritySection_eq_nil {v : Value} :
    validateSecuritySection v = [] ↔ ∃ m, v = .map m ∧ ∀ key ∈ enterpriseOnlySecurityKeys, m.lookup key.1 = none := by
  cases v with
  | map m =>
    unfold validateSecuritySection
    rw [bannedKeys_eq_nil]
    simp
  | leaf s => simp [validateSecuritySection]
  | list l => simp [validateSecuritySection]

theorem heartbeatMode_eq_some {mode : String} : heartbeatMode config = some mode ↔
    leafAt ["network", "heartbeat", "mode"] (.map config) = some (.str mode) := by
  unfold heartbeatMode
  simp only [DocTree.leafAt_cons, DocTree.leafAt_singleton, Option.bind_eq_some_iff, Config.section_eq_some,
    Value.asString_eq_some, exists_eq_right]
  constructor
  · rintro ⟨hbCfg, ⟨netCfg, hnet, hhb⟩, hmode⟩
    exact ⟨netCfg, hnet, hbCfg, hhb, hmode⟩
  · rintro ⟨netCfg, hnet, hbCfg, hhb, hmode⟩
    exact ⟨hbCfg, ⟨netCfg, hnet, hhb⟩, hmode⟩

/-- A config that passes the checks. -/
structure CEConfig (config : Config) : Prop where
  xdr : config.lookup "xdr" = none
  tls : config.lookup "tls" = none
  networkTLS : ∀ netCfg, config.section "network" = some netCfg → NoNetworkTLS netCfg
  namespaces : ∀ v, config.lookup "namespaces" = some v → validateNamespaces v = []
  security : ∀ v, config.lookup "security" = some v → validateSecuritySection v = []
  service : ∀ v, config.lookup "service" = some v → ∃ m, v = .map m
  network : ∀ v, config.lookup "network" = some v → ∃ m, v = .map m
  logging : ∀ v, config.lookup "logging" = some v → validateLoggingSection v = []
  mesh : ∀ mode, heartbeatMode config = some mode → mode = "mesh"

theorem validateAerospikeConfig_eq_nil : validateAerospikeConfig config = [] ↔ CEConfig config := by
  have habsent : ∀ key text, sectionErrors config key (fun _ => [text]) = [] ↔ config.lookup key = none := by
    intro key text
    unfold sectionErrors
    cases config.lookup key <;> simp
  have hmesh : (match (heartbeatMode config).filter (· ≠ "mesh") with
      | some mode => ["aerospikeConfig.network.heartbeat.mode must be 'mesh' for CE (got " ++ quoted mode ++
          "); multicast is Enterprise-only"]
      | none => []) = [] ↔ ∀ mode, heartbeatMode config = some mode → mode = "mesh" := by
    cases heartbeatMode config with
    | none => simp
    | some mode => by_cases h : mode = "mesh" <;> simp [h, Option.filter]
  unfold validateAerospikeConfig
  simp only [List.append_eq_nil_iff, habsent, hmesh, validateNetworkTLSCE_eq_nil, sectionErrors_eq_nil,
    mustBeMap_eq_nil]
  constructor
  · rintro ⟨⟨⟨⟨⟨⟨⟨⟨h1, h2⟩, h3⟩, h4⟩, h5⟩, h6⟩, h7⟩, h8⟩, h9⟩
    exact ⟨h1, h2, h3, h4, h5, h6, h7, h8, h9⟩
  · rintro ⟨h1, h2, h3, h4, h5, h6, h7, h8, h9⟩
    exact ⟨⟨⟨⟨⟨⟨⟨⟨h1, h2⟩, h3⟩, h4⟩, h5⟩, h6⟩, h7⟩, h8⟩, h9⟩

/-! ## Merging -/

theorem mergeValue_map (old : Option Value) (m : Config) : ∃ n, mergeValue old (.map m) = .map n := by
  unfold mergeValue
  split
  · exact ⟨_, rfl⟩
  · exact ⟨_, rfl⟩

section Merge

variable (hkeys : wellKeyedFields upper = true)

include hkeys

theorem section_merge_induction {P : Config → Prop}
    (hbase : ∀ b, base.section key = some b → P b) (hover : ∀ m, upper.section key = some m → P m)
    (hmerge : ∀ b m, wellKeyedFields m = true → P b → P m → P (merge b m)) :
    ∀ s, Config.section (merge base upper) key = some s → P s := by
  intro s hs
  rw [section_merge key hkeys] at hs
  cases hv : upper.lookup key with
  | none =>
    rw [hv] at hs
    exact hbase s hs
  | some v =>
    rw [hv] at hs
    cases v with
    | leaf l => cases hs
    | list l => cases hs
    | map m =>
      have hm : upper.section key = some m := Config.section_eq_some.2 hv
      cases hb : base.section key with
      | none =>
        rw [hb] at hs
        cases hs
        exact hover m hm
      | some b =>
        rw [hb] at hs
        cases hs
        exact hmerge b m (wellKeyed_section hkeys hm) (hbase b hb) (hover m hm)

theorem NoNetworkTLS.merge (hbase : NoNetworkTLS base) (hover : NoNetworkTLS upper) :
    NoNetworkTLS (merge base upper) := by
  refine ⟨(lookup_merge_none hkeys).2 ⟨hbase.tls, hover.tls⟩, ?_⟩
  intro sub hsub
  refine section_merge_induction hkeys (hbase.endpoints sub hsub) (hover.endpoints sub hsub) ?_
  intro b m hm hb hm' key hkey
  exact (lookup_merge_none hm).2 ⟨hb key hkey, hm' key hkey⟩

theorem lookup_merge_cases {v : Value} (h : (merge base upper).lookup key = some v) :
    base.lookup key = some v ∨ ∃ w, upper.lookup key = some w ∧ v = mergeValue (base.lookup key) w := by
  rw [DocTree.lookup_merge key hkeys] at h
  cases hw : upper.lookup key with
  | none =>
    rw [hw] at h
    exact Or.inl h
  | some w =>
    rw [hw] at h
    cases h
    exact Or.inr ⟨w, rfl, rfl⟩

theorem isMap_merge (hbase : ∀ v, base.lookup key = some v → ∃ m, v = .map m)
    (hover : ∀ v, upper.lookup key = some v → ∃ m, v = .map m) :
    ∀ v, (merge base upper).lookup key = some v → ∃ m, v = .map m := by
  intro v hv
  rcases lookup_merge_cases hkeys hv with hb | ⟨w, hw, rfl⟩
  · exact hbase v hb
  · obtain ⟨m, rfl⟩ := hover w hw
    exact mergeValue_map _ m

theorem isList_merge {P : Value → Prop} (hlist : ∀ m, ¬ P (.map m))
    (hbase : ∀ v, base.lookup key = some v → P v) (hover : ∀ v, upper.lookup key = some v → P v) :
    ∀ v, (merge base upper).lookup key = some v → P v := by
  intro v hv
  rcases lookup_merge_cases hkeys hv with hb | ⟨w, hw, rfl⟩
  · exact hbase v hb
  · have hPw := hover w hw
    cases w with
    | map m => exact absurd hPw (hlist m)
    | leaf s => exact hPw
    | list l => exact hPw

theorem heartbeatMode_merge {mode : String} (h : heartbeatMode (merge base upper) = some mode) :
    heartbeatMode base = some mode ∨ heartbeatMode upper = some mode := by
  rw [heartbeatMode_eq_some, DocTree.leafAt_merge _ _ hkeys] at h
  rw [heartbeatMode_eq_some, heartbeatMode_eq_some]
  cases hw : walk ["network", "heartbeat", "mode"] (.map upper) with
  | absent =>
    rw [hw] at h
    exact Or.inl h
  | leaf s =>
    rw [hw] at h
    refine Or.inr ?_
    rw [leafAt, hw]
    exact h
  | blocked =>
    rw [hw] at h
    cases h

theorem CEConfig.merge (hbase : CEConfig base) (hover : CEConfig upper) : CEConfig (merge base upper) where
  xdr := (lookup_merge_none hkeys).2 ⟨hbase.xdr, hover.xdr⟩
  tls := (lookup_merge_none hkeys).2 ⟨hbase.tls, hover.tls⟩
  networkTLS := section_merge_induction hkeys hbase.networkTLS hover.networkTLS
    fun _ _ hm hb ho => hb.merge hm ho
  namespaces := isList_merge hkeys (fun m => by simp [validateNamespaces]) hbase.namespaces hover.namespaces
  security := by
    intro v hv
    have hmaps : ∀ config : Config, (∀ v, config.lookup "security" = some v → validateSecuritySection v = []) →
        ∀ v, config.lookup "security" = some v → ∃ m, v = .map m := by
      intro config h v hv
      obtain ⟨m, rfl, -⟩ := validateSecuritySection_eq_nil.1 (h v hv)
      exact ⟨m, rfl⟩
    have hkeysOf : ∀ config : Config, (∀ v, config.lookup "security" = some v → validateSecuritySection v = []) →
        ∀ m, config.section "security" = some m → ∀ key ∈ enterpriseOnlySecurityKeys, m.lookup key.1 = none := by
      intro config h m hm
      obtain ⟨n, hn, hnone⟩ := validateSecuritySection_eq_nil.1 (h _ (Config.section_eq_some.1 hm))
      cases hn
      exact hnone
    obtain ⟨m, rfl⟩ := isMap_merge hkeys (hmaps base hbase.security) (hmaps upper hover.security) v hv
    refine validateSecuritySection_eq_nil.2 ⟨m, rfl, ?_⟩
    refine section_merge_induction hkeys (hkeysOf base hbase.security) (hkeysOf upper hover.security) ?_ m
      (Config.section_eq_some.2 hv)
    intro b o ho hb ho' key hkey
    exact (lookup_merge_none ho).2 ⟨hb key hkey, ho' key hkey⟩
  service := isMap_merge hkeys hbase.service hover.service
  network := isMap_merge hkeys hbase.network hover.network
  logging := isList_merge hkeys (fun m => by simp [validateLoggingSection]) hbase.logging hover.logging
  mesh := by
    intro mode h
    rcases heartbeatMode_merge hkeys h with h | h
    · exact hbase.mesh mode h
    · exact hover.mesh mode h

end Merge

/-- Two configs without errors have a merge without errors. -/
theorem validateAerospikeConfig_deepMerge (cluster rack : ConfigMap)
    (hcluster : validateAerospikeConfig cluster.entries = []) (hrack : validateAerospikeConfig rack.entries = []) :
    validateAerospikeConfig (DeepMerge cluster.entries rack.entries) = [] :=
  validateAerospikeConfig_eq_nil.2
    ((validateAerospikeConfig_eq_nil.1 hcluster).merge rack.distinct (validateAerospikeConfig_eq_nil.1 hrack))

/-- A mesh cluster, and a rack that puts a text in the place of the heartbeat section. -/
def meshConfig : ConfigMap :=
  ⟨[("service", .map [("proto-fd-max", .leaf (.int 15000))]),
    ("network", .map [("heartbeat", .map [("mode", .leaf (.str "mesh"))])]), ("namespaces", .list [])], rfl⟩
def flatHeartbeatConfig : ConfigMap :=
  ⟨[("network", .map [("heartbeat", .leaf (.str "off"))]),
    ("namespaces", .list [.map [("name", .leaf (.str "test")), ("replication-factor", .leaf (.float 2 0))]])], rfl⟩

theorem validateAerospikeConfig_deepMerge_shapes :
    validateAerospikeConfig (DeepMerge meshConfig.entries flatHeartbeatConfig.entries) = [] :=
  validateAerospikeConfig_deepMerge meshConfig flatHeartbeatConfig (by decide) (by decide)

end Acko
