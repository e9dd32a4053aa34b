/-
The limits that admission puts on the cluster's config, and what of them a rack's own config keeps: the
replication factors against the size of the cluster, and the ports of the three network subsections.
-/
import AckoProofs.Admission.Cluster

namespace Acko

open DocTree (leafAt walk_cons_map walk wellKeyedFields merge)

/-! ## The limits -/

def networkSubsections : List String := ["service", "heartbeat", "fabric"]

@[elab_as_elim]
theorem networkSubsections_cases {P : String → Prop} {sub : String} (hsub : sub ∈ networkSubsections)
    (service : P "service") (heartbeat : P "heartbeat") (fabric : P "fabric") : P sub := by
  simp only [networkSubsections, List.mem_cons, List.not_mem_nil, or_false] at hsub
  rcases hsub with rfl | rfl | rfl
  · exact service
  · exact heartbeat
  · exact fabric

def portPath (sub : String) : List String := ["network", sub, "port"]

def portOf (config : Config) (sub : String) : Option Int :=
  (leafAt (portPath sub) (.map config)).bind fun s => Value.asInt (.leaf s)

/-- The namespaces' replication factors are integers from 1 to the size. -/
def ReplicationWithin (size : Int) (config : Config) : Prop :=
  ∀ nsMap ∈ namespaceMaps config, ∀ rf, nsMap.lookup "replication-factor" = some rf →
    ∃ i, Value.asInt rf = some i ∧ 1 ≤ i ∧ i ≤ size

/-- A config within the limits of the cluster's admission. -/
structure WithinLimits (size : Int) (config : Config) : Prop where
  replication : ReplicationWithin size config
  ports : ∀ sub ∈ networkSubsections, ∃ p, portOf config sub = some p ∧ 1 ≤ p ∧ p ≤ 65535
  distinct : (networkSubsections.map (portOf config)).Nodup

/-! ## What admission checks -/

variable {sub : String} {cluster : DeclaredCluster}

theorem sectionPort_leaf {config netCfg : Config} {s : Scalar} (hnet : config.section "network" = some netCfg) :
    sectionPort netCfg sub = some (.leaf s) ↔ leafAt (portPath sub) (.map config) = some s := by
  rw [Config.section_eq_some] at hnet
  unfold portPath sectionPort
  simp [DocTree.leafAt_cons, DocTree.leafAt_singleton, Option.bind_eq_some_iff, Config.section_eq_some, hnet]

theorem extractPort_eq_fixed {config netCfg : Config} {raw : Value} (h : validateNetworkPortUniqueness config = [])
    (hnet : config.section "network" = some netCfg) {fixed : Int} (hsub : (sub, fixed) ∈ operatorFixedNetworkPorts)
    (hport : sectionPort netCfg sub = some raw) : extractPort sub raw = .ok fixed := by
  have hresult : (sub, extractPort sub raw) ∈ portResults netCfg := by
    refine List.mem_filterMap.2 ⟨sub, List.mem_map.2 ⟨_, hsub, rfl⟩, ?_⟩
    rw [hport]
    rfl
  unfold validateNetworkPortUniqueness at h
  rw [hnet] at h
  simp only [List.append_eq_nil_iff, List.flatMap_eq_nil_iff] at h
  obtain ⟨⟨⟨hread, -⟩, -⟩, hfixed⟩ := h
  have hok := hread _ hresult
  cases hx : extractPort sub raw with
  | error e => simp [hx] at hok
  | ok port =>
    have hmem : (sub, port) ∈ (portResults netCfg).filterMap okPort :=
      List.mem_filterMap.2 ⟨_, hresult, by simp [okPort, hx]⟩
    have hf := hfixed _ hmem
    have hlookup : operatorFixedNetworkPorts.lookup sub = some fixed := by
      simp only [operatorFixedNetworkPorts, List.mem_cons, Prod.mk.injEq, List.not_mem_nil, or_false] at hsub
      rcases hsub with ⟨rfl, rfl⟩ | ⟨rfl, rfl⟩ | ⟨rfl, rfl⟩ <;> rfl
    unfold fixedErrors at hf
    rw [hlookup] at hf
    by_cases hne : port = fixed
    · rw [hne]
    · simp [hne, Option.filter] at hf

theorem leaf_of_extractPort {raw : Value} {port : Int} (h : extractPort sub raw = .ok port) :
    ∃ s, raw = .leaf s ∧ (∀ i, Value.asInt (.leaf s) = some i → i = port) ∧ 1 ≤ port ∧ port ≤ 65535 := by
  have hranged : ∀ x : Int, (if x < 1 ∨ 65535 < x then
      Except.error ("aerospikeConfig.network." ++ sub ++ ".port" ++ "=" ++ toString x ++ " must be in range 1-65535")
      else .ok x) = Except.ok port → x = port ∧ 1 ≤ port ∧ port ≤ 65535 := by
    intro x hx
    split at hx
    · cases hx
    · cases hx
      exact ⟨rfl, by omega, by omega⟩
  unfold extractPort at h
  split at h
  · rename_i x
    obtain ⟨rfl, hlo, hhi⟩ := hranged x h
    refine ⟨_, rfl, ?_, hlo, hhi⟩
    intro i hi
    cases hi
    rfl
  · rename_i m e
    obtain ⟨hx, hlo, hhi⟩ := hranged _ h
    refine ⟨_, rfl, ?_, hlo, hhi⟩
    intro i hi
    simp only [Value.asInt] at hi
    split at hi
    · rename_i hint
      cases hi
      rw [← intOfFloat_of_isInt hint, hx]
    · cases hi
  · cases h
  · cases h

theorem sectionPort_of_default {clusterName : String} {config config' : Config}
    (h : DefaultedConfig clusterName config config') (hsub : sub ∈ networkSubsections) :
    ∃ netCfg raw, config'.section "network" = some netCfg ∧ sectionPort netCfg sub = some raw := by
  obtain ⟨net, net', -, hnet', hfilled, -⟩ := h.network
  have hdefs : ∃ defs port, (sub, defs) ∈ networkDefaults ∧ wellKeyedFields defs = true ∧
      defs.lookup "port" = some port := by
    refine networkSubsections_cases hsub ?_ ?_ ?_
    · exact ⟨_, _, List.mem_cons_self, rfl, rfl⟩
    · exact ⟨_, _, List.mem_cons_of_mem _ List.mem_cons_self, rfl, rfl⟩
    · exact ⟨_, _, List.mem_cons_of_mem _ (List.mem_cons_of_mem _ List.mem_cons_self), rfl, rfl⟩
  obtain ⟨defs, port, hmem, hkeys, hport⟩ := hdefs
  obtain ⟨s, -, hs⟩ := hfilled _ hmem
  have hsection : Config.section net' sub = some (putDefaults s defs) := Config.section_eq_some.2 hs
  have hlookup : ∃ raw, (putDefaults s defs).lookup "port" = some raw := by
    rw [lookup_putDefaults _ hkeys]
    cases s.lookup "port" with
    | none => exact ⟨port, hport⟩
    | some v => exact ⟨v, rfl⟩
  obtain ⟨raw, hraw⟩ := hlookup
  refine ⟨net', raw, Config.section_eq_some.2 hnet', ?_⟩
  rw [sectionPort, hsection]
  exact hraw

theorem clusterPort_of_admitted {others : OtherChecks} {user : DeclaredCluster}
    (h : admitCluster others user = .ok cluster) :
    ∃ config, cluster.spec.aerospikeConfig = some config ∧ ∀ sub fixed, (sub, fixed) ∈ operatorFixedNetworkPorts →
      ∃ s, leafAt (portPath sub) (.map config.entries) = some s ∧
        (∀ i, Value.asInt (.leaf s) = some i → i = fixed) ∧ extractPort sub (.leaf s) = .ok fixed := by
  obtain ⟨hdefault, hvalid⟩ := admitCluster_eq_ok h
  obtain ⟨config, rfl, hd⟩ := defaultCluster_eq_ok hdefault
  refine ⟨config, rfl, fun sub fixed hsub => ?_⟩
  have hmem : sub ∈ operatorFixedNetworkPorts.map (·.1) := List.mem_map.2 ⟨_, hsub, rfl⟩
  obtain ⟨netCfg, raw, hnet, hraw⟩ := sectionPort_of_default hd hmem
  have hports := (admittedSpec_of_validate hvalid).ports config rfl
  have hok := extractPort_eq_fixed hports hnet hsub hraw
  obtain ⟨s, rfl, hint, -, -⟩ := leaf_of_extractPort hok
  exact ⟨s, (sectionPort_leaf hnet).1 hraw, hint, hok⟩

theorem replicationBound_of_nil {size : Option Int} {place : String} {v : Int}
    (h : (if v < 1 then [place ++ "replication-factor must be >= 1, got " ++ toString v] else
      match size with
      | none => []
      | some size => if size < v then [place ++ "replication-factor " ++ toString v ++ " exceeds cluster size " ++
          toString size] else []) = []) : 1 ≤ v ∧ ∀ n, size = some n → v ≤ n := by
  split at h
  · cases h
  · refine ⟨by omega, ?_⟩
    rintro n rfl
    dsimp only at h
    split at h
    · cases h
    · omega

theorem replicationFactorErrors_eq_nil {size : Option Int} {nsMap : Config}
    (h : replicationFactorErrors size nsMap = [])
    {rf : Value} (hlookup : nsMap.lookup "replication-factor" = some rf) :
    ∃ i, Value.asInt rf = some i ∧ 1 ≤ i ∧ ∀ n, size = some n → i ≤ n := by
  unfold replicationFactorErrors at h
  simp only [hlookup] at h
  match rf, h with
  | .leaf (.int v), h => exact ⟨v, rfl, replicationBound_of_nil h⟩
  | .leaf (.float m e), h =>
    dsimp only at h
    split at h
    · cases h
    · rename_i hwhole
      simp only [Bool.or_eq_true, Bool.not_eq_true', not_or, Bool.not_eq_true, Bool.not_eq_false] at hwhole
      rw [intOfFloat_of_isInt hwhole.1] at h
      refine ⟨floatTrunc m e, ?_, replicationBound_of_nil h⟩
      rw [Value.asInt, if_pos hwhole.1]
  | .leaf .nil, h => cases h
  | .leaf (.bool b), h => cases h
  | .leaf (.str t), h => cases h
  | .list l, h => cases h
  | .map m, h => cases h

theorem replicationWithin_of_admitted {spec : DeclaredSpec} (h : AdmittedSpec spec) (hsize : spec.sizeKnown = true)
    {config : ConfigMap} (hconfig : spec.aerospikeConfig = some config) :
    ReplicationWithin spec.size config.entries := by
  have hrf := h.replication
  unfold validateReplicationFactor at hrf
  have hknown : ¬ (spec.size = 0 ∧ spec.templateRef.isSome = true) := by
    rintro ⟨h0, hs⟩
    simp only [DeclaredSpec.sizeKnown, h0, Option.isNone_iff_eq_none.not.2 (Option.isSome_iff_ne_none.1 hs)] at hsize
    simp_all
  simp only [hconfig, if_neg hknown, List.flatMap_eq_nil_iff] at hrf
  intro nsMap hns rf hlookup
  obtain ⟨i, hi, hlo, hhi⟩ := replicationFactorErrors_eq_nil (hrf nsMap hns) hlookup
  exact ⟨i, hi, hlo, hhi _ rfl⟩

/-! ## The config of a rack -/

variable (rack : DeclaredRack)

def DeclaredRack.ownEntries : Config := (rack.aerospikeConfig.getD .empty).entries

def DeclaredSpec.entries (spec : DeclaredSpec) : Config := (spec.aerospikeConfig.getD .empty).entries

theorem DeclaredRack.ownEntries_distinct : wellKeyedFields rack.ownEntries = true :=
  (rack.aerospikeConfig.getD .empty).distinct

theorem getEffectiveConfig_entries {config : ConfigMap} (h : cluster.spec.aerospikeConfig = some config) :
    ∃ effective, cluster.getEffectiveConfig rack = some effective ∧
      effective.entries = merge config.entries rack.ownEntries := by
  unfold DeclaredCluster.getEffectiveConfig DeclaredRack.ownEntries
  rw [h]
  cases rack.aerospikeConfig with
  | none => exact ⟨config, rfl, by rw [Option.getD_none, ConfigMap.empty, merge]⟩
  | some own => exact ⟨config.deepMerge own, rfl, rfl⟩

theorem AdmittedSpec.ownEntries (h : AdmittedSpec cluster.spec) {rack : DeclaredRack}
    (hrack : rack ∈ cluster.getRacks) : CEConfig rack.ownEntries := by
  rw [← validateAerospikeConfig_eq_nil]
  unfold DeclaredRack.ownEntries
  cases hc : rack.aerospikeConfig with
  | none => rfl
  | some config =>
    rw [DeclaredCluster.getRacks_eq] at hrack
    split at hrack
    · rw [List.mem_singleton.1 hrack] at hc
      cases hc
    · exact h.rackConfig hrack hc

theorem namespaceMaps_merge {base upper : Config} (hkeys : wellKeyedFields upper = true)
    (hover : ∀ v, upper.lookup "namespaces" = some v → validateNamespaces v = []) :
    namespaceMaps (merge base upper) =
      if (upper.lookup "namespaces").isSome then namespaceMaps upper else namespaceMaps base := by
  unfold namespaceMaps
  rw [DocTree.lookup_merge _ hkeys]
  cases hv : upper.lookup "namespaces" with
  | none => rfl
  | some v =>
    have hlist := hover v hv
    cases v with
    | map m => simp [validateNamespaces] at hlist
    | leaf s => rfl
    | list l => rfl

theorem replicationWithin_merge {size : Int} {base upper : Config} (hkeys : wellKeyedFields upper = true)
    (hover : ∀ v, upper.lookup "namespaces" = some v → validateNamespaces v = [])
    (hbase : ReplicationWithin size base) :
    ReplicationWithin size (merge base upper) ↔ ReplicationWithin size upper := by
  have hnone : upper.lookup "namespaces" = none → ReplicationWithin size upper := by
    intro hno nsMap hns
    rw [namespaceMaps, hno] at hns
    cases hns
  unfold ReplicationWithin
  rw [namespaceMaps_merge hkeys hover]
  cases hv : upper.lookup "namespaces" with
  | none => exact ⟨fun _ => hnone hv, fun _ => hbase⟩
  | some v => exact Iff.rfl

theorem portOf_merge {base upper : Config} (hkeys : wellKeyedFields upper = true) (sub : String) :
    portOf (merge base upper) sub = match walk (portPath sub) (.map upper) with
      | .absent => portOf base sub
      | .leaf s => Value.asInt (.leaf s)
      | .blocked => none := by
  unfold portOf portPath
  rw [DocTree.leafAt_merge _ _ hkeys]
  cases walk ["network", sub, "port"] (.map upper) <;> rfl

/-! ## The limits of a rack -/

/-- The port of a subsection under a rack's config: the rack's own, else the operator's. -/
def rackPort (sub : String) : Option Int :=
  match walk (portPath sub) (.map rack.ownEntries) with
  | .leaf s => Value.asInt (.leaf s)
  | _ => operatorFixedNetworkPorts.lookup sub

/-- What a rack's own config has to keep to. -/
structure RackLimits (cluster : DeclaredCluster) (rack : DeclaredRack) : Prop where
  replication : ReplicationWithin cluster.spec.size rack.ownEntries
  /-- No subsection is replaced by something that is not a map, no port by something that is no scalar. -/
  shape : ∀ sub ∈ networkSubsections, walk (portPath sub) (.map rack.ownEntries) ≠ .blocked
  own : ∀ sub ∈ networkSubsections, ∀ s, walk (portPath sub) (.map rack.ownEntries) = .leaf s →
    ∃ p, Value.asInt (.leaf s) = some p ∧ 1 ≤ p ∧ p ≤ 65535
  /-- A port that is the cluster's own has no digits after the point. -/
  inherited : ∀ sub ∈ networkSubsections, walk (portPath sub) (.map rack.ownEntries) = .absent →
    ∃ p, portOf cluster.spec.entries sub = some p
  distinct : (networkSubsections.map (rackPort rack)).Nodup

theorem fixedPort_of_mem (hsub : sub ∈ networkSubsections) :
    ∃ fixed, (sub, fixed) ∈ operatorFixedNetworkPorts ∧ operatorFixedNetworkPorts.lookup sub = some fixed ∧
      1 ≤ fixed ∧ fixed ≤ 65535 := by
  refine networkSubsections_cases hsub ?_ ?_ ?_
  · exact ⟨servicePort, by decide, rfl, by decide, by decide⟩
  · exact ⟨heartbeatPort, by decide, rfl, by decide, by decide⟩
  · exact ⟨fabricPort, by decide, rfl, by decide, by decide⟩

/-- An inherited port is the operator's. -/
theorem portOf_cluster {others : OtherChecks} {user : DeclaredCluster} (h : admitCluster others user = .ok cluster)
    (hsub : sub ∈ networkSubsections) {p : Int} (hp : portOf cluster.spec.entries sub = some p) :
    operatorFixedNetworkPorts.lookup sub = some p ∧ 1 ≤ p ∧ p ≤ 65535 := by
  obtain ⟨config, hconfig, hports⟩ := clusterPort_of_admitted h
  obtain ⟨fixed, hmem, hlookup, hlo, hhi⟩ := fixedPort_of_mem hsub
  obtain ⟨s, hs, hint, -⟩ := hports sub fixed hmem
  rw [DeclaredSpec.entries, hconfig, Option.getD_some, portOf, hs, Option.bind_some] at hp
  rw [hint p hp]
  exact ⟨hlookup, hlo, hhi⟩

/-- The config of a rack of an admitted cluster is within the limits exactly if the rack's own part is. -/
theorem rack_config_within_limits {others : OtherChecks} {user cluster : DeclaredCluster}
    (h : admitCluster others user = .ok cluster) (hsize : cluster.spec.sizeKnown = true) {rack : DeclaredRack}
    (hrack : rack ∈ cluster.getRacks) :
    (∃ config, cluster.getEffectiveConfig rack = some config ∧ WithinLimits cluster.spec.size config.entries) ↔
      RackLimits cluster rack := by
  have hadmitted : AdmittedSpec cluster.spec := admittedSpec_of_validate (admitCluster_eq_ok h).2
  obtain ⟨base, hbase, -⟩ := clusterPort_of_admitted h
  obtain ⟨effective, heffective, hentries⟩ := getEffectiveConfig_entries rack hbase
  have hkeys := rack.ownEntries_distinct
  have hreplication : ReplicationWithin cluster.spec.size effective.entries ↔
      ReplicationWithin cluster.spec.size rack.ownEntries := by
    rw [hentries]
    exact replicationWithin_merge hkeys (hadmitted.ownEntries hrack).namespaces
      (replicationWithin_of_admitted hadmitted hsize hbase)
  have hport : ∀ sub, portOf effective.entries sub = match walk (portPath sub) (.map rack.ownEntries) with
      | .absent => portOf cluster.spec.entries sub
      | .leaf s => Value.asInt (.leaf s)
      | .blocked => none := by
    intro sub
    rw [hentries, portOf_merge hkeys, DeclaredSpec.entries, hbase, Option.getD_some]
  constructor
  · rintro ⟨config, hconfig, hlimits⟩
    rw [heffective] at hconfig
    cases hconfig
    have hports := hlimits.ports
    have hsame : ∀ sub ∈ networkSubsections, portOf effective.entries sub = rackPort rack sub := by
      intro sub hsub
      obtain ⟨p, hp, -⟩ := hports sub hsub
      rw [rackPort, hp]
      rw [hport] at hp
      cases hw : walk (portPath sub) (.map rack.ownEntries) with
      | absent =>
        rw [hw] at hp
        exact (portOf_cluster h hsub hp).1.symm
      | leaf s =>
        rw [hw] at hp
        exact hp.symm
      | blocked =>
        rw [hw] at hp
        cases hp
    refine ⟨hreplication.1 hlimits.replication, ?_, ?_, ?_, ?_⟩
    · intro sub hsub hw
      obtain ⟨p, hp, -⟩ := hports sub hsub
      rw [hport, hw] at hp
      cases hp
    · intro sub hsub s hw
      obtain ⟨p, hp, hrange⟩ := hports sub hsub
      rw [hport, hw] at hp
      exact ⟨p, hp, hrange⟩
    · intro sub hsub hw
      obtain ⟨p, hp, -⟩ := hports sub hsub
      rw [hport, hw] at hp
      exact ⟨p, hp⟩
    · rw [← List.map_congr_left hsame]
      exact hlimits.distinct
  · intro hlimits
    have hsame : ∀ sub ∈ networkSubsections, portOf effective.entries sub = rackPort rack sub ∧
        ∃ p, rackPort rack sub = some p ∧ 1 ≤ p ∧ p ≤ 65535 := by
      intro sub hsub
      rw [hport, rackPort]
      cases hw : walk (portPath sub) (.map rack.ownEntries) with
      | absent =>
        obtain ⟨p, hp⟩ := hlimits.inherited sub hsub hw
        obtain ⟨hfixed, hrange⟩ := portOf_cluster h hsub hp
        exact ⟨hp.trans hfixed.symm, p, hfixed, hrange⟩
      | leaf s => exact ⟨rfl, hlimits.own sub hsub s hw⟩
      | blocked => exact absurd hw (hlimits.shape sub hsub)
    refine ⟨effective, heffective, hreplication.2 hlimits.replication, ?_, ?_⟩
    · intro sub hsub
      obtain ⟨heq, p, hp, hrange⟩ := hsame sub hsub
      exact ⟨p, heq.trans hp, hrange⟩
    · rw [List.map_congr_left fun sub hsub => (hsame sub hsub).1]
      exact hlimits.distinct

/-- A rack that repeats the service port and sets a replication factor of 2. -/
def modestRack : DeclaredRack :=
  .plain 1 one_lt_idBound (some ⟨[("network", .map [("service", .map [("port", .leaf (.float 3 3))])]),
    ("namespaces", .list [.map [("name", .leaf (.str "test")), ("replication-factor", .leaf (.float 2 0))]])], rfl⟩)

def modestUser : DeclaredCluster := .plain "demo" "aerospike:ce-8.1.1.1" 2 [modestRack]

theorem rack_config_within_limits_modest : ∃ cluster, admitCluster .none modestUser = .ok cluster ∧
    ∃ config, cluster.getEffectiveConfig modestRack = some config ∧ WithinLimits 2 config.entries := by
  refine ⟨_, rfl, (@rack_config_within_limits .none modestUser _ rfl rfl _ List.mem_cons_self).2
    ⟨?_, by decide, ?_, ?_, by decide⟩⟩
  · intro nsMap hns rf hrf
    cases List.mem_singleton.1 hns
    cases hrf
    exact ⟨2, rfl, by decide, by decide⟩
  · intro sub hsub
    refine networkSubsections_cases hsub ?_ ?_ ?_ <;> rintro s hs <;> cases hs
    exact ⟨3000, rfl, by decide, by decide⟩
  · intro sub hsub
    refine networkSubsections_cases hsub ?_ (fun _ => ⟨heartbeatPort, rfl⟩) fun _ => ⟨fabricPort, rfl⟩
    intro hs
    cases hs

/-- A rack that takes the heartbeat port for its service and asks for four copies. -/
def greedyRack : DeclaredRack :=
  .plain 1 one_lt_idBound (some ⟨[("network", .map [("service", .map [("port", .leaf (.float 3002 0))])]),
    ("namespaces", .list [.map [("name", .leaf (.str "test")), ("replication-factor", .leaf (.float 4 0))]])], rfl⟩)

/-- A cluster of two nodes is admitted with that rack. -/
theorem rack_config_outside_limits :
    ∃ cluster, admitCluster .none (.plain "demo" "aerospike:ce-8.1.1.1" 2 [greedyRack]) =
    .ok cluster ∧ cluster.spec.sizeKnown = true ∧ greedyRack ∈ cluster.getRacks ∧
      ∃ config, cluster.getEffectiveConfig greedyRack = some config ∧
        ¬ ReplicationWithin cluster.spec.size config.entries ∧
        portOf config.entries "service" = some 3002 ∧ portOf config.entries "heartbeat" = some 3002 := by
  refine ⟨_, rfl, rfl, List.mem_cons_self, _, rfl, ?_, by decide, by decide⟩
  intro h
  obtain ⟨i, hi, -, hle⟩ := h _ List.mem_cons_self _ rfl
  cases hi
  exact absurd hle (by decide)

end Acko
