/-
What a dynamic update does to a rack with a config of its own. The update applies the difference of
the cluster's configs, while the rack's pods are meant to run with the rack's effective config, the
rack's own values merged over the cluster's. The two agree only where the rack's values leave the
changed parameters alone and have not been edited themselves.
-/
import AckoProofs.Restart.Pass
import AckoProofs.Dynamic.Atomic

namespace Acko

/-! ## The parameters of a config -/

/-- The parameters of the namespaces of a config with their values. -/
def namespaceEntries (namespaces : List Value) : List (Param × Value) :=
  (namespacesByName namespaces).flatMap fun (name, cfg) => cfg.filterMap fun (key, v) =>
    if key = "name" then none
    else some ((⟨["namespace", key], "namespace", key, Value.nil, v, name⟩ : Change).param, v)

mutual
/-- The parameters of a section with their values, each at the context and key that its path has in
a set-config command. -/
def sectionEntries (pre : List String) : Config → List (Param × Value)
  | [] => []
  | (key, v) :: rest => keyEntries pre key v ++ sectionEntries pre rest
def keyEntries (pre : List String) (key : String) : Value → List (Param × Value)
  | .map m => if key = "namespaces" then [] else sectionEntries (pre ++ [key]) m
  | .list l => if key = "namespaces" then namespaceEntries l else [(pathParam (pre ++ [key]), .list l)]
  | .leaf s => if key = "namespaces" then [] else [(pathParam (pre ++ [key]), .leaf s)]
where
  pathParam (path : List String) : Param := ⟨.context (firstSegment (pathText path)), keyWithinContext (pathText path)⟩
end

def Config.params (config : Config) : Runtime := fun param => ((sectionEntries [] config).lookup param).map Value.fmtV

/-- The parameters a pod of a rack is meant to run with. -/
def effectiveParams (cluster : Cluster) (rack : Rack) : Runtime :=
  match getEffectiveConfig cluster rack with
  | some config => config.params
  | none => fun _ => none

/-! ## What an update reaches -/

/-- The changes a dynamic update applies: the difference of the cluster's configs, whatever the
rack. -/
def clusterChanges (cluster : Cluster) : List Change :=
  match cluster.status.aerospikeConfig, cluster.spec.aerospikeConfig with
  | some oldConfig, some newConfig => (Diff oldConfig newConfig).dynamic
  | _, _ => []

/-- The rack's effective config follows the cluster's changes: it has the new value of every changed
parameter, from the last change where there are several, and the value of every other one that it had before. -/
structure FollowsCluster (before cluster : Cluster) (oldRack rack : Rack) : Prop where
  changed : ∀ front c back, clusterChanges cluster = front ++ c :: back → c.param ∉ back.map (·.param) →
    effectiveParams cluster rack c.param = some c.newValue.fmtV
  kept : ∀ param ∉ (clusterChanges cluster).map (·.param),
    effectiveParams cluster rack param = effectiveParams before oldRack param

theorem batchDynamicUpdate_runtime {env : RestartEnv} {cluster : Cluster} {batch : List Pod} {hash : String}
    (hok : (batchDynamicUpdate env cluster batch hash cluster.status.aerospikeConfig
      cluster.spec.aerospikeConfig).allOk = true) (rt : Runtimes) {p : Pod} (hp : p ∈ batch) :
    (∀ front c back, clusterChanges cluster = front ++ c :: back → c.param ∉ back.map (·.param) →
      runtimesAfter rt (batchDynamicUpdate env cluster batch hash cluster.status.aerospikeConfig
        cluster.spec.aerospikeConfig).effects p.podIP c.param = some c.newValue.fmtV) ∧
    (∀ param ∉ (clusterChanges cluster).map (·.param), runtimesAfter rt (batchDynamicUpdate env cluster batch hash
      cluster.status.aerospikeConfig cluster.spec.aerospikeConfig).effects p.podIP param = rt p.podIP param) := by
  unfold batchDynamicUpdate at hok ⊢
  unfold clusterChanges
  generalize cluster.status.aerospikeConfig = oldConfig at hok ⊢
  generalize cluster.spec.aerospikeConfig = newConfig at hok ⊢
  rcases oldConfig with _ | oldConfig
  · cases hok
  rcases newConfig with _ | newConfig
  · cases hok
  simp only at hok ⊢
  split at hok
  · rename_i hclient
    rw [if_pos hclient]
    obtain ⟨hreach, htakes⟩ := (tryDynamicConfigUpdateBatch_allOk _ _ _ _ _ _).1 hok
    rw [tryDynamicConfigUpdateBatch_eq, if_pos hreach]
    have htakes : ∀ t ∈ batch.map fun p => (p.name, p.podIP),
        env.dyn.takes (Diff oldConfig newConfig).dynamic t.1 = true :=
      List.forall_mem_map.2 htakes
    have hp := List.mem_map_of_mem (f := fun p : Pod => (p.name, p.podIP)) hp
    exact ⟨fun front c back hchanges hlast => applyPhase_changed env.dyn hash htakes rt hp hchanges hlast,
      fun param hparam => applyPhase_kept env.dyn hash htakes rt (p.name, p.podIP) hparam⟩
  · cases hok

/-- A pod that ran the rack's previous effective config and was updated with success runs the new
one exactly where the rack's config follows the cluster's changes. -/
theorem dynamic_update_reaches_iff (env : RestartEnv) (before cluster : Cluster) (oldRack rack : Rack)
    (batch : List Pod) (hash : String) (rt : Runtimes)
    (hok : (batchDynamicUpdate env cluster batch hash cluster.status.aerospikeConfig
      cluster.spec.aerospikeConfig).allOk = true)
    (p : Pod) (hp : p ∈ batch) (hran : ∀ param, rt p.podIP param = effectiveParams before oldRack param) :
    (∀ param, runtimesAfter rt (batchDynamicUpdate env cluster batch hash cluster.status.aerospikeConfig
      cluster.spec.aerospikeConfig).effects p.podIP param = effectiveParams cluster rack param) ↔
    FollowsCluster before cluster oldRack rack := by
  obtain ⟨hset, hkeep⟩ := batchDynamicUpdate_runtime hok rt hp
  constructor
  · intro h
    refine ⟨?_, ?_⟩
    · intro front c back hchanges hlast
      rw [← h c.param, hset front c back hchanges hlast]
    · intro param hn
      rw [← h param, hkeep param hn, hran]
  · intro h param
    by_cases hm : param ∈ (clusterChanges cluster).map (·.param)
    · obtain ⟨front, c, back, hchanges, rfl, hlast⟩ := exists_last (P := fun c : Change => c.param = param)
        (List.mem_map.1 hm)
      have hback : c.param ∉ back.map (·.param) := fun hmem => by
        obtain ⟨d, hd, heq⟩ := List.mem_map.1 hmem
        exact hlast d hd heq
      rw [hset front c back hchanges hback, h.changed front c back hchanges hback]
    · rw [hkeep param hm, hran, h.kept param hm]

/-! ## A rack with a value of its own -/

/-- A cluster whose config is edited in two parameters, with one rack that has values of its own. -/
def overridingCluster (config : Config) (rack : Rack) : Cluster :=
  { updatingCluster with
    spec := { updatingCluster.spec with
      aerospikeConfig := some config
      rackConfig := some ⟨[rack], none, none, none⟩ }
    status := { updatingCluster.status with aerospikeConfig := some twoParamsOld } }

/-- The rack sets one of the two parameters itself. -/
def overridingRack : Rack := ⟨1, some [("service", .map [("proto-fd-max", .leaf (.int 30000))])]⟩

def overriddenPod : Pod := Pod.serving "db-1-0" "ce:8" "10.0.0.1" ⟨"h1", "", ""⟩

/-- The pass stamps the pod as up to date, and leaves it with the cluster's value of a parameter for
which the rack has its own. -/
theorem dynamic_update_overrides_rack :
    let before := overridingCluster twoParamsOld overridingRack
    let cluster := overridingCluster twoParamsNew overridingRack
    let rt : Runtimes := fun _ => effectiveParams before overridingRack
    let out := reconcileRollingRestart (.calm false ["10.0.0.1"]) [] cluster 1
      (some ⟨"db-1", some 1, ⟨"h2", "", ""⟩, .parallel⟩) [overriddenPod]
    (podAfter overriddenPod out.effects).hashes.config = "h2" ∧ deletedPods out.effects = [] ∧
    runtimesAfter rt out.effects "10.0.0.1" ⟨.context "service", "proto-fd-max"⟩ = some "20000" ∧
    effectiveParams cluster overridingRack ⟨.context "service", "proto-fd-max"⟩ = some "30000" := by
  refine ⟨by decide, by decide, by decide, by decide⟩

/-- A rack with a value of its own for another parameter. -/
def namingRack : Rack := ⟨1, some [("service", .map [("cluster-name", .leaf (.str "blue"))])]⟩

theorem namingRack_follows : FollowsCluster (overridingCluster twoParamsOld namingRack)
    (overridingCluster twoParamsNew namingRack) namingRack namingRack where
  changed := by
    have hall : ∀ c ∈ clusterChanges (overridingCluster twoParamsNew namingRack),
        effectiveParams (overridingCluster twoParamsNew namingRack) namingRack c.param =
          some c.newValue.fmtV := by decide
    intro front c back hchanges _
    exact hall c (hchanges ▸ List.mem_append_right _ List.mem_cons_self)
  kept := by
    intro param hn
    have hfd : param ≠ ⟨.context "service", "proto-fd-max"⟩ := by
      rintro rfl
      exact hn (by decide)
    have hmt : param ≠ ⟨.context "service", "migrate-threads"⟩ := by
      rintro rfl
      exact hn (by decide)
    show (List.lookup param [_, _, _]).map Value.fmtV = (List.lookup param [_, _, _]).map Value.fmtV
    simp only [DocTree.lookup_cons_eq]
    have hpath : ∀ key, key = "proto-fd-max" ∨ key = "migrate-threads" →
        keyEntries.pathParam ([] ++ ["service"] ++ [key]) = ⟨.context "service", key⟩ := by
      rintro key (rfl | rfl) <;> decide
    rw [hpath _ (Or.inl rfl), hpath _ (Or.inr rfl), if_neg hfd, if_neg hmt, if_neg hfd, if_neg hmt]

theorem dynamic_update_reaches_naming :
    let cluster := overridingCluster twoParamsNew namingRack
    let rt : Runtimes := fun _ => effectiveParams (overridingCluster twoParamsOld namingRack) namingRack
    let update := batchDynamicUpdate (.calm false ["10.0.0.1"]) cluster [overriddenPod] "h2"
      cluster.status.aerospikeConfig cluster.spec.aerospikeConfig
    update.allOk = true ∧
      ∀ param, runtimesAfter rt update.effects "10.0.0.1" param = effectiveParams cluster namingRack param := by
  refine ⟨by decide, ?_⟩
  exact (dynamic_update_reaches_iff _ _ _ namingRack namingRack [overriddenPod] "h2" _ (by decide)
    overriddenPod (List.mem_singleton.2 rfl) (fun _ => rfl)).2 namingRack_follows

end Acko
