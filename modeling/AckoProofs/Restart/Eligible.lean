/-
Which stale pods a pass can still reach. A rack whose pods all exist, with nothing in flight and no
migration in the way, restarts a stale pod exactly when one of them is not stuck beyond the
threshold and no readiness gate is open; an unready stale pod can be the very one that keeps its
gate open.
-/
import AckoProofs.Restart.Pass

namespace Acko

/-- The migration check lets a batch through: it answers that nothing migrates, or it fails and
the escape hatch is open. -/
def migrationAllows (env : RestartEnv) (checks : MigrationChecks) (cluster : Cluster) (rackID : Int) : Prop :=
  match env.migration with
  | .ok migrating => migrating = false
  | .error _ => (recordMigrationCheckFailure checks cluster rackID env.now).2 = true

/-- The rack's pods all exist and none is in flight, and nothing outside holds a pass back. -/
structure Settled (env : RestartEnv) (checks : MigrationChecks) (cluster : Cluster) (rackID : Int) (sts : StatefulSet)
    (pods : List Pod) : Prop where
  get : env.getError = none
  list : env.listError = none
  all : statefulSetReplicas sts ≤ pods.length
  alive : ∀ p ∈ pods, p.deletionTimestamp = none
  ready : ∀ p ∈ pods, p.stale sts.hashes = false → isPodReady p = true
  migration : migrationAllows env checks cluster rackID
  ignorable : getMaxIgnorablePods cluster (statefulSetReplicas sts) = 0

section

variable {env : RestartEnv} {checks : MigrationChecks} {cluster : Cluster} {rackID : Int} {sts : StatefulSet}
  {pods : List Pod}

section Pass

variable (h : Settled env checks cluster rackID sts pods)

include h

theorem Settled.selection : (passSelection env cluster sts pods).pods =
    (listRackPods pods).filter fun p => p.stale sts.hashes && !stuckUnstable cluster env.now p := by
  rw [passSelection, h.ignorable, selectPodsToRestart_pods_eq]

theorem Settled.not_inFlight (hc : sts.hashes.config ≠ "") :
    restartInFlightReason (listRackPods pods) ⟨sts.hashes, statefulSetReplicas sts, sts.podManagementPolicy⟩ =
      none := by
  rw [restartInFlightReason_eq_none hc]
  refine ⟨?_, ?_⟩
  · intro p hp
    have hp := mem_listRackPods.1 hp
    exact ⟨h.alive p hp, h.ready p hp⟩
  · intro _ _
    rw [length_listRackPods]
    exact h.all

theorem Settled.gate (hc : sts.hashes.config ≠ "") :
    (passGate env checks cluster rackID sts pods).1 = false ↔
      (isReadinessGateEnabled cluster = true → ∀ p ∈ pods, gateUnsatisfied cluster p = false) := by
  have hmig := h.migration
  unfold passGate isBatchBlocked
  rw [h.not_inFlight hc, if_neg (by simp)]
  cases hg : isReadinessGateEnabled cluster with
  | true =>
    rw [if_pos rfl]
    simp [anyPodGateUnsatisfied, mem_listRackPods]
  | false =>
    rw [if_neg (by simp)]
    unfold migrationAllows at hmig
    cases hm : env.migration with
    | ok migrating =>
      rw [hm] at hmig
      simpa using hmig
    | error e =>
      rw [hm] at hmig
      simp [hmig]

theorem Settled.batch (hc : sts.hashes.config ≠ "") :
    (reconcileRollingRestart env checks cluster rackID (some sts) pods).batch ≠ [] ↔
      (passSelection env cluster sts pods).pods ≠ [] ∧ (passGate env checks cluster rackID sts pods).1 = false := by
  constructor
  · intro hb
    rcases reconcileRollingRestart_cases env checks cluster rackID sts pods with ⟨h0, _⟩ | ⟨h0, _⟩ | ⟨_, hs, hg, _⟩
    · exact absurd h0 hb
    · exact absurd h0 hb
    · exact ⟨hs, hg⟩
  · rintro ⟨hs, hg⟩
    rw [reconcileRollingRestart_open env checks cluster rackID sts pods h.get h.list hc hs hg, runBatch_batch]
    exact Selection.batch_ne_nil hs

end Pass

/-- A settled rack attempts a restart on a stale pod exactly when its template has a config hash,
some stale pod has not been unready beyond the threshold, and no running pod has an open gate. -/
theorem stale_pods_eligible (h : Settled env checks cluster rackID sts pods) :
    (∃ p ∈ (reconcileRollingRestart env checks cluster rackID (some sts) pods).batch, p.stale sts.hashes = true) ↔
      sts.hashes.config ≠ "" ∧ (∃ p ∈ pods, p.stale sts.hashes = true ∧ stuckUnstable cluster env.now p = false) ∧
      (isReadinessGateEnabled cluster = true → ∀ p ∈ pods, gateUnsatisfied cluster p = false) := by
  have hstale : (∃ p ∈ (reconcileRollingRestart env checks cluster rackID (some sts) pods).batch,
      p.stale sts.hashes = true) ↔ (reconcileRollingRestart env checks cluster rackID (some sts) pods).batch ≠ [] := by
    constructor
    · rintro ⟨p, hp, _⟩ hnil
      rw [hnil] at hp
      cases hp
    · intro hne
      obtain ⟨p, hp⟩ := List.exists_mem_of_ne_nil _ hne
      have := (reconcileRollingRestart_batch env checks cluster rackID sts pods).1.subset hp
      exact ⟨p, hp, (List.mem_filter.1 this).2⟩
  rw [hstale]
  by_cases hc : sts.hashes.config = ""
  · -- without a config hash in the template the pass does nothing
    have hnil : (reconcileRollingRestart env checks cluster rackID (some sts) pods).batch = [] := by
      rcases reconcileRollingRestart_cases env checks cluster rackID sts pods with ⟨h0, _⟩ | ⟨h0, _⟩ | ⟨h0, _⟩
      · exact h0
      · exact h0
      · exact absurd hc h0
    simp [hnil, hc]
  · rw [h.batch hc, h.gate hc, h.selection]
    have hsel : ((listRackPods pods).filter fun p => p.stale sts.hashes && !stuckUnstable cluster env.now p) ≠ [] ↔
        ∃ p ∈ pods, p.stale sts.hashes = true ∧ stuckUnstable cluster env.now p = false := by
      simp [List.filter_eq_nil_iff, mem_listRackPods]
    rw [hsel]
    exact ⟨fun hx => ⟨hc, hx⟩, fun hx => hx.2⟩

end

/-! ## A wedged rack -/

def oneReplica : StatefulSet := ⟨"db-0", some 1, ⟨"new", "", ""⟩, .parallel⟩

/-- A pod that crash-loops on the old config: it runs, but is neither Ready nor through its gate. -/
def crashLooping : Pod :=
  { Pod.serving "db-0-0" "ce:8" "" ⟨"old", "", ""⟩ with
    conditions := [⟨podReadyCondition, .conditionFalse⟩, ⟨aerospikeReadinessGateConditionType, .conditionFalse⟩]
    readinessGates := [aerospikeReadinessGateConditionType] }

def gatedCluster : Cluster :=
  { Cluster.bare "db" "ce:8" with spec := { (Cluster.bare "db" "ce:8").spec with readinessGateEnabled := some true } }

/-- A cluster whose status has had the pod unready for eleven minutes. -/
def unstableCluster : Cluster :=
  { Cluster.bare "db" "ce:8" with status := ⟨none, [("db-0-0", -(11 * minute))]⟩ }

/-- A settled rack whose only pod is stale begins no batch when that pod's own gate is open, and
none when the pod has been unready for too long. -/
theorem stale_pod_wedged :
    (Settled (.calm false []) [] gatedCluster 0 oneReplica [crashLooping] ∧
      crashLooping.stale oneReplica.hashes = true ∧
      (reconcileRollingRestart (.calm false []) [] gatedCluster 0 (some oneReplica) [crashLooping]).batch = []) ∧
    (Settled (.calm false []) [] unstableCluster 0 oneReplica [crashLooping] ∧
      (reconcileRollingRestart (.calm false []) [] unstableCluster 0 (some oneReplica) [crashLooping]).batch = []) :=
  ⟨⟨⟨rfl, rfl, by decide, by decide, by decide, rfl, rfl⟩, by decide, rfl⟩,
    ⟨⟨rfl, rfl, by decide, by decide, by decide, rfl, rfl⟩, rfl⟩⟩

theorem stale_pods_eligible_bare :
    ∃ p ∈ (reconcileRollingRestart (.calm false []) [] (.bare "db" "ce:8") 0 (some oneReplica) [crashLooping]).batch,
      p.stale oneReplica.hashes = true := by
  have hsettled : Settled (.calm false []) [] (.bare "db" "ce:8") 0 oneReplica [crashLooping] :=
    ⟨rfl, rfl, by decide, by decide, by decide, rfl, rfl⟩
  rw [stale_pods_eligible hsettled]
  refine ⟨by decide, ⟨crashLooping, List.mem_singleton.2 rfl, by decide, by decide⟩, ?_⟩
  intro h
  cases h

end Acko
