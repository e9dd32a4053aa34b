/-
One rolling-restart pass over a rack (`reconcileRollingRestart`): select, wait for the gate,
restart a batch, and publish which pods are still pending.
-/
import AckoProofs.Restart.Batch

namespace Acko

/-! ## Sizes -/

/-- The rack-level batch size takes precedence over the legacy one of the spec. -/
def getRollingUpdateBatchSize (cluster : Cluster) (totalPods : Int) : Int :=
  match cluster.spec.rackConfig.bind (·.rollingUpdateBatchSize) with
  | some val => resolveIntOrPercent (some val) totalPods
  | none => match cluster.spec.rollingUpdateBatchSize with
    | some n => if 0 < n then n else 1
    | none => 1

theorem one_le_getRollingUpdateBatchSize (cluster : Cluster) (totalPods : Int) :
    1 ≤ getRollingUpdateBatchSize cluster totalPods := by
  unfold getRollingUpdateBatchSize
  split
  · exact one_le_resolveIntOrPercent _ _
  · split
    · split <;> omega
    · exact le_refl _

/-- An explicit zero stays zero; any other value is at least 1. -/
def getMaxIgnorablePods (cluster : Cluster) (totalPods : Int) : Int :=
  match cluster.spec.rackConfig.bind (·.maxIgnorablePods) with
  | some mip => if isExplicitZeroIntOrPercent mip then 0 else resolveIntOrPercent (some mip) totalPods
  | none => 0

/-! ## Pending pods -/

/-- The pods of the batch taken as restarted: those that did not fail, until as many as were
counted are found. -/
def restartedSet (failedPods : List String) (restarted : Nat) : List String → List Pod → List String
  | names, [] => names
  | names, pod :: rest =>
    let names := if pod.name ∈ failedPods then names else names.insert pod.name
    if restarted ≤ names.length then names else restartedSet failedPods restarted names rest

/-- The pending pods still to restart. -/
def filterUnrestarted (allPending failedPods : List String) (restarted : Nat) (batchPods : List Pod) : List String :=
  allPending.filter fun name => name ∉ restartedSet failedPods restarted [] batchPods

/-! ## The pass -/

/-- What a pass returns and leaves: its result (whether the caller should requeue, or an error),
`status.pendingRestartPods` where it writes it, the batch it worked on, the failure states of the
migration check, and its effects. -/
structure PassOutcome where
  result : Except String Bool
  pending : Option (List String)
  batch : List Pod
  checks : MigrationChecks
  effects : List Effect

def runBatch (env : RestartEnv) (checks : MigrationChecks) (cluster : Cluster) (sts : StatefulSet) (sel : Selection) :
    PassOutcome :=
  let pendingNames := sel.pods.map (·.name)
  let batchSize := getRollingUpdateBatchSize cluster (statefulSetReplicas sts)
  -- the configs are offered to the dynamic update only when a config hash differs
  let oldConfig := if sel.configChanged then cluster.status.aerospikeConfig else none
  let newConfig := if sel.configChanged then cluster.spec.aerospikeConfig else none
  let b := restartPodBatch env cluster sel.pods sts batchSize oldConfig newConfig
  let remaining := if 0 < b.failedPods.length ∨ 0 < b.restarted then
    filterUnrestarted pendingNames b.failedPods b.restarted b.batchPods else pendingNames
  let result : Except String Bool := if 0 < b.failedPods.length ∧ b.restarted = 0 then
    .error ("all " ++ toString b.failedPods.length ++ " pod restart(s) in batch failed: " ++
      ", ".intercalate b.failedPods)
    else .ok (0 < b.restarted)
  ⟨result, some remaining, b.batchPods, checks, sel.effects ++ b.effects⟩

/-- One batch of a rack. -/
def reconcileRollingRestart (env : RestartEnv) (checks : MigrationChecks) (cluster : Cluster) (rackID : Int)
    (sts : Option StatefulSet) (pods : List Pod) : PassOutcome :=
  match env.getError with
  | some err => ⟨.error err, none, [], checks, []⟩
  | none =>
  match sts with
  | none => ⟨.ok false, none, [], checks, []⟩
  | some sts =>
    if sts.hashes.config = "" then ⟨.ok false, none, [], checks, []⟩ else
    match env.listError with
    | some err => ⟨.error ("listing rack pods for rolling restart: " ++ err), none, [], checks, []⟩
    | none =>
      let replicas := statefulSetReplicas sts
      let rackPods := listRackPods pods
      let sel := selectPodsToRestart cluster env.now env.adoptOk sts.hashes (getMaxIgnorablePods cluster replicas) 0
        rackPods
      if sel.pods.isEmpty then ⟨.ok false, some [], [], checks, sel.effects⟩ else
      let (blocked, checks) := isBatchBlocked checks cluster rackID rackPods
        ⟨sts.hashes, replicas, sts.podManagementPolicy⟩ env.migration env.now
      if blocked then ⟨.ok true, some (sel.pods.map (·.name)), [], checks, sel.effects⟩
      else runBatch env checks cluster sts sel

/-! ## What a pass can do -/

def Selection.batch (sel : Selection) (cluster : Cluster) (sts : StatefulSet) : List Pod :=
  sel.pods.take (getRollingUpdateBatchSize cluster (statefulSetReplicas sts)).toNat

theorem Selection.batch_ne_nil {sel : Selection} {cluster : Cluster} {sts : StatefulSet} (h : sel.pods ≠ []) :
    sel.batch cluster sts ≠ [] := by
  unfold Selection.batch
  intro hnil
  rcases List.take_eq_nil_iff.1 hnil with h0 | h0
  · have := one_le_getRollingUpdateBatchSize cluster (statefulSetReplicas sts)
    omega
  · exact h h0

def Selection.update (sel : Selection) (env : RestartEnv) (cluster : Cluster) (sts : StatefulSet) : DynOutcome :=
  batchDynamicUpdate env cluster (sel.batch cluster sts) sts.hashes.config
    (if sel.configChanged then cluster.status.aerospikeConfig else none)
    (if sel.configChanged then cluster.spec.aerospikeConfig else none)

def passSelection (env : RestartEnv) (cluster : Cluster) (sts : StatefulSet) (pods : List Pod) : Selection :=
  selectPodsToRestart cluster env.now env.adoptOk sts.hashes (getMaxIgnorablePods cluster (statefulSetReplicas sts)) 0
    (listRackPods pods)

def passGate (env : RestartEnv) (checks : MigrationChecks) (cluster : Cluster) (rackID : Int) (sts : StatefulSet)
    (pods : List Pod) : Bool × MigrationChecks :=
  isBatchBlocked checks cluster rackID (listRackPods pods)
    ⟨sts.hashes, statefulSetReplicas sts, sts.podManagementPolicy⟩ env.migration env.now

section Cases

variable (env : RestartEnv) (checks : MigrationChecks) (cluster : Cluster) (rackID : Int) (sts : StatefulSet)
  (pods : List Pod)

/-- A pass stops before the selection, or stops after it without a batch, or restarts a batch
that nothing blocks. -/
theorem reconcileRollingRestart_cases :
    ((reconcileRollingRestart env checks cluster rackID (some sts) pods).batch = [] ∧
      (reconcileRollingRestart env checks cluster rackID (some sts) pods).effects = []) ∨
    ((reconcileRollingRestart env checks cluster rackID (some sts) pods).batch = [] ∧ sts.hashes.config ≠ "" ∧
      (reconcileRollingRestart env checks cluster rackID (some sts) pods).effects =
        (passSelection env cluster sts pods).effects) ∨
    (sts.hashes.config ≠ "" ∧ (passSelection env cluster sts pods).pods ≠ [] ∧
      (passGate env checks cluster rackID sts pods).1 = false ∧
      reconcileRollingRestart env checks cluster rackID (some sts) pods =
        runBatch env (passGate env checks cluster rackID sts pods).2 cluster sts
          (passSelection env cluster sts pods)) := by
  unfold reconcileRollingRestart
  split
  · exact Or.inl ⟨rfl, rfl⟩
  · simp only
    split
    · exact Or.inl ⟨rfl, rfl⟩
    · rename_i hc
      split
      · exact Or.inl ⟨rfl, rfl⟩
      · split
        · exact Or.inr (Or.inl ⟨rfl, hc, rfl⟩)
        · rename_i hsel
          split
          · exact Or.inr (Or.inl ⟨rfl, hc, rfl⟩)
          · rename_i hblocked
            refine Or.inr (Or.inr ⟨hc, ?_, ?_, rfl⟩)
            · intro h
              apply hsel
              rw [List.isEmpty_iff]
              exact h
            · exact Bool.eq_false_iff.2 hblocked

theorem reconcileRollingRestart_open (hget : env.getError = none) (hlist : env.listError = none)
    (hc : sts.hashes.config ≠ "") (hsel : (passSelection env cluster sts pods).pods ≠ [])
    (hgate : (passGate env checks cluster rackID sts pods).1 = false) :
    reconcileRollingRestart env checks cluster rackID (some sts) pods =
      runBatch env (passGate env checks cluster rackID sts pods).2 cluster sts
        (passSelection env cluster sts pods) := by
  unfold reconcileRollingRestart
  rw [hget, hlist]
  show (if sts.hashes.config = "" then _ else if (passSelection env cluster sts pods).pods.isEmpty then _ else
    if (passGate env checks cluster rackID sts pods).1 then _ else _) = _
  rw [if_neg hc, if_neg (by simpa using hsel), if_neg (by simp [hgate])]
  rfl

theorem runBatch_batch (sel : Selection) : (runBatch env checks cluster sts sel).batch = sel.batch cluster sts :=
  restartPodBatch_batchPods ..

theorem runBatch_effects (sel : Selection) : (runBatch env checks cluster sts sel).effects = sel.effects ++
    if (sel.update env cluster sts).allOk then (sel.update env cluster sts).effects
    else (sel.update env cluster sts).effects ++ degradedEffects (sel.update env cluster sts).rollback ++
      (restartPods env cluster sts (sel.batch cluster sts)).2.2 := by
  show sel.effects ++ (restartPodBatch ..).effects = _
  rw [restartPodBatch_effects]
  rfl

/-- What a pass on a rack with the template's hashes can do to pods: stamp the template's storage
hash or its config hash, or delete. -/
def Effect.withinPass (desired : Hashes) : Effect → Prop
  | .adoptStorageHash _ hash => hash = desired.storage
  | .updatePodConfigHash _ hash => hash = desired.config
  | _ => True

theorem Effect.withinPass_of_withinBatch {desired : Hashes} {batch : List Pod} {e : Effect}
    (h : e.withinBatch desired batch) : e.withinPass desired := by
  cases e with
  | adoptStorageHash _ _ => cases h
  | updatePodConfigHash _ _ => exact h.1
  | _ => trivial

theorem passSelection_withinPass : ∀ e ∈ (passSelection env cluster sts pods).effects, e.withinPass sts.hashes := by
  intro e he
  obtain ⟨p, _, _, rfl⟩ := selectPodsToRestart_effects _ _ e he
  rfl

theorem reconcileRollingRestart_withinPass :
    ∀ e ∈ (reconcileRollingRestart env checks cluster rackID (some sts) pods).effects, e.withinPass sts.hashes := by
  intro e he
  rcases reconcileRollingRestart_cases env checks cluster rackID sts pods with ⟨_, h⟩ | ⟨_, _, h⟩ | ⟨_, _, _, h⟩ <;>
    rw [h] at he
  · cases he
  · exact passSelection_withinPass env cluster sts pods e he
  · rcases List.mem_append.1 he with he | he
    · exact passSelection_withinPass env cluster sts pods e he
    · exact Effect.withinPass_of_withinBatch (restartPodBatch_within _ _ _ _ _ _ _ e he)

theorem passSelection_deleted : deletedPods (passSelection env cluster sts pods).effects = [] := by
  unfold deletedPods
  rw [List.filterMap_eq_nil_iff]
  intro e he
  obtain ⟨p, _, _, rfl⟩ := selectPodsToRestart_effects _ _ e he
  rfl

theorem reconcileRollingRestart_deleted :
    (deletedPods (reconcileRollingRestart env checks cluster rackID (some sts) pods).effects).Sublist
      ((reconcileRollingRestart env checks cluster rackID (some sts) pods).batch.map (·.name)) := by
  rcases reconcileRollingRestart_cases env checks cluster rackID sts pods with ⟨_, h⟩ | ⟨_, _, h⟩ | ⟨_, _, _, h⟩
  · rw [h]; exact List.nil_sublist _
  · rw [h, passSelection_deleted]; exact List.nil_sublist _
  · rw [h, runBatch_batch]
    show (deletedPods (_ ++ _)).Sublist _
    rw [deletedPods_append, passSelection_deleted]
    exact restartPodBatch_deleted ..

theorem reconcileRollingRestart_stamped (hdyn : cluster.spec.enableDynamicConfigUpdate ≠ some true) {name hash : String}
    (h : .updatePodConfigHash name hash ∈
      (reconcileRollingRestart env checks cluster rackID (some sts) pods).effects) :
    hash = sts.hashes.config ∧ ∃ p ∈ pods, p.name = name ∧ shouldWarmRestart env cluster p sts = true := by
  have hsel : .updatePodConfigHash name hash ∉ (passSelection env cluster sts pods).effects := by
    intro he
    obtain ⟨p, _, _, hp⟩ := selectPodsToRestart_effects _ _ _ he
    cases hp
  have hnone : ∀ old new, (batchDynamicUpdate env cluster ((passSelection env cluster sts pods).batch cluster sts)
      sts.hashes.config old new) = .notTried := by
    intro old new
    unfold batchDynamicUpdate
    split
    · split
      · unfold tryDynamicConfigUpdateBatch
        rw [if_pos hdyn]
      · rfl
    · rfl
  rcases reconcileRollingRestart_cases env checks cluster rackID sts pods with ⟨_, he⟩ | ⟨_, _, he⟩ | ⟨_, _, _, he⟩ <;>
    rw [he] at h
  · cases h
  · exact absurd h hsel
  · rw [runBatch_effects, Selection.update, hnone] at h
    rcases List.mem_append.1 h with h | h
    · exact absurd h hsel
    · rw [if_neg (by simp [DynOutcome.notTried])] at h
      rcases List.mem_append.1 h with h | h
      · cases h
      · rw [restartPods_effects] at h
        obtain ⟨p, hp, h⟩ := List.mem_flatMap.1 h
        have hpods : p ∈ pods := by
          have := (List.take_sublist _ _).subset hp
          exact mem_listRackPods.1 (List.mem_filter.1 ((selectPodsToRestart_pods _ _).subset this)).1
        rcases restartPod_cases env cluster sts p with hr | ⟨hw, hr⟩ | ⟨hw, hr⟩ <;> rw [hr] at h
        · rcases coldRestartPod_cases env p with hc | hc <;> rw [hc] at h <;> simp at h
        · obtain ⟨rfl, rfl⟩ : name = p.name ∧ hash = sts.hashes.config := by simpa using h
          exact ⟨rfl, p, hpods, rfl, hw⟩
        · simp at h

theorem restartInFlightReason_of_batch
    (h : (reconcileRollingRestart env checks cluster rackID (some sts) pods).batch ≠ []) :
    sts.hashes.config ≠ "" ∧
    restartInFlightReason (listRackPods pods) ⟨sts.hashes, statefulSetReplicas sts, sts.podManagementPolicy⟩ =
      none := by
  rcases reconcileRollingRestart_cases env checks cluster rackID sts pods with ⟨hb, _⟩ | ⟨hb, _⟩ | ⟨hc, _, hg, _⟩
  · exact absurd hb h
  · exact absurd hb h
  · exact ⟨hc, restartInFlightReason_of_not_blocked hg⟩

theorem reconcileRollingRestart_batch :
    (reconcileRollingRestart env checks cluster rackID (some sts) pods).batch.Sublist
      ((listRackPods pods).filter (·.stale sts.hashes)) ∧
    (reconcileRollingRestart env checks cluster rackID (some sts) pods).batch.length ≤
      (getRollingUpdateBatchSize cluster (statefulSetReplicas sts)).toNat := by
  rcases reconcileRollingRestart_cases env checks cluster rackID sts pods with ⟨hb, _⟩ | ⟨hb, _⟩ | ⟨_, _, _, h⟩
  · rw [hb]; exact ⟨List.nil_sublist _, Nat.zero_le _⟩
  · rw [hb]; exact ⟨List.nil_sublist _, Nat.zero_le _⟩
  · rw [h, runBatch_batch]
    exact ⟨(List.take_sublist _ _).trans (selectPodsToRestart_pods _ _), List.length_take_le _ _⟩

end Cases

end Acko
