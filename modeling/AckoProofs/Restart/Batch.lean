/-
The restart of a batch of pods (`restartPodBatch`): the dynamic update of the whole batch where a
config changed, and otherwise pod by pod a warm restart (SIGUSR1) or a cold one (delete).
-/
import AckoProofs.Dynamic.TwoPhase
import AckoProofs.Restart.Gate

namespace Acko

/-! ## The environment of a pass -/

/-- Everything a rolling-restart pass learns from outside besides the objects it reads: the clock,
the errors of its reads, which patches, signals and deletes succeed (by pod), the migration check,
whether the exec API and the Aerospike client are available, and the replies of the nodes. -/
structure RestartEnv where
  now : Time
  getError : Option String
  listError : Option String
  adoptOk : String → Bool
  migration : Except String Bool
  restConfig : Bool
  signalOk : String → Bool
  warmStampOk : String → Bool
  deleteReply : String → DeleteReply
  clientOk : Bool
  dyn : DynEnv

def RestartEnv.calm (restConfig : Bool) (hosts : List String) : RestartEnv :=
  ⟨0, none, none, fun _ => true, .ok false, restConfig, fun _ => true, fun _ => true, fun _ => .deleted, true,
    .calm hosts⟩

/-- Every API, exec and node call of the two-phase update succeeds. -/
structure DynEnv.AllOk (env : DynEnv) : Prop where
  validate : ∀ p, env.validateExpired p = false
  probe : ∀ p, env.probeReply p ≠ .failed
  apply : ∀ p, env.applyExpired p = false
  command : ∀ p i, env.commandExpired p i = false
  reply : ∀ p i, (env.applyReply p i).isOk = true
  rollback : ∀ p i, (env.rollbackReply p i).isOk = true
  stamp : ∀ p, env.stampOk p = true
  status : ∀ p, env.statusOk p = true

/-- Every API, exec and node call of the pass succeeds; the exec API may or may not be there. -/
structure RestartEnv.AllOk (env : RestartEnv) : Prop where
  get : env.getError = none
  list : env.listError = none
  adopt : ∀ p, env.adoptOk p = true
  signal : ∀ p, env.signalOk p = true
  stamp : ∀ p, env.warmStampOk p = true
  delete : ∀ p, env.deleteReply p = .deleted
  client : env.clientOk = true
  dyn : env.dyn.AllOk

theorem RestartEnv.calm_allOk (restConfig : Bool) (hosts : List String) : (RestartEnv.calm restConfig hosts).AllOk where
  get := rfl
  list := rfl
  adopt _ := rfl
  signal _ := rfl
  stamp _ := rfl
  delete _ := rfl
  client := rfl
  dyn := by
    have hok : (Reply.answer "ok").isOk = true := by decide
    exact ⟨fun _ => rfl, fun _ h => (by cases h), fun _ => rfl, fun _ _ => rfl, fun _ _ => hok, fun _ _ => hok,
      fun _ => rfl, fun _ => rfl⟩

/-! ## One pod -/

/-- A pod can be warm-restarted when the exec API is there, the pod is Ready, and neither its image
nor its pod-spec hash differs from the desired one. The storage hash is not looked at. -/
def shouldWarmRestart (env : RestartEnv) (cluster : Cluster) (pod : Pod) (sts : StatefulSet) : Bool :=
  env.restConfig && isPodReady pod && pod.aerospikeImage.all (· = cluster.spec.image) &&
    !podSpecMismatch pod sts.hashes

/-- Deletes the pod; one that is gone already counts as restarted. -/
def coldRestartPod (env : RestartEnv) (pod : Pod) : Bool × List Effect :=
  match env.deleteReply pod.name with
  | .deleted => (true, [.delete pod.name env.now])
  | .notFound => (true, [])
  | .failed _ => (false, [])

/-- A warm restart where it is possible, falling back to a cold one when the signal fails. Returns
whether the restart succeeded. -/
def restartPod (env : RestartEnv) (cluster : Cluster) (sts : StatefulSet) (pod : Pod) : Bool × List Effect :=
  if !shouldWarmRestart env cluster pod sts then coldRestartPod env pod
  else if !env.signalOk pod.name then coldRestartPod env pod
  else if env.warmStampOk pod.name then
    (true, [.signal pod.name pod.podIP, .updatePodConfigHash pod.name sts.hashes.config])
  else (false, [.signal pod.name pod.podIP])

/-! ## A batch -/

/-- The loop of single restarts, continuing after failures: the number of restarted pods, the
names of those that failed, and the effects. -/
def restartPods (env : RestartEnv) (cluster : Cluster) (sts : StatefulSet) :
    List Pod → Nat × List String × List Effect
  | [] => (0, [], [])
  | pod :: rest =>
    let (ok, effects) := restartPod env cluster sts pod
    let (restarted, failed, more) := restartPods env cluster sts rest
    (if ok then restarted + 1 else restarted, if ok then failed else pod.name :: failed, effects ++ more)

structure BatchOutcome where
  restarted : Nat
  failedPods : List String
  batchPods : List Pod
  effects : List Effect

def batchDynamicUpdate (env : RestartEnv) (cluster : Cluster) (batchPods : List Pod) (desiredHash : String)
    (oldConfig newConfig : Option Config) : DynOutcome :=
  match oldConfig, newConfig with
  | some oldConfig, some newConfig =>
    if env.clientOk then tryDynamicConfigUpdateBatch env.dyn cluster batchPods oldConfig newConfig desiredHash
    else .notTried
  | _, _ => .notTried

/-- The degraded phase asked for after a rollback with failures. -/
def degradedEffects (rollback : Option RollbackResult) : List Effect :=
  match rollback with
  | some rb => if rb.HasFailures then [.setConfigDegraded rb.failedPods] else []
  | none => []

/-- At most `batchSize` of the pods to restart: updated together, or else restarted one by one. -/
def restartPodBatch (env : RestartEnv) (cluster : Cluster) (podsToRestart : List Pod) (sts : StatefulSet)
    (batchSize : Int) (oldConfig newConfig : Option Config) : BatchOutcome :=
  let batchPods := podsToRestart.take batchSize.toNat
  let dyn := batchDynamicUpdate env cluster batchPods sts.hashes.config oldConfig newConfig
  if dyn.allOk then ⟨batchPods.length, [], batchPods, dyn.effects⟩
  else
    -- no pod counts as dynamically updated here, so that every pod of the batch is restarted
    let (restarted, failedPods, effects) := restartPods env cluster sts batchPods
    ⟨restarted, failedPods, batchPods, dyn.effects ++ degradedEffects dyn.rollback ++ effects⟩

/-! ## What a batch does -/

/-- The effects of a batch of a rack whose template has the hashes `desired`: only the template's
own hashes are stamped, and only pods of the batch are stamped, signalled or deleted. -/
def Effect.withinBatch (desired : Hashes) (batch : List Pod) : Effect → Prop
  | .adoptStorageHash _ _ => False
  | .updatePodConfigHash pod hash => hash = desired.config ∧ pod ∈ batch.map (·.name)
  | .signal pod _ => pod ∈ batch.map (·.name)
  | .delete pod _ => pod ∈ batch.map (·.name)
  | .setConfig _ _ => True
  | .dynamicConfigStatus pod _ => pod ∈ batch.map (·.name)
  | .setConfigDegraded _ => True

section Spec

variable (env : RestartEnv) (cluster : Cluster) (sts : StatefulSet)

theorem restartPod_cases (pod : Pod) :
    restartPod env cluster sts pod = coldRestartPod env pod ∨
    (shouldWarmRestart env cluster pod sts = true ∧ restartPod env cluster sts pod =
      (true, [.signal pod.name pod.podIP, .updatePodConfigHash pod.name sts.hashes.config])) ∨
    (shouldWarmRestart env cluster pod sts = true ∧ restartPod env cluster sts pod =
      (false, [.signal pod.name pod.podIP])) := by
  unfold restartPod
  split
  · exact Or.inl rfl
  · rename_i hw
    split
    · exact Or.inl rfl
    · split
      · exact Or.inr (Or.inl ⟨by simpa using hw, rfl⟩)
      · exact Or.inr (Or.inr ⟨by simpa using hw, rfl⟩)

theorem coldRestartPod_cases (pod : Pod) :
    (coldRestartPod env pod).2 = [] ∨ (coldRestartPod env pod).2 = [.delete pod.name env.now] := by
  unfold coldRestartPod
  cases env.deleteReply pod.name with
  | deleted => exact Or.inr rfl
  | notFound => exact Or.inl rfl
  | failed r => exact Or.inl rfl

theorem restartPod_effects (pod : Pod) :
    (restartPod env cluster sts pod).2 = [] ∨
    (restartPod env cluster sts pod).2 = [.delete pod.name env.now] ∨
    (restartPod env cluster sts pod).2 =
      [.signal pod.name pod.podIP, .updatePodConfigHash pod.name sts.hashes.config] ∨
    (restartPod env cluster sts pod).2 = [.signal pod.name pod.podIP] := by
  rcases restartPod_cases env cluster sts pod with h | ⟨_, h⟩ | ⟨_, h⟩
  · rw [h]
    rcases coldRestartPod_cases env pod with h | h
    · exact Or.inl h
    · exact Or.inr (Or.inl h)
  · rw [h]; exact Or.inr (Or.inr (Or.inl rfl))
  · rw [h]; exact Or.inr (Or.inr (Or.inr rfl))

theorem restartPods_effects : ∀ (pods : List Pod),
    (restartPods env cluster sts pods).2.2 = pods.flatMap fun pod => (restartPod env cluster sts pod).2
  | [] => rfl
  | pod :: rest => by simp [restartPods, restartPods_effects rest]

theorem restartPods_deleted (pods : List Pod) :
    (deletedPods (restartPods env cluster sts pods).2.2).Sublist (pods.map (·.name)) := by
  rw [restartPods_effects]
  induction pods with
  | nil => exact List.Sublist.refl _
  | cons pod rest ih =>
    simp only [List.flatMap_cons, deletedPods_append, List.map_cons]
    rcases restartPod_effects env cluster sts pod with h | h | h | h <;> rw [h]
    · exact ih.cons _
    · exact ih.cons_cons _
    · exact ih.cons _
    · exact ih.cons _

theorem restartPods_within (pods : List Pod) :
    ∀ e ∈ (restartPods env cluster sts pods).2.2, e.withinBatch sts.hashes pods := by
  intro e he
  rw [restartPods_effects] at he
  obtain ⟨pod, hp, he⟩ := List.mem_flatMap.1 he
  have hpod : pod.name ∈ pods.map (·.name) := List.mem_map_of_mem hp
  rcases restartPod_effects env cluster sts pod with h | h | h | h <;> rw [h] at he
  · cases he
  · rw [List.mem_singleton.1 he]
    exact hpod
  · rcases List.mem_pair.1 he with rfl | rfl
    · exact hpod
    · exact ⟨rfl, hpod⟩
  · rw [List.mem_singleton.1 he]
    exact hpod

theorem batchDynamicUpdate_ofUpdate (batchPods : List Pod) (hash : String) (oldConfig newConfig : Option Config) :
    ∀ e ∈ (batchDynamicUpdate env cluster batchPods hash oldConfig newConfig).effects,
      e.ofUpdate hash (batchPods.map (·.name)) := by
  intro e he
  unfold batchDynamicUpdate at he
  split at he
  · split at he
    · exact tryDynamicConfigUpdateBatch_ofUpdate _ _ _ _ _ _ e he
    · cases he
  · cases he

theorem Effect.withinBatch_of_ofUpdate {desired : Hashes} {batch : List Pod} {e : Effect}
    (h : e.ofUpdate desired.config (batch.map (·.name))) : e.withinBatch desired batch := by
  cases e with
  | updatePodConfigHash _ _ => exact h
  | dynamicConfigStatus _ _ => exact h
  | setConfig _ _ => trivial
  | setConfigDegraded _ => trivial
  | adoptStorageHash _ _ => cases h
  | signal _ _ => cases h
  | delete _ _ => cases h

theorem batchDynamicUpdate_stamped {batchPods : List Pod} {hash : String} (hh : hash ≠ "")
    {oldConfig newConfig : Option Config}
    (hok : (batchDynamicUpdate env cluster batchPods hash oldConfig newConfig).allOk = true) {pod : Pod}
    (hp : pod ∈ batchPods) (hstamp : env.dyn.stampOk pod.name = true) :
    .updatePodConfigHash pod.name hash ∈
      (batchDynamicUpdate env cluster batchPods hash oldConfig newConfig).effects := by
  unfold batchDynamicUpdate at hok ⊢
  split at hok
  · rename_i oldConfig newConfig
    split at hok
    · rename_i hclient
      have hreach := ((tryDynamicConfigUpdateBatch_allOk _ _ _ _ _ _).1 hok).1
      simp only [if_pos hclient]
      rw [tryDynamicConfigUpdateBatch_eq, if_pos hreach] at hok ⊢
      exact applyPhase_stamped env.dyn hash _ hh _ _ hok (List.mem_map_of_mem hp) hstamp
    · cases hok
  · cases hok

variable (podsToRestart : List Pod) (batchSize : Int) (oldConfig newConfig : Option Config)

theorem restartPodBatch_batchPods :
    (restartPodBatch env cluster podsToRestart sts batchSize oldConfig newConfig).batchPods =
      podsToRestart.take batchSize.toNat := by
  unfold restartPodBatch
  simp only
  split <;> rfl

theorem restartPodBatch_effects :
    (restartPodBatch env cluster podsToRestart sts batchSize oldConfig newConfig).effects =
      let update := batchDynamicUpdate env cluster (podsToRestart.take batchSize.toNat) sts.hashes.config
        oldConfig newConfig
      if update.allOk then update.effects
      else update.effects ++ degradedEffects update.rollback ++
        (restartPods env cluster sts (podsToRestart.take batchSize.toNat)).2.2 := by
  unfold restartPodBatch
  simp only
  split <;> rfl

theorem degradedEffects_cases (rb : Option RollbackResult) :
    degradedEffects rb = [] ∨ ∃ pods, degradedEffects rb = [.setConfigDegraded pods] := by
  unfold degradedEffects
  split
  · split
    · exact Or.inr ⟨_, rfl⟩
    · exact Or.inl rfl
  · exact Or.inl rfl

theorem restartPodBatch_deleted :
    (deletedPods (restartPodBatch env cluster podsToRestart sts batchSize oldConfig newConfig).effects).Sublist
      ((podsToRestart.take batchSize.toNat).map (·.name)) := by
  have hdyn := batchDynamicUpdate_ofUpdate env cluster (podsToRestart.take batchSize.toNat) sts.hashes.config
    oldConfig newConfig
  rw [restartPodBatch_effects]
  simp only
  split
  · rw [deletedPods_ofUpdate hdyn]
    exact List.nil_sublist _
  · rw [deletedPods_append, deletedPods_append, deletedPods_ofUpdate hdyn]
    have hdeg : ∀ rb, deletedPods (degradedEffects rb) = [] := by
      intro rb
      rcases degradedEffects_cases rb with h | ⟨pods, h⟩ <;> rw [h] <;> rfl
    rw [hdeg]
    exact restartPods_deleted env cluster sts _

theorem restartPodBatch_within :
    ∀ e ∈ (restartPodBatch env cluster podsToRestart sts batchSize oldConfig newConfig).effects,
      e.withinBatch sts.hashes (podsToRestart.take batchSize.toNat) := by
  intro e he
  have hdyn := batchDynamicUpdate_ofUpdate env cluster (podsToRestart.take batchSize.toNat) sts.hashes.config
    oldConfig newConfig
  rw [restartPodBatch_effects] at he
  simp only at he
  split at he
  · exact Effect.withinBatch_of_ofUpdate (hdyn e he)
  · rcases List.mem_append.1 he with he | he
    · rcases List.mem_append.1 he with he | he
      · exact Effect.withinBatch_of_ofUpdate (hdyn e he)
      · rcases degradedEffects_cases (batchDynamicUpdate env cluster (podsToRestart.take batchSize.toNat)
          sts.hashes.config oldConfig newConfig).rollback with h | ⟨pods, h⟩ <;> rw [h] at he
        · cases he
        · rw [List.mem_singleton.1 he]; trivial
    · exact restartPods_within env cluster sts _ e he

end Spec

end Acko
