/-
What the phase Completed says about the pods: a pass publishes it only where the rolling restart
had nothing to do on any rack, so that every stale pod it saw is one that the selection leaves out.
It says nothing about pods that are not there.
-/
import AckoProofs.Lib.Run
import AckoProofs.Reconcile.Frame
import AckoProofs.Restart.Eligible
import AckoProofs.Restart.Result

namespace Acko

/-! ## The pods left out -/

/-- The pods of a rack that the selection ignores: the first ones that are pending or failed, as many
as may be ignored. -/
def ignoredPods (cluster : Cluster) (sts : StatefulSet) (pods : List Pod) : List Pod :=
  ((listRackPods pods).filter Pod.pendingOrFailed).take
    (getMaxIgnorablePods cluster (statefulSetReplicas sts)).toNat

theorem ReconcileEnv.Idle.skipped {env : ReconcileEnv} {cluster : Cluster} {rack : Rack} (h : env.Idle cluster rack)
    {sts : StatefulSet} (hsts : env.loopSts rack.id = some sts) (hc : sts.hashes.config ≠ "") {pod : Pod}
    (hp : pod ∈ env.loopPods rack.id) (hs : pod.stale sts.hashes = true) :
    pod ∈ ignoredPods cluster sts (env.loopPods rack.id) ∨
      stuckUnstable cluster (env.restart rack.id).now pod = true := by
  obtain ⟨checks, h⟩ := h
  rw [restartPass, hsts, reconcileRollingRestart_idle _ _ _ _ _ _ hc] at h
  obtain ⟨_, _, hsel⟩ := h
  have hnot : pod ∉ (passSelection (env.restart rack.id) cluster sts (env.loopPods rack.id)).pods := by
    rw [hsel]
    exact List.not_mem_nil
  have hskip := selectPodsToRestart_skipped hs _ 0 (mem_listRackPods.2 hp) hnot
  rwa [Int.sub_zero] at hskip

/-! ## What Completed says -/

/-- A status with the phase Completed was written after the first `n` entries of the history. -/
def PublishedSince (n : Nat) (l : List OpEntry) : Prop :=
  ∃ st : ObjectStatus, .event (.recorded st) ∈ l.drop n ∧ st.phase = .completed

def isCompletedRecord : OpEntry → Bool
  | .event (.recorded st) => st.phase = .completed
  | _ => false

theorem publishedSince_of_any {n : Nat} {l : List OpEntry} (h : (l.drop n).any isCompletedRecord = true) :
    PublishedSince n l := by
  obtain ⟨e, he, hrec⟩ := List.any_eq_true.1 h
  cases e with
  | edit d => cases hrec
  | event e =>
    cases e with
    | recorded st => exact ⟨st, he, of_decide_eq_true hrec⟩
    | _ => cases hrec

/-- No status was written after the first `n` entries. -/
def UnrecordedSince (n : Nat) (l : List OpEntry) : Prop := n ≤ l.length ∧ ∀ st, .event (.recorded st) ∉ l.drop n

theorem UnrecordedSince.append {n : Nat} {l more : List OpEntry} (h : UnrecordedSince n l)
    (hmore : ∀ st, .event (.recorded st) ∉ more) : UnrecordedSince n (l ++ more) := by
  obtain ⟨hn, h⟩ := h
  refine ⟨by rw [List.length_append]; omega, ?_⟩
  intro st hst
  rw [List.drop_append_of_le_length hn] at hst
  rcases List.mem_append.1 hst with hst | hst
  · exact h st hst
  · exact hmore st hst

/-- Only the end of a pass records a status. -/
theorem unrecordedSince_kept (n : Nat) : RestartKept (fun _ => True) fun _ l => UnrecordedSince n l where
  edits o l d _ h := h.append (by simp)
  phase o l phase reason pending h := h.append (by simp)
  work o l e he h := by
    refine h.append ?_
    intro st hst
    rw [List.mem_singleton] at hst
    cases hst
    cases he
  degraded o l base reason h := by
    refine h.append ?_
    intro st hst
    unfold degradedEvents at hst
    split at hst <;> simp at hst

/-- A pass that publishes the phase Completed has found every rack idle. -/
theorem reconcileCluster_idle {env : ReconcileEnv} {cluster : ClusterObject} {w : OpWorld}
    (h : PublishedSince w.history.length (reconcileCluster env cluster w).2.history) :
    ∀ rack ∈ getRacks cluster.toCluster, env.Idle cluster.toCluster rack := by
  by_contra hbusy
  have hkeeps : Shared.Keeps (fun _ => True) (fun _ => UnrecordedSince w.history.length)
      (reconcileCluster env cluster) :=
    (unrecordedSince_kept w.history.length).reconcileCluster fun hidle => absurd hidle hbusy
  have hstart : UnrecordedSince w.history.length w.history := ⟨le_refl _, by simp⟩
  obtain ⟨st, hst, _⟩ := h
  exact (hkeeps w ⟨hstart, fun _ _ _ _ => trivial⟩).1.2 st hst

/-- A pass that publishes the phase Completed has seen no stale pod but those that the selection
leaves out: pending or failed ones within the ignorable number, and those unready for too long. -/
theorem completed_stale_skipped {env : ReconcileEnv} {cluster : ClusterObject} {w : OpWorld}
    (hpub : PublishedSince w.history.length (reconcileCluster env cluster w).2.history) {rack : Rack}
    (hrack : rack ∈ getRacks cluster.toCluster) {sts : StatefulSet} (hsts : env.loopSts rack.id = some sts)
    (hc : sts.hashes.config ≠ "") {pod : Pod} (hp : pod ∈ env.loopPods rack.id) (hs : pod.stale sts.hashes = true) :
    pod ∈ ignoredPods cluster.toCluster sts (env.loopPods rack.id) ∨
      stuckUnstable cluster.toCluster (env.restart rack.id).now pod = true :=
  (reconcileCluster_idle hpub rack hrack).skipped hsts hc hp hs

/-! ## Completed without convergence -/

def twoReplicas : StatefulSet := ⟨"db-0", some 2, ⟨"new", "", ""⟩, .parallel⟩

/-- A cluster of two pods, the first of which has been unready for eleven minutes. -/
def unstableObject : ClusterObject :=
  let o := ClusterObject.fresh "db" "ce:8"
  { o with
    spec := { o.spec with spec := { o.spec.spec with size := 2 } }
    status := { o.status with unstableSince := [("db-0-0", -(11 * minute))] } }

/-- A pass in which every call succeeds and the pods are these. -/
def passOver (pods : List Pod) : ReconcileEnv :=
  { ReconcileEnv.calm [] with
    hashesOf := fun _ _ => twoReplicas.hashes
    objs := [⟨twoReplicas, false⟩]
    pods := fun _ => pods
    loopSts := fun _ => some twoReplicas
    loopPods := fun _ => pods
    status := ⟨fun _ => .ok pods, 0, false⟩
    allReady := false }

theorem completed_stale_skipped_unstable :
    PublishedSince 0
      (reconcileCluster (passOver [crashLooping]) unstableObject (OpWorld.start unstableObject)).2.history ∧
    (crashLooping ∈ ignoredPods unstableObject.toCluster twoReplicas [crashLooping] ∨
      stuckUnstable unstableObject.toCluster 0 crashLooping = true) := by
  have hpub : PublishedSince 0
      (reconcileCluster (passOver [crashLooping]) unstableObject (OpWorld.start unstableObject)).2.history :=
    publishedSince_of_any (by decide +kernel)
  have hrack : (⟨0, none⟩ : Rack) ∈ getRacks unstableObject.toCluster := List.mem_singleton.2 rfl
  have hsts : (passOver [crashLooping]).loopSts 0 = some twoReplicas := rfl
  exact ⟨hpub, completed_stale_skipped (w := OpWorld.start unstableObject) hpub hrack hsts (by decide)
    (List.mem_singleton.2 rfl) (by decide)⟩

def DeletedByRestart (pod : String) (l : List OpEntry) : Prop :=
  ∃ rackID t, .event (.restart rackID (.delete pod t)) ∈ l

def isRestartDelete (pod : String) : OpEntry → Bool
  | .event (.restart _ (.delete name _)) => name = pod
  | _ => false

theorem deletedByRestart_of_any {pod : String} {l : List OpEntry} (h : l.any (isRestartDelete pod) = true) :
    DeletedByRestart pod l := by
  obtain ⟨e, he, hdel⟩ := List.any_eq_true.1 h
  unfold isRestartDelete at hdel
  split at hdel
  · rename_i rackID name t
    rw [decide_eq_true_eq] at hdel
    subst hdel
    exact ⟨rackID, t, he⟩
  · cases hdel

/-- The first pass deletes the pod that is not stuck. The second one finds it gone and the other pod
still on the old config, and publishes the phase Completed. -/
theorem completed_not_converged : ∃ first last,
    ReconcileStep.step (.start unstableObject)
      (.reconcile (passOver [crashLooping, .serving "db-0-1" "ce:8" "" ⟨"old", "", ""⟩]) []) = some first ∧
    ReconcileStep.step first (.reconcile (passOver [crashLooping]) []) = some last ∧
    DeletedByRestart "db-0-1" first.history ∧ PublishedSince first.history.length last.history ∧
    crashLooping.stale twoReplicas.hashes = true ∧ crashLooping.name ≠ "db-0-1" := by
  refine ⟨_, _, rfl, rfl, deletedByRestart_of_any ?_, publishedSince_of_any ?_, by decide, by decide⟩
  · decide +kernel
  · decide +kernel

end Acko
