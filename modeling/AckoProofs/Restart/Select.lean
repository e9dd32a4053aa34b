/-
Which pods of a rack a rolling restart is about: the comparison of a pod's hashes with the
template's (`comparePodHashes`) and the selection of the pods to restart (`selectPodsToRestart`).
-/
import AckoProofs.Kube.World

namespace Acko

/-! ## Hashes -/

structure PodHashComparison where
  configMismatch : Bool
  /-- The pod needs a restart: one of the three hashes differs. -/
  stale : Bool
  /-- The pod was created before storage hashes were stamped. -/
  storageUnknown : Bool

/-- The pod-spec hash differs from the template's, where the template has one. -/
def podSpecMismatch (pod : Pod) (desired : Hashes) : Bool :=
  desired.podSpec ≠ "" && pod.hashes.podSpec ≠ desired.podSpec

/-- The storage hash differs from the template's, where both have one. -/
def storageMismatch (pod : Pod) (desired : Hashes) : Bool :=
  desired.storage ≠ "" && pod.hashes.storage ≠ "" && pod.hashes.storage ≠ desired.storage

/-- The pod's hashes against the desired ones. -/
def comparePodHashes (pod : Pod) (desired : Hashes) : PodHashComparison :=
  let configMismatch : Bool := pod.hashes.config ≠ desired.config
  { configMismatch
    stale := configMismatch || podSpecMismatch pod desired || storageMismatch pod desired
    storageUnknown := desired.storage ≠ "" && pod.hashes.storage = "" }

def Pod.stale (pod : Pod) (desired : Hashes) : Bool := (comparePodHashes pod desired).stale

theorem comparePodHashes_stale (pod : Pod) (desired : Hashes) :
    (comparePodHashes pod desired).stale = pod.stale desired := rfl

theorem stale_eq_false {pod : Pod} {desired : Hashes} : pod.stale desired = false ↔
    pod.hashes.config = desired.config ∧ podSpecMismatch pod desired = false ∧
      storageMismatch pod desired = false := by
  simp only [Pod.stale, comparePodHashes, Bool.or_eq_false_iff, and_assoc]
  simp only [ne_eq, decide_not, Bool.not_eq_false', decide_eq_true_eq]

theorem stale_of_hashes_eq {pod : Pod} {desired : Hashes} (h : pod.hashes = desired) : pod.stale desired = false := by
  rw [stale_eq_false]
  simp [podSpecMismatch, storageMismatch, h]

/-! ## Selection -/

/-- How long a pod may be unready before the restart leaves it out (`maxPodUnstableDuration`). -/
def maxPodUnstableDuration : Time := 10 * minute

/-- The status has the pod unready for longer than the threshold. -/
def stuckUnstable (cluster : Cluster) (now : Time) (pod : Pod) : Bool :=
  match cluster.status.unstableSince.lookup pod.name with
  | some since => maxPodUnstableDuration < now - since
  | none => false

def Pod.pendingOrFailed (pod : Pod) : Bool := pod.phase = .pending || pod.phase = .failed

/-- The pods to restart, whether a config hash differs among the pods looked at, and the storage
hashes stamped on pods that have none. -/
structure Selection where
  pods : List Pod
  configChanged : Bool
  effects : List Effect

/-- What the selection does to a pod that it does not skip. -/
def Selection.add (desired : Hashes) (adoptOk : String → Bool) (pod : Pod) (s : Selection) : Selection :=
  let hashes := comparePodHashes pod desired
  { pods := if hashes.stale then pod :: s.pods else s.pods
    configChanged := hashes.configMismatch || s.configChanged
    effects := if !hashes.stale && hashes.storageUnknown && adoptOk pod.name then
      .adoptStorageHash pod.name desired.storage :: s.effects else s.effects }

/-- The loop over the rack's pods; the first argument counts the pods ignored so far. `adoptOk`
says for which pods the patch of the storage hash succeeds. -/
def selectPodsToRestart (cluster : Cluster) (now : Time) (adoptOk : String → Bool) (desired : Hashes)
    (maxIgnorablePods : Int) : Int → List Pod → Selection
  | _, [] => ⟨[], false, []⟩
  | ignored, pod :: rest =>
    if pod.pendingOrFailed && ignored < maxIgnorablePods then
      selectPodsToRestart cluster now adoptOk desired maxIgnorablePods (ignored + 1) rest
    else if stuckUnstable cluster now pod then
      selectPodsToRestart cluster now adoptOk desired maxIgnorablePods ignored rest
    else
      (selectPodsToRestart cluster now adoptOk desired maxIgnorablePods ignored rest).add desired adoptOk pod

section Spec

variable {cluster : Cluster} {now : Time} {adoptOk : String → Bool} {desired : Hashes} {maxIgnorablePods : Int}

theorem selectPodsToRestart_pods : ∀ (rackPods : List Pod) (ignored : Int),
    (selectPodsToRestart cluster now adoptOk desired maxIgnorablePods ignored rackPods).pods.Sublist
      (rackPods.filter (·.stale desired)) := by
  intro rackPods
  induction rackPods with
  | nil => intro ignored; exact List.Sublist.refl _
  | cons pod rest ih =>
    intro ignored
    have skip : ∀ i, (selectPodsToRestart cluster now adoptOk desired maxIgnorablePods i rest).pods.Sublist
        ((pod :: rest).filter (·.stale desired)) := fun i =>
      (ih i).trans ((List.sublist_cons_self pod rest).filter _)
    rw [selectPodsToRestart]
    split
    · exact skip _
    split
    · exact skip _
    simp only [Selection.add]
    split
    · rename_i hs
      rw [List.filter_cons_of_pos (by exact hs)]
      exact (ih ignored).cons_cons pod
    · exact skip _

theorem selectPodsToRestart_pods_eq (rackPods : List Pod) :
    (selectPodsToRestart cluster now adoptOk desired 0 0 rackPods).pods =
      rackPods.filter fun pod => pod.stale desired && !stuckUnstable cluster now pod := by
  induction rackPods with
  | nil => rfl
  | cons pod rest ih =>
    have hi : (pod.pendingOrFailed && decide ((0 : Int) < 0)) = false := by simp
    rw [selectPodsToRestart, hi]
    cases hu : stuckUnstable cluster now pod with
    | true => simp [hu, ih]
    | false =>
      cases hs : pod.stale desired with
      | true => simp [hu, hs, Selection.add, ih, comparePodHashes_stale]
      | false => simp [hu, hs, Selection.add, ih, comparePodHashes_stale]

/-- A stale pod that is not selected is stuck, or one of the first pending or failed pods, as many as
may still be ignored. -/
theorem selectPodsToRestart_skipped {pod : Pod} (hs : pod.stale desired = true) :
    ∀ (rackPods : List Pod) (ignored : Int),
    pod ∈ rackPods →
    pod ∉ (selectPodsToRestart cluster now adoptOk desired maxIgnorablePods ignored rackPods).pods →
    pod ∈ (rackPods.filter Pod.pendingOrFailed).take (maxIgnorablePods - ignored).toNat ∨
      stuckUnstable cluster now pod = true
  | [], _, hp, _ => nomatch hp
  | p :: rest, ignored, hp, hsel => by
    rw [selectPodsToRestart] at hsel
    split at hsel
    · -- an ignored pod takes one of the places
      rename_i hign
      simp only [Bool.and_eq_true, decide_eq_true_eq] at hign
      obtain ⟨k, hk⟩ : ∃ k, (maxIgnorablePods - ignored).toNat = k + 1 :=
        ⟨(maxIgnorablePods - (ignored + 1)).toNat, by omega⟩
      rw [List.filter_cons_of_pos hign.1, hk, List.take_succ_cons]
      rcases List.mem_cons.1 hp with rfl | hp
      · exact Or.inl List.mem_cons_self
      · rcases selectPodsToRestart_skipped hs rest (ignored + 1) hp hsel with h | h
        · rw [show (maxIgnorablePods - (ignored + 1)).toNat = k by omega] at h
          exact Or.inl (List.mem_cons_of_mem _ h)
        · exact Or.inr h
    · rename_i hign
      -- the places left are those of the pods that follow
      have hrest : ∀ {q}, q ∈ (rest.filter Pod.pendingOrFailed).take (maxIgnorablePods - ignored).toNat →
          q ∈ ((p :: rest).filter Pod.pendingOrFailed).take (maxIgnorablePods - ignored).toNat := by
        intro q hq
        cases hpf : p.pendingOrFailed with
        | false => rwa [List.filter_cons_of_neg (by simp [hpf])]
        | true =>
          rw [hpf, Bool.true_and, decide_eq_true_eq] at hign
          rw [show (maxIgnorablePods - ignored).toNat = 0 by omega] at hq
          simp at hq
      have hskip : pod ∈ rest →
          pod ∉ (selectPodsToRestart cluster now adoptOk desired maxIgnorablePods ignored rest).pods → _ := fun hp h =>
        (selectPodsToRestart_skipped hs rest ignored hp h).imp_left hrest
      split at hsel
      · rename_i hstuck
        rcases List.mem_cons.1 hp with rfl | hp
        · exact Or.inr hstuck
        · exact hskip hp hsel
      · simp only [Selection.add] at hsel
        rcases List.mem_cons.1 hp with rfl | hp
        · rw [if_pos (show (comparePodHashes pod desired).stale = true from hs)] at hsel
          exact absurd List.mem_cons_self hsel
        · refine hskip hp fun hmem => hsel ?_
          split
          · exact List.mem_cons_of_mem _ hmem
          · exact hmem

theorem selectPodsToRestart_effects : ∀ (rackPods : List Pod) (ignored : Int),
    ∀ e ∈ (selectPodsToRestart cluster now adoptOk desired maxIgnorablePods ignored rackPods).effects,
      ∃ pod ∈ rackPods, pod.stale desired = false ∧ e = .adoptStorageHash pod.name desired.storage := by
  intro rackPods
  induction rackPods with
  | nil => intro ignored e he; cases he
  | cons pod rest ih =>
    intro ignored e he
    have skip : ∀ i, e ∈ (selectPodsToRestart cluster now adoptOk desired maxIgnorablePods i rest).effects →
        ∃ p ∈ pod :: rest, p.stale desired = false ∧ e = .adoptStorageHash p.name desired.storage := by
      intro i h
      obtain ⟨p, hp, h⟩ := ih i e h
      exact ⟨p, List.mem_cons_of_mem _ hp, h⟩
    rw [selectPodsToRestart] at he
    split at he
    · exact skip _ he
    split at he
    · exact skip _ he
    simp only [Selection.add] at he
    split at he
    · rename_i hc
      rcases List.mem_cons.1 he with rfl | he
      · refine ⟨pod, List.mem_cons_self, ?_, rfl⟩
        simp only [Bool.and_eq_true, Bool.not_eq_true'] at hc
        exact hc.1.1
      · exact skip _ he
    · exact skip _ he

theorem selectPodsToRestart_configChanged : ∀ (rackPods : List Pod) (ignored : Int),
    (selectPodsToRestart cluster now adoptOk desired maxIgnorablePods ignored rackPods).configChanged = true →
      ∃ pod ∈ rackPods, pod.hashes.config ≠ desired.config := by
  intro rackPods
  induction rackPods with
  | nil => intro ignored h; cases h
  | cons pod rest ih =>
    intro ignored h
    have skip : ∀ i, (selectPodsToRestart cluster now adoptOk desired maxIgnorablePods i rest).configChanged = true →
        ∃ p ∈ pod :: rest, p.hashes.config ≠ desired.config := by
      intro i h
      obtain ⟨p, hp, hc⟩ := ih i h
      exact ⟨p, List.mem_cons_of_mem _ hp, hc⟩
    rw [selectPodsToRestart] at h
    split at h
    · exact skip _ h
    split at h
    · exact skip _ h
    rcases Bool.or_eq_true_iff.1 h with h | h
    · exact ⟨pod, List.mem_cons_self, by simpa [comparePodHashes] using h⟩
    · exact skip _ h

end Spec

end Acko
