/-
The StatefulSet of a rack (`reconcileStatefulSet`): created where it is missing, and otherwise
patched to the rack's size and template. A smaller size is reached in batches, each gated on a
migration probe and on the readiness of the pods that stay.
-/
import AckoProofs.Kube.Pod

namespace Acko

/-! ## Objects, answers and calls -/

/-- A StatefulSet as the API server holds it; `deleting` says that it has a deletion timestamp. -/
structure StatefulSetObject where
  sts : StatefulSet
  deleting : Bool
  deriving DecidableEq

/-- What the patch of the cluster's phase comes back with. -/
inductive PhaseReply
  | done
  | conflict
  | failed (reason : String)
  deriving DecidableEq

/-- What a pass learns from outside about one StatefulSet: the errors of its calls, by call, the
answer of the migration probe, and whether the rack's ConfigMap was there and could be deleted. -/
structure StsEnv where
  getError : Option String
  ownerError : Option String
  createError : Option String
  migration : Except String Bool
  phase : PhaseReply
  listError : Option String
  relistError : Option String
  patchError : Option String
  delete : DeleteReply
  cleanupListError : Option String
  configMapDeleted : Bool

def StsEnv.calm : StsEnv := ⟨none, none, none, .ok false, .done, none, none, none, .deleted, none, true⟩

/-- Every call succeeds, whatever it answers. -/
structure StsEnv.AllOk (env : StsEnv) : Prop where
  get : env.getError = none
  owner : env.ownerError = none
  create : env.createError = none
  migration : ∀ err, env.migration ≠ .error err
  phase : env.phase = .done
  list : env.listError = none
  relist : env.relistError = none
  patch : env.patchError = none
  delete : ∀ err, env.delete ≠ .failed err
  cleanupList : env.cleanupListError = none

theorem StsEnv.calm_allOk : StsEnv.calm.AllOk :=
  ⟨rfl, rfl, rfl, (fun _ h => nomatch h), rfl, rfl, rfl, rfl, (fun _ h => nomatch h), rfl⟩

/-- The calls that matter for scaling, with effect. `patch` is the patch of a rack in the spec, which
also writes the template; `drain` that of a removed rack. -/
inductive ScaleEvent
  | probe (answer : Except String Bool)
  | create (sts : StatefulSet)
  | patch (name : String) (old new : Int) (hashes : Hashes)
  | drain (name : String) (old new : Int)
  | delete (name : String)
  | deleteCascadePVCs (name : String)
  | deleteConfigMap (name : String)
  deriving DecidableEq

def ScaleEvent.lowers : ScaleEvent → Option (String × Int × Int)
  | .patch name old new _ => if new < old then some (name, old, new) else none
  | .drain name old new => some (name, old, new)
  | _ => none

def ScaleEvent.isDrain : ScaleEvent → Bool
  | .drain _ _ _ => true
  | _ => false

/-! ## Batches and readiness -/

variable (cluster : Cluster)

/-- As configured, or all at once. -/
def getScaleDownBatchSize (totalToScaleDown : Int) : Int :=
  match cluster.spec.rackConfig.bind (·.scaleDownBatchSize) with
  | some v => resolveIntOrPercent (some v) totalToScaleDown
  | none => totalToScaleDown

/-- The Ready pods among those that stay. -/
def readyCount (rackPods : List Pod) (targetReplicas : Int) : Int :=
  (rackPods.filter fun p => podOrdinal p.name < targetReplicas && isPodReady p).length

variable (env : StsEnv)

/-- Whether the scale-down is deferred, or an error. -/
def checkScaleDownReadiness (rackPods : List Pod) (targetReplicas : Int) : Except String Bool :=
  match env.listError with
  | some err => .error ("listing rack pods for scale-down readiness check: " ++ err)
  | none => .ok (readyCount rackPods targetReplicas < targetReplicas)

/-! ## A rack of the spec -/

/-- Pods start in parallel by default. -/
def buildStatefulSet (name : String) (replicas : Int) (hashes : Hashes) : StatefulSet :=
  ⟨name, some replicas, hashes, cluster.spec.podManagementPolicy.getD .parallel⟩

/-- The patch of an existing StatefulSet to a number of replicas and the rack's template. -/
def patchStatefulSet (name : String) (old target : Int) (desired : Hashes) :
    Except String Bool × List ScaleEvent :=
  match env.patchError with
  | some err => (.error ("patching StatefulSet " ++ name ++ ": " ++ err), [])
  | none => (.ok false, [.patch name old target desired])

/-- The scale-down of an existing StatefulSet, once the migration probe has answered. -/
def scaleDownStatefulSet (cluster : Cluster) (name : String) (old rackSize : Int) (desired : Hashes)
    (rackPods : List Pod) : Except String Bool × List ScaleEvent :=
  match env.migration with
  | .error _ => (.ok true, [])
  | .ok true => match env.phase with
    | .failed err => (.error err, [])
    | _ => (.ok true, [])
  | .ok false =>
    -- one batch at a time
    let target := max (old - getScaleDownBatchSize cluster (old - rackSize)) rackSize
    match checkScaleDownReadiness env rackPods target with
    | .error err => (.error err, [])
    | .ok true => (.ok true, [])
    | .ok false => patchStatefulSet env name old target desired

/-- Returns whether a scale-down was deferred, or an error. `desired` are the hashes of the pod
template the rack should have. -/
def reconcileStatefulSet (cluster : Cluster) (rack : Rack) (desired : Hashes) (rackSize : Int) (rackPods : List Pod)
    (existing : Option StatefulSet) : Except String Bool × List ScaleEvent :=
  let name := statefulSetName cluster.name rack.id
  match env.getError with
  | some err => (.error ("getting StatefulSet " ++ name ++ ": " ++ err), [])
  | none =>
    match existing with
    | none =>
      match env.ownerError, env.createError with
      | some err, _ => (.error err, [])
      | none, some err => (.error ("creating StatefulSet " ++ name ++ ": " ++ err), [])
      | none, none => (.ok false, [.create (buildStatefulSet cluster name rackSize desired)])
    | some sts =>
      let oldReplicas := statefulSetReplicas sts
      if oldReplicas = rackSize ∧ sts.hashes = desired then (.ok false, [])
      else if rackSize < oldReplicas then
        let (result, events) := scaleDownStatefulSet env cluster name oldReplicas rackSize desired rackPods
        (result, .probe env.migration :: events)
      else patchStatefulSet env name oldReplicas rackSize desired

/-! ## What it can do -/

theorem one_le_getScaleDownBatchSize {total : Int} (h : 1 ≤ total) :
    1 ≤ getScaleDownBatchSize cluster total := by
  unfold getScaleDownBatchSize
  split
  · exact one_le_resolveIntOrPercent _ _
  · exact h

theorem checkScaleDownReadiness_passed {env : StsEnv} {rackPods : List Pod} {target : Int}
    (h : checkScaleDownReadiness env rackPods target = .ok false) : target ≤ readyCount rackPods target := by
  unfold checkScaleDownReadiness at h
  split at h
  · cases h
  · simpa using h

/-- Where a scale-down takes a StatefulSet in one batch. -/
def scaleDownTarget (old target : Int) : Int :=
  max (old - getScaleDownBatchSize cluster (old - target)) target

/-- A batch of a scale-down from `old` towards `target` that ends at `new`. -/
structure BatchStep (cluster : Cluster) (target old new : Int) : Prop where
  lower : new < old
  above : target ≤ new
  size : old - new ≤ getScaleDownBatchSize cluster (old - target)

theorem batchStep_scaleDownTarget {target old : Int} (h : target < old) :
    BatchStep cluster target old (scaleDownTarget cluster old target) := by
  have hb := one_le_getScaleDownBatchSize cluster (show 1 ≤ old - target by omega)
  unfold scaleDownTarget
  constructor <;> omega

theorem scaleDownStatefulSet_cases (cluster : Cluster) (name : String) (old rackSize : Int) (desired : Hashes)
    (rackPods : List Pod) :
    ((scaleDownStatefulSet env cluster name old rackSize desired rackPods).1 ≠ .ok false ∧
      (scaleDownStatefulSet env cluster name old rackSize desired rackPods).2 = []) ∨
    (env.migration = .ok false ∧
      scaleDownTarget cluster old rackSize ≤ readyCount rackPods (scaleDownTarget cluster old rackSize) ∧
      scaleDownStatefulSet env cluster name old rackSize desired rackPods =
        (.ok false, [.patch name old (scaleDownTarget cluster old rackSize) desired])) := by
  unfold scaleDownStatefulSet
  cases hm : env.migration with
  | error err => exact Or.inl ⟨by simp, rfl⟩
  | ok migrating =>
    cases migrating with
    | true => cases env.phase <;> exact Or.inl ⟨by simp, rfl⟩
    | false =>
      simp only
      cases hr : checkScaleDownReadiness env rackPods (scaleDownTarget cluster old rackSize) with
      | error err => rw [scaleDownTarget] at hr; rw [hr]; exact Or.inl ⟨by simp, rfl⟩
      | ok deferred =>
        cases deferred with
        | true => rw [scaleDownTarget] at hr; rw [hr]; exact Or.inl ⟨by simp, rfl⟩
        | false =>
          have hready := checkScaleDownReadiness_passed hr
          rw [scaleDownTarget] at hr
          rw [hr]
          simp only [patchStatefulSet]
          cases env.patchError with
          | some err => exact Or.inl ⟨by simp, rfl⟩
          | none => exact Or.inr ⟨trivial, hready, rfl⟩

theorem reconcileStatefulSet_cases (cluster : Cluster) (rack : Rack) (desired : Hashes) (rackSize : Int)
    (rackPods : List Pod) (existing : Option StatefulSet) :
    let out := reconcileStatefulSet env cluster rack desired rackSize rackPods existing
    let name := statefulSetName cluster.name rack.id
    -- it fails, or there is nothing to do
    (out.2 = [] ∧ (out.1 = .ok false → ∃ sts, existing = some sts ∧ statefulSetReplicas sts = rackSize)) ∨
    (existing = none ∧ out = (.ok false, [.create (buildStatefulSet cluster name rackSize desired)])) ∨
    ∃ sts, existing = some sts ∧
      -- the size is not lowered
      ((statefulSetReplicas sts ≤ rackSize ∧
          out = (.ok false, [.patch name (statefulSetReplicas sts) rackSize desired])) ∨
      -- the scale-down is held back, or fails
      (rackSize < statefulSetReplicas sts ∧ out.1 ≠ .ok false ∧ out.2 = [.probe env.migration]) ∨
      -- a batch
      (rackSize < statefulSetReplicas sts ∧ scaleDownTarget cluster (statefulSetReplicas sts) rackSize ≤
          readyCount rackPods (scaleDownTarget cluster (statefulSetReplicas sts) rackSize) ∧
        out = (.ok false, [.probe (.ok false),
          .patch name (statefulSetReplicas sts) (scaleDownTarget cluster (statefulSetReplicas sts) rackSize)
            desired]))) := by
  intro out name
  unfold out reconcileStatefulSet
  cases env.getError with
  | some err => exact Or.inl ⟨rfl, by simp⟩
  | none =>
    cases existing with
    | none =>
      cases env.ownerError with
      | some err => exact Or.inl ⟨rfl, by simp⟩
      | none =>
        cases env.createError with
        | some err => exact Or.inl ⟨rfl, by simp⟩
        | none => exact Or.inr (Or.inl ⟨rfl, rfl⟩)
    | some sts =>
      simp only
      split
      · rename_i h
        exact Or.inl ⟨rfl, fun _ => ⟨sts, rfl, h.1⟩⟩
      · split
        · rename_i hlt
          rcases scaleDownStatefulSet_cases env cluster name (statefulSetReplicas sts) rackSize desired rackPods with
            ⟨hres, hev⟩ | ⟨hm, hready, h⟩
          · exact Or.inr (Or.inr ⟨sts, rfl, Or.inr (Or.inl ⟨hlt, hres, by rw [hev]⟩)⟩)
          · refine Or.inr (Or.inr ⟨sts, rfl, Or.inr (Or.inr ⟨hlt, hready, ?_⟩)⟩)
            rw [h, hm]
        · rename_i hlt
          unfold patchStatefulSet
          cases env.patchError with
          | some err => exact Or.inl ⟨rfl, by simp⟩
          | none => exact Or.inr (Or.inr ⟨sts, rfl, Or.inl ⟨by omega, rfl⟩⟩)

theorem checkScaleDownReadiness_succeeds {env : StsEnv} (h : env.AllOk) (rackPods : List Pod) (target : Int) :
    ∃ deferred, checkScaleDownReadiness env rackPods target = .ok deferred := by
  unfold checkScaleDownReadiness
  rw [h.list]
  exact ⟨_, rfl⟩

theorem reconcileStatefulSet_succeeds {env : StsEnv} (h : env.AllOk) (cluster : Cluster) (rack : Rack)
    (desired : Hashes) (rackSize : Int) (rackPods : List Pod) (existing : Option StatefulSet) :
    ∃ deferred, (reconcileStatefulSet env cluster rack desired rackSize rackPods existing).1 = .ok deferred := by
  have hpatch : ∀ name old target, patchStatefulSet env name old target desired =
      (.ok false, [.patch name old target desired]) := by
    intro name old target
    rw [patchStatefulSet, h.patch]
  have hdown : ∀ name old, ∃ deferred,
      (scaleDownStatefulSet env cluster name old rackSize desired rackPods).1 = .ok deferred := by
    intro name old
    unfold scaleDownStatefulSet
    split
    · exact ⟨_, rfl⟩
    · rw [h.phase]
      exact ⟨_, rfl⟩
    · obtain ⟨deferred, hd⟩ := checkScaleDownReadiness_succeeds h rackPods
        (max (old - getScaleDownBatchSize cluster (old - rackSize)) rackSize)
      simp only [hd, hpatch]
      cases deferred <;> exact ⟨_, rfl⟩
  unfold reconcileStatefulSet
  rw [h.get, h.owner, h.create]
  cases existing with
  | none => exact ⟨_, rfl⟩
  | some sts =>
    simp only
    split
    · exact ⟨_, rfl⟩
    · split
      · exact hdown _ _
      · rw [hpatch]
        exact ⟨_, rfl⟩

end Acko
