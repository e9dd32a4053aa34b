/-
The reclamation of claims above a rack's replica count (`reclaimOrphanedRackPVCs`), which runs in
every pass over the rack's StatefulSet. A claim it deletes is one of this StatefulSet by name, label
and owner, and its ordinal has no pod: the status counts the pods that exist, the list shows as many
of them below the replica count, and so there is none above it.
-/
import AckoProofs.Storage.Delete

namespace Acko

/-! ## The source -/

/-- A StatefulSet as it was read: `generation`, `observedGeneration` and `statusReplicas` say how far
its controller has got, `volumeClaimTemplates` are the names of its claim templates. -/
structure LiveStatefulSet extends StatefulSet where
  uid : String
  generation : Int
  observedGeneration : Int
  statusReplicas : Int
  volumeClaimTemplates : List String

/-- Also if nothing owns the claim. -/
def ownedByStatefulSetUID (pvc : PersistentVolumeClaim) (stsUID : String) : Bool :=
  pvc.ownerReferences.isEmpty || stsUID ∈ pvc.ownerReferences

/-- The claims of the StatefulSet at or above the replica count. -/
def ownedOrphanCandidates (c : PVCClient) (sts : LiveStatefulSet) (clusterName : String) (desiredReplicas : Int) :
    Except String (List PersistentVolumeClaim) :=
  if sts.volumeClaimTemplates = [] then .ok [] else
  match c.list (labelsForCluster clusterName) with
  | .error err => .error ("listing PVCs in namespace " ++ c.ns ++ ": " ++ err)
  | .ok pvcs => .ok <| pvcs.filter fun pvc =>
      match extractOrdinal pvc.name sts.name with
      | none => false
      | some ordinal => !decide (ordinal < desiredReplicas) && isClaimOf sts.volumeClaimTemplates sts.name pvc &&
          ownedByStatefulSetUID pvc sts.uid

/-- Deletes the claims and goes on after an error: the errors, and how many are deleted. -/
def PVCClient.deleteEach (c : PVCClient) : List PersistentVolumeClaim → List String × Nat
  | [] => ([], 0)
  | pvc :: rest =>
    let (errs, deleted) := c.deleteEach rest
    match c.delete pvc with
    | .failed err => (("deleting orphaned cascade PVC " ++ pvc.name ++ ": " ++ err) :: errs, deleted)
    | .notFound => (errs, deleted)
    | .deleted => (errs, deleted + 1)

/-- What a reclamation did: the claims it called a delete for, how many of them are deleted, and the
errors. -/
structure Reclaimed where
  deletes : List PersistentVolumeClaim
  deleted : Nat
  errors : List String

/-- Cascade claims of ordinals past the size. -/
def deleteOrphanedCascadeDeletePVCs (c : PVCClient) (sts : LiveStatefulSet) (clusterName : String)
    (desiredReplicas : Int) (storageSpec : Option AerospikeStorageSpec) : Reclaimed :=
  let cascadeVolumes := cascadeDeleteVolumeNames storageSpec
  if cascadeVolumes = [] then ⟨[], 0, []⟩ else
  match ownedOrphanCandidates c sts clusterName desiredReplicas with
  | .error err => ⟨[], 0, [err]⟩
  | .ok pvcs =>
    let targets := pvcs.filter (isClaimOf cascadeVolumes sts.name)
    let (errs, deleted) := c.deleteEach targets
    ⟨targets, deleted, errs⟩

/-- The ordinal of a pod by its name; unlike `podOrdinal`, none where the name has none. -/
def rackPodOrdinal (podName : String) : Option Int :=
  match afterLastDash podName with
  | none => none
  | some suffix => (atoi suffix).filter fun ordinal => 0 ≤ ordinal

inductive ReclaimEvent
  | pvcCleanupFailed (stsName : String) (errors : List String)
  | pvcCleanedUp (deleted : Nat) (stsName : String) (replicas : Int)

def Reclaimed.event (r : Reclaimed) (stsName : String) (replicas : Int) : List ReclaimEvent :=
  if r.errors ≠ [] then [.pvcCleanupFailed stsName r.errors]
  else if 0 < r.deleted then [.pvcCleanedUp r.deleted stsName replicas]
  else []

/-- A pod that is not known to stand below the replica count. -/
def notBelow (replicas : Int) (pod : Pod) : Bool :=
  match rackPodOrdinal pod.name with
  | none => true
  | some ordinal => !decide (ordinal < replicas)

/-- `rackPods` is the answer of `listRackPods`. -/
def reclaimOrphanedRackPVCs (c : PVCClient) (rackPods : Except String (List Pod)) (clusterName : String)
    (sts : Option LiveStatefulSet) (rackSize : Int) (storageSpec : Option AerospikeStorageSpec) :
    List PersistentVolumeClaim × List ReclaimEvent :=
  if !hasCascadeDeletePVCs storageSpec then ([], []) else
  match sts with
  | none => ([], [])
  | some sts =>
    match sts.replicas with
    | none => ([], [])
    | some currentReplicas =>
      -- a rack at zero replicas is being torn down, one below its size was not scaled by the operator
      if currentReplicas < 1 then ([], []) else
      if currentReplicas < rackSize then ([], []) else
      if sts.observedGeneration ≠ sts.generation then ([], []) else
      if sts.statusReplicas ≠ currentReplicas then ([], []) else
      match rackPods with
      | .error _ => ([], [])
      | .ok rackPods =>
        if (rackPods.length : Int) ≠ currentReplicas then ([], []) else
        if rackPods.any (notBelow currentReplicas) then ([], []) else
        let r := deleteOrphanedCascadeDeletePVCs c sts clusterName currentReplicas storageSpec
        (r.deletes, r.event sts.name currentReplicas)

/-! ## The claims it deletes -/

/-- A claim of the StatefulSet for the volume and the ordinal, as the reclamation recognises it. -/
structure OrphanClaim (c : PVCClient) (sts : LiveStatefulSet) (clusterName : String)
    (storageSpec : Option AerospikeStorageSpec) (pvc : PersistentVolumeClaim) (v : String) (n : Nat) : Prop where
  mem : pvc ∈ c.pvcs
  name : ClaimName pvc.name v sts.name n
  template : v ∈ sts.volumeClaimTemplates
  cascade : CascadeVolume storageSpec v
  labels : matchingLabels (labelsForCluster clusterName) pvc.labels = true
  owner : pvc.ownerReferences = [] ∨ sts.uid ∈ pvc.ownerReferences

theorem ownedByStatefulSetUID_eq_true {pvc : PersistentVolumeClaim} {stsUID : String} :
    ownedByStatefulSetUID pvc stsUID = true ↔ pvc.ownerReferences = [] ∨ stsUID ∈ pvc.ownerReferences := by
  simp [ownedByStatefulSetUID]

section Deletes

variable {c : PVCClient} {sts : LiveStatefulSet} {clusterName : String} {desiredReplicas : Int}
  {storageSpec : Option AerospikeStorageSpec} {pvc : PersistentVolumeClaim}

theorem mem_ownedOrphanCandidates {pvcs : List PersistentVolumeClaim}
    (h : ownedOrphanCandidates c sts clusterName desiredReplicas = .ok pvcs) (hpvc : pvc ∈ pvcs) :
    pvc ∈ c.pvcs ∧ matchingLabels (labelsForCluster clusterName) pvc.labels = true ∧
      (pvc.ownerReferences = [] ∨ sts.uid ∈ pvc.ownerReferences) ∧
      ∃ v n, ClaimName pvc.name v sts.name n ∧ n < 2 ^ 31 ∧ desiredReplicas ≤ n ∧ v ∈ sts.volumeClaimTemplates := by
  unfold ownedOrphanCandidates at h
  split at h
  case isTrue =>
    cases h
    exact nomatch hpvc
  case isFalse =>
    split at h
    case h_1 => cases h
    case h_2 listed hlist =>
      cases h
      obtain ⟨hmem, hcandidate⟩ := List.mem_filter.1 hpvc
      obtain ⟨hexists, hlabels⟩ := (mem_list hlist pvc).1 hmem
      split at hcandidate
      case h_1 => cases hcandidate
      case h_2 ordinal hordinal =>
        obtain ⟨v, n, hname, hn, rfl⟩ := extractOrdinal_eq_some.1 hordinal
        rw [Bool.and_eq_true, Bool.and_eq_true, Bool.not_eq_true', decide_eq_false_iff_not,
          isClaimOf_eq_true hname hn, ownedByStatefulSetUID_eq_true] at hcandidate
        obtain ⟨⟨hle, -, htemplate⟩, howner⟩ := hcandidate
        exact ⟨hexists, hlabels, howner, v, n, hname, hn, by omega, htemplate⟩

theorem mem_deleteOrphanedCascadeDeletePVCs
    (h : pvc ∈ (deleteOrphanedCascadeDeletePVCs c sts clusterName desiredReplicas storageSpec).deletes) :
    ∃ v n, OrphanClaim c sts clusterName storageSpec pvc v n ∧ n < 2 ^ 31 ∧ desiredReplicas ≤ n := by
  unfold deleteOrphanedCascadeDeletePVCs at h
  simp only at h
  split at h
  case isTrue => exact nomatch h
  case isFalse =>
    split at h
    case h_1 => exact nomatch h
    case h_2 pvcs hpvcs =>
      obtain ⟨hmem, hclaim⟩ := List.mem_filter.1 h
      obtain ⟨hexists, hlabels, howner, v, n, hname, hn, hle, htemplate⟩ := mem_ownedOrphanCandidates hpvcs hmem
      have hcascade := mem_cascadeDeleteVolumeNames.1 ((isClaimOf_eq_true hname hn).1 hclaim).2
      exact ⟨v, n, ⟨hexists, hname, htemplate, hcascade, hlabels, howner⟩, hn, hle⟩

end Deletes

/-! ## The gates -/

theorem rackPodOrdinal_podName (stsName : String) {n : Nat} (h : n < 2 ^ 63) :
    rackPodOrdinal (podName stsName n) = some (n : Int) := by
  rw [rackPodOrdinal, afterLastDash_podName]
  simp only [atoi_toDigits h]
  exact Option.filter_some_pos (decide_eq_true (by omega))

/-- What holds where the reclamation gets to its deletes. -/
structure ReclaimGate (rackPods : List Pod) (sts : LiveStatefulSet) (rackSize replicas : Int) : Prop where
  current : sts.replicas = some replicas
  pos : 1 ≤ replicas
  size : rackSize ≤ replicas
  observed : sts.observedGeneration = sts.generation
  status : sts.statusReplicas = replicas
  listed : (rackPods.length : Int) = replicas
  below : ∀ p ∈ rackPods, ∃ o, rackPodOrdinal p.name = some o ∧ o < replicas

/-- The reclamation deletes nothing, or it has passed every gate. -/
theorem reclaimOrphanedRackPVCs_cases {c : PVCClient} {rackPods : Except String (List Pod)} {clusterName : String}
    {sts : Option LiveStatefulSet} {rackSize : Int} {storageSpec : Option AerospikeStorageSpec}
    {pvc : PersistentVolumeClaim}
    (h : pvc ∈ (reclaimOrphanedRackPVCs c rackPods clusterName sts rackSize storageSpec).1) :
    ∃ live pods replicas, sts = some live ∧ rackPods = .ok pods ∧ ReclaimGate pods live rackSize replicas ∧
      pvc ∈ (deleteOrphanedCascadeDeletePVCs c live clusterName replicas storageSpec).deletes := by
  unfold reclaimOrphanedRackPVCs at h
  split at h
  case isTrue => exact nomatch h
  split at h
  case h_1 => exact nomatch h
  case h_2 live =>
  split at h
  case h_1 => exact nomatch h
  case h_2 replicas hreplicas =>
  split at h
  case isTrue => exact nomatch h
  case isFalse hpos =>
  split at h
  case isTrue => exact nomatch h
  case isFalse hsize =>
  split at h
  case isTrue => exact nomatch h
  case isFalse hobserved =>
  split at h
  case isTrue => exact nomatch h
  case isFalse hstatus =>
  split at h
  case h_1 => exact nomatch h
  case h_2 pods =>
  split at h
  case isTrue => exact nomatch h
  case isFalse hlisted =>
  split at h
  case isTrue => exact nomatch h
  case isFalse hbelow =>
    refine ⟨live, pods, replicas, rfl, rfl, ⟨hreplicas, by omega, by omega, not_not.1 hobserved, not_not.1 hstatus,
      not_not.1 hlisted, ?_⟩, h⟩
    intro p hp
    have hordinal : ¬ notBelow replicas p = true := fun hany => hbelow (List.any_eq_true.2 ⟨p, hp, hany⟩)
    unfold notBelow at hordinal
    cases hpod : rackPodOrdinal p.name with
    | none => exact absurd (by rw [hpod]) hordinal
    | some o =>
      rw [hpod] at hordinal
      exact ⟨o, rfl, by simpa using hordinal⟩

/-- The pods that exist are the listed ones, so none stands at or above the replica count. -/
theorem ReclaimGate.no_pod {rackPods existing : List Pod} {sts : LiveStatefulSet} {rackSize replicas : Int} {n : Nat}
    (gate : ReclaimGate rackPods sts rackSize replicas)
    (hcount : sts.observedGeneration = sts.generation → sts.statusReplicas = existing.length)
    (hlisted : ∀ p ∈ rackPods, p ∈ existing) (hdistinct : (rackPods.map (·.name)).Nodup)
    (hn : n < 2 ^ 31) (hle : replicas ≤ n) : ∀ p ∈ existing, p.name ≠ podName sts.name n := by
  have hlength : existing.length ≤ rackPods.length := by
    have := hcount gate.observed
    have := gate.status
    have := gate.listed
    omega
  have hperm := (List.subperm_of_subset hdistinct.of_map hlisted).perm_of_length_le hlength
  intro p hp hname
  obtain ⟨o, hordinal, hlt⟩ := gate.below p (hperm.mem_iff.2 hp)
  rw [hname, rackPodOrdinal_podName sts.name (by omega)] at hordinal
  cases hordinal
  omega

/-- A claim that is reclaimed is an orphan of the StatefulSet: its volume and its ordinal are read
from its name, and no pod has that ordinal. `existing` are the pods of the StatefulSet, and the pods
with the rack's label are among them. -/
theorem reclaimed_orphan (c : PVCClient) (rackPods : Except String (List Pod)) (existing : List Pod)
    (clusterName : String) (sts : Option LiveStatefulSet) (rackSize : Int) (storageSpec : Option AerospikeStorageSpec)
    (hcount : ∀ live, sts = some live → live.observedGeneration = live.generation →
      live.statusReplicas = existing.length)
    (hlisted : ∀ pods, rackPods = .ok pods → (∀ p ∈ pods, p ∈ existing) ∧ (pods.map (·.name)).Nodup)
    (pvc : PersistentVolumeClaim)
    (h : pvc ∈ (reclaimOrphanedRackPVCs c rackPods clusterName sts rackSize storageSpec).1) :
    ∃ live v n replicas, sts = some live ∧ ClaimName pvc.name v live.name n ∧ v ∈ live.volumeClaimTemplates ∧
      CascadeVolume storageSpec v ∧ live.replicas = some replicas ∧ max 1 rackSize ≤ replicas ∧ replicas ≤ n ∧
      (∀ key value, (key, value) ∈ labelsForCluster clusterName → pvc.labels.lookup key = some value) ∧
      (pvc.ownerReferences = [] ∨ live.uid ∈ pvc.ownerReferences) ∧
      ∀ p ∈ existing, p.name ≠ podName live.name n := by
  obtain ⟨live, pods, replicas, hsts, hpods, gate, hdeletes⟩ := reclaimOrphanedRackPVCs_cases h
  obtain ⟨hsub, hdistinct⟩ := hlisted pods hpods
  obtain ⟨v, n, horphan, hn, hle⟩ := mem_deleteOrphanedCascadeDeletePVCs hdeletes
  have hmax : max 1 rackSize ≤ replicas := max_le gate.pos gate.size
  exact ⟨live, v, n, replicas, hsts, horphan.name, horphan.template, horphan.cascade, gate.current, hmax, hle,
    matchingLabels_eq_true.1 horphan.labels, horphan.owner, gate.no_pod (hcount live hsts) hsub hdistinct hn hle⟩

def scaledDown : LiveStatefulSet where
  name := "db-0"
  replicas := some 1
  hashes := ⟨"", "", ""⟩
  podManagementPolicy := .parallel
  uid := "sts-uid"
  generation := 2
  observedGeneration := 2
  statusReplicas := 1
  volumeClaimTemplates := ["data"]

def remainingPod : Pod := .serving "db-0-0" "aerospike" "10.0.0.1" ⟨"", "", ""⟩

theorem reclaimed_orphan_scaledDown :
    ∃ live v n replicas, some scaledDown = some live ∧ ClaimName (rackClaim "db" 0 "data" 1).name v live.name n ∧
      v ∈ live.volumeClaimTemplates ∧ CascadeVolume (some (dataStorage true)) v ∧ live.replicas = some replicas ∧
      max 1 1 ≤ replicas ∧ replicas ≤ n ∧
      (∀ key value, (key, value) ∈ labelsForCluster "db" → (rackClaim "db" 0 "data" 1).labels.lookup key = some value) ∧
      ((rackClaim "db" 0 "data" 1).ownerReferences = [] ∨ live.uid ∈ (rackClaim "db" 0 "data" 1).ownerReferences) ∧
      ∀ p ∈ [remainingPod], p.name ≠ podName live.name n :=
  reclaimed_orphan (.willing "default" [rackClaim "db" 0 "data" 0, rackClaim "db" 0 "data" 1]) (.ok [remainingPod])
    [remainingPod] "db"
    (some scaledDown) 1 (some (dataStorage true)) (by rintro _ ⟨⟩ _; rfl)
    (by rintro _ ⟨⟩; exact ⟨fun p hp => hp, by simp⟩) (rackClaim "db" 0 "data" 1) (by decide +kernel)

end Acko
