/-
The deletion of a StatefulSet's claims: those of cascade-delete volumes when the cluster or the rack
goes (`DeleteCascadeDeletePVCs`), and those on local storage before a pod is restarted
(`DeleteLocalPVCsForPod`). Both find the claims through `GetPVCsForStatefulSet`, which looks at the
labels first and falls back to the names of all claims in the namespace.
-/
import AckoProofs.Kube.Pod
import AckoProofs.Storage.Claim

namespace Acko

/-! ## The API server -/

/-- The claims of a namespace and what the API server answers to lists, by their selector, and to
deletes. -/
structure PVCClient where
  ns : String
  pvcs : List PersistentVolumeClaim
  listError : Labels → Option String
  delete : PersistentVolumeClaim → DeleteReply

def PVCClient.list (c : PVCClient) (selector : Labels) : Except String (List PersistentVolumeClaim) :=
  match c.listError selector with
  | some err => .error err
  | none => .ok (c.pvcs.filter fun pvc => matchingLabels selector pvc.labels)

/-- Deletes the claims in turn up to the first error. A claim that is gone is no error. The second
part of the result is the claims it called for. -/
def PVCClient.deleteInTurn (c : PVCClient) (describe : String) :
    List PersistentVolumeClaim → Except String Unit × List PersistentVolumeClaim
  | [] => (.ok (), [])
  | pvc :: rest =>
    match c.delete pvc with
    | .failed err => (.error (describe ++ pvc.name ++ ": " ++ err), [pvc])
    | _ =>
      let (result, deleted) := c.deleteInTurn describe rest
      (result, pvc :: deleted)

def PVCClient.willing (ns : String) (pvcs : List PersistentVolumeClaim) : PVCClient :=
  ⟨ns, pvcs, fun _ => none, fun _ => .deleted⟩

/-- The claim a rack's StatefulSet creates for a volume and an ordinal. -/
def rackClaim (clusterName : String) (rackID : Int) (volume : String) (ordinal : Nat) : PersistentVolumeClaim :=
  ⟨pvcName volume (statefulSetName clusterName rackID) ordinal, labelsForCluster clusterName, [], none⟩

/-! ## The source -/

/-- By the name of the claim. -/
def isOwnedByStatefulSet (pvc : PersistentVolumeClaim) (stsName : String) : Bool :=
  (extractOrdinal pvc.name stsName).isSome

/-- By label, or by name alone where none has it. -/
def getPVCsForStatefulSet (c : PVCClient) (clusterName stsName : String) :
    Except String (List PersistentVolumeClaim) :=
  match c.list (selectorLabelsForCluster clusterName) with
  | .error err => .error ("listing PVCs in namespace " ++ c.ns ++ ": " ++ err)
  | .ok (pvc :: rest) => .ok ((pvc :: rest).filter (isOwnedByStatefulSet · stsName))
  | .ok [] =>
    -- claims from before the labels existed
    match c.list [] with
    | .error err => .error ("listing all PVCs in namespace " ++ c.ns ++ ": " ++ err)
    | .ok pvcs => .ok (pvcs.filter (isOwnedByStatefulSet · stsName))

/-- The claim is one of the named volumes', by its name. -/
def isClaimOf (volumes : List String) (stsName : String) (pvc : PersistentVolumeClaim) : Bool :=
  match extractVolumeName pvc.name stsName with
  | none => false
  | some volName => volName ∈ volumes

/-- The claims of cascade-delete volumes. -/
def deleteCascadeDeletePVCs (c : PVCClient) (clusterName stsName : String)
    (storageSpec : Option AerospikeStorageSpec) : Except String Unit × List PersistentVolumeClaim :=
  let cascadeVolumes := cascadeDeleteVolumeNames storageSpec
  if cascadeVolumes = [] then (.ok (), []) else
  match getPVCsForStatefulSet c clusterName stsName with
  | .error err => (.error err, [])
  | .ok pvcs => c.deleteInTurn "deleting cascade PVC " (pvcs.filter (isClaimOf cascadeVolumes stsName))

def isLocalStorageClass (storageClassName : String) (localClasses : List String) : Bool :=
  storageClassName ∈ localClasses

/-- The pod's claims of a local class. -/
def getLocalPVCsForPod (c : PVCClient) (clusterName stsName : String) (ordinal : Int)
    (storageSpec : Option AerospikeStorageSpec) : Except String (List PersistentVolumeClaim) :=
  match storageSpec with
  | none => .ok []
  | some storage =>
    if storage.localStorageClasses = [] then .ok [] else
    match getPVCsForStatefulSet c clusterName stsName with
    | .error err => .error err
    | .ok allPVCs => .ok <| allPVCs.filter fun pvc =>
        extractOrdinal pvc.name stsName = some ordinal &&
          isLocalStorageClass (pvc.storageClassName.getD "") storage.localStorageClasses

/-- The pod's claims of local storage. -/
def deleteLocalPVCsForPod (c : PVCClient) (clusterName stsName : String) (ordinal : Int)
    (storageSpec : Option AerospikeStorageSpec) : Except String Unit × List PersistentVolumeClaim :=
  match getLocalPVCsForPod c clusterName stsName ordinal storageSpec with
  | .error err =>
    (.error ("getting local PVCs for pod " ++ stsName ++ "-" ++ toString ordinal ++ ": " ++ err), [])
  | .ok localPVCs => c.deleteInTurn "deleting local PVC " localPVCs

/-! ## What is selected -/

variable {c : PVCClient} {pvcs : List PersistentVolumeClaim} {clusterName stsName : String}

theorem mem_list {selector : Labels} (h : c.list selector = .ok pvcs) (pvc : PersistentVolumeClaim) :
    pvc ∈ pvcs ↔ pvc ∈ c.pvcs ∧ matchingLabels selector pvc.labels = true := by
  unfold PVCClient.list at h
  split at h
  case h_1 => cases h
  case h_2 =>
    cases h
    exact List.mem_filter

theorem deleteInTurn_subset (c : PVCClient) (describe : String) :
    ∀ pvcs, ∀ pvc ∈ (c.deleteInTurn describe pvcs).2, pvc ∈ pvcs
  | [], pvc, h => h
  | first :: rest, pvc, h => by
    unfold PVCClient.deleteInTurn at h
    split at h
    case h_1 => exact List.mem_cons.2 (.inl (List.mem_singleton.1 h))
    case h_2 =>
      rcases List.mem_cons.1 h with rfl | h
      · exact List.mem_cons_self ..
      · exact List.mem_cons_of_mem _ (deleteInTurn_subset c describe rest pvc h)

theorem deleteInTurn_ok {describe : String} :
    ∀ {pvcs}, (c.deleteInTurn describe pvcs).1 = .ok () →
      (c.deleteInTurn describe pvcs).2 = pvcs ∧ ∀ pvc ∈ pvcs, ∀ err, c.delete pvc ≠ .failed err
  | [], _ => ⟨rfl, fun _ h => nomatch h⟩
  | first :: rest, h => by
    unfold PVCClient.deleteInTurn at h ⊢
    split at h
    case h_1 => cases h
    case h_2 hreply =>
      obtain ⟨hall, hrest⟩ := deleteInTurn_ok h
      refine ⟨congrArg (first :: ·) hall, ?_⟩
      intro pvc hpvc err
      rcases List.mem_cons.1 hpvc with rfl | hpvc
      · exact hreply err
      · exact hrest pvc hpvc err

/-- The claims of a StatefulSet: by their labels where a claim has the cluster's, and by their names
alone where none has. -/
theorem mem_getPVCsForStatefulSet (h : getPVCsForStatefulSet c clusterName stsName = .ok pvcs)
    (pvc : PersistentVolumeClaim) :
    pvc ∈ pvcs ↔ pvc ∈ c.pvcs ∧ (∃ v n, ClaimName pvc.name v stsName n ∧ n < 2 ^ 31) ∧
      (matchingLabels (selectorLabelsForCluster clusterName) pvc.labels = true ∨
        ∀ q ∈ c.pvcs, matchingLabels (selectorLabelsForCluster clusterName) q.labels = false) := by
  have howned : isOwnedByStatefulSet pvc stsName = true ↔ ∃ v n, ClaimName pvc.name v stsName n ∧ n < 2 ^ 31 := by
    rw [isOwnedByStatefulSet, Option.isSome_iff_exists]
    simp only [extractOrdinal_eq_some]
    exact ⟨fun ⟨_, v, n, hname, hn, _⟩ => ⟨v, n, hname, hn⟩, fun ⟨v, n, hname, hn⟩ => ⟨n, v, n, hname, hn, rfl⟩⟩
  unfold getPVCsForStatefulSet at h
  split at h
  case h_1 => cases h
  case h_2 first rest hlist =>
    cases h
    have hlabels := mem_list hlist
    have hfirst := (hlabels first).1 (List.mem_cons_self ..)
    rw [List.mem_filter, hlabels pvc, howned]
    constructor
    · rintro ⟨⟨hmem, hmatch⟩, hname⟩
      exact ⟨hmem, hname, .inl hmatch⟩
    · rintro ⟨hmem, hname, hmatch | hnone⟩
      · exact ⟨⟨hmem, hmatch⟩, hname⟩
      · exact absurd hfirst.2 (by rw [hnone first hfirst.1]; decide)
  case h_3 hlist =>
    have hlabels := mem_list hlist
    have hnone : ∀ q ∈ c.pvcs, matchingLabels (selectorLabelsForCluster clusterName) q.labels = false :=
      fun q hq => Bool.eq_false_iff.2 fun hmatch => nomatch (hlabels q).2 ⟨hq, hmatch⟩
    split at h
    case h_1 => cases h
    case h_2 pvcs hall =>
      cases h
      rw [List.mem_filter, mem_list hall pvc, howned]
      exact ⟨fun ⟨⟨hmem, _⟩, hname⟩ => ⟨hmem, hname, .inr hnone⟩, fun ⟨hmem, hname, _⟩ => ⟨⟨hmem, rfl⟩, hname⟩⟩

theorem isClaimOf_eq_true {volumes : List String} {v : String} {n : Nat} {pvc : PersistentVolumeClaim}
    (h : ClaimName pvc.name v stsName n) (hn : n < 2 ^ 31) :
    isClaimOf volumes stsName pvc = true ↔ v ≠ "" ∧ v ∈ volumes := by
  unfold isClaimOf
  rw [extractVolumeName_claimName h hn]
  by_cases hv : v = "" <;> simp [hv]

/-- The claims that go with the cascade-delete volumes of a storage section. -/
def CascadeClaim (c : PVCClient) (clusterName stsName : String) (storageSpec : Option AerospikeStorageSpec)
    (pvc : PersistentVolumeClaim) : Prop :=
  pvc ∈ c.pvcs ∧
    (∃ v n, ClaimName pvc.name v stsName n ∧ n < 2 ^ 31 ∧ v ≠ "" ∧ CascadeVolume storageSpec v) ∧
    (matchingLabels (selectorLabelsForCluster clusterName) pvc.labels = true ∨
      ∀ q ∈ c.pvcs, matchingLabels (selectorLabelsForCluster clusterName) q.labels = false)

theorem mem_cascadeTargets (h : getPVCsForStatefulSet c clusterName stsName = .ok pvcs)
    (storageSpec : Option AerospikeStorageSpec) (pvc : PersistentVolumeClaim) :
    pvc ∈ pvcs.filter (isClaimOf (cascadeDeleteVolumeNames storageSpec) stsName) ↔
      CascadeClaim c clusterName stsName storageSpec pvc := by
  rw [List.mem_filter, mem_getPVCsForStatefulSet h]
  constructor
  · rintro ⟨⟨hmem, ⟨v, n, hname, hn⟩, hlabels⟩, hclaim⟩
    obtain ⟨hv, hvol⟩ := (isClaimOf_eq_true hname hn).1 hclaim
    exact ⟨hmem, ⟨v, n, hname, hn, hv, mem_cascadeDeleteVolumeNames.1 hvol⟩, hlabels⟩
  · rintro ⟨hmem, ⟨v, n, hname, hn, hv, hvol⟩, hlabels⟩
    exact ⟨⟨hmem, ⟨v, n, hname, hn⟩, hlabels⟩,
      (isClaimOf_eq_true hname hn).2 ⟨hv, mem_cascadeDeleteVolumeNames.2 hvol⟩⟩

section Cascade

variable {c : PVCClient} {clusterName stsName : String} {storageSpec : Option AerospikeStorageSpec}

theorem deleteCascadeDeletePVCs_subset {pvc : PersistentVolumeClaim}
    (h : pvc ∈ (deleteCascadeDeletePVCs c clusterName stsName storageSpec).2) :
    CascadeClaim c clusterName stsName storageSpec pvc := by
  unfold deleteCascadeDeletePVCs at h
  simp only at h
  split at h
  case isTrue => exact nomatch h
  case isFalse =>
    split at h
    case h_1 => exact nomatch h
    case h_2 pvcs hpvcs => exact (mem_cascadeTargets hpvcs storageSpec pvc).1 (deleteInTurn_subset c _ _ pvc h)

theorem deleteCascadeDeletePVCs_ok (h : (deleteCascadeDeletePVCs c clusterName stsName storageSpec).1 = .ok ())
    {pvc : PersistentVolumeClaim} (hpvc : CascadeClaim c clusterName stsName storageSpec pvc) :
    pvc ∈ (deleteCascadeDeletePVCs c clusterName stsName storageSpec).2 ∧ ∀ err, c.delete pvc ≠ .failed err := by
  unfold deleteCascadeDeletePVCs at h ⊢
  have hsome : cascadeDeleteVolumeNames storageSpec ≠ [] := by
    obtain ⟨-, ⟨v, -, -, -, -, hvol⟩, -⟩ := hpvc
    exact List.ne_nil_of_mem (mem_cascadeDeleteVolumeNames.2 hvol)
  cases hpvcs : getPVCsForStatefulSet c clusterName stsName with
  | error err =>
    simp only [if_neg hsome, hpvcs] at h
    cases h
  | ok pvcs =>
    simp only [if_neg hsome, hpvcs] at h ⊢
    obtain ⟨hall, hreplies⟩ := deleteInTurn_ok h
    have hmem := (mem_cascadeTargets hpvcs storageSpec pvc).2 hpvc
    rw [hall]
    exact ⟨hmem, hreplies pvc hmem⟩

end Cascade

theorem deleteLocalPVCsForPod_subset {ordinal : Int} {storageSpec : Option AerospikeStorageSpec}
    {pvc : PersistentVolumeClaim} (h : pvc ∈ (deleteLocalPVCsForPod c clusterName stsName ordinal storageSpec).2) :
    pvc ∈ c.pvcs ∧ (∃ v n, ClaimName pvc.name v stsName n ∧ n < 2 ^ 31) ∧
      (matchingLabels (selectorLabelsForCluster clusterName) pvc.labels = true ∨
        ∀ q ∈ c.pvcs, matchingLabels (selectorLabelsForCluster clusterName) q.labels = false) := by
  unfold deleteLocalPVCsForPod at h
  split at h
  case h_1 => exact nomatch h
  case h_2 localPVCs hlocal =>
    have hmem := deleteInTurn_subset c _ _ pvc h
    unfold getLocalPVCsForPod at hlocal
    split at hlocal
    case h_1 =>
      cases hlocal
      exact nomatch hmem
    case h_2 storage =>
      split at hlocal
      case isTrue =>
        cases hlocal
        exact nomatch hmem
      case isFalse =>
        split at hlocal
        case h_1 => cases hlocal
        case h_2 allPVCs hall =>
          cases hlocal
          exact (mem_getPVCsForStatefulSet hall pvc).1 (List.mem_filter.1 hmem).1

/-! ## Claims of other clusters -/

/-- Where a claim in the namespace comes from. One that was created before the operator labelled its
claims has the user's labels only. -/
structure ClaimOrigin where
  cluster : String
  rackID : Int
  volume : String
  ordinal : Nat
  labelled : Bool
  userLabels : Labels
  legacy : labelled = false → userLabels.lookup instanceLabel = none
  storageClassName : Option String
  ownerReferences : List String

def ClaimOrigin.pvc (o : ClaimOrigin) : PersistentVolumeClaim where
  name := pvcName o.volume (statefulSetName o.cluster o.rackID) o.ordinal
  labels := if o.labelled then labelsForCluster o.cluster ++ o.userLabels else o.userLabels
  ownerReferences := o.ownerReferences
  storageClassName := o.storageClassName

theorem ClaimOrigin.cluster_eq {o : ClaimOrigin}
    (h : matchingLabels (selectorLabelsForCluster clusterName) o.pvc.labels = true) : o.cluster = clusterName := by
  have hinstance := instance_of_matchingLabels h
  simp only [ClaimOrigin.pvc] at hinstance
  split at hinstance
  case isTrue =>
    have hown : (labelsForCluster o.cluster ++ o.userLabels).lookup instanceLabel = some o.cluster := by
      simp [labelsForCluster, List.lookup_cons, instanceLabel, appLabel]
    rw [hown] at hinstance
    exact Option.some.inj hinstance
  case isFalse hlabelled =>
    rw [o.legacy (Bool.eq_false_iff.2 hlabelled)] at hinstance
    cases hinstance

/-- A claim of another cluster is deleted only where no claim in the namespace has the labels of the
cluster, and where its name is also that of a claim of the cluster's StatefulSet. -/
theorem foreign_claim_deleted (claims : List ClaimOrigin) (c : PVCClient) (hc : c.pvcs = claims.map (·.pvc))
    (clusterName : String) (rackID ordinal : Int) (storageSpec : Option AerospikeStorageSpec)
    (o : ClaimOrigin)
    (hdeleted :
      o.pvc ∈ (deleteCascadeDeletePVCs c clusterName (statefulSetName clusterName rackID) storageSpec).2 ∨
      o.pvc ∈ (deleteLocalPVCsForPod c clusterName (statefulSetName clusterName rackID) ordinal storageSpec).2) :
    o.cluster = clusterName ∨
      (∀ q ∈ claims, matchingLabels (selectorLabelsForCluster clusterName) q.pvc.labels = false) ∧
      ∃ v, o.volume ++ "-" ++ statefulSetName o.cluster o.rackID = v ++ "-" ++ statefulSetName clusterName rackID := by
  have hselected : (∃ v n, ClaimName o.pvc.name v (statefulSetName clusterName rackID) n) ∧
      (matchingLabels (selectorLabelsForCluster clusterName) o.pvc.labels = true ∨
        ∀ q ∈ c.pvcs, matchingLabels (selectorLabelsForCluster clusterName) q.labels = false) := by
    rcases hdeleted with h | h
    · obtain ⟨-, ⟨v, n, hname, -⟩, hlabels⟩ := deleteCascadeDeletePVCs_subset h
      exact ⟨⟨v, n, hname⟩, hlabels⟩
    · obtain ⟨-, ⟨v, n, hname, -⟩, hlabels⟩ := deleteLocalPVCsForPod_subset h
      exact ⟨⟨v, n, hname⟩, hlabels⟩
  obtain ⟨⟨v, n, hname⟩, hmatch | hnone⟩ := hselected
  · exact .inl (ClaimOrigin.cluster_eq hmatch)
  · refine .inr ⟨fun q hq => hnone q.pvc ?_, v, (claimName_inj (claimName_pvcName ..) hname).1⟩
    rw [hc]
    exact List.mem_map_of_mem hq

def siblingClaim : ClaimOrigin where
  cluster := "x-foo"
  rackID := 0
  volume := "data"
  ordinal := 1
  labelled := true
  userLabels := []
  legacy := fun h => nomatch h
  storageClassName := some "local-path"
  ownerReferences := []

def collidingStorage : AerospikeStorageSpec :=
  { AerospikeStorageSpec.ofVolumes [.claim "data-x" "1Gi" (some true)] with localStorageClasses := ["local-path"] }

theorem foreign_claim_deleted_sibling :
    siblingClaim.cluster = "foo" ∨
      (∀ q ∈ [siblingClaim], matchingLabels (selectorLabelsForCluster "foo") q.pvc.labels = false) ∧
      ∃ v, siblingClaim.volume ++ "-" ++ statefulSetName siblingClaim.cluster siblingClaim.rackID =
        v ++ "-" ++ statefulSetName "foo" 0 :=
  foreign_claim_deleted [siblingClaim] (.willing "default" [siblingClaim.pvc]) rfl "foo" 0 1 (some collidingStorage)
    siblingClaim (.inl (by decide +kernel))

/-- The claim `data-x-foo-0-1` of `x-foo` is deleted for the StatefulSet `foo-0`, by both. -/
theorem sibling_claim_deleted :
    siblingClaim.cluster ≠ "foo" ∧
      siblingClaim.pvc ∈
        (deleteCascadeDeletePVCs (.willing "default" [siblingClaim.pvc]) "foo" (statefulSetName "foo" 0)
        (some collidingStorage)).2 ∧
      siblingClaim.pvc ∈
        (deleteLocalPVCsForPod (.willing "default" [siblingClaim.pvc]) "foo" (statefulSetName "foo" 0) 1
        (some collidingStorage)).2 := by
  decide +kernel

end Acko
