/-
The claims of a cluster that is deleted (`handleDeletion`) and of a rack that has left the spec
(`cleanupRemovedRacks`). Both resolve the cascade-delete volumes in the storage of the spec, also for
a rack whose StatefulSet was built from a storage section of its own.
-/
import AckoProofs.Scale.Drain
import AckoProofs.Storage.Delete

namespace Acko

/-! ## Claims over several deletions -/

/-- The storage sections of a cluster: that of the spec, and those of its racks. -/
structure ClusterStorage where
  spec : Option AerospikeStorageSpec
  rack : Int → Option AerospikeStorageSpec

def ClusterStorage.effective (s : ClusterStorage) (rackID : Int) : Option AerospikeStorageSpec :=
  match s.rack rackID with
  | some storage => some storage
  | none => s.spec

def DeleteReply.gone : DeleteReply → Bool
  | .failed _ => false
  | _ => true

def PVCClient.after (c : PVCClient) (called : List PersistentVolumeClaim) : PVCClient :=
  { c with pvcs := c.pvcs.filter fun pvc => !(decide (pvc ∈ called) && (c.delete pvc).gone) }

/-- `DeleteCascadeDeletePVCs` for one StatefulSet after the other, also after an error; the result of
each call, and the API server after all. -/
def deleteCascadeInTurn (clusterName : String) (storageSpec : Option AerospikeStorageSpec) :
    List String → PVCClient → List (String × Except String Unit) × PVCClient
  | [], c => ([], c)
  | stsName :: rest, c =>
    let (result, called) := deleteCascadeDeletePVCs c clusterName stsName storageSpec
    let (results, c') := deleteCascadeInTurn clusterName storageSpec rest (c.after called)
    ((stsName, result) :: results, c')

theorem mem_after {c : PVCClient} {called : List PersistentVolumeClaim} {pvc : PersistentVolumeClaim} :
    pvc ∈ (c.after called).pvcs ↔ pvc ∈ c.pvcs ∧ ¬ (pvc ∈ called ∧ (c.delete pvc).gone = true) := by
  rw [PVCClient.after, List.mem_filter, Bool.not_eq_true', ← Bool.not_eq_true, Bool.and_eq_true, decide_eq_true_eq]

section InTurn

variable {clusterName : String} {storageSpec : Option AerospikeStorageSpec} {pvc : PersistentVolumeClaim}

theorem deleteCascadeInTurn_subset : ∀ (stsNames : List String) {c : PVCClient},
    pvc ∈ (deleteCascadeInTurn clusterName storageSpec stsNames c).2.pvcs → pvc ∈ c.pvcs
  | [], _, h => h
  | _ :: rest, _, h => (mem_after.1 (deleteCascadeInTurn_subset rest h)).1

theorem deleteCascadeInTurn_names : ∀ (stsNames : List String) (c : PVCClient),
    (deleteCascadeInTurn clusterName storageSpec stsNames c).1.map (·.1) = stsNames
  | [], _ => rfl
  | stsName :: rest, _ => congrArg (stsName :: ·) (deleteCascadeInTurn_names rest _)

theorem deleteCascadeInTurn_gone : ∀ (stsNames : List String) {c : PVCClient}, pvc ∈ c.pvcs →
    pvc ∉ (deleteCascadeInTurn clusterName storageSpec stsNames c).2.pvcs →
    ∃ stsName ∈ stsNames, ∃ v n, ClaimName pvc.name v stsName n ∧ CascadeVolume storageSpec v
  | [], _, hmem, hgone => absurd hmem hgone
  | stsName :: rest, c, hmem, hgone => by
    by_cases hcalled : pvc ∈ (deleteCascadeDeletePVCs c clusterName stsName storageSpec).2
    · obtain ⟨-, ⟨v, n, hname, -, -, hvol⟩, -⟩ := deleteCascadeDeletePVCs_subset hcalled
      exact ⟨stsName, List.mem_cons_self .., v, n, hname, hvol⟩
    · have hleft : pvc ∈ (c.after (deleteCascadeDeletePVCs c clusterName stsName storageSpec).2).pvcs :=
        mem_after.2 ⟨hmem, fun h => hcalled h.1⟩
      obtain ⟨name, hname, hrest⟩ := deleteCascadeInTurn_gone rest hleft hgone
      exact ⟨name, List.mem_cons_of_mem _ hname, hrest⟩

/-- The claim is found by the labels of the cluster, or by its name where no claim has them. -/
def PVCClient.Finds (c : PVCClient) (clusterName : String) (pvc : PersistentVolumeClaim) : Prop :=
  matchingLabels (selectorLabelsForCluster clusterName) pvc.labels = true ∨
    ∀ q ∈ c.pvcs, matchingLabels (selectorLabelsForCluster clusterName) q.labels = false

theorem PVCClient.Finds.after {c : PVCClient} (h : c.Finds clusterName pvc) (called : List PersistentVolumeClaim) :
    (c.after called).Finds clusterName pvc :=
  h.imp id fun hnone q hq => hnone q (mem_after.1 hq).1

theorem deleteCascadeInTurn_deletes {stsName v : String} {n : Nat} (hname : ClaimName pvc.name v stsName n)
    (hn : n < 2 ^ 31) (hv : v ≠ "") (hvol : CascadeVolume storageSpec v) :
    ∀ (stsNames : List String) {c : PVCClient}, c.Finds clusterName pvc →
      (stsName, .ok ()) ∈ (deleteCascadeInTurn clusterName storageSpec stsNames c).1 →
      pvc ∉ (deleteCascadeInTurn clusterName storageSpec stsNames c).2.pvcs
  | [], _, _, hresult => nomatch hresult
  | first :: rest, c, hfinds, hresult => by
    intro hleft
    have hstays := deleteCascadeInTurn_subset rest hleft
    obtain ⟨hmem, hnot⟩ := mem_after.1 hstays
    rcases List.mem_cons.1 hresult with hfirst | hlater
    · obtain ⟨rfl, hok⟩ := Prod.mk.inj hfirst
      obtain ⟨hcalled, hreply⟩ := deleteCascadeDeletePVCs_ok hok.symm ⟨hmem, ⟨v, n, hname, hn, hv, hvol⟩, hfinds⟩
      refine hnot ⟨hcalled, ?_⟩
      cases hdelete : c.delete pvc with
      | failed err => exact absurd hdelete (hreply err)
      | deleted => rfl
      | notFound => rfl
    · exact deleteCascadeInTurn_deletes hname hn hv hvol rest (hfinds.after _) hlater hleft

end InTurn

/-! ## Racks of one cluster -/

variable {clusterName : String}

theorem claimName_rack {name v v' : String} {k k' : Nat} {n n' : Nat}
    (h : ClaimName name v (statefulSetName clusterName k) n)
    (h' : ClaimName name v' (statefulSetName clusterName k') n') : v = v' ∧ k = k' ∧ n = n' := by
  obtain ⟨hfront, hn⟩ := claimName_inj h h'
  -- the text before the ordinal reads as a claim name itself, whose ordinal is the rack
  have hclaim : ∀ (v : String) (k : Nat), ClaimName (v ++ "-" ++ statefulSetName clusterName k) v clusterName k := by
    intro v k
    refine ⟨toString k, ?_, by rw [← digitsValue_toDigits k, ← Nat.toList_repr]; rfl⟩
    simp only [statefulSetName, String.append_assoc]
    rfl
  obtain ⟨hvolume, hk⟩ := claimName_inj (hfront ▸ hclaim v k) (hclaim v' k')
  refine ⟨?_, hk, hn⟩
  have hlist := congrArg String.toList hvolume
  simp only [String.toList_append, List.append_assoc] at hlist
  exact String.toList_inj.1 (List.append_cancel_right hlist)

/-- The StatefulSets of a cluster are those of racks, whose ids are not negative. -/
def RackNames (clusterName : String) (stsNames : List String) : Prop :=
  ∀ name ∈ stsNames, ∃ k : Nat, name = statefulSetName clusterName k

variable {storageSpec : Option AerospikeStorageSpec}

theorem deleteCascadeInTurn_iff {v : String} {pvc : PersistentVolumeClaim} {stsNames : List String} {c : PVCClient}
    {k n : Nat} (hracks : RackNames clusterName stsNames) (hpvc : pvc ∈ c.pvcs) (hfinds : c.Finds clusterName pvc)
    (hname : ClaimName pvc.name v (statefulSetName clusterName k) n) (hn : n < 2 ^ 31) (hv : v ≠ "")
    (hresult : (statefulSetName clusterName k, .ok ()) ∈ (deleteCascadeInTurn clusterName storageSpec stsNames c).1) :
    pvc ∉ (deleteCascadeInTurn clusterName storageSpec stsNames c).2.pvcs ↔ CascadeVolume storageSpec v := by
  constructor
  · intro hgone
    obtain ⟨stsName, hsts, v', n', hname', hvol⟩ := deleteCascadeInTurn_gone stsNames hpvc hgone
    obtain ⟨k', rfl⟩ := hracks stsName hsts
    obtain ⟨rfl, -, -⟩ := claimName_rack hname hname'
    exact hvol
  · intro hvol
    exact deleteCascadeInTurn_deletes hname hn hv hvol stsNames hfinds hresult

/-! ## The deletion of a cluster -/

/-- What the deletion learns from outside, the claims apart. -/
structure DeletionEnv where
  phase : PhaseReply
  listError : Option String
  refetchError : Option String
  update : PhaseReply

inductive DeletionResult
  | finished
  | requeue
  | failed (reason : String)
  deriving DecidableEq

/-- The claims of the cluster's StatefulSets; every StatefulSet is tried. -/
def deleteClusterPVCs (env : DeletionEnv) (clusterName : String) (storageSpec : Option AerospikeStorageSpec)
    (stsNames : List String) (c : PVCClient) : Except String Unit × PVCClient :=
  match storageSpec with
  | none => (.ok (), c)
  | some storage =>
    match env.listError with
    | some err => (.error err, c)
    | none =>
      let (results, c') := deleteCascadeInTurn clusterName (some storage) stsNames c
      let pvcErrors := results.filterMap fun (stsName, result) =>
        match result with
        | .ok _ => none
        | .error err => some ("statefulset " ++ stsName ++ ": " ++ err)
      if pvcErrors = [] then (.ok (), c')
      else (.error ("failed to delete cascade PVCs for " ++ toString pvcErrors.length ++ " StatefulSet(s): " ++
        "\n".intercalate pvcErrors), c')

/-- `handleDeletion` with the claims it deletes: the cluster is finished once its finalizer is
removed. -/
def handleDeletionPVCs (env : DeletionEnv) (clusterName : String) (storageSpec : Option AerospikeStorageSpec)
    (stsNames : List String) (c : PVCClient) : DeletionResult × PVCClient :=
  match env.phase with
  | .failed err => (.failed err, c)
  | _ =>
    match deleteClusterPVCs env clusterName storageSpec stsNames c with
    | (.error err, c') => (.failed err, c')
    | (.ok _, c') =>
      match env.refetchError with
      | some err => (.failed err, c')
      | none =>
        match env.update with
        | .done => (.finished, c')
        | .conflict => (.requeue, c')
        | .failed err => (.failed err, c')

theorem handleDeletionPVCs_finished {env : DeletionEnv} {stsNames : List String} {c c' : PVCClient}
    (h : handleDeletionPVCs env clusterName storageSpec stsNames c = (.finished, c')) :
    (storageSpec = none ∧ c' = c) ∨
      (c' = (deleteCascadeInTurn clusterName storageSpec stsNames c).2 ∧
        ∀ r ∈ (deleteCascadeInTurn clusterName storageSpec stsNames c).1, r.2 = .ok ()) := by
  have hcleanup : deleteClusterPVCs env clusterName storageSpec stsNames c = (.ok (), c') := by
    unfold handleDeletionPVCs at h
    split at h
    case h_1 => cases h
    case h_2 =>
      split at h
      case h_1 => cases h
      case h_2 c'' hok =>
        split at h
        case h_1 => cases h
        case h_2 =>
          split at h
          case h_1 =>
            cases h
            exact hok
          case h_2 => cases h
          case h_3 => cases h
  unfold deleteClusterPVCs at hcleanup
  split at hcleanup
  case h_1 =>
    cases hcleanup
    exact .inl ⟨rfl, rfl⟩
  case h_2 storage =>
    split at hcleanup
    case h_1 => cases hcleanup
    case h_2 =>
      simp only at hcleanup
      split at hcleanup
      case isTrue hnone =>
        cases hcleanup
        refine .inr ⟨rfl, ?_⟩
        rintro ⟨stsName, result⟩ hr
        have := List.filterMap_eq_nil_iff.1 hnone (stsName, result) hr
        cases result with
        | ok u => rfl
        | error err => cases this
      case isFalse => cases hcleanup

/-! ## The cleanup of removed racks -/

/-- The StatefulSet whose claims an event deletes. -/
def ScaleEvent.cascadeName : ScaleEvent → Option String
  | .deleteCascadePVCs name => some name
  | _ => none

/-- `cleanupRemovedRacks` with the claims it deletes. An error for one rack is logged. -/
def cleanupRemovedRacksPVCs (env : ScaleEnv) (cluster : Cluster) (pods : Int → List Pod)
    (objs : List StatefulSetObject) (checks : MigrationChecks) (currentRacks : List Rack)
    (storageSpec : Option AerospikeStorageSpec) (c : PVCClient) :
    List (String × Except String Unit) × PVCClient :=
  deleteCascadeInTurn cluster.name storageSpec
    ((cleanupRemovedRacks env cluster pods objs checks currentRacks).2.2.filterMap (·.cascadeName)) c

theorem teardownEvents_cascadeName {env : ScaleEnv} {cluster : Cluster} {pods : Int → List Pod} {blocked : Bool}
    {r : StatefulSetObject × Int} {e : ScaleEvent} {name : String} (he : e ∈ teardownEvents env cluster pods blocked r)
    (hname : e.cascadeName = some name) : name = r.1.sts.name := by
  rcases mem_teardownEvents he with ⟨rfl, _⟩ | ⟨_, hout⟩
  · cases hname
  · rw [hout] at he
    rcases deleteRemovedRack_events he with ⟨rfl, _⟩ | rfl | rfl
    · cases hname
    · exact (Option.some.inj hname).symm
    · cases hname

theorem cleanupRemovedRacks_cascadeNames {env : ScaleEnv} {cluster : Cluster} {pods : Int → List Pod}
    {objs : List StatefulSetObject} {checks : MigrationChecks} {racks : List Rack} {name : String}
    (h : name ∈ (cleanupRemovedRacks env cluster pods objs checks racks).2.2.filterMap (·.cascadeName)) :
    name ∈ objs.map (·.sts.name) := by
  obtain ⟨probes, blocked, visited, hvisited, hev, hprobes, -⟩ :=
    cleanupRemovedRacks_events env cluster pods objs checks racks
  obtain ⟨e, he, hname⟩ := List.mem_filterMap.1 h
  rw [hev, List.mem_append, List.mem_flatMap] at he
  rcases he with he | ⟨r, hr, he⟩
  · obtain ⟨answer, rfl⟩ := hprobes e he
    cases hname
  · rw [teardownEvents_cascadeName he hname]
    exact List.mem_map_of_mem (mem_removedRacks (hvisited.subset hr))

/-! ## Which storage decides -/

def drainedObject (name : String) : StatefulSetObject := ⟨⟨name, some 0, ⟨"", "", ""⟩, .parallel⟩, false⟩

def twoRackClaims : PVCClient := .willing "default" [rackClaim "db" 1 "data" 0, rackClaim "db" 2 "data" 0]

def legacyClaim : PersistentVolumeClaim := { rackClaim "db" 2 "data" 0 with labels := [] }

end Acko
