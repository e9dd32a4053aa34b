/-
Runs in which racks come and go, with their claims and ConfigMaps. A removed rack is cleaned from its
StatefulSet, in a pass that finds it without pods; a StatefulSet that is deleted while its pods still
terminate can vanish with the last of them before another pass sees it, and then nothing leads to
what it leaves behind. Where every StatefulSet is deleted by a pass that also cleans up, nothing is
left.
-/
import AckoProofs.Scale.Teardown
import AckoProofs.Storage.Reclaim
import AckoProofs.Storage.Teardown

namespace Acko

/-! ## The system -/

/-- What a pass reads of a rack's StatefulSet for the reclamation of its claims. -/
structure StsReads where
  uid : String
  generation : Int
  observedGeneration : Int
  statusReplicas : Int
  volumeClaimTemplates : List String

/-- The scaling state with the storage sections of the spec, and the claims and ConfigMaps of the
namespace. -/
structure StorageState where
  ns : String
  scale : ScaleState
  storage : ClusterStorage
  pvcs : List PersistentVolumeClaim
  configMaps : List String

variable (s : StorageState)

def StorageState.clusterName : String := s.scale.cluster.name

/-- The moves: an error-free pass, an edit of the spec, and what Kubernetes does with the pods, claims
and StatefulSets. -/
inductive StorageStep
  | pass (env : ScaleEnv) (reads : Int → StsReads)
  | edit (cluster : Cluster) (storage : ClusterStorage)
  | podStarts (rackID : Nat) (pod : Pod)
  | podGone (rackID : Nat) (name : String)
  | claimCreated (rackID : Nat) (volume : String) (ordinal : Nat)
  | otherClaim (pvc : PersistentVolumeClaim)
  | stsGone (rackID : Nat)

def StorageState.reclaimRack (reads : Int → StsReads) (pvcs : List PersistentVolumeClaim)
    (r : Rack × Nat) : List PersistentVolumeClaim :=
  let c : PVCClient := .willing s.ns pvcs
  let live := (findStatefulSet s.scale.objs (statefulSetName s.clusterName r.1.id)).map fun sts =>
    let read := reads r.1.id
    ⟨sts, read.uid, read.generation, read.observedGeneration, read.statusReplicas, read.volumeClaimTemplates⟩
  (c.after (reclaimOrphanedRackPVCs c (.ok (s.scale.pods r.1.id)) s.clusterName live
    (getRackSize s.scale.cluster (getRacks s.scale.cluster) r.2) (s.storage.effective r.1.id)).1).pvcs

def StorageState.reclaimed (reads : Int → StsReads) : List PersistentVolumeClaim :=
  (getRacks s.scale.cluster).zipIdx.foldl (s.reclaimRack reads) s.pvcs

section System

variable (hashesOf : Cluster → Rack → Hashes)

/-- The state after an error-free pass: it makes the ConfigMaps of the racks in the spec and reclaims
their orphaned claims, and then its events act on the StatefulSets, claims and ConfigMaps. -/
def StorageState.afterPass (s : StorageState) (env : ScaleEnv) (reads : Int → StsReads) : StorageState :=
  let (_, checks, events) := s.scale.pass hashesOf env
  { s with
    scale := { s.scale with
      objs := objectsAfter s.scale.objs events, checks := checks, log := s.scale.log ++ events }
    pvcs := (deleteCascadeInTurn s.clusterName s.storage.spec (events.filterMap (·.cascadeName))
      (.willing s.ns (s.reclaimed reads))).2.pvcs
    configMaps :=
      (s.configMaps ++ (getRacks s.scale.cluster).map fun rack => configMapName s.clusterName rack.id).filter
      fun name => .deleteConfigMap name ∉ events }

/-- The ids of the racks are within Go's integers and not negative. -/
def RackIDs (cluster : Cluster) : Prop := ∀ rack ∈ getRacks cluster, 0 ≤ rack.id ∧ rack.id < 2 ^ 63

instance (cluster : Cluster) : Decidable (RackIDs cluster) :=
  inferInstanceAs (Decidable (∀ rack ∈ getRacks cluster, _))

/-- Pods and claims are created for a StatefulSet that is not being deleted; one that is being deleted
vanishes at any time after its last pod. -/
def StorageState.step (s : StorageState) : StorageStep → Option StorageState
  | .pass env reads => some (s.afterPass hashesOf env reads)
  | .edit cluster storage =>
    if cluster.name = s.clusterName ∧ RackIDs cluster then
      some { s with scale := { s.scale with cluster := cluster }, storage := storage }
    else none
  | .podStarts rackID pod =>
    if standing s.scale.objs (statefulSetName s.clusterName rackID) then
      some { s with scale := { s.scale with
        pods := fun id => if id = rackID then pod :: s.scale.pods id else s.scale.pods id } }
    else none
  | .podGone rackID name =>
    some { s with scale := { s.scale with
      pods := fun id => if id = rackID then (s.scale.pods id).filter (·.name ≠ name) else s.scale.pods id } }
  | .claimCreated rackID volume ordinal =>
    if standing s.scale.objs (statefulSetName s.clusterName rackID) ∧ volume ≠ "" ∧ ordinal < 2 ^ 31 then
      some { s with pvcs := rackClaim s.clusterName rackID volume ordinal :: s.pvcs }
    else none
  | .otherClaim pvc =>
    if matchingLabels (selectorLabelsForCluster s.clusterName) pvc.labels then none
    else some { s with pvcs := pvc :: s.pvcs }
  | .stsGone rackID =>
    if s.scale.pods rackID = [] then
      some { s with scale := { s.scale with
        objs :=
          s.scale.objs.filter fun obj => !(obj.sts.name = statefulSetName s.clusterName rackID && obj.deleting) } }
    else none

end System

/-! ## Leaks -/

/-- A claim of the rack's StatefulSet for a cascade-delete volume of the spec's storage. -/
def StorageState.CascadeOf (k : Nat) (pvc : PersistentVolumeClaim) : Prop :=
  matchingLabels (selectorLabelsForCluster s.clusterName) pvc.labels = true ∧
    ∃ v n, ClaimName pvc.name v (statefulSetName s.clusterName k) n ∧ n < 2 ^ 31 ∧ v ≠ "" ∧
      CascadeVolume s.storage.spec v

/-- Every call of the pass succeeds; the ConfigMap of a removed rack is deleted where it is there. -/
structure StorageState.Succeeds (s : StorageState) (env : ScaleEnv) : Prop where
  calls : env.AllOk
  configMaps : ∀ k : Nat, configMapName s.clusterName k ∈ s.configMaps →
    (env.sts (statefulSetName s.clusterName k)).configMapDeleted = true

/-- The rack is not in the spec and has no StatefulSet, and one of its claims or its ConfigMap is
there and stays whatever error-free pass comes next. -/
def StorageState.Leaked (hashesOf : Cluster → Rack → Hashes) (s : StorageState) (k : Nat) : Prop :=
  (∀ rack ∈ getRacks s.scale.cluster, rack.id ≠ k) ∧
  (∀ obj ∈ s.scale.objs, obj.sts.name ≠ statefulSetName s.clusterName k) ∧
  ((∃ pvc ∈ s.pvcs, s.CascadeOf k pvc ∧
      ∀ env reads, s.Succeeds env → pvc ∈ (s.afterPass hashesOf env reads).pvcs) ∨
    (configMapName s.clusterName k ∈ s.configMaps ∧
      ∀ env reads, s.Succeeds env → configMapName s.clusterName k ∈ (s.afterPass hashesOf env reads).configMaps))

/-- The rack has claims that should go with it, or its ConfigMap. -/
def StorageState.Kept (k : Nat) : Prop :=
  (∃ pvc ∈ s.pvcs, s.CascadeOf k pvc) ∨ configMapName s.clusterName k ∈ s.configMaps

/-- The StatefulSets are those of racks, one that is being deleted has left the spec, and a rack
without a StatefulSet that stays has nothing left. -/
structure StorageState.Settled (s : StorageState) : Prop where
  names : ∀ obj ∈ s.scale.objs, ∃ k : Nat, k < 2 ^ 63 ∧ obj.sts.name = statefulSetName s.clusterName k
  ids : RackIDs s.scale.cluster
  removed : ∀ obj ∈ s.scale.objs, obj.deleting = true →
    obj.sts.name ∉ (getRacks s.scale.cluster).map fun rack => statefulSetName s.clusterName rack.id
  clean : ∀ k : Nat, standing s.scale.objs (statefulSetName s.clusterName k) = false → ¬ s.Kept k

/-- A volume of which a rack without a StatefulSet that stays has claims. -/
def StorageState.Retained (v : String) : Prop :=
  ∃ pvc ∈ s.pvcs, ∃ k n : Nat, matchingLabels (selectorLabelsForCluster s.clusterName) pvc.labels = true ∧
    ClaimName pvc.name v (statefulSetName s.clusterName k) n ∧
    standing s.scale.objs (statefulSetName s.clusterName k) = false

/-- The timing that avoids leaks: a pass that finds the StatefulSet of a removed rack at zero
replicas, before its deletion, finds none of its pods; a rack is put back only once its StatefulSet
is gone; and cascade-delete is not turned on for volumes whose claims removed racks have left. -/
def StorageState.Timely : StorageStep → Prop
  | .pass _ _ => ∀ r ∈ removedRacks s.scale.cluster (getRacks s.scale.cluster) s.scale.objs,
      r.1.deleting = false → statefulSetReplicas r.1.sts ≤ 0 → s.scale.pods r.2 = []
  | .edit cluster storage =>
      (∀ obj ∈ s.scale.objs, obj.deleting = true →
        obj.sts.name ∉ (getRacks cluster).map fun rack => statefulSetName s.clusterName rack.id) ∧
      ∀ v, CascadeVolume storage.spec v → CascadeVolume s.storage.spec v ∨ ¬ s.Retained v
  | _ => True

def StorageState.ErrorFree : StorageStep → Prop
  | .pass env _ => s.Succeeds env
  | _ => True

/-! ## The claims after a pass -/

theorem deleteInTurn_willing (ns : String) (all : List PersistentVolumeClaim) (describe : String) :
    ∀ pvcs, ((PVCClient.willing ns all).deleteInTurn describe pvcs).1 = .ok ()
  | [] => rfl
  | _ :: rest => deleteInTurn_willing ns all describe rest

theorem deleteCascadeDeletePVCs_willing (ns : String) (pvcs : List PersistentVolumeClaim)
    (clusterName stsName : String) (storageSpec : Option AerospikeStorageSpec) :
    (deleteCascadeDeletePVCs (.willing ns pvcs) clusterName stsName storageSpec).1 = .ok () := by
  obtain ⟨found, hfound⟩ : ∃ found, getPVCsForStatefulSet (.willing ns pvcs) clusterName stsName = .ok found := by
    unfold getPVCsForStatefulSet PVCClient.list
    simp only [PVCClient.willing]
    split
    case h_1 h => cases h
    case h_2 => exact ⟨_, rfl⟩
    case h_3 => exact ⟨_, rfl⟩
  unfold deleteCascadeDeletePVCs
  simp only [hfound]
  split
  case isTrue => rfl
  case isFalse => exact deleteInTurn_willing ..

theorem deleteCascadeInTurn_willing (clusterName : String) (storageSpec : Option AerospikeStorageSpec) (ns : String) :
    ∀ (stsNames : List String) (pvcs : List PersistentVolumeClaim), ∀ name ∈ stsNames,
      (name, .ok ()) ∈ (deleteCascadeInTurn clusterName storageSpec stsNames (.willing ns pvcs)).1
  | first :: rest, pvcs, name, hname => by
    rcases List.mem_cons.1 hname with rfl | hname
    · have hok := deleteCascadeDeletePVCs_willing ns pvcs clusterName name storageSpec
      unfold deleteCascadeInTurn
      simp only [hok]
      exact List.mem_cons_self ..
    · exact List.mem_cons_of_mem _ (deleteCascadeInTurn_willing clusterName storageSpec ns rest _ name hname)

variable {s : StorageState} {reads : Int → StsReads} {pvc : PersistentVolumeClaim}

theorem reclaimRack_gone {pvcs : List PersistentVolumeClaim} {r : Rack × Nat} (h : pvc ∈ pvcs)
    (hgone : pvc ∉ s.reclaimRack reads pvcs r) :
    ∃ v n, ClaimName pvc.name v (statefulSetName s.clusterName r.1.id) n := by
  unfold StorageState.reclaimRack at hgone
  simp only at hgone
  rw [mem_after] at hgone
  have hcalled := not_not.1 fun hnot => hgone ⟨h, hnot⟩
  obtain ⟨live, pods, replicas, hlive, _, _, hdeletes⟩ := reclaimOrphanedRackPVCs_cases hcalled.1
  obtain ⟨v, n, horphan, _⟩ := mem_deleteOrphanedCascadeDeletePVCs hdeletes
  obtain ⟨sts, hfind, rfl⟩ := Option.map_eq_some_iff.1 hlive
  refine ⟨v, n, ?_⟩
  have hname := horphan.name
  unfold findStatefulSet at hfind
  obtain ⟨obj, hobj, rfl⟩ := Option.map_eq_some_iff.1 hfind
  have hsame : obj.sts.name = statefulSetName s.clusterName r.1.id := by simpa using List.find?_some hobj
  rw [← hsame]
  exact hname

theorem reclaimRacks_subset :
    ∀ (racks : List (Rack × Nat)) {pvcs : List PersistentVolumeClaim},
      pvc ∈ racks.foldl (s.reclaimRack reads) pvcs → pvc ∈ pvcs
  | [], _, h => h
  | _ :: rest, _, h => (mem_after.1 (reclaimRacks_subset rest h)).1

theorem reclaimRacks_gone :
    ∀ (racks : List (Rack × Nat)) {pvcs : List PersistentVolumeClaim}, pvc ∈ pvcs →
      pvc ∉ racks.foldl (s.reclaimRack reads) pvcs →
      ∃ r ∈ racks, ∃ v n, ClaimName pvc.name v (statefulSetName s.clusterName r.1.id) n
  | [], _, h, hgone => absurd h hgone
  | r :: rest, pvcs, h, hgone => by
    by_cases hfirst : pvc ∈ s.reclaimRack reads pvcs r
    · obtain ⟨r', hr', hclaim⟩ := reclaimRacks_gone rest hfirst hgone
      exact ⟨r', List.mem_cons_of_mem _ hr', hclaim⟩
    · exact ⟨r, List.mem_cons_self .., reclaimRack_gone h hfirst⟩

/-! ## A pass over removed racks -/

section Pass

variable {hashesOf : Cluster → Rack → Hashes} {s : StorageState} {env : ScaleEnv} {reads : Int → StsReads}

theorem pass_removed (hs : s.Settled) {e : ScaleEvent} (he : e ∈ (s.scale.pass hashesOf env).2.2)
    (hkind : e.isTeardown = true) :
    ∃ (r : StatefulSetObject × Int) (k : Nat),
      r ∈ removedRacks s.scale.cluster (getRacks s.scale.cluster) s.scale.objs ∧
      r.1.sts.name = statefulSetName s.clusterName k ∧ r.2 = k ∧ r.1.needsDrain = false ∧
      e ∈ (deleteRemovedRack (env.sts r.1.sts.name) s.scale.cluster r.1 r.2 (s.scale.pods r.2)).2 ∧
      (deleteRemovedRack (env.sts r.1.sts.name) s.scale.cluster r.1 r.2 (s.scale.pods r.2)).2 ⊆
        (s.scale.pass hashesOf env).2.2 := by
  obtain ⟨r, hr, hn, he, hsub⟩ := pass_teardown he hkind
  obtain ⟨k, hk, hname⟩ := hs.names r.1 (mem_removedRacks hr)
  exact ⟨r, k, hr, hname, removedRacks_id hr hk hname, hn, he, hsub⟩

theorem mem_afterPass_pvcs {pvc : PersistentVolumeClaim} (h : pvc ∈ (s.afterPass hashesOf env reads).pvcs) :
    pvc ∈ s.pvcs :=
  reclaimRacks_subset _ (deleteCascadeInTurn_subset _ h)

theorem mem_afterPass_configMaps {name : String} :
    name ∈ (s.afterPass hashesOf env reads).configMaps ↔
      (name ∈ s.configMaps ∨ ∃ rack ∈ getRacks s.scale.cluster, configMapName s.clusterName rack.id = name) ∧
      .deleteConfigMap name ∉ (s.scale.pass hashesOf env).2.2 := by
  simp only [StorageState.afterPass, List.mem_filter, List.mem_append, List.mem_map, decide_not, Bool.not_eq_true',
    decide_eq_false_iff_not]

theorem afterPass_cleaned (hs : s.Settled) (hok : s.Succeeds env)
    (hpods : ∀ r ∈ removedRacks s.scale.cluster (getRacks s.scale.cluster) s.scale.objs,
      r.1.deleting = false → statefulSetReplicas r.1.sts ≤ 0 → s.scale.pods r.2 = [])
    {k : Nat} (hdelete : .delete (statefulSetName s.clusterName k) ∈ (s.scale.pass hashesOf env).2.2) :
    ¬ (s.afterPass hashesOf env reads).Kept k := by
  obtain ⟨r, k', hr, hname, hid, hn, he, hsub⟩ := pass_removed hs hdelete rfl
  obtain ⟨hdel, hsame⟩ : r.1.deleting = false ∧ r.1.sts.name = statefulSetName s.clusterName k := by
    rcases deleteRemovedRack_events he with ⟨h, hdel⟩ | h | h
    · exact ⟨hdel, (ScaleEvent.delete.inj h).symm⟩
    · cases h
    · cases h
  obtain rfl : k' = k := statefulSetName_injective (hname.symm.trans hsame)
  have hzero : statefulSetReplicas r.1.sts ≤ 0 := by
    by_contra hpos
    rw [needsDrain_eq_true.2 ⟨hdel, not_le.1 hpos⟩] at hn
    cases hn
  rw [hpods r hr hdel hzero] at hsub
  obtain ⟨hpvcs, hconfig⟩ := deleteRemovedRack_cleans (hok.calls.sts r.1.sts.name) s.scale.cluster r.1 r.2
  rintro (⟨pvc, hpvc, hlabels, v, n, hclaim, hn', hv, hvol⟩ | hconfigMap)
  · -- its claims are deleted
    have hcascade : statefulSetName s.clusterName k' ∈
        (s.scale.pass hashesOf env).2.2.filterMap (·.cascadeName) :=
      List.mem_filterMap.2 ⟨_, hsub hpvcs, by rw [ScaleEvent.cascadeName, hname]⟩
    exact deleteCascadeInTurn_deletes hclaim hn' hv hvol _ (.inl hlabels)
      (deleteCascadeInTurn_willing _ _ _ _ _ _ hcascade) hpvc
  · -- its ConfigMap is not made again, since the rack is not in the spec
    obtain ⟨hthere, hnot⟩ := mem_afterPass_configMaps.1 hconfigMap
    rcases hthere with hthere | ⟨rack, hrack, hrackName⟩
    · have hdeleted := hok.configMaps k' hthere
      rw [← hname] at hdeleted
      refine hnot (hsub ?_)
      rw [← hid]
      exact hconfig hdeleted
    · obtain ⟨i, hi⟩ := Int.eq_ofNat_of_zero_le (hs.ids rack hrack).1
      rw [hi] at hrackName
      obtain rfl : i = k' := configMapName_injective hrackName
      exact removedRacks_not_current hr (List.mem_map.2 ⟨rack, hrack, by rw [hname, hi]; rfl⟩)

theorem afterPass_settled (hs : s.Settled) (hok : s.Succeeds env)
    (hpods : ∀ r ∈ removedRacks s.scale.cluster (getRacks s.scale.cluster) s.scale.objs,
      r.1.deleting = false → statefulSetReplicas r.1.sts ≤ 0 → s.scale.pods r.2 = []) :
    (s.afterPass hashesOf env reads).Settled := by
  have hnotCurrent : ∀ {name}, .delete name ∈ (s.scale.pass hashesOf env).2.2 →
      name ∉ (getRacks s.scale.cluster).map fun rack => statefulSetName s.clusterName rack.id := by
    intro name hdelete
    obtain ⟨r, k, hr, _, _, _, he, _⟩ := pass_removed hs hdelete rfl
    rcases deleteRemovedRack_events he with ⟨h, _⟩ | h | h <;> cases h
    exact removedRacks_not_current hr
  refine ⟨?_, hs.ids, ?_, ?_⟩
  · intro obj hobj
    rcases mem_objectsAfter _ hobj with ⟨old, hold, hname, _⟩ | ⟨sts, hcreate, hname, _⟩
    · rw [← hname]
      exact hs.names old hold
    · obtain ⟨rack, hrack, hrackName⟩ := created_name hcreate
      obtain ⟨hlow, hhigh⟩ := hs.ids rack hrack
      obtain ⟨k, hk⟩ := Int.eq_ofNat_of_zero_le hlow
      refine ⟨k, by omega, ?_⟩
      rw [← hname, hrackName, hk]
      rfl
  · intro obj hobj hdel
    rcases mem_objectsAfter _ hobj with ⟨old, hold, hname, hwhy⟩ | ⟨sts, _, _, hwhy⟩
    · rcases hwhy hdel with hwas | hdelete
      · rw [← hname]
        exact hs.removed old hold hwas
      · exact hnotCurrent hdelete
    · exact hnotCurrent (hwhy hdel)
  · intro k hstanding
    by_cases hwas : standing s.scale.objs (statefulSetName s.clusterName k) = true
    · -- it stood before, so this pass has deleted it
      have hdelete : .delete (statefulSetName s.clusterName k) ∈ (s.scale.pass hashesOf env).2.2 := by
        by_contra hnot
        exact absurd (standing_objectsAfter _ hnot hwas) (by
          rw [Bool.not_eq_true]
          exact hstanding)
      exact afterPass_cleaned hs hok hpods hdelete
    · have hclean := hs.clean k (Bool.eq_false_iff.2 hwas)
      rintro (⟨pvc, hpvc, hcascade⟩ | hconfigMap)
      · exact hclean (.inl ⟨pvc, mem_afterPass_pvcs hpvc, hcascade⟩)
      · rcases (mem_afterPass_configMaps.1 hconfigMap).1 with hthere | ⟨rack, hrack, hrackName⟩
        · exact hclean (.inr hthere)
        · -- a rack of the spec has its StatefulSet after the pass
          obtain ⟨i, hi⟩ := Int.eq_ofNat_of_zero_le (hs.ids rack hrack).1
          rw [hi] at hrackName
          obtain rfl : i = k := configMapName_injective hrackName
          have hcurrent : statefulSetName s.clusterName i ∈
              (getRacks s.scale.cluster).map fun rack => statefulSetName s.clusterName rack.id :=
            List.mem_map.2 ⟨rack, hrack, by rw [hi]⟩
          have hnone : ∀ obj ∈ s.scale.objs, obj.sts.name ≠ statefulSetName s.scale.cluster.name rack.id := by
            intro obj hobj hname
            rw [hi] at hname
            cases hdel : obj.deleting with
            | true => exact hs.removed obj hobj hdel (by rw [hname]; exact hcurrent)
            | false => exact hwas (standing_eq_true.2 ⟨obj, hobj, hname, hdel⟩)
          obtain ⟨sts, hcreate, hname⟩ : ∃ sts, .create sts ∈ (s.scale.pass hashesOf env).2.2 ∧
              sts.name = statefulSetName s.scale.cluster.name rack.id := pass_creates hok.calls hrack hnone
          have hstays := standing_created _ hcreate
            (fun hdelete => hnotCurrent hdelete (by rw [hname, hi]; exact hcurrent)) (by rw [hname]; exact hnone)
          rw [hname, hi] at hstays
          exact absurd hstays (by
            rw [Bool.not_eq_true]
            exact hstanding)

end Pass

/-! ## Runs -/

variable {hashesOf : Cluster → Rack → Hashes}

theorem step_settled (s : StorageState) (a : StorageStep) (t : StorageState) (hs : s.Settled)
    (hc : s.ErrorFree a ∧ s.Timely a) (h : s.step hashesOf a = some t) : t.Settled := by
  cases a with
  | pass env reads =>
    cases h
    exact afterPass_settled hs hc.1 hc.2
  | edit cluster storage =>
    simp only [StorageState.step] at h
    split at h
    case isFalse => cases h
    case isTrue hguard =>
      cases h
      obtain ⟨hname, hids⟩ := hguard
      obtain ⟨hremoved, hcascade⟩ := hc.2
      have hsame : ({ s with scale := { s.scale with cluster := cluster }, storage := storage } :
          StorageState).clusterName = s.clusterName := hname
      refine ⟨?_, hids, ?_, ?_⟩
      · rw [hsame]
        exact hs.names
      · rw [hsame]
        exact hremoved
      · rw [hsame]
        intro k hstanding
        rintro (⟨pvc, hpvc, hlabels, v, n, hclaim, hn, hv, hvol⟩ | hconfigMap)
        · rw [hsame] at hlabels hclaim
          rcases hcascade v hvol with hwas | hnot
          · exact hs.clean k hstanding (.inl ⟨pvc, hpvc, hlabels, v, n, hclaim, hn, hv, hwas⟩)
          · exact hnot ⟨pvc, hpvc, k, n, hlabels, hclaim, hstanding⟩
        · rw [hsame] at hconfigMap
          exact hs.clean k hstanding (.inr hconfigMap)
  | podStarts rackID pod =>
    simp only [StorageState.step] at h
    split at h
    case isFalse => cases h
    case isTrue =>
      cases h
      exact ⟨hs.names, hs.ids, hs.removed, hs.clean⟩
  | podGone rackID name =>
    cases h
    exact ⟨hs.names, hs.ids, hs.removed, hs.clean⟩
  | claimCreated rackID volume ordinal =>
    simp only [StorageState.step] at h
    split at h
    case isFalse => cases h
    case isTrue hguard =>
      cases h
      refine ⟨hs.names, hs.ids, hs.removed, ?_⟩
      intro k hstanding
      rintro (⟨pvc, hpvc, hcascade⟩ | hconfigMap)
      · rcases List.mem_cons.1 hpvc with rfl | hpvc
        · -- the new claim is one of a StatefulSet that stays
          obtain ⟨-, v, n, hclaim, -⟩ := hcascade
          obtain ⟨-, rfl, -⟩ := claimName_rack (claimName_pvcName ..) hclaim
          exact absurd hguard.1 (by
            rw [Bool.not_eq_true]
            exact hstanding)
        · exact hs.clean k hstanding (.inl ⟨pvc, hpvc, hcascade⟩)
      · exact hs.clean k hstanding (.inr hconfigMap)
  | otherClaim pvc =>
    simp only [StorageState.step] at h
    split at h
    case isTrue => cases h
    case isFalse hother =>
      cases h
      refine ⟨hs.names, hs.ids, hs.removed, ?_⟩
      intro k hstanding
      rintro (⟨q, hq, hcascade⟩ | hconfigMap)
      · rcases List.mem_cons.1 hq with rfl | hq
        · exact hother hcascade.1
        · exact hs.clean k hstanding (.inl ⟨q, hq, hcascade⟩)
      · exact hs.clean k hstanding (.inr hconfigMap)
  | stsGone rackID =>
    simp only [StorageState.step] at h
    split at h
    case isFalse => cases h
    case isTrue =>
      cases h
      refine ⟨fun obj hobj => hs.names obj (List.mem_filter.1 hobj).1, hs.ids,
        fun obj hobj => hs.removed obj (List.mem_filter.1 hobj).1, ?_⟩
      intro k hstanding
      refine hs.clean k (Bool.eq_false_iff.2 fun hwas => ?_)
      -- only objects that are being deleted vanish
      obtain ⟨obj, hobj, hname, hdel⟩ := standing_eq_true.1 hwas
      refine absurd (standing_eq_true.2 ⟨obj, List.mem_filter.2 ⟨hobj, ?_⟩, hname, hdel⟩) (by
        rw [Bool.not_eq_true]
        exact hstanding)
      rw [hdel, Bool.and_false]
      rfl

/-- In a run of error-free and timely moves no removed rack leaves claims of cascade-delete volumes
or its ConfigMap behind. -/
theorem no_storage_leak (hashesOf : Cluster → Rack → Hashes) {s t : StorageState} {l : List StorageStep}
    (hs : s.Settled) (hfree : Lts.Along (StorageState.step hashesOf) StorageState.ErrorFree s l)
    (htimely : Lts.Along (StorageState.step hashesOf) StorageState.Timely s l)
    (h : Lts.run (StorageState.step hashesOf) s l = some t) (k : Nat) : ¬ t.Leaked hashesOf k := by
  have ht : t.Settled := Lts.run_invariant (fun s a t => step_settled s a t) hs (hfree.and htimely) h
  rintro ⟨-, hnone, hleft⟩
  have hstanding : standing t.scale.objs (statefulSetName t.clusterName k) = false := by
    refine Bool.eq_false_iff.2 fun hstands => ?_
    obtain ⟨obj, hobj, hname, -⟩ := standing_eq_true.1 hstands
    exact hnone obj hobj hname
  refine ht.clean k hstanding ?_
  rcases hleft with ⟨pvc, hpvc, hcascade, -⟩ | ⟨hconfigMap, -⟩
  · exact .inl ⟨pvc, hpvc, hcascade⟩
  · exact .inr hconfigMap

theorem leaked_of_kept
    (hnames : ∀ obj ∈ s.scale.objs, ∃ k : Nat, k < 2 ^ 63 ∧ obj.sts.name = statefulSetName s.clusterName k)
    (hids : RackIDs s.scale.cluster) {k : Nat} (hrack : ∀ rack ∈ getRacks s.scale.cluster, rack.id ≠ k)
    (hnone : ∀ obj ∈ s.scale.objs, obj.sts.name ≠ statefulSetName s.clusterName k) (hkept : s.Kept k) :
    s.Leaked hashesOf k := by
  have htorn : ∀ {env : ScaleEnv} {e : ScaleEvent}, e ∈ (s.scale.pass hashesOf env).2.2 → e.isTeardown = true →
      ∃ k' : Nat, k' ≠ k ∧ (e = .delete (statefulSetName s.clusterName k') ∨
        e = .deleteCascadePVCs (statefulSetName s.clusterName k') ∨
        e = .deleteConfigMap (configMapName s.clusterName k')) := by
    intro env e he hkind
    obtain ⟨r, hr, -, he, -⟩ := pass_teardown he hkind
    obtain ⟨k', hk', hname⟩ := hnames r.1 (mem_removedRacks hr)
    refine ⟨k', ?_, ?_⟩
    · rintro rfl
      exact hnone r.1 (mem_removedRacks hr) hname
    · have hevents := deleteRemovedRack_events he
      rw [removedRacks_id hr hk' hname, hname] at hevents
      exact hevents.imp And.left id
  refine ⟨hrack, hnone, ?_⟩
  rcases hkept with ⟨pvc, hpvc, hcascade⟩ | hconfigMap
  · refine .inl ⟨pvc, hpvc, hcascade, fun env reads _ => ?_⟩
    obtain ⟨-, v, n, hclaim, -⟩ := hcascade
    by_contra hgone
    by_cases hreclaimed : pvc ∈ s.reclaimed reads
    · obtain ⟨stsName, hsts, v', n', hclaim', -⟩ := deleteCascadeInTurn_gone _ hreclaimed hgone
      obtain ⟨e, he, hname⟩ := List.mem_filterMap.1 hsts
      cases e with
      | deleteCascadePVCs name =>
        cases hname
        obtain ⟨k', hk', h | h | h⟩ := htorn he rfl <;> cases h
        exact hk' (claimName_rack hclaim hclaim').2.1.symm
      | _ => cases hname
    · obtain ⟨r, hr, v', n', hclaim'⟩ := reclaimRacks_gone _ hpvc hreclaimed
      have hmem := List.fst_mem_of_mem_zipIdx hr
      obtain ⟨i, hi⟩ := Int.eq_ofNat_of_zero_le (hids r.1 hmem).1
      rw [hi] at hclaim'
      have hsame := (claimName_rack hclaim hclaim').2.1
      exact hrack r.1 hmem (by rw [hi, hsame])
  · refine .inr ⟨hconfigMap, fun env reads _ => mem_afterPass_configMaps.2 ⟨.inl hconfigMap, fun hdeleted => ?_⟩⟩
    obtain ⟨k', hk', h | h | h⟩ := htorn hdeleted rfl
    · cases h
    · cases h
    · exact hk' (configMapName_injective (ScaleEvent.deleteConfigMap.inj h)).symm

/-! ## Rack 2 of two -/

def clusterOfRacks (racks : List Rack) : Cluster :=
  { Cluster.bare "db" "ce:8" with
    spec :=
      { (Cluster.bare "db" "ce:8").spec with size := racks.length, rackConfig := some ⟨racks, none, none, none⟩ } }

def steadyHashes (_ : Cluster) (_ : Rack) : Hashes := ⟨"c", "s", "v"⟩

def cascadingStorage : ClusterStorage := ⟨some (dataStorage true), fun _ => none⟩

def noReads (_ : Int) : StsReads := ⟨"", 1, 0, 0, ["data"]⟩

def drainedState : StorageState where
  ns := "default"
  scale := ⟨clusterOfRacks [⟨1, none⟩], [⟨⟨"db-1", some 1, ⟨"c", "s", "v"⟩, .parallel⟩, false⟩, drainedObject "db-2"],
    fun _ => [], [], []⟩
  storage := cascadingStorage
  pvcs := [rackClaim "db" 2 "data" 0]
  configMaps := ["db-1-config", "db-2-config"]

theorem drainedState_settled : drainedState.Settled := by
  have htwo : ∀ k : Nat, k = 1 ∨ k = 2 → standing drainedState.scale.objs (statefulSetName "db" k) = true := by
    rintro k (rfl | rfl) <;> decide +kernel
  refine ⟨?_, by decide +kernel, ?_, ?_⟩
  · intro obj hobj
    rcases List.mem_cons.1 hobj with rfl | hobj
    · exact ⟨1, by decide, by decide +kernel⟩
    · exact ⟨2, by decide, by rw [List.mem_singleton.1 hobj]; decide +kernel⟩
  · intro obj hobj hdel
    rcases List.mem_cons.1 hobj with rfl | hobj
    · cases hdel
    · rw [List.mem_singleton.1 hobj] at hdel
      cases hdel
  · intro k hstanding hkept
    refine absurd (htwo k ?_) (by rw [Bool.not_eq_true]; exact hstanding)
    rcases hkept with ⟨pvc, hpvc, -, v, n, hclaim, -⟩ | hconfigMap
    · rw [List.mem_singleton.1 hpvc] at hclaim
      have hown : ClaimName (rackClaim "db" 2 "data" 0).name "data" (statefulSetName "db" (2 : Nat)) 0 :=
        claimName_pvcName ..
      exact .inr (claimName_rack hclaim hown).2.1
    · have hone : configMapName "db" (1 : Nat) = "db-1-config" := by decide +kernel
      have htwo : configMapName "db" (2 : Nat) = "db-2-config" := by decide +kernel
      rcases List.mem_cons.1 hconfigMap with h | h
      · exact .inl (configMapName_injective (h.trans hone.symm))
      · exact .inr (configMapName_injective ((List.mem_singleton.1 h).trans htwo.symm))

/-- What a state shows of StatefulSets, racks, claims and ConfigMaps. -/
structure StorageView where
  clusterName : String
  stsNames : List String
  rackIDs : List Int
  storage : Option AerospikeStorageSpec
  pvcs : List PersistentVolumeClaim
  configMaps : List String
  deriving DecidableEq

def StorageState.view (s : StorageState) : StorageView :=
  ⟨s.clusterName, s.scale.objs.map (·.sts.name), (getRacks s.scale.cluster).map (·.id), s.storage.spec, s.pvcs,
    s.configMaps⟩

theorem calm_errorFree {l : List StorageStep} (h : ∀ env reads, .pass env reads ∈ l → env = .calm) :
    Lts.Along (StorageState.step steadyHashes) StorageState.ErrorFree s l := by
  refine .of_forall fun a ha s => ?_
  cases a with
  | pass env reads =>
    rw [h env reads ha]
    exact ⟨ScaleEnv.calm_allOk, fun _ _ => rfl⟩
  | _ => trivial

theorem no_storage_leak_drained : ∃ t,
    Lts.run (StorageState.step steadyHashes) drainedState [.pass .calm noReads, .stsGone 2] = some t ∧
      t.pvcs = [] ∧ ¬ t.Leaked steadyHashes 2 := by
  have hrun : (Lts.run (StorageState.step steadyHashes) drainedState [.pass .calm noReads, .stsGone 2]).map
      StorageState.view = some ⟨"db", ["db-1"], [1], some (dataStorage true), [], ["db-1-config", "db-1-config"]⟩ := by
    decide +kernel
  obtain ⟨t, ht, hview⟩ := Option.map_eq_some_iff.1 hrun
  refine ⟨t, ht, congrArg StorageView.pvcs hview, ?_⟩
  refine no_storage_leak steadyHashes drainedState_settled (calm_errorFree ?_) ?_ ht 2
  · intro env reads h
    rcases List.mem_cons.1 h with h | h
    · cases h
      rfl
    · cases List.mem_singleton.1 h
  · exact ⟨fun _ _ _ _ => rfl, fun _ _ => ⟨trivial, fun _ _ => trivial⟩⟩

def freshState : StorageState :=
  ⟨"default", ⟨clusterOfRacks [⟨1, none⟩, ⟨2, none⟩], [], fun _ => [], [], []⟩, cascadingStorage, [], []⟩

/-- Rack 2 is removed with its pod still terminating when its StatefulSet is deleted; the StatefulSet
vanishes with the pod before the next pass. -/
def leakingRun : List StorageStep :=
  [.pass .calm noReads, .claimCreated 2 "data" 0, .podStarts 2 (.serving "db-2-0" "ce:8" "10.0.0.2" ⟨"c", "s", "v"⟩),
    .edit (clusterOfRacks [⟨1, none⟩]) cascadingStorage, .pass .calm noReads, .pass .calm noReads,
    .podGone 2 "db-2-0", .stsGone 2]

theorem storage_leaked : freshState.Settled ∧
    Lts.Along (StorageState.step steadyHashes) StorageState.ErrorFree freshState leakingRun ∧
    ∃ t, Lts.run (StorageState.step steadyHashes) freshState leakingRun = some t ∧ t.Leaked steadyHashes 2 := by
  refine ⟨⟨(fun _ h => nomatch h), by decide +kernel, (fun _ h => nomatch h), ?_⟩, calm_errorFree ?_, ?_⟩
  · rintro k - (⟨_, h, -⟩ | h) <;> cases h
  · intro env reads h
    simp only [leakingRun, List.mem_cons, StorageStep.pass.injEq, reduceCtorEq, List.not_mem_nil, or_false,
      false_or] at h
    rcases h with ⟨rfl, -⟩ | ⟨rfl, -⟩ | ⟨rfl, -⟩ <;> rfl
  · have hrun : (Lts.run (StorageState.step steadyHashes) freshState leakingRun).map StorageState.view =
        some ⟨"db", ["db-1"], [1], some (dataStorage true), [rackClaim "db" 2 "data" 0],
          ["db-1-config", "db-2-config", "db-1-config", "db-1-config"]⟩ := by
      decide +kernel
    obtain ⟨t, ht, hview⟩ := Option.map_eq_some_iff.1 hrun
    have hname : t.clusterName = "db" := congrArg StorageView.clusterName hview
    have hobjs : t.scale.objs.map (·.sts.name) = ["db-1"] := congrArg StorageView.stsNames hview
    have hracks : (getRacks t.scale.cluster).map (·.id) = [1] := congrArg StorageView.rackIDs hview
    have hobj : ∀ obj ∈ t.scale.objs, obj.sts.name = "db-1" := fun obj h =>
      List.mem_singleton.1 (hobjs ▸ List.mem_map_of_mem h)
    have hrack : ∀ rack ∈ getRacks t.scale.cluster, rack.id = 1 := fun rack h =>
      List.mem_singleton.1 (hracks ▸ List.mem_map_of_mem h)
    have hclaims : t.pvcs = [rackClaim "db" 2 "data" 0] := congrArg StorageView.pvcs hview
    have hstorage : t.storage.spec = some (dataStorage true) := congrArg StorageView.storage hview
    refine ⟨t, ht, leaked_of_kept ?_ ?_ ?_ ?_ (.inl ⟨rackClaim "db" 2 "data" 0, ?_, ?_, "data", 0, ?_, ?_⟩)⟩
    · intro obj h
      rw [hobj obj h, hname]
      exact ⟨1, by decide, by decide +kernel⟩
    · intro rack h
      rw [hrack rack h]
      decide
    · intro rack h
      rw [hrack rack h]
      decide
    · intro obj h
      rw [hobj obj h, hname]
      decide +kernel
    · rw [hclaims]
      exact List.mem_singleton.2 rfl
    · rw [hname]
      decide +kernel
    · rw [hname]
      exact claimName_pvcName ..
    · rw [hstorage]
      decide +kernel

end Acko
