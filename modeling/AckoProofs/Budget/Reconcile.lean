/-
`reconcilePDB`: the budgets of a cluster are created or updated, and those of the other shape (one for the
cluster, or one for each rack) and of racks that are gone are deleted. Rack budgets are found by the labels
of the cluster and recognised by their names.
-/
import AckoProofs.Budget.Policy
import AckoProofs.Objects.Store

namespace Acko

/-! ## Names -/

def cutPrefix (s pre : String) : Option String :=
  if pre.toList.isPrefixOf s.toList then some (String.ofList (s.toList.drop pre.length)) else none

def cutSuffix (s suffix : String) : Option String :=
  if suffix.toList.isSuffixOf s.toList then some (String.ofList (s.toList.take (s.length - suffix.length))) else none

/-- An integer stands between cluster name and `-pdb`. -/
def isRackPDBName (name clusterName : String) : Bool :=
  match cutPrefix name (clusterName ++ "-") with
  | none => false
  | some rest =>
    match cutSuffix rest "-pdb" with
    | none => false
    | some idStr => (atoi idStr).isSome

/-! ## One budget -/

/-- A `minAvailable` is always removed. -/
def pdbNeedsUpdate (existing : PodDisruptionBudget) (desiredLabels : Labels) (desired : PlannedPDB) : Bool :=
  existing.minAvailable.isSome ||
    decide (existing.maxUnavailable ≠ some desired.maxUnavailable) ||
    decide (existing.selector ≠ some ⟨desired.selector.toMap, []⟩) ||
    desiredLabels.any fun (key, value) => (existing.labels.lookup key).getD "" ≠ value

/-- The object carries the label of another cluster. -/
def takenByAnother (labels : StringMap) (clusterName : String) : Bool :=
  let owner := (labels.lookup instanceLabel).getD ""
  decide (owner ≠ "") && decide (owner ≠ clusterName)

variable (cluster : DeclaredCluster)

def createdPDB (pdb : PlannedPDB) : PodDisruptionBudget where
  labels := (labelsForCluster cluster.name).toMap
  owner := some cluster.uid
  minAvailable := none
  maxUnavailable := some pdb.maxUnavailable
  selector := some ⟨pdb.selector.toMap, []⟩

def updatedPDB (pdb : PlannedPDB) (existing : PodDisruptionBudget) : PodDisruptionBudget :=
  { existing with
    labels := mapsCopy existing.labels (labelsForCluster cluster.name).toMap
    minAvailable := none
    maxUnavailable := some pdb.maxUnavailable
    selector := some ⟨pdb.selector.toMap, []⟩ }

/-- Leaves the budget of another cluster alone. -/
def reconcileOnePDB (pdb : PlannedPDB) : ObjectPlan :=
  .read (·.wrap ("getting PDB " ++ pdb.name)) fun objects =>
    match objects.pdbs.lookup pdb.name with
    | none =>
      .write (.pdb pdb.name (.create (createdPDB cluster pdb))) (orFail ("creating PDB " ++ pdb.name)) .done
    | some existing =>
      -- A budget of another cluster is left alone, and the reconcile goes on.
      if takenByAnother existing.labels cluster.name then .done
      else if pdbNeedsUpdate existing (labelsForCluster cluster.name) pdb then
        .write (.pdb pdb.name (.update (updatedPDB cluster pdb existing))) (orFail ("updating PDB " ++ pdb.name)) .done
      else .done

/-! ## Deleting -/

/-- Reads first; an absent budget is fine. -/
def deletePDBByName (name : String) : ObjectPlan :=
  .read (·.wrap ("getting PDB " ++ name ++ " for deletion")) fun objects =>
    match objects.pdbs.lookup name with
    | none => .done
    | some _ => .write (.pdb name .delete) (unlessNotFound ("deleting PDB " ++ name)) .done

def deleteClusterPDB : ObjectPlan := deletePDBByName (pdbName cluster.name)

/-- The names that `deleteRackPDBs` deletes: of budgets with the labels of the cluster, not to be kept, and
of the shape that the operator gives to a rack's budget. -/
def staleRackPDBs (keep : List String) (objects : Objects) : List String :=
  ((objects.pdbs.entries.filter fun e => carries (labelsForCluster cluster.name) e.2.labels).map (·.1)).filter
    fun name => decide (name ≠ pdbName cluster.name) && decide (name ∉ keep) && isRackPDBName name cluster.name

/-- Those of the racks that are not kept. -/
def deleteRackPDBs (keep : List String) : ObjectPlan :=
  .read (·.wrap ("listing PDBs for cluster " ++ cluster.name)) fun objects =>
    Plan.forEach deletePDBByName (staleRackPDBs cluster keep objects)

def deleteAllPDBs : ObjectPlan :=
  (deleteClusterPDB cluster).andThen (deleteRackPDBs cluster [])

/-- One budget for the cluster, or one a rack. -/
def reconcilePDB : ObjectPlan :=
  if cluster.spec.disablePDB = some true then deleteAllPDBs cluster
  else if !cluster.perRack then
    (deleteRackPDBs cluster []).andThen (reconcileOnePDB cluster cluster.clusterPDB)
  else
    (deleteClusterPDB cluster).andThen <|
      (Plan.forEach (reconcileOnePDB cluster) cluster.rackPDBs).andThen <|
        deleteRackPDBs cluster (cluster.rackPDBs.map (·.name))

/-! ## What it sends -/

/-- The requests of `reconcilePDB` and the objects they meet: a planned budget is created where its name is
free and updated where the budget of that name is not another cluster's; what is deleted has the cluster's
name, or the labels of the cluster and the name of a rack's budget. -/
def PDBRequest (objects : Objects) : Request → Prop
  | .pdb name (.create pdb) => objects.pdbs.lookup name = none ∧ cluster.spec.disablePDB ≠ some true ∧
      ∃ planned ∈ cluster.plannedPDBs, name = planned.name ∧ pdb = createdPDB cluster planned
  | .pdb name (.update pdb) => cluster.spec.disablePDB ≠ some true ∧ ∃ existing,
      objects.pdbs.lookup name = some existing ∧ takenByAnother existing.labels cluster.name = false ∧
      ∃ planned ∈ cluster.plannedPDBs, name = planned.name ∧ pdb = updatedPDB cluster planned existing
  | .pdb name .delete => name = pdbName cluster.name ∨ isRackPDBName name cluster.name = true ∧
      ∃ existing, objects.pdbs.lookup name = some existing ∧
        carries (labelsForCluster cluster.name) existing.labels = true
  | .service .. => False

/-- A budget as the plan wants it. -/
structure PDBSettled (cluster : DeclaredCluster) (planned : PlannedPDB) (pdb : PodDisruptionBudget) : Prop where
  labels : carries (labelsForCluster cluster.name) pdb.labels = true
  minAvailable : pdb.minAvailable = none
  maxUnavailable : pdb.maxUnavailable = some planned.maxUnavailable
  selector : pdb.selector = some ⟨planned.selector.toMap, []⟩

/-! ## Labels -/

theorem carries_labelsForCluster (clusterName : String) :
    carries (labelsForCluster clusterName) (labelsForCluster clusterName).toMap = true := by
  refine carries_eq_true.2 fun key value h => ?_
  rw [lookup_toMap]
  simp only [labelsForCluster, List.mem_cons, Prod.mk.injEq, List.not_mem_nil, or_false] at h
  rcases h with ⟨rfl, rfl⟩ | ⟨rfl, rfl⟩ | ⟨rfl, rfl⟩ | ⟨rfl, rfl⟩ <;> rfl

theorem carries_mapsCopy {selector : Labels} {dst src : StringMap} (h : carries selector src = true) :
    carries selector (mapsCopy dst src) = true := by
  refine carries_eq_true.2 fun key value hmem => ?_
  have hsrc := carries_eq_true.1 h key value hmem
  rw [mapsCopy, Finmap.lookup_union_left (Finmap.mem_of_lookup_eq_some hsrc)]
  exact hsrc

theorem instance_of_carries {clusterName : String} {labels : StringMap}
    (h : carries (labelsForCluster clusterName) labels = true) : labels.lookup instanceLabel = some clusterName :=
  carries_eq_true.1 h _ _ (by simp [labelsForCluster])

theorem not_takenByAnother {clusterName : String} {labels : StringMap}
    (h : labels.lookup instanceLabel = some clusterName) : takenByAnother labels clusterName = false := by
  simp [takenByAnother, h]

/-! ## One budget -/

section

variable {cluster : DeclaredCluster} {planned : PlannedPDB}

theorem settled_createdPDB : PDBSettled cluster planned (createdPDB cluster planned) :=
  ⟨carries_labelsForCluster cluster.name, rfl, rfl, rfl⟩

theorem settled_updatedPDB (existing : PodDisruptionBudget) :
    PDBSettled cluster planned (updatedPDB cluster planned existing) :=
  ⟨carries_mapsCopy (carries_labelsForCluster cluster.name), rfl, rfl, rfl⟩

/-- A budget that needs no update is settled. The name of the cluster is not empty, as a missing label reads
as the empty one. -/
theorem settled_of_not_needsUpdate (hname : cluster.name ≠ "") {existing : PodDisruptionBudget}
    (h : pdbNeedsUpdate existing (labelsForCluster cluster.name) planned = false) :
    PDBSettled cluster planned existing := by
  unfold pdbNeedsUpdate at h
  simp only [Bool.or_eq_false_iff, decide_eq_false_iff_not, not_not] at h
  obtain ⟨⟨⟨hmin, hmax⟩, hsel⟩, hlabels⟩ := h
  refine ⟨carries_eq_true.2 fun key value hmem => ?_, by simpa using hmin, hmax, hsel⟩
  have hvalue : (existing.labels.lookup key).getD "" = value := by
    simpa using List.any_eq_false.1 hlabels (key, value) hmem
  have hne : value ≠ "" := by
    simp only [labelsForCluster, List.mem_cons, Prod.mk.injEq, List.not_mem_nil, or_false] at hmem
    rcases hmem with ⟨-, rfl⟩ | ⟨-, rfl⟩ | ⟨-, rfl⟩ | ⟨-, rfl⟩
    · decide
    · exact hname
    · decide
    · decide
  cases hlook : existing.labels.lookup key with
  | none =>
    rw [hlook] at hvalue
    exact absurd hvalue.symm hne
  | some v =>
    rw [hlook] at hvalue
    rw [← hvalue]
    rfl

/-- What `reconcileOnePDB` leaves: other names are untouched, and the budget is settled unless its name is
another cluster's. -/
structure Reconciled (cluster : DeclaredCluster) (planned : PlannedPDB) (s t : Objects) : Prop where
  others : ∀ name, name ≠ planned.name → t.pdbs.lookup name = s.pdbs.lookup name
  settled : cluster.name ≠ "" →
    (∀ pdb, s.pdbs.lookup planned.name = some pdb → takenByAnother pdb.labels cluster.name = false) →
    ∃ pdb, t.pdbs.lookup planned.name = some pdb ∧ PDBSettled cluster planned pdb

theorem wp_reconcileOnePDB (hdisable : cluster.spec.disablePDB ≠ some true) (hplanned : planned ∈ cluster.plannedPDBs)
    (s : Objects) :
    Plan.wp Objects.apply (PDBRequest cluster) (Reconciled cluster planned s) (reconcileOnePDB cluster planned) s := by
  unfold reconcileOnePDB
  rw [Plan.wp]
  cases hlook : s.pdbs.lookup planned.name with
  | none =>
    refine ⟨⟨hlook, hdisable, planned, hplanned, rfl, rfl⟩, fun name h => lookup_pdb_of_ne h _ _, fun _ _ => ?_⟩
    refine ⟨_, ?_, settled_createdPDB⟩
    rw [lookup_pdb_self, hlook]
    rfl
  | some existing =>
    dsimp only
    split
    · rename_i htaken
      refine ⟨fun _ _ => rfl, fun _ hfree => ?_⟩
      rw [hfree existing hlook] at htaken
      cases htaken
    · rename_i hfree
      split
      · refine ⟨⟨hdisable, existing, hlook, Bool.not_eq_true _ ▸ hfree, planned, hplanned, rfl, rfl⟩,
          fun name h => lookup_pdb_of_ne h _ _, fun _ _ => ⟨_, ?_, settled_updatedPDB existing⟩⟩
        rw [lookup_pdb_self, hlook]
        rfl
      · rename_i hsame
        refine ⟨fun _ _ => rfl, fun hname _ => ⟨existing, hlook, ?_⟩⟩
        exact settled_of_not_needsUpdate hname (Bool.not_eq_true _ ▸ hsame)

/-- The budgets of a list, one after the other: the last one planned for a name is what the name holds. -/
structure ReconciledAll (cluster : DeclaredCluster) (l : List PlannedPDB) (s t : Objects) : Prop where
  others : ∀ name, name ∉ l.map (·.name) → t.pdbs.lookup name = s.pdbs.lookup name
  settled : cluster.name ≠ "" → ∀ name planned, (Keyed.index PlannedPDB.name l).lookup name = some planned →
    (∀ pdb, s.pdbs.lookup name = some pdb → takenByAnother pdb.labels cluster.name = false) →
    ∃ pdb, t.pdbs.lookup name = some pdb ∧ PDBSettled cluster planned pdb

theorem ReconciledAll.snoc {l : List PlannedPDB} {s t u : Objects} (h : ReconciledAll cluster l s t)
    (hu : Reconciled cluster planned t u) : ReconciledAll cluster (l ++ [planned]) s u := by
  refine ⟨fun name hno => ?_, fun hname name p hp hfree => ?_⟩
  · simp only [List.map_append, List.map_cons, List.map_nil, List.mem_append, List.mem_singleton, not_or] at hno
    rw [hu.others name hno.2, h.others name hno.1]
  · rw [Keyed.lookup_index, List.reverse_concat, List.find?_cons] at hp
    by_cases hthis : planned.name = name
    · subst hthis
      simp only [decide_true, Option.some.injEq] at hp
      subst hp
      refine hu.settled hname fun pdb hpdb => ?_
      -- The name holds what it held before the loop, or a budget that the loop has settled.
      cases hbefore : (Keyed.index PlannedPDB.name l).lookup planned.name with
      | none =>
        refine hfree pdb ?_
        rw [← h.others planned.name, hpdb]
        intro hmem
        obtain ⟨q, hq, hqname⟩ := List.mem_map.1 hmem
        rw [AList.lookup_eq_none] at hbefore
        exact hbefore (Keyed.mem_index.2 ⟨q, hq, hqname⟩)
      | some q =>
        obtain ⟨pdb', hpdb', hset⟩ := h.settled hname planned.name q hbefore hfree
        rw [hpdb] at hpdb'
        cases hpdb'
        exact not_takenByAnother (instance_of_carries hset.labels)
    · simp only [hthis, decide_false] at hp
      rw [← Keyed.lookup_index] at hp
      obtain ⟨pdb, hpdb, hset⟩ := h.settled hname name p hp hfree
      exact ⟨pdb, by rw [hu.others name (Ne.symm hthis), hpdb], hset⟩

theorem wp_reconcileAll (hdisable : cluster.spec.disablePDB ≠ some true) {l : List PlannedPDB}
    (hl : ∀ p ∈ l, p ∈ cluster.plannedPDBs) (s : Objects) :
    Plan.wp Objects.apply (PDBRequest cluster) (ReconciledAll cluster l s)
      (Plan.forEach (reconcileOnePDB cluster) l) s := by
  refine Plan.wp_forEach (R := fun l => ReconciledAll cluster l s) ⟨fun _ _ => rfl, (fun _ _ _ h => by cases h)⟩
    fun before planned rest t hsplit hbefore => ?_
  refine Plan.wp_mono (fun u hu => hbefore.snoc hu) (wp_reconcileOnePDB hdisable (hl planned ?_) t)
  rw [hsplit]
  exact List.mem_append_right _ List.mem_cons_self

end

/-! ## Deleting -/

/-- What deleting a list of names leaves. -/
structure Removed (names : List String) (s t : Objects) : Prop where
  others : ∀ name, name ∉ names → t.pdbs.lookup name = s.pdbs.lookup name
  gone : ∀ name ∈ names, t.pdbs.lookup name = none

theorem wp_deletePDBByName {ok : Objects → Request → Prop} {name : String} {s : Objects}
    (hok : s.pdbs.lookup name ≠ none → ok s (.pdb name .delete)) :
    Plan.wp Objects.apply ok (Removed [name] s) (deletePDBByName name) s := by
  unfold deletePDBByName
  rw [Plan.wp]
  cases hlook : s.pdbs.lookup name with
  | none =>
    refine ⟨fun _ _ => rfl, fun other hother => ?_⟩
    rw [List.mem_singleton.1 hother, hlook]
  | some pdb =>
    refine ⟨hok (by rw [hlook]; simp), fun other hother => ?_, fun other hother => ?_⟩
    · exact lookup_pdb_of_ne (fun h => hother (List.mem_singleton.2 h)) _ _
    · rw [List.mem_singleton.1 hother, lookup_pdb_self]
      rfl

theorem Removed.snoc {names : List String} {name : String} {s t u : Objects} (h : Removed names s t)
    (hu : Removed [name] t u) : Removed (names ++ [name]) s u := by
  refine ⟨fun other hother => ?_, fun other hother => ?_⟩
  · rw [List.mem_append, not_or] at hother
    rw [hu.others other hother.2, h.others other hother.1]
  · by_cases hthis : other = name
    · exact hu.gone other (List.mem_singleton.2 hthis)
    · rcases List.mem_append.1 hother with hother | hother
      · rw [hu.others other (fun h => hthis (List.mem_singleton.1 h)), h.gone other hother]
      · exact absurd (List.mem_singleton.1 hother) hthis

theorem mem_staleRackPDBs {cluster : DeclaredCluster} {keep : List String} {objects : Objects} {name : String} :
    name ∈ staleRackPDBs cluster keep objects ↔
      (∃ pdb, objects.pdbs.lookup name = some pdb ∧ carries (labelsForCluster cluster.name) pdb.labels = true) ∧
        name ≠ pdbName cluster.name ∧ name ∉ keep ∧ isRackPDBName name cluster.name = true := by
  unfold staleRackPDBs
  simp only [List.mem_filter, List.mem_map, Bool.and_eq_true, decide_eq_true_eq, and_assoc]
  refine and_congr_left fun _ => ⟨?_, ?_⟩
  · rintro ⟨⟨name, pdb⟩, hmem, hlabels, rfl⟩
    exact ⟨pdb, AList.mem_lookup_iff.2 hmem, hlabels⟩
  · rintro ⟨pdb, hlook, hlabels⟩
    exact ⟨⟨name, pdb⟩, AList.mem_lookup_iff.1 hlook, hlabels, rfl⟩

theorem wp_deleteRackPDBs (keep : List String) (s : Objects) :
    Plan.wp Objects.apply (PDBRequest cluster) (Removed (staleRackPDBs cluster keep s) s)
      (deleteRackPDBs cluster keep) s := by
  unfold deleteRackPDBs
  rw [Plan.wp]
  generalize hstale : staleRackPDBs cluster keep s = l
  refine Plan.wp_forEach (R := fun l => Removed l s) ⟨fun _ _ => rfl, (fun _ h => by cases h)⟩
    fun before name rest t hsplit hbefore => ?_
  refine Plan.wp_mono (fun u hu => hbefore.snoc hu) (wp_deletePDBByName fun hthere => ?_)
  have hmem : name ∈ staleRackPDBs cluster keep s := by
    rw [hstale, hsplit]
    exact List.mem_append_right _ List.mem_cons_self
  obtain ⟨⟨pdb, hlook, hlabels⟩, -, -, hshape⟩ := mem_staleRackPDBs.1 hmem
  refine Or.inr ⟨hshape, pdb, ?_, hlabels⟩
  -- What is still there is what was listed.
  by_cases hdone : name ∈ before
  · exact absurd (hbefore.gone name hdone) hthere
  · rw [hbefore.others name hdone, hlook]

/-! ## A whole call -/

/-- What a call leaves, by what it was asked for. -/
def PDBsAfter (s t : Objects) : Prop :=
  if cluster.spec.disablePDB = some true then
    ∃ u, Removed [pdbName cluster.name] s u ∧ Removed (staleRackPDBs cluster [] u) u t
  else if cluster.perRack then
    ∃ u v, Removed [pdbName cluster.name] s u ∧ ReconciledAll cluster cluster.rackPDBs u v ∧
      Removed (staleRackPDBs cluster (cluster.rackPDBs.map (·.name)) v) v t
  else ∃ u, Removed (staleRackPDBs cluster [] s) s u ∧ Reconciled cluster cluster.clusterPDB u t

theorem wp_deleteClusterPDB (s : Objects) :
    Plan.wp Objects.apply (PDBRequest cluster) (Removed [pdbName cluster.name] s) (deleteClusterPDB cluster) s :=
  wp_deletePDBByName fun _ => Or.inl rfl

theorem wp_reconcilePDB (s : Objects) :
    Plan.wp Objects.apply (PDBRequest cluster) (PDBsAfter cluster s) (reconcilePDB cluster) s := by
  unfold reconcilePDB
  split
  · rename_i hdisable
    rw [deleteAllPDBs, Plan.wp_andThen]
    refine Plan.wp_mono (fun u hu => ?_) (wp_deleteClusterPDB cluster s)
    refine Plan.wp_mono (fun t ht => ?_) (wp_deleteRackPDBs cluster [] u)
    rw [PDBsAfter, if_pos hdisable]
    exact ⟨u, hu, ht⟩
  · rename_i hdisable
    cases hshape : cluster.perRack with
    | true =>
      have hplanned : ∀ p ∈ cluster.rackPDBs, p ∈ cluster.plannedPDBs := by
        intro p hp
        rwa [DeclaredCluster.plannedPDBs, if_pos hshape]
      rw [Bool.not_true, if_neg Bool.false_ne_true, Plan.wp_andThen]
      refine Plan.wp_mono (fun u hu => ?_) (wp_deleteClusterPDB cluster s)
      rw [Plan.wp_andThen]
      refine Plan.wp_mono (fun v hv => ?_) (wp_reconcileAll hdisable hplanned u)
      refine Plan.wp_mono (fun t ht => ?_) (wp_deleteRackPDBs cluster _ v)
      rw [PDBsAfter, if_neg hdisable, if_pos hshape]
      exact ⟨u, v, hu, hv, ht⟩
    | false =>
      have hplanned : cluster.clusterPDB ∈ cluster.plannedPDBs := by
        rw [DeclaredCluster.plannedPDBs, hshape]
        exact List.mem_singleton_self _
      rw [Bool.not_false, if_pos rfl, Plan.wp_andThen]
      refine Plan.wp_mono (fun u hu => ?_) (wp_deleteRackPDBs cluster [] s)
      refine Plan.wp_mono (fun t ht => ?_) (wp_reconcileOnePDB hdisable hplanned u)
      rw [PDBsAfter, if_neg hdisable, hshape]
      exact ⟨u, hu, ht⟩

end Acko
