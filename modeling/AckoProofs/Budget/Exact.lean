/-
Every pod has exactly one disruption budget. Whatever earlier calls of `reconcilePDB` have left, and however
the specs of the budgets have been edited since, a call that ends without an error leaves the planned budgets
and no other one of the cluster; and a pod's labels select exactly one of them.
-/
import AckoProofs.Budget.Reconcile
import AckoProofs.Lib.Run

namespace Acko

/-! ## Names of budgets -/

theorem cutPrefix_append (pre rest : String) : cutPrefix (pre ++ rest) pre = some rest := by
  simp [cutPrefix, String.length]

theorem cutSuffix_append (front suffix : String) : cutSuffix (front ++ suffix) suffix = some front := by
  simp [cutSuffix, String.length]

theorem isRackPDBName_rackPDBName (clusterName : String) {id : Int} (h : -2 ^ 63 ≤ id ∧ id < 2 ^ 63) :
    isRackPDBName (rackPDBName clusterName id) clusterName = true := by
  unfold isRackPDBName rackPDBName
  rw [String.append_assoc, cutPrefix_append]
  dsimp only
  rw [cutSuffix_append]
  dsimp only
  rw [atoi_toString h]
  rfl

variable {clusterName : String} {cluster : DeclaredCluster} {podLabels : StringMap} {rack : DeclaredRack}

theorem rackPDBName_inj {id other : Int} (hid : -2 ^ 63 ≤ id ∧ id < 2 ^ 63)
    (hother : -2 ^ 63 ≤ other ∧ other < 2 ^ 63) :
    rackPDBName clusterName id = rackPDBName clusterName other ↔ id = other := by
  refine ⟨fun h => ?_, fun h => by rw [h]⟩
  have hlist := congrArg String.toList h
  simp only [rackPDBName, String.toList_append, List.append_cancel_left_eq, List.append_cancel_right_eq] at hlist
  have hread := atoi_toString hid
  rw [String.toList_inj.1 hlist, atoi_toString hother] at hread
  exact (Option.some.inj hread).symm

/-! ## What earlier calls leave -/

def PodDisruptionBudget.OfCluster (pdb : PodDisruptionBudget) (clusterName : String) : Prop :=
  pdb.labels.lookup instanceLabel = some clusterName

instance (pdb : PodDisruptionBudget) (clusterName : String) : Decidable (pdb.OfCluster clusterName) :=
  inferInstanceAs (Decidable (_ = _))

/-- Moves between two calls: an earlier call, with any spec, whatever the API answers; an edit of a budget's
spec; and what becomes of the budgets of others. -/
inductive PDBMove
  | reconcile (earlier : DeclaredCluster) (answer : Nat → Plan.Answer ApiError)
  | editSpec (name : String) (minAvailable maxUnavailable : Option IntOrString) (selector : Option LabelSelector)
  | others (name : String) (change : Keyed.Change PodDisruptionBudget)

/-- The change makes no budget of the cluster, and changes none. -/
def leavesCluster (clusterName : String) (existing : Option PodDisruptionBudget) :
    Keyed.Change PodDisruptionBudget → Bool
  | .create pdb => !decide (pdb.OfCluster clusterName)
  | .update pdb => !decide (pdb.OfCluster clusterName) && existing.all fun e => !decide (e.OfCluster clusterName)
  | .delete => true

def pdbStep (clusterName : String) (objects : Objects) : PDBMove → Option Objects
  | .reconcile earlier answer =>
    if earlier.name = clusterName then
      some (Plan.exec Objects.apply answer (reconcilePDB earlier) ⟨objects, 0, []⟩).2.state
    else none
  | .editSpec name minAvailable maxUnavailable selector =>
    (objects.pdbs.lookup name).map fun pdb =>
      objects.apply (.pdb name (.update { pdb with minAvailable, maxUnavailable, selector }))
  | .others name change =>
    if leavesCluster clusterName (objects.pdbs.lookup name) change then some (objects.apply (.pdb name change))
    else none

/-- Every budget of the cluster has all of its labels and a name that the operator gives to one. -/
def Managed (clusterName : String) (objects : Objects) : Prop :=
  ∀ name pdb, objects.pdbs.lookup name = some pdb → pdb.OfCluster clusterName →
    carries (labelsForCluster clusterName) pdb.labels = true ∧
      (name = pdbName clusterName ∨ isRackPDBName name clusterName = true)

theorem name_of_planned {planned : PlannedPDB} (h : planned ∈ cluster.plannedPDBs) :
    planned.name = pdbName cluster.name ∨ isRackPDBName planned.name cluster.name = true := by
  unfold DeclaredCluster.plannedPDBs at h
  split at h
  · obtain ⟨⟨rack, i⟩, -, rfl⟩ := List.mem_map.1 h
    exact Or.inr (isRackPDBName_rackPDBName cluster.name rack.idRange)
  · rw [List.mem_singleton.1 h]
    exact Or.inl rfl

theorem Managed.write {clusterName name : String} {change : Keyed.Change PodDisruptionBudget} {objects : Objects}
    (h : Managed clusterName objects)
    (hname : ∀ pdb, change.on (objects.pdbs.lookup name) = some pdb → pdb.OfCluster clusterName →
      carries (labelsForCluster clusterName) pdb.labels = true ∧
        (name = pdbName clusterName ∨ isRackPDBName name clusterName = true)) :
    Managed clusterName (objects.apply (.pdb name change)) := by
  intro other pdb hlook hof
  by_cases hthis : other = name
  · subst hthis
    rw [lookup_pdb_self] at hlook
    exact hname pdb hlook hof
  · rw [lookup_pdb_of_ne hthis] at hlook
    exact h other pdb hlook hof

theorem Managed.request {objects : Objects} {request : Request} (hok : PDBRequest cluster objects request)
    (h : Managed cluster.name objects) : Managed cluster.name (objects.apply request) := by
  match request, hok with
  | .pdb name (.create pdb), ⟨hlook, _, planned, hplanned, hname, hpdb⟩ =>
    refine h.write fun created hcreated _ => ?_
    rw [hlook] at hcreated
    cases hcreated
    rw [hpdb, hname]
    exact ⟨settled_createdPDB.labels, name_of_planned hplanned⟩
  | .pdb name (.update pdb), ⟨_, existing, hlook, _, planned, hplanned, hname, hpdb⟩ =>
    refine h.write fun updated hupdated _ => ?_
    rw [hlook] at hupdated
    cases hupdated
    rw [hpdb, hname]
    exact ⟨(settled_updatedPDB existing).labels, name_of_planned hplanned⟩
  | .pdb name .delete, _ => exact h.write fun _ hgone => by cases hgone

/-! ## Exactly the planned budgets -/

section After

variable {cluster : DeclaredCluster} {s t : Objects}

theorem Managed.stale {keep : List String} (h : Managed cluster.name s) {name : String} {pdb : PodDisruptionBudget}
    (hlook : s.pdbs.lookup name = some pdb) (hof : pdb.OfCluster cluster.name) (hname : name ≠ pdbName cluster.name)
    (hkeep : name ∉ keep) : name ∈ staleRackPDBs cluster keep s := by
  obtain ⟨hlabels, hshape⟩ := h name pdb hlook hof
  exact mem_staleRackPDBs.2 ⟨⟨pdb, hlook, hlabels⟩, hname, hkeep, hshape.resolve_left hname⟩

theorem Removed.lookup {names : List String} (h : Removed names s t) {name : String} {pdb : PodDisruptionBudget}
    (hlook : t.pdbs.lookup name = some pdb) : s.pdbs.lookup name = some pdb ∧ name ∉ names := by
  have hno : name ∉ names := by
    intro hmem
    rw [h.gone name hmem] at hlook
    cases hlook
  rw [← h.others name hno]
  exact ⟨hlook, hno⟩

theorem Managed.removed {names : List String} (hm : Managed cluster.name s) (h : Removed names s t) :
    Managed cluster.name t :=
  fun name pdb hlook => hm name pdb (h.lookup hlook).1

theorem no_pdbs_after (hdisable : cluster.spec.disablePDB = some true) (hm : Managed cluster.name s)
    (h : PDBsAfter cluster s t) : ∀ name pdb, t.pdbs.lookup name = some pdb → ¬ pdb.OfCluster cluster.name := by
  rw [PDBsAfter, if_pos hdisable] at h
  obtain ⟨u, hu, ht⟩ := h
  intro name pdb hlook hof
  obtain ⟨hlook, hstale⟩ := ht.lookup hlook
  have hne : name ≠ pdbName cluster.name := fun h => (hu.lookup hlook).2 (List.mem_singleton.2 h)
  exact hstale ((hm.removed hu).stale hlook hof hne (List.not_mem_nil))

/-- The budgets of the cluster after a call are the planned ones, the last one planned for each name. -/
structure ExactlyPlanned (cluster : DeclaredCluster) (t : Objects) : Prop where
  only : ∀ name pdb, t.pdbs.lookup name = some pdb → pdb.OfCluster cluster.name →
    ∃ planned, (Keyed.index PlannedPDB.name cluster.plannedPDBs).lookup name = some planned
  settled : ∀ name planned, (Keyed.index PlannedPDB.name cluster.plannedPDBs).lookup name = some planned →
    ∃ pdb, t.pdbs.lookup name = some pdb ∧ PDBSettled cluster planned pdb

/-- No name that is planned is another cluster's. -/
def NamesFree (cluster : DeclaredCluster) (s : Objects) : Prop :=
  ∀ planned ∈ cluster.plannedPDBs, ∀ pdb, s.pdbs.lookup planned.name = some pdb →
    takenByAnother pdb.labels cluster.name = false

theorem exactlyPlanned_clusterWide (hname : cluster.name ≠ "") {u : Objects} (hshape : cluster.perRack = false)
    (hm : Managed cluster.name s)
    (hfree : NamesFree cluster s) (hu : Removed (staleRackPDBs cluster [] s) s u)
    (ht : Reconciled cluster cluster.clusterPDB u t) : ExactlyPlanned cluster t := by
  have hplanned : cluster.plannedPDBs = [cluster.clusterPDB] := by
    rw [DeclaredCluster.plannedPDBs, hshape]
    rfl
  have hindex : ∀ name, (Keyed.index PlannedPDB.name cluster.plannedPDBs).lookup name =
      if pdbName cluster.name = name then some cluster.clusterPDB else none := by
    intro name
    rw [hplanned, Keyed.lookup_index]
    show List.find? _ [cluster.clusterPDB] = _
    by_cases h : pdbName cluster.name = name
    · rw [if_pos h]
      exact List.find?_cons_of_pos (decide_eq_true h)
    · rw [if_neg h, List.find?_cons_of_neg (by rw [decide_eq_true_eq]; exact h), List.find?_nil]
  refine ⟨fun name pdb hlook hof => ?_, fun name planned hindexed => ?_⟩
  · refine ⟨cluster.clusterPDB, ?_⟩
    rw [hindex, if_pos]
    by_contra hne
    have hne : name ≠ pdbName cluster.name := fun h => hne h.symm
    rw [ht.others name hne] at hlook
    obtain ⟨hlook, hstale⟩ := hu.lookup hlook
    exact hstale (hm.stale hlook hof hne List.not_mem_nil)
  · rw [hindex] at hindexed
    split at hindexed
    · rename_i heq
      subst heq
      cases hindexed
      refine ht.settled hname fun pdb hlook => hfree cluster.clusterPDB ?_ pdb (hu.lookup hlook).1
      rw [hplanned]
      exact List.mem_singleton_self _
    · cases hindexed

theorem exactlyPlanned_perRack (hname : cluster.name ≠ "") {u v : Objects} (hshape : cluster.perRack = true)
    (hm : Managed cluster.name s)
    (hfree : NamesFree cluster s) (hu : Removed [pdbName cluster.name] s u)
    (hv : ReconciledAll cluster cluster.rackPDBs u v)
    (ht : Removed (staleRackPDBs cluster (cluster.rackPDBs.map (·.name)) v) v t) : ExactlyPlanned cluster t := by
  have hplanned : cluster.plannedPDBs = cluster.rackPDBs := by
    rw [DeclaredCluster.plannedPDBs, if_pos hshape]
  have hsettled : ∀ name planned, (Keyed.index PlannedPDB.name cluster.rackPDBs).lookup name = some planned →
      ∃ pdb, v.pdbs.lookup name = some pdb ∧ PDBSettled cluster planned pdb := by
    intro name planned hindexed
    obtain ⟨hmem, rfl⟩ := Keyed.mem_of_lookup_index hindexed
    refine hv.settled hname planned.name planned hindexed fun pdb hlook => ?_
    exact hfree planned (hplanned ▸ hmem) pdb (hu.lookup hlook).1
  have hkept : ∀ name ∈ cluster.rackPDBs.map (·.name),
      name ∉ staleRackPDBs cluster (cluster.rackPDBs.map (·.name)) v :=
    fun name hkeep hstale => (mem_staleRackPDBs.1 hstale).2.2.1 hkeep
  rw [← hplanned] at hsettled
  refine ⟨fun name pdb hlook hof => ?_, fun name planned hindexed => ?_⟩
  · obtain ⟨hlook, hstale⟩ := ht.lookup hlook
    rw [← Option.isSome_iff_exists, AList.lookup_isSome, Keyed.mem_index, hplanned]
    by_contra hno
    have hno : name ∉ cluster.rackPDBs.map (·.name) := fun h => hno (List.mem_map.1 h)
    -- A name that is not planned holds what it held before the loop, so it is listed.
    have hbefore := hlook
    rw [hv.others name hno] at hbefore
    have hne : name ≠ pdbName cluster.name := fun h => (hu.lookup hbefore).2 (List.mem_singleton.2 h)
    obtain ⟨hlabels, hgiven⟩ := (hm.removed hu) name pdb hbefore hof
    exact hstale (mem_staleRackPDBs.2 ⟨⟨pdb, hlook, hlabels⟩, hne, hno, hgiven.resolve_left hne⟩)
  · obtain ⟨pdb, hlook, hset⟩ := hsettled name planned hindexed
    refine ⟨pdb, ?_, hset⟩
    rw [ht.others name (hkept name ?_), hlook]
    obtain ⟨hmem, rfl⟩ := Keyed.mem_of_lookup_index hindexed
    exact List.mem_map_of_mem (hplanned ▸ hmem)

theorem exactlyPlanned_after (hname : cluster.name ≠ "") (hdisable : cluster.spec.disablePDB ≠ some true)
    (hm : Managed cluster.name s)
    (hfree : NamesFree cluster s) (h : PDBsAfter cluster s t) : ExactlyPlanned cluster t := by
  rw [PDBsAfter, if_neg hdisable] at h
  split at h
  · rename_i hshape
    obtain ⟨u, v, hu, hv, ht⟩ := h
    exact exactlyPlanned_perRack hname hshape hm hfree hu hv ht
  · rename_i hshape
    obtain ⟨u, hu, ht⟩ := h
    exact exactlyPlanned_clusterWide hname (Bool.not_eq_true _ ▸ hshape) hm hfree hu ht

end After

/-! ## Pods -/

/-- The last rack of an ID, with its place among the racks: the one whose budget the ID has. -/
def DeclaredCluster.budgetRack (cluster : DeclaredCluster) (rackID : Int) : Option (DeclaredRack × Nat) :=
  cluster.getRacks.zipIdx.reverse.find? fun (rack, _) => rack.id = rackID

/-- The policy of the budget that the pods of a rack are to have. -/
def DeclaredCluster.resolvedPolicy (cluster : DeclaredCluster) (rackID : Int) : Option IntOrString :=
  if cluster.perRack then
    (cluster.budgetRack rackID).map fun (rack, i) =>
      effectivePDBPolicy cluster rack (cluster.getRackSize cluster.getRacks i)
  else some (clusterPDBPolicy cluster cluster.getRacks)

theorem lookup_index_rackPDBs (cluster : DeclaredCluster) {id : Int} (hid : -2 ^ 63 ≤ id ∧ id < 2 ^ 63) :
    (Keyed.index PlannedPDB.name cluster.rackPDBs).lookup (rackPDBName cluster.name id) =
      (cluster.budgetRack id).map fun (rack, i) => cluster.rackPDB rack i := by
  rw [Keyed.lookup_index, DeclaredCluster.rackPDBs, ← List.map_reverse, List.find?_map, DeclaredCluster.budgetRack]
  congr 2
  funext ⟨rack, i⟩
  exact decide_eq_decide.2 (rackPDBName_inj rack.idRange hid)

theorem selects_of_carries {planned : PlannedPDB} {pdb : PodDisruptionBudget} (h : PDBSettled cluster planned pdb)
    (hpod : carries planned.selector podLabels = true) : pdb.Selects podLabels := by
  refine ⟨_, h.selector, fun key value hlook => ?_, fun _ hreq => absurd hreq List.not_mem_nil⟩
  rw [lookup_toMap] at hlook
  exact carries_eq_true.1 hpod key value (DocTree.mem_of_lookup hlook)

theorem rackLabel_of_selects {i : Nat} {pdb : PodDisruptionBudget}
    (h : PDBSettled cluster (cluster.rackPDB rack i) pdb) (hsel : pdb.Selects podLabels) :
    podLabels.lookup rackLabel = some (toString rack.id) := by
  obtain ⟨selector, hselector, hlabels, -⟩ := hsel
  rw [h.selector] at hselector
  cases hselector
  refine hlabels rackLabel _ ?_
  rw [lookup_toMap]
  rfl

theorem carries_selector_of_rack {id : Int} (h : carries (labelsForRack clusterName id) podLabels = true) :
    carries (selectorLabelsForCluster clusterName) podLabels = true := by
  refine carries_eq_true.2 fun key value hmem => carries_eq_true.1 h key value ?_
  simp only [selectorLabelsForCluster, List.mem_cons, List.not_mem_nil, or_false] at hmem
  rcases hmem with hmem | hmem
  · rw [hmem]
    simp [labelsForRack, labelsForCluster]
  · rw [hmem]
    simp [labelsForRack, labelsForCluster]

/-- A pod's budget: the only one of the cluster that counts it, with the policy of its rack. -/
structure HasOneBudget (cluster : DeclaredCluster) (t : Objects) (rackID : Int) (podLabels : StringMap) (name : String)
    (pdb : PodDisruptionBudget) : Prop where
  there : t.pdbs.lookup name = some pdb
  ofCluster : pdb.OfCluster cluster.name
  selects : pdb.Selects podLabels
  minAvailable : pdb.minAvailable = none
  maxUnavailable : ∃ mu, pdb.maxUnavailable = some mu ∧ cluster.resolvedPolicy rackID = some mu
  only : ∀ other otherPDB, t.pdbs.lookup other = some otherPDB → otherPDB.OfCluster cluster.name →
    otherPDB.Selects podLabels → other = name

theorem hasOneBudget_clusterWide {t : Objects} (h : ExactlyPlanned cluster t) (hshape : cluster.perRack = false)
    (hpod : carries (labelsForRack cluster.name rack.id) podLabels = true) :
    ∃ name pdb, HasOneBudget cluster t rack.id podLabels name pdb := by
  have hplanned : cluster.plannedPDBs = [cluster.clusterPDB] := by
    rw [DeclaredCluster.plannedPDBs, hshape]
    rfl
  have hmem : cluster.clusterPDB ∈ cluster.plannedPDBs := by
    rw [hplanned]
    exact List.mem_singleton_self _
  obtain ⟨planned, hindex⟩ := Keyed.exists_lookup_index PlannedPDB.name hmem
  obtain ⟨pdb, hlook, hset⟩ := h.settled _ planned hindex
  have hthis : planned = cluster.clusterPDB := by
    have := (Keyed.mem_of_lookup_index hindex).1
    rw [hplanned] at this
    exact List.mem_singleton.1 this
  rw [hthis] at hset
  refine ⟨_, pdb, hlook, instance_of_carries hset.labels, selects_of_carries hset (carries_selector_of_rack hpod),
    hset.minAvailable, ⟨_, hset.maxUnavailable, ?_⟩, fun other otherPDB hother hof _ => ?_⟩
  · rw [DeclaredCluster.resolvedPolicy, hshape]
    rfl
  · obtain ⟨otherPlanned, hotherIndex⟩ := h.only other otherPDB hother hof
    obtain ⟨hmem, rfl⟩ := Keyed.mem_of_lookup_index hotherIndex
    rw [hplanned] at hmem
    rw [List.mem_singleton.1 hmem]

theorem hasOneBudget_perRack {t : Objects} (h : ExactlyPlanned cluster t) (hshape : cluster.perRack = true)
    (hrack : rack ∈ cluster.getRacks) (hpod : carries (labelsForRack cluster.name rack.id) podLabels = true) :
    ∃ name pdb, HasOneBudget cluster t rack.id podLabels name pdb := by
  have hplanned : cluster.plannedPDBs = cluster.rackPDBs := by
    rw [DeclaredCluster.plannedPDBs, if_pos hshape]
  obtain ⟨i, hi⟩ := List.mem_iff_getElem?.1 hrack
  have hmem : cluster.rackPDB rack i ∈ cluster.plannedPDBs := by
    rw [hplanned]
    exact List.mem_map.2 ⟨(rack, i), List.mem_zipIdx_iff_getElem?.2 hi, rfl⟩
  obtain ⟨planned, hindex⟩ := Keyed.exists_lookup_index PlannedPDB.name hmem
  obtain ⟨pdb, hlook, hset⟩ := h.settled _ planned hindex
  have hbudget : (cluster.budgetRack rack.id).map (fun (r, j) => cluster.rackPDB r j) = some planned := by
    rw [← lookup_index_rackPDBs cluster rack.idRange, ← hplanned]
    exact hindex
  obtain ⟨⟨owner, j⟩, howner, rfl⟩ := Option.map_eq_some_iff.1 hbudget
  have hid : owner.id = rack.id := by simpa using List.find?_some howner
  have hselector : carries (cluster.rackPDB owner j).selector podLabels = true := by
    show carries (labelsForRack cluster.name owner.id) podLabels = true
    rw [hid]
    exact hpod
  refine ⟨_, pdb, hlook, instance_of_carries hset.labels, selects_of_carries hset hselector, hset.minAvailable,
    ⟨_, hset.maxUnavailable, ?_⟩, fun other otherPDB hother hof hsel => ?_⟩
  · rw [DeclaredCluster.resolvedPolicy, if_pos hshape, howner]
    rfl
  · obtain ⟨otherPlanned, hotherIndex⟩ := h.only other otherPDB hother hof
    obtain ⟨otherPDB', hlook', hotherSet⟩ := h.settled other otherPlanned hotherIndex
    rw [hother] at hlook'
    cases hlook'
    obtain ⟨hmem, rfl⟩ := Keyed.mem_of_lookup_index hotherIndex
    rw [hplanned] at hmem
    obtain ⟨⟨otherRack, k⟩, -, rfl⟩ := List.mem_map.1 hmem
    -- The rack label of the pod names the rack of every budget that counts it.
    have hlabel := rackLabel_of_selects hotherSet hsel
    rw [rackLabel_of_selects hset (selects_of_carries hset hselector)] at hlabel
    have hread := atoi_toString otherRack.idRange
    rw [← Option.some.inj hlabel, atoi_toString owner.idRange, hid] at hread
    show rackPDBName cluster.name otherRack.id = rackPDBName cluster.name rack.id
    rw [Option.some.inj hread]

/-! ## The whole of it -/

theorem managed_of_run : ∀ {moves : List PDBMove} {s : Objects},
    Lts.run (pdbStep clusterName) Objects.empty moves = some s → Managed clusterName s := by
  intro moves s hrun
  refine Lts.run_invariant' (I := Managed clusterName) ?_ (fun _ _ h => by cases h) hrun
  intro s move t hm hstep
  cases move with
  | reconcile earlier answer =>
    simp only [pdbStep] at hstep
    split at hstep
    · rename_i hearlier
      subst hearlier
      cases hstep
      exact Plan.exec_keeps (fun _ _ hok hm => hm.request hok) (wp_reconcilePDB _ s) hm rfl
    · cases hstep
  | editSpec name minAvailable maxUnavailable selector =>
    obtain ⟨pdb, hlook, rfl⟩ := Option.map_eq_some_iff.1 hstep
    refine hm.write fun edited hedited hof => ?_
    rw [hlook] at hedited
    cases hedited
    exact hm name pdb hlook hof
  | others name change =>
    simp only [pdbStep] at hstep
    split at hstep
    · rename_i hleaves
      cases hstep
      refine hm.write fun pdb hpdb hof => ?_
      cases hlook : s.pdbs.lookup name with
      | none =>
        rw [hlook] at hpdb hleaves
        cases change with
        | create new =>
          cases hpdb
          simp [leavesCluster, hof] at hleaves
        | update new => cases hpdb
        | delete => cases hpdb
      | some existing =>
        rw [hlook] at hpdb hleaves
        cases change with
        | create new =>
          cases hpdb
          exact hm name pdb hlook hof
        | update new =>
          cases hpdb
          simp [leavesCluster, hof] at hleaves
        | delete => cases hpdb
    · cases hstep

/-- After a call without an error, every pod of every rack is counted by exactly one budget of the cluster,
with the policy resolved for its rack; a cluster that has switched budgets off has none. -/
theorem exactly_one_budget {cluster : DeclaredCluster} (hname : cluster.name ≠ "") {moves : List PDBMove}
    {s : Objects} (hprior : Lts.run (pdbStep cluster.name) Objects.empty moves = some s)
    {answer : Nat → Plan.Answer ApiError} {t : Plan.Session Objects Request}
    (hcall : Plan.exec Objects.apply answer (reconcilePDB cluster) ⟨s, 0, []⟩ = (none, t)) :
    (cluster.spec.disablePDB = some true →
      ∀ name pdb, t.state.pdbs.lookup name = some pdb → ¬ pdb.OfCluster cluster.name) ∧
    (cluster.spec.disablePDB ≠ some true → NamesFree cluster s → ∀ rack ∈ cluster.getRacks, ∀ podLabels : StringMap,
      carries (labelsForRack cluster.name rack.id) podLabels = true →
        ∃ name pdb, HasOneBudget cluster t.state rack.id podLabels name pdb) := by
  have hm := managed_of_run hprior
  have hafter := (Plan.exec_sound (wp_reconcilePDB _ s) hcall).1 rfl
  refine ⟨fun hdisable => no_pdbs_after hdisable hm hafter, fun hdisable hfree rack hrack podLabels hpod => ?_⟩
  have hexact := exactlyPlanned_after hname hdisable hm hfree hafter
  cases hshape : cluster.perRack with
  | true => exact hasOneBudget_perRack hexact hshape hrack hpod
  | false => exact hasOneBudget_clusterWide hexact hshape hpod

def zonesSecond : DeclaredRack := { DeclaredRack.plain 2 (by decide) none with maxUnavailable := some (.str "50%") }

/-- A cluster-wide budget is edited, and then the second of two racks gets a budget of its own. -/
def zones (second : DeclaredRack) : DeclaredCluster :=
  .plain "db" "aerospike:ce-8.1.1.1" 4 [.plain 1 (by decide) none, second]
def zonesMoves : List PDBMove :=
  [.reconcile (zones (.plain 2 (by decide) none)) fun _ => .done, .editSpec "db-pdb" (some (.int 2)) none none]
def zonesPrior : Objects := (Lts.run (pdbStep "db") Objects.empty zonesMoves).getD .empty

theorem exactly_one_budget_zones : ∃ t,
    Plan.exec Objects.apply (fun _ => .done) (reconcilePDB (zones zonesSecond)) ⟨zonesPrior, 0, []⟩ = (none, t) ∧
      zonesPrior.pdbs.keys = ["db-pdb"] ∧
      ∃ name pdb, HasOneBudget (zones zonesSecond) t.state 2 (labelsForRack "db" 2).toMap name pdb := by
  have hcall : Plan.exec Objects.apply (fun _ => .done) (reconcilePDB (zones zonesSecond)) ⟨zonesPrior, 0, []⟩ =
    (none, _) := rfl
  refine ⟨_, hcall, rfl, ?_⟩
  refine (@exactly_one_budget (zones zonesSecond) (by decide) zonesMoves zonesPrior rfl _ _ hcall).2 (by decide)
    ?_ zonesSecond (List.mem_cons_of_mem _ List.mem_cons_self) _ (by decide)
  intro planned hplanned pdb hlook
  have hname : planned.name ∈ ["db-1-pdb", "db-2-pdb"] := List.mem_map_of_mem hplanned
  have hkey : planned.name ∈ zonesPrior.pdbs := AList.lookup_isSome.1 (by rw [hlook]; rfl)
  have hkey : planned.name ∈ ["db-pdb"] := hkey
  rw [List.mem_singleton.1 hkey] at hname
  exact absurd hname (by decide)

end Acko
