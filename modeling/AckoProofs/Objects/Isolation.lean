/-
Two clusters of one namespace. The names of their budgets and Services are made from the names of the
clusters, and can coincide: a budget is updated only where it is not labelled for another cluster, and
deleted, under the cluster's own name, without that check; Services are updated and deleted by their names.
Where no derived name of one cluster is a name of the other, reconciling one leaves what was created for the
other as it is.
-/
import AckoProofs.Budget.Exact
import AckoProofs.Objects.Services

namespace Acko

/-! ## Names -/

def DerivedServiceName (clusterName name : String) : Prop :=
  name = metricsServiceName clusterName ∨ name = seedsFinderServiceName clusterName ∨
    ∃ (rackID : Int) (ordinal : Nat), name = podServiceName (podName (statefulSetName clusterName rackID) ordinal)

def ServiceName (clusterName name : String) : Prop :=
  name = headlessServiceName clusterName ∨ DerivedServiceName clusterName name

def BudgetName (clusterName name : String) : Prop :=
  name = pdbName clusterName ∨ ∃ rackID : Int, name = rackPDBName clusterName rackID

/-- `a` is no name that the operator derives from `b` where that would make it the name of one of `b`'s
objects, and `b` is none of `a`'s Services. -/
structure Separate (a b : String) : Prop where
  rack : ∀ rackID : Int, a ≠ statefulSetName b rackID
  service : ¬ DerivedServiceName b a
  service' : ¬ DerivedServiceName a b

section Names

variable {a b : String}

theorem dash_not_mem_toDigits (n : Nat) : '-' ∉ Nat.toDigits 10 n := fun h => (toDigits_ne_sign h).2 rfl

theorem getLast_of_isDNSLabel (h : isDNSLabel a = true) : a.toList.getLast? ≠ some '-' := by
  intro hlast
  simp only [isDNSLabel, hlast, Bool.and_eq_true, Option.any_some] at h
  exact absurd h.1.2 (by decide)

theorem toList_statefulSetName (clusterName : String) (rackID : Int) : ∃ n : Nat,
    (statefulSetName clusterName rackID).toList = clusterName.toList ++ '-' :: Nat.toDigits 10 n ∨
      (statefulSetName clusterName rackID).toList = (clusterName.toList ++ ['-']) ++ '-' :: Nat.toDigits 10 n := by
  cases rackID with
  | ofNat n =>
    refine ⟨n, Or.inl ?_⟩
    have hprint : toString (Int.ofNat n) = String.ofList (Nat.toDigits 10 n) := rfl
    rw [statefulSetName, hprint]
    simp
  | negSucc n =>
    refine ⟨n + 1, Or.inr ?_⟩
    have hprint : toString (Int.negSucc n) = "-" ++ String.ofList (Nat.toDigits 10 (n + 1)) := rfl
    rw [statefulSetName, hprint]
    simp

/-- A label does not end in the dash that a negative number would add. -/
theorem statefulSetName_inj (ha : isDNSLabel a = true) (hb : isDNSLabel b = true) {i j : Int}
    (h : statefulSetName a i = statefulSetName b j) : a = b := by
  obtain ⟨n, hn⟩ := toList_statefulSetName a i
  obtain ⟨m, hm⟩ := toList_statefulSetName b j
  rw [h] at hn
  have hends : ∀ {c d : String}, isDNSLabel c = true → c.toList ≠ d.toList ++ ['-'] := by
    intro c d hc heq
    exact getLast_of_isDNSLabel hc (by rw [heq, List.getLast?_concat])
  rcases hn with hn | hn <;> rcases hm with hm | hm <;> rw [hn] at hm <;>
    have heq := (Cut.append_cons_inj_last (dash_not_mem_toDigits n) (dash_not_mem_toDigits m) hm).1
  · exact String.toList_inj.1 heq
  · exact absurd heq (hends ha)
  · exact absurd heq.symm (hends hb)
  · exact String.toList_inj.1 (List.append_cancel_right heq)

theorem podServiceName_inj (ha : isDNSLabel a = true) (hb : isDNSLabel b = true) {i j : Int} {n m : Nat}
    (h : podServiceName (podName (statefulSetName a i) n) = podServiceName (podName (statefulSetName b j) m)) :
    a = b := by
  have hlist := congrArg String.toList h
  have hprint : ∀ k : Nat, (toString k).toList = Nat.toDigits 10 k := fun k => Nat.toList_repr
  have hdash : ∀ l : List Char, "-".toList ++ l = '-' :: l := fun _ => rfl
  rw [podServiceName, podServiceName, String.toList_append, String.toList_append, List.append_cancel_right_eq] at hlist
  simp only [podName, String.toList_append, List.append_assoc, hprint, hdash] at hlist
  have hsts := (Cut.append_cons_inj_last (dash_not_mem_toDigits n) (dash_not_mem_toDigits m) hlist).1
  exact statefulSetName_inj ha hb (String.toList_inj.1 hsts)

/-- The derived names of the two clusters are told apart by their last letters, or by the names in front. -/
theorem not_derived_both (ha : isDNSLabel a = true) (hb : isDNSLabel b = true) (hne : a ≠ b) {name : String}
    (hname : DerivedServiceName a name) : ¬ DerivedServiceName b name := by
  have hlast : ∀ {c : String}, DerivedServiceName c name →
      (name = metricsServiceName c ∧ name.toList.getLast? = some 's') ∨
        (name = seedsFinderServiceName c ∧ name.toList.getLast? = some 'b') ∨
          ((∃ (i : Int) (n : Nat), name = podServiceName (podName (statefulSetName c i) n)) ∧
            name.toList.getLast? = some 'd') := by
    rintro c (rfl | rfl | ⟨i, n, rfl⟩)
    · exact Or.inl ⟨rfl, by simp [metricsServiceName]⟩
    · exact Or.inr (Or.inl ⟨rfl, by simp [seedsFinderServiceName]⟩)
    · exact Or.inr (Or.inr ⟨⟨i, n, rfl⟩, by simp [podServiceName]⟩)
  intro hname'
  rcases hlast hname with ⟨h, hl⟩ | ⟨h, hl⟩ | ⟨⟨i, n, h⟩, hl⟩ <;>
    rcases hlast hname' with ⟨h', hl'⟩ | ⟨h', hl'⟩ | ⟨⟨j, m, h'⟩, hl'⟩ <;> rw [hl] at hl'
  case inl.inl =>
    rw [h, metricsServiceName, metricsServiceName, ← String.toList_inj] at h'
    simp only [String.toList_append, List.append_cancel_right_eq] at h'
    exact hne (String.toList_inj.1 h')
  case inr.inl.inr.inl =>
    rw [h, seedsFinderServiceName, seedsFinderServiceName, ← String.toList_inj] at h'
    simp only [String.toList_append, List.append_cancel_right_eq] at h'
    exact hne (String.toList_inj.1 h')
  case inr.inr.inr.inr =>
    rw [h] at h'
    exact hne (podServiceName_inj ha hb h')
  all_goals exact absurd hl' (by decide)

theorem Separate.service_disjoint (hsep : Separate a b) (ha : isDNSLabel a = true) (hb : isDNSLabel b = true)
    (hne : a ≠ b) {name : String} (hname : ServiceName a name) : ¬ ServiceName b name := by
  rcases hname with rfl | hname
  · rintro (h | h)
    · exact hne h
    · exact hsep.service h
  · rintro (rfl | h)
    · exact hsep.service' hname
    · exact not_derived_both ha hb hne hname h

theorem Separate.budget (hsep : Separate a b) (hne : a ≠ b) : ¬ BudgetName b (pdbName a) := by
  rintro (h | ⟨rackID, h⟩)
  · rw [pdbName, pdbName, ← String.toList_inj] at h
    simp only [String.toList_append, List.append_cancel_right_eq] at h
    exact hne (String.toList_inj.1 h)
  · refine hsep.rack rackID (String.toList_inj.1 ?_)
    have hlist := congrArg String.toList h
    simp only [pdbName, rackPDBName, String.toList_append, List.append_cancel_right_eq] at hlist
    rw [hlist]
    simp [statefulSetName]

end Names

/-! ## What a reconcile sends -/

/-- A part of the reconcile that writes budgets or Services. The pods are those of the cluster's StatefulSets,
by rack and ordinal. -/
inductive ObjectCall
  | headlessService
  | podServices (pods : List (Int × Nat))
  | seedsFinderService
  | metricsService
  | pdb

def ObjectCall.plan (cluster : DeclaredCluster) : ObjectCall → ObjectPlan
  | .headlessService => reconcileHeadlessService cluster
  | .podServices pods =>
    reconcilePodServices cluster
      (pods.map fun (rackID, ordinal) => podName (statefulSetName cluster.name rackID) ordinal)
  | .seedsFinderService => reconcileSeedsFinderService cluster
  | .metricsService => reconcileMetricsService cluster
  | .pdb => reconcilePDB cluster

/-- The requests about Services: a Service of one of the cluster's names is created for it, or is labelled for
it in an update; one is deleted under such a name or for its labels. -/
def ObjectRequest (cluster : DeclaredCluster) (objects : Objects) : Request → Prop
  | .pdb name change => PDBRequest cluster objects (.pdb name change)
  | .service name (.create svc) => ServiceName cluster.name name ∧ svc.owner = some cluster.uid ∧
      svc.labels.lookup instanceLabel = some cluster.name
  | .service name (.update svc) => ServiceName cluster.name name ∧ svc.labels.lookup instanceLabel = some cluster.name ∧
      ∃ existing, objects.services.lookup name = some existing ∧ svc.owner = existing.owner
  | .service name .delete => ServiceName cluster.name name ∨ ∀ existing, objects.services.lookup name = some existing →
      carries (selectorLabelsForCluster cluster.name) existing.labels = true

variable {cluster : DeclaredCluster}

theorem objectRequest_of_pdb (objects : Objects) :
    ∀ request, PDBRequest cluster objects request → ObjectRequest cluster objects request
  | .pdb _ _, h => h

theorem lookup_mergeAdditionalLabels {base additional : StringMap} {key value : String}
    (h : base.lookup key = some value) : (mergeAdditionalLabels base additional).lookup key = some value := by
  rw [mergeAdditionalLabels, Finmap.lookup_union_left (Finmap.mem_of_lookup_eq_some h)]
  exact h

theorem lookup_instance_labelsForCluster (clusterName : String) (more : Labels) :
    (labelsForCluster clusterName ++ more).toMap.lookup instanceLabel = some clusterName := by
  rw [lookup_toMap]
  rfl

section Calls

variable {cluster : DeclaredCluster} {s : Objects}

theorem wp_reconcileService_objects {kind name : String} {created : Service} {onCreate : ApiError → Option ApiError}
    {needsUpdate : Service → Bool} {updated : Service → Service} (hname : ServiceName cluster.name name)
    (howner : created.owner = some cluster.uid) (hlabel : created.labels.lookup instanceLabel = some cluster.name)
    (hupdated : ∀ existing, (updated existing).owner = existing.owner ∧ (updated existing).labels = created.labels) :
    Plan.wp Objects.apply (ObjectRequest cluster) (fun _ => True)
      (reconcileService kind name created onCreate needsUpdate updated) s := by
  refine Plan.wp_mono (fun _ _ => trivial) (wp_reconcileService (P := fun _ => True) (fun _ => ⟨hname, howner, hlabel⟩)
    (fun existing hlook _ => ?_) trivial (fun _ => trivial) (fun _ _ => trivial))
  obtain ⟨hkeep, hlabels⟩ := hupdated existing
  exact ⟨hname, by rw [hlabels, hlabel], existing, hlook, hkeep⟩

theorem wp_reconcileHeadlessService :
    Plan.wp Objects.apply (ObjectRequest cluster) (fun _ => True) (reconcileHeadlessService cluster) s :=
  wp_reconcileService_objects (Or.inl rfl) rfl
    (lookup_mergeAdditionalLabels (lookup_instance_labelsForCluster cluster.name [])) fun _ => ⟨rfl, rfl⟩

theorem wp_reconcilePodService {podService : AerospikeServiceSpec} {rackID : Int} {ordinal : Nat} :
    Plan.wp Objects.apply (ObjectRequest cluster) (fun _ => True)
      (reconcilePodService cluster podService (podName (statefulSetName cluster.name rackID) ordinal)) s :=
  wp_reconcileService_objects (Or.inr (Or.inr (Or.inr ⟨rackID, ordinal, rfl⟩))) rfl
    (lookup_mergeAdditionalLabels (lookup_instance_labelsForCluster cluster.name _)) fun _ => ⟨rfl, rfl⟩

theorem carries_of_mem_stalePodServices {active : List String} {name : String}
    (h : name ∈ stalePodServices cluster active s) : ∃ existing, s.services.lookup name = some existing ∧
      carries (selectorLabelsForCluster cluster.name) existing.labels = true := by
  obtain ⟨⟨name, svc⟩, hmem, rfl⟩ := List.mem_map.1 h
  obtain ⟨hmem, hcarries⟩ := List.mem_filter.1 hmem
  exact ⟨svc, AList.mem_lookup_iff.2 hmem, (Bool.and_eq_true _ _ ▸ hcarries).1⟩

theorem wp_cleanupStalePodServices {active : List String} :
    Plan.wp Objects.apply (ObjectRequest cluster) (fun _ => True) (cleanupStalePodServices cluster active) s := by
  unfold cleanupStalePodServices
  rw [Plan.wp]
  generalize hstale : stalePodServices cluster active s = l
  -- What is still there under a name is what was listed.
  refine Plan.wp_mono (fun _ _ => trivial) (Plan.wp_forEach
    (R := fun _ t => ∀ name svc, t.services.lookup name = some svc → s.services.lookup name = some svc)
    (fun _ _ h => h) fun before name rest t hsplit hbefore => ⟨?_, ?_⟩)
  · refine Or.inr fun existing hlook => ?_
    have hmem : name ∈ stalePodServices cluster active s := by
      rw [hstale, hsplit]
      exact List.mem_append_right _ List.mem_cons_self
    obtain ⟨listed, hlisted, hcarries⟩ := carries_of_mem_stalePodServices hmem
    rw [hbefore name existing hlook] at hlisted
    cases hlisted
    exact hcarries
  · intro other svc hlook
    by_cases hthis : other = name
    · subst hthis
      rw [lookup_service_self] at hlook
      cases hlook
    · rw [lookup_service_of_ne hthis] at hlook
      exact hbefore other svc hlook

theorem wp_reconcilePodServices {pods : List (Int × Nat)} :
    Plan.wp Objects.apply (ObjectRequest cluster) (fun _ => True)
      ((ObjectCall.podServices pods).plan cluster) s := by
  show Plan.wp Objects.apply (ObjectRequest cluster) (fun _ => True) (reconcilePodServices cluster _) s
  unfold reconcilePodServices
  cases cluster.spec.podService with
  | none => exact wp_cleanupStalePodServices
  | some podService =>
    dsimp only
    rw [Plan.wp, Plan.wp_andThen]
    refine Plan.wp_mono (fun _ _ => wp_cleanupStalePodServices) (Plan.wp_forEach (R := fun _ _ => True) trivial ?_)
    intro before pod rest t hsplit _
    have hmem : pod ∈ pods.map fun (rackID, ordinal) => podName (statefulSetName cluster.name rackID) ordinal := by
      rw [hsplit]
      exact List.mem_append_right _ List.mem_cons_self
    obtain ⟨⟨rackID, ordinal⟩, -, rfl⟩ := List.mem_map.1 hmem
    exact wp_reconcilePodService

theorem wp_reconcileSeedsFinderService :
    Plan.wp Objects.apply (ObjectRequest cluster) (fun _ => True) (reconcileSeedsFinderService cluster) s := by
  have hname : ServiceName cluster.name (seedsFinderServiceName cluster.name) := Or.inr (Or.inr (Or.inl rfl))
  unfold reconcileSeedsFinderService
  cases cluster.spec.seedsLoadBalancer with
  | none => exact Plan.wp_mono (fun _ _ => trivial) (wp_deleteService (Or.inl hname))
  | some lbSpec =>
    exact wp_reconcileService_objects hname rfl
      (lookup_mergeAdditionalLabels (lookup_instance_labelsForCluster cluster.name [])) fun _ => ⟨rfl, rfl⟩

theorem wp_reconcileMetricsService :
    Plan.wp Objects.apply (ObjectRequest cluster) (fun _ => True) (reconcileMetricsService cluster) s := by
  have hname : ServiceName cluster.name (metricsServiceName cluster.name) := Or.inr (Or.inl rfl)
  unfold reconcileMetricsService
  cases cluster.spec.monitoring.filter (·.enabled) with
  | none => exact Plan.wp_mono (fun _ _ => trivial) (wp_deleteService (Or.inl hname))
  | some monitoring =>
    exact wp_reconcileService_objects hname rfl (lookup_instance_labelsForCluster cluster.name []) fun _ => ⟨rfl, rfl⟩

theorem wp_call (cluster : DeclaredCluster) (call : ObjectCall) :
    Plan.wp Objects.apply (ObjectRequest cluster) (fun _ => True) (call.plan cluster) s := by
  cases call with
  | headlessService => exact wp_reconcileHeadlessService
  | podServices pods => exact wp_reconcilePodServices
  | seedsFinderService => exact wp_reconcileSeedsFinderService
  | metricsService => exact wp_reconcileMetricsService
  | pdb => exact Plan.wp_permit objectRequest_of_pdb (Plan.wp_mono (fun _ _ => trivial) (wp_reconcilePDB cluster s))

end Calls

/-! ## Owners -/

/-- What stays of a cluster while its spec changes. -/
structure ClusterID where
  name : String
  uid : String
  deriving DecidableEq

def DeclaredCluster.identity (cluster : DeclaredCluster) : ClusterID := ⟨cluster.name, cluster.uid⟩

/-- The request updates or deletes an object that was created for the cluster of this UID. -/
def Request.Touches (uid : String) (objects : Objects) : Request → Prop
  | .pdb _ (.create _) | .service _ (.create _) => False
  | .pdb name _ => ∃ pdb, objects.pdbs.lookup name = some pdb ∧ pdb.owner = some uid
  | .service name _ => ∃ svc, objects.services.lookup name = some svc ∧ svc.owner = some uid

/-- What was created for a cluster has one of its names and its label. -/
structure Labelled (id : ClusterID) (objects : Objects) : Prop where
  pdbs : ∀ name pdb, objects.pdbs.lookup name = some pdb → pdb.owner = some id.uid →
    BudgetName id.name name ∧ pdb.labels.lookup instanceLabel = some id.name
  services : ∀ name svc, objects.services.lookup name = some svc → svc.owner = some id.uid →
    ServiceName id.name name ∧ svc.labels.lookup instanceLabel = some id.name

theorem labelled_empty (id : ClusterID) : Labelled id Objects.empty :=
  ⟨(fun _ _ h => by cases h), (fun _ _ h => by cases h)⟩

theorem budgetName_of_planned {planned : PlannedPDB} (h : planned ∈ cluster.plannedPDBs) :
    BudgetName cluster.name planned.name := by
  unfold DeclaredCluster.plannedPDBs at h
  split at h
  · obtain ⟨⟨rack, i⟩, -, rfl⟩ := List.mem_map.1 h
    exact Or.inr ⟨rack.id, rfl⟩
  · rw [List.mem_singleton.1 h]
    exact Or.inl rfl

section Owners

variable {id : ClusterID} {objects : Objects} {name : String}

theorem Labelled.pdb {change : Keyed.Change PodDisruptionBudget} (h : Labelled id objects)
    (hname : ∀ pdb, change.on (objects.pdbs.lookup name) = some pdb → pdb.owner = some id.uid →
      BudgetName id.name name ∧ pdb.labels.lookup instanceLabel = some id.name) :
    Labelled id (objects.apply (.pdb name change)) := by
  refine ⟨fun other pdb hlook howner => ?_, h.services⟩
  by_cases hthis : other = name
  · subst hthis
    rw [lookup_pdb_self] at hlook
    exact hname pdb hlook howner
  · rw [lookup_pdb_of_ne hthis] at hlook
    exact h.pdbs other pdb hlook howner

theorem Labelled.service {change : Keyed.Change Service} (h : Labelled id objects)
    (hname : ∀ svc, change.on (objects.services.lookup name) = some svc → svc.owner = some id.uid →
      ServiceName id.name name ∧ svc.labels.lookup instanceLabel = some id.name) :
    Labelled id (objects.apply (.service name change)) := by
  refine ⟨h.pdbs, fun other svc hlook howner => ?_⟩
  by_cases hthis : other = name
  · subst hthis
    rw [lookup_service_self] at hlook
    exact hname svc hlook howner
  · rw [lookup_service_of_ne hthis] at hlook
    exact h.services other svc hlook howner

end Owners

theorem Labelled.own {objects : Objects} {request : Request} (hok : ObjectRequest cluster objects request)
    (h : Labelled cluster.identity objects) : Labelled cluster.identity (objects.apply request) := by
  match request, hok with
  | .pdb name (.create pdb), ⟨hfree, _, planned, hplanned, hname, hpdb⟩ =>
    refine h.pdb fun created hcreated howner => ?_
    rw [hfree] at hcreated
    cases hcreated
    rw [hname, hpdb]
    exact ⟨budgetName_of_planned hplanned, instance_of_carries settled_createdPDB.labels⟩
  | .pdb name (.update pdb), ⟨_, existing, hlook, _, planned, hplanned, hname, hpdb⟩ =>
    refine h.pdb fun updated hupdated howner => ?_
    rw [hlook] at hupdated
    cases hupdated
    rw [hname, hpdb]
    exact ⟨budgetName_of_planned hplanned, instance_of_carries (settled_updatedPDB existing).labels⟩
  | .pdb name .delete, _ => exact h.pdb fun _ hgone => by cases hgone
  | .service name (.create svc), ⟨hname, _, hlabel⟩ =>
    refine h.service fun created hcreated howner => ?_
    rcases Keyed.on_create_cases hcreated with hlook | ⟨-, rfl⟩
    · exact h.services name created hlook howner
    · exact ⟨hname, hlabel⟩
  | .service name (.update svc), ⟨hname, hlabel, existing, hlook, _⟩ =>
    refine h.service fun updated hupdated howner => ?_
    rw [hlook] at hupdated
    cases hupdated
    exact ⟨hname, hlabel⟩
  | .service name .delete, _ => exact h.service fun _ hgone => by cases hgone

/-! ## Two clusters -/

/-- Two clusters of one namespace. -/
structure Neighbours where
  a : ClusterID
  b : ClusterID
  aLabel : isDNSLabel a.name = true
  bLabel : isDNSLabel b.name = true
  names : a.name ≠ b.name
  uids : a.uid ≠ b.uid

theorem ne_empty_of_isDNSLabel {s : String} (h : isDNSLabel s = true) : s ≠ "" := by
  rintro rfl
  exact absurd h (by decide)

section Isolation

variable {n : Neighbours} {cluster : DeclaredCluster} {objects : Objects} {request : Request}

theorem Neighbours.taken (n : Neighbours) {labels : StringMap} (h : labels.lookup instanceLabel = some n.b.name) :
    takenByAnother labels n.a.name = true := by
  simp [takenByAnother, h, ne_empty_of_isDNSLabel n.bLabel, n.names.symm]

theorem not_touches (hsep : Separate n.a.name n.b.name) (hcluster : cluster.identity = n.a)
    (hb : Labelled n.b objects) (hok : ObjectRequest cluster objects request) :
    ¬ request.Touches n.b.uid objects := by
  have hname : cluster.name = n.a.name := congrArg ClusterID.name hcluster
  have hdisjoint : ∀ {name}, ServiceName cluster.name name → ¬ ServiceName n.b.name name := by
    rw [hname]
    exact hsep.service_disjoint n.aLabel n.bLabel n.names
  have hinstance : ∀ {labels : StringMap}, labels.lookup instanceLabel = some cluster.name →
      labels.lookup instanceLabel ≠ some n.b.name := by
    intro labels h h'
    rw [h, hname] at h'
    exact n.names (Option.some.inj h')
  match request, hok with
  | .pdb name (.create pdb), _ => exact id
  | .pdb name (.update pdb), ⟨_, existing, hlook, hfree, _⟩ =>
    rintro ⟨pdb', hlook', howner⟩
    rw [hlook] at hlook'
    cases hlook'
    rw [hname, n.taken (hb.pdbs name existing hlook howner).2] at hfree
    cases hfree
  | .pdb name .delete, hok =>
    rintro ⟨pdb, hlook, howner⟩
    obtain ⟨hbudget, hlabel⟩ := hb.pdbs name pdb hlook howner
    rcases hok with rfl | ⟨-, existing, hlook', hcarries⟩
    · rw [hname] at hbudget
      exact hsep.budget n.names hbudget
    · rw [hlook] at hlook'
      cases hlook'
      exact hinstance (instance_of_carries hcarries) hlabel
  | .service name (.create svc), _ => exact id
  | .service name (.update svc), ⟨hown, _⟩ =>
    rintro ⟨existing, hlook, howner⟩
    exact hdisjoint hown (hb.services name existing hlook howner).1
  | .service name .delete, hok =>
    rintro ⟨existing, hlook, howner⟩
    obtain ⟨hother, hlabel⟩ := hb.services name existing hlook howner
    rcases hok with hown | hcarries
    · exact hdisjoint hown hother
    · refine hinstance (carries_eq_true.1 (hcarries existing hlook) _ _ ?_) hlabel
      simp [selectorLabelsForCluster]

theorem Labelled.other (hsep : Separate n.a.name n.b.name) (hcluster : cluster.identity = n.a)
    (hok : ObjectRequest cluster objects request) (hb : Labelled n.b objects) :
    Labelled n.b (objects.apply request) := by
  have huid : some cluster.uid ≠ some n.b.uid := by
    intro h
    exact n.uids ((congrArg ClusterID.uid hcluster).symm.trans (Option.some.inj h))
  have htouch := not_touches hsep hcluster hb hok
  match request, hok, htouch with
  | .pdb name (.create pdb), ⟨hfree, _, _, _, _, hpdb⟩, _ =>
    refine hb.pdb fun created hcreated howner => ?_
    rw [hfree] at hcreated
    cases hcreated
    rw [hpdb] at howner
    exact absurd howner huid
  | .pdb name (.update pdb), ⟨_, existing, hlook, _, _, _, _, hpdb⟩, htouch =>
    refine hb.pdb fun updated hupdated howner => ?_
    rw [hlook] at hupdated
    cases hupdated
    rw [hpdb] at howner
    exact absurd ⟨existing, hlook, howner⟩ htouch
  | .pdb name .delete, _, _ => exact hb.pdb fun _ hgone => by cases hgone
  | .service name (.create svc), ⟨_, hcreator, _⟩, _ =>
    refine hb.service fun created hcreated howner => ?_
    rcases Keyed.on_create_cases hcreated with hlook | ⟨-, rfl⟩
    · exact hb.services name created hlook howner
    · rw [hcreator] at howner
      exact absurd howner huid
  | .service name (.update svc), ⟨_, _, existing, hlook, hkeep⟩, htouch =>
    refine hb.service fun updated hupdated howner => ?_
    rw [hlook] at hupdated
    cases hupdated
    rw [hkeep] at howner
    exact absurd ⟨existing, hlook, howner⟩ htouch
  | .service name .delete, _, _ => exact hb.service fun _ hgone => by cases hgone

end Isolation

/-! ## Runs -/

/-- A call for one of the two clusters, with whatever spec it has at the time and whatever the API answers. -/
structure ObjectMove where
  cluster : DeclaredCluster
  call : ObjectCall
  answer : Nat → Plan.Answer ApiError

def ObjectMove.session (move : ObjectMove) (objects : Objects) : Plan.Session Objects Request :=
  (Plan.exec Objects.apply move.answer (move.call.plan move.cluster) ⟨objects, 0, []⟩).2

def Neighbours.step (n : Neighbours) (objects : Objects) (move : ObjectMove) : Option Objects :=
  if move.cluster.identity = n.a ∨ move.cluster.identity = n.b then some (move.session objects).state else none

theorem labelled_step {n : Neighbours} (hsep : Separate n.a.name n.b.name) {s t : Objects} {move : ObjectMove}
    (hb : Labelled n.b s) (h : n.step s move = some t) : Labelled n.b t := by
  unfold Neighbours.step at h
  split at h
  · cases h
    rename_i hcluster
    rcases hcluster with ha | hb'
    · exact Plan.exec_keeps (fun _ _ hok hi => Labelled.other hsep ha hok hi) (wp_call move.cluster move.call) hb rfl
    · rw [← hb'] at hb ⊢
      exact Plan.exec_keeps (fun _ _ hok hi => Labelled.own hok hi) (wp_call move.cluster move.call) hb rfl
  · cases h

/-- Whatever the two clusters have been through, a call for `a` updates and deletes nothing that was created
for `b`. -/
theorem neighbour_untouched (n : Neighbours) (hsep : Separate n.a.name n.b.name) {moves : List ObjectMove}
    {objects : Objects} (hrun : Lts.run n.step Objects.empty moves = some objects) (move : ObjectMove)
    (hmove : move.cluster.identity = n.a) :
    ∀ x ∈ (move.session objects).sent, ¬ x.2.Touches n.b.uid x.1 := by
  have hb : Labelled n.b objects :=
    Lts.run_invariant' (fun _ _ _ hi hstep => labelled_step hsep hi hstep) (labelled_empty n.b) hrun
  have hwp := Plan.wp_invariant (fun _ _ hok hi => Labelled.other hsep hmove hok hi) hb
    (wp_call move.cluster move.call)
  intro x hx
  rcases (Plan.exec_sound (s := ⟨objects, 0, []⟩) hwp rfl).2 x hx with hold | ⟨hok, hi⟩
  · cases hold
  · exact not_touches hsep hmove hi hok

theorem DerivedServiceName.append {clusterName name : String} (h : DerivedServiceName clusterName name) :
    ∃ rest, name = clusterName ++ rest := by
  rcases h with rfl | rfl | ⟨rackID, ordinal, rfl⟩
  · exact ⟨_, rfl⟩
  · exact ⟨_, rfl⟩
  · refine ⟨"-" ++ toString rackID ++ "-" ++ toString ordinal ++ "-pod", ?_⟩
    simp only [podServiceName, podName, statefulSetName, String.append_assoc]

theorem separate_of_ne_append {a b : String} (hab : ∀ rest, a ≠ b ++ rest) (hba : ∀ rest, b ≠ a ++ rest) :
    Separate a b := by
  refine ⟨fun rackID h => ?_, fun h => ?_, fun h => ?_⟩
  · rw [statefulSetName, String.append_assoc] at h
    exact hab _ h
  · obtain ⟨rest, h⟩ := h.append
    exact hab rest h
  · obtain ⟨rest, h⟩ := h.append
    exact hba rest h

def alphaBeta : Neighbours where
  a := ⟨"alpha", "alpha-uid"⟩
  b := ⟨"beta", "beta-uid"⟩
  aLabel := by decide
  bLabel := by decide
  names := by decide
  uids := by decide

theorem separate_alphaBeta : Separate alphaBeta.a.name alphaBeta.b.name := by
  refine separate_of_ne_append (fun rest h => ?_) (fun rest h => ?_)
  · have hhead := congrArg (fun s : String => s.toList.head?) h
    simp [alphaBeta] at hhead
  · have hhead := congrArg (fun s : String => s.toList.head?) h
    simp [alphaBeta] at hhead

def twoRackMove (name : String) (disablePDB : Option Bool) (rackMU : Option IntOrString)
    (monitoring : Option AerospikeMonitoringSpec) (call : ObjectCall) : ObjectMove :=
  let cluster := DeclaredCluster.plain name "aerospike:ce-8.1.1.1" 4
    [{ DeclaredRack.plain 1 one_lt_idBound none with maxUnavailable := rackMU },
      DeclaredRack.plain 2 two_lt_idBound none]
  ⟨{ cluster with spec := { cluster.spec with disablePDB, monitoring } }, call, fun _ => .done⟩

/-- Both clusters have their budgets; the first one is then told to have none, and deletes its own. -/
theorem neighbour_untouched_alpha : ∃ objects,
    Lts.run alphaBeta.step Objects.empty
        [twoRackMove "beta" none none none .pdb, twoRackMove "alpha" none none none .pdb] = some objects ∧
      (∃ x ∈ ((twoRackMove "alpha" (some true) none none .pdb).session objects).sent, x.2 = .pdb "alpha-pdb" .delete) ∧
      ∀ x ∈ ((twoRackMove "alpha" (some true) none none .pdb).session objects).sent, ¬ x.2.Touches "beta-uid" x.1 := by
  have hrun : Lts.run alphaBeta.step Objects.empty
      [twoRackMove "beta" none none none .pdb, twoRackMove "alpha" none none none .pdb] = some _ := rfl
  exact ⟨_, hrun, ⟨_, List.mem_cons_self, rfl⟩, neighbour_untouched alphaBeta separate_alphaBeta hrun _ rfl⟩

def besideDemo (name : String) (label : isDNSLabel name = true) (names : name ≠ "demo")
    (uids : name ++ "-uid" ≠ "demo-uid") : Neighbours :=
  ⟨⟨name, name ++ "-uid"⟩, ⟨"demo", "demo-uid"⟩, label, by decide, names, uids⟩

/-- `demo-1-pdb` is the budget of the first rack of `demo` and of the cluster `demo-1`, which deletes it;
`demo-metrics` is the metrics Service of `demo` and the headless one of the cluster `demo-metrics`, which
takes it over. -/
theorem neighbour_touched :
    (∃ (n : Neighbours) (moves : List ObjectMove) (objects : Objects) (move : ObjectMove),
      Lts.run n.step Objects.empty moves = some objects ∧ move.cluster.identity = n.a ∧
        ∃ x ∈ (move.session objects).sent, x.2 = .pdb "demo-1-pdb" .delete ∧ x.2.Touches n.b.uid x.1) ∧
    ∃ (n : Neighbours) (moves : List ObjectMove) (objects : Objects) (move : ObjectMove),
      Lts.run n.step Objects.empty moves = some objects ∧ move.cluster.identity = n.a ∧
        ∃ x ∈ (move.session objects).sent,
          (∃ svc, x.2 = .service "demo-metrics" (.update svc)) ∧ x.2.Touches n.b.uid x.1 := by
  refine ⟨⟨besideDemo "demo-1" (by decide) (by decide) (by decide),
      [twoRackMove "demo" none (some (.int 1)) none .pdb], _, twoRackMove "demo-1" (some true) none none .pdb, rfl, rfl,
      _, List.mem_cons_self, rfl, _, rfl, rfl⟩,
    ⟨besideDemo "demo-metrics" (by decide) (by decide) (by decide),
      [twoRackMove "demo" none none (some ⟨true, "", 9145, none, [], ∅, none, none⟩) .metricsService], _,
      twoRackMove "demo-metrics" none none none .headlessService, rfl, rfl,
      _, List.mem_cons_self, ⟨_, rfl⟩, _, rfl, rfl⟩⟩

end Acko
