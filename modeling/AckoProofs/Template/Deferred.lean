/-
Checks that admission leaves to the template. A cluster without a size of its own is admitted before its racks, its
replication factors and its budgets can be compared with one; what looks at the resolved spec then is the image,
the size itself and the enterprise-only keys, so the rest holds exactly as far as the template's size fits.
-/
import AckoProofs.Admission.RackLimits
import AckoProofs.Template.Config

namespace Acko

/-! ## The limits -/

/-- What admission checks against a size that it knows. -/
structure SizeLimits (cluster : DeclaredCluster) : Prop where
  racks : (cluster.spec.racks.length : Int) ≤ cluster.spec.size
  rackSizes : ∀ i < cluster.getRacks.length, 1 ≤ cluster.getRackSize cluster.getRacks i
  replication : ReplicationWithin cluster.spec.size cluster.spec.entries
  budget : ∀ v, cluster.spec.maxUnavailable = some (.int v) → v < cluster.spec.size
  rackBudgets : ∀ i rack, cluster.getRacks[i]? = some rack → ∀ v, rack.maxUnavailable = some (.int v) →
    v < cluster.getRackSize cluster.getRacks i

def ClusterTemplateSpec.namespaceDefaults (tmpl : ClusterTemplateSpec) : Config :=
  entriesOf (tmpl.aerospikeConfig.bind (·.namespaceDefaults))

/-- A template whose size suits the cluster. Of a replication factor that the cluster sets itself admission has
seen that it is a positive integer; one that the template supplies nothing has looked at. -/
structure TemplateFits (tmpl : ClusterTemplateSpec) (spec : DeclaredSpec) : Prop where
  racks : (spec.racks.length : Int) ≤ tmpl.size.getD 0
  replication : ∀ nsMap ∈ namespaceMaps spec.entries, ∀ rf i, nsMap.lookup "replication-factor" = some rf →
    Value.asInt rf = some i → i ≤ tmpl.size.getD 0
  defaultReplication : ∀ nsMap ∈ namespaceMaps spec.entries, nsMap.lookup "replication-factor" = none →
    ∀ rf, tmpl.namespaceDefaults.lookup "replication-factor" = some rf →
      ∃ i, Value.asInt rf = some i ∧ 1 ≤ i ∧ i ≤ tmpl.size.getD 0
  budget : ∀ v, spec.maxUnavailable = some (.int v) → v < tmpl.size.getD 0
  rackBudgets : ∀ i rack, spec.racks[i]? = some rack → ∀ v, rack.maxUnavailable = some (.int v) →
    v < admissionRackSize (tmpl.size.getD 0) spec.racks.length i

/-! ## Racks -/

theorem getRackSize_eq (cluster : DeclaredCluster) (racks : List DeclaredRack) (i : Nat) :
    cluster.getRackSize racks i = admissionRackSize cluster.spec.size racks.length i := rfl

theorem one_le_admissionRackSize {size : Int} {numRacks : Nat} (hpos : 0 < numRacks) (hle : (numRacks : Int) ≤ size)
    (i : Nat) : 1 ≤ admissionRackSize size numRacks i := by
  have hbase : 1 ≤ size.tdiv numRacks := by
    rw [Int.tdiv_eq_ediv_of_nonneg (by omega), Int.le_ediv_iff_mul_le (by omega)]
    omega
  unfold admissionRackSize
  split <;> omega

variable {cluster : DeclaredCluster}

theorem one_le_getRackSize (hsize : 1 ≤ cluster.spec.size)
    (hle : (cluster.spec.racks.length : Int) ≤ cluster.spec.size) (i : Nat) :
    1 ≤ cluster.getRackSize cluster.getRacks i := by
  rw [getRackSize_eq]
  refine one_le_admissionRackSize (List.length_pos_iff.2 cluster.getRacks_ne_nil) ?_ i
  rw [DeclaredCluster.getRacks_eq]
  split
  · exact hsize
  · exact hle

/-! ## Namespaces -/

theorem asInt_mergeValue (old : Option Value) (v : Value) : Value.asInt (DocTree.mergeValue old v) = Value.asInt v := by
  cases v with
  | leaf s => rfl
  | list l => rfl
  | map m =>
    unfold DocTree.mergeValue
    split <;> rfl

theorem filterMap_namespaceWithDefaults (defaults : Config) (l : List Value) :
    (l.map (namespaceWithDefaults defaults)).filterMap Value.asMap =
      (l.filterMap Value.asMap).map (DocTree.merge defaults) := by
  rw [List.filterMap_map, List.map_filterMap]
  refine List.filterMap_congr fun v _ => ?_
  cases v with
  | leaf s => rfl
  | list l => rfl
  | map nsMap => exact congrArg some (deepMergeMapBaseFirst_eq defaults nsMap)

theorem TemplatedConfig.namespaceMaps {tmplConfig : TemplateAerospikeConfig} {config config' : Config}
    (h : TemplatedConfig tmplConfig config config') : Acko.namespaceMaps config' =
      (Acko.namespaceMaps config).map (DocTree.merge (entriesOf tmplConfig.namespaceDefaults)) := by
  unfold Acko.namespaceMaps
  rw [h.namespaces]
  cases config.lookup "namespaces" with
  | none => rfl
  | some v =>
    cases v with
    | leaf s => rfl
    | map m => rfl
    | list l => exact filterMap_namespaceWithDefaults _ l

theorem replicationWithin_templated {tmplConfig : TemplateAerospikeConfig} {config config' : Config}
    (h : TemplatedConfig tmplConfig config config') (hkeys : ∀ nsMap ∈ namespaceMaps config,
      DocTree.wellKeyedFields nsMap = true) (size : Int) : ReplicationWithin size config' ↔
      ∀ nsMap ∈ namespaceMaps config, match nsMap.lookup "replication-factor" with
        | some rf => ∃ i, Value.asInt rf = some i ∧ 1 ≤ i ∧ i ≤ size
        | none => ∀ rf, (entriesOf tmplConfig.namespaceDefaults).lookup "replication-factor" = some rf →
            ∃ i, Value.asInt rf = some i ∧ 1 ≤ i ∧ i ≤ size := by
  unfold ReplicationWithin
  rw [h.namespaceMaps, List.forall_mem_map]
  refine forall₂_congr fun nsMap hns => ?_
  rw [DocTree.lookup_merge _ (hkeys nsMap hns)]
  cases nsMap.lookup "replication-factor" with
  | none => exact Iff.rfl
  | some rf =>
    constructor
    · intro hrf
      obtain ⟨i, hi, hrange⟩ := hrf _ rfl
      rw [asInt_mergeValue] at hi
      exact ⟨i, hi, hrange⟩
    · rintro ⟨i, hi, hrange⟩ rf' hrf'
      cases hrf'
      exact ⟨i, by rw [asInt_mergeValue, hi], hrange⟩

theorem wellKeyed_of_mem_namespaceMaps {config nsMap : Config} (hkeys : DocTree.wellKeyedFields config = true)
    (hns : nsMap ∈ namespaceMaps config) : DocTree.wellKeyedFields nsMap = true := by
  unfold namespaceMaps at hns
  obtain ⟨v, hv, hmap⟩ := List.mem_filterMap.1 hns
  cases hlookup : config.lookup "namespaces" with
  | none => simp [hlookup] at hv
  | some list =>
    rw [hlookup, Option.bind_some] at hv
    cases hlist : Value.asList list with
    | none => simp [hlist] at hv
    | some l =>
      rw [hlist, Option.getD_some] at hv
      rw [Value.asList_eq_some.1 hlist] at hlookup
      rw [Value.asMap_eq_some.1 hmap] at hv
      exact DocTree.wellKeyed_of_mem (DocTree.wellKeyed_of_lookup hkeys hlookup) hv

/-! ## The resolved cluster -/

/-- What resolution makes of a cluster whose size is the template's. -/
structure ResolvedFrom (tmpl : ClusterTemplateSpec) (cluster resolved : DeclaredCluster) : Prop where
  config : TemplatedConfig (tmpl.aerospikeConfig.getD ⟨none, none, none⟩) cluster.spec.entries resolved.spec.entries
  size : resolved.spec.size = tmpl.size.getD 0
  one_le : 1 ≤ tmpl.size.getD 0
  racks : resolved.spec.racks = cluster.spec.racks
  getRacks : resolved.getRacks = cluster.getRacks
  maxUnavailable : resolved.spec.maxUnavailable = cluster.spec.maxUnavailable

theorem resolvedFrom_of_resolve {snapshot : ClusterTemplateSpec} {resolved : DeclaredCluster} {templateRef : String}
    (hsize : cluster.spec.size = 0) (href : cluster.spec.templateRef = some templateRef)
    (h : resolve (some snapshot) cluster = .ok resolved) :
    ResolvedFrom (snapshot.mergeTemplateSpec cluster.spec.overrides) cluster resolved := by
  obtain ⟨happly, -, hvalid⟩ := resolve_eq_ok href h
  obtain ⟨hconfig, hsize', hracks, hbudget⟩ := applyTemplate_eq_ok happly
  rw [if_pos hsize] at hsize'
  have hentries := applyAerospikeConfig_eq_ok hconfig
  have hone : 1 ≤ resolved.spec.size := by
    unfold validateMergedSpecCE at hvalid
    simp only [List.append_eq_nil_iff] at hvalid
    have hrange := hvalid.1.2
    split at hrange
    · cases hrange
    · omega
  refine ⟨templatedConfig_of_apply hentries (cluster.spec.aerospikeConfig.getD .empty).distinct, hsize',
    by rwa [← hsize'], ?_, ?_, hbudget⟩
  · unfold DeclaredSpec.racks
    rw [hracks]
  · unfold DeclaredCluster.getRacks
    rw [hracks]

theorem replicationFactor_of_admitted {others : OtherChecks} {user : DeclaredCluster}
    (h : admitCluster others user = .ok cluster) {nsMap : Config} (hns : nsMap ∈ namespaceMaps cluster.spec.entries)
    {rf : Value} (hrf : nsMap.lookup "replication-factor" = some rf) : ∃ i, Value.asInt rf = some i ∧ 1 ≤ i := by
  have hreplication := (admittedSpec_of_validate (admitCluster_eq_ok h).2).replication
  unfold validateReplicationFactor at hreplication
  unfold DeclaredSpec.entries at hns
  cases hconfig : cluster.spec.aerospikeConfig with
  | none =>
    rw [hconfig] at hns
    cases hns
  | some config =>
    rw [hconfig] at hns hreplication
    simp only [List.flatMap_eq_nil_iff] at hreplication
    obtain ⟨i, hi, hlo, -⟩ := replicationFactorErrors_eq_nil (hreplication nsMap hns) hrf
    exact ⟨i, hi, hlo⟩

/-- A resolved cluster is within the limits that admission left open exactly if the template fits. -/
theorem deferred_limits_hold {others : OtherChecks} {user cluster resolved : DeclaredCluster}
    {snapshot : ClusterTemplateSpec} {templateRef : String} (hadm : admitCluster others user = .ok cluster)
    (hsize : cluster.spec.size = 0) (href : cluster.spec.templateRef = some templateRef)
    (hresolve : resolve (some snapshot) cluster = .ok resolved) :
    SizeLimits resolved ↔ TemplateFits (snapshot.mergeTemplateSpec cluster.spec.overrides) cluster.spec := by
  have hfrom := resolvedFrom_of_resolve hsize href hresolve
  generalize snapshot.mergeTemplateSpec cluster.spec.overrides = tmpl at hfrom ⊢
  have hdefaults : entriesOf (tmpl.aerospikeConfig.getD ⟨none, none, none⟩).namespaceDefaults =
      tmpl.namespaceDefaults := by
    unfold ClusterTemplateSpec.namespaceDefaults
    cases tmpl.aerospikeConfig <;> rfl
  have hkeys : ∀ nsMap ∈ namespaceMaps cluster.spec.entries, DocTree.wellKeyedFields nsMap = true := fun nsMap hns =>
    wellKeyed_of_mem_namespaceMaps (cluster.spec.aerospikeConfig.getD .empty).distinct hns
  have hreplication := replicationWithin_templated hfrom.config hkeys (tmpl.size.getD 0)
  rw [hdefaults] at hreplication
  constructor
  · rintro ⟨hracks, -, hrf, hbudget, hbudgets⟩
    rw [hfrom.size] at hracks hrf hbudget
    rw [hfrom.racks] at hracks
    rw [hreplication] at hrf
    refine ⟨hracks, ?_, ?_, by rwa [hfrom.maxUnavailable] at hbudget, ?_⟩
    · intro nsMap hns rf i hlookup hi
      have hown := hrf nsMap hns
      rw [hlookup] at hown
      obtain ⟨j, hj, -, hle⟩ := hown
      rw [hi] at hj
      cases hj
      exact hle
    · intro nsMap hns hlookup
      have hown := hrf nsMap hns
      rwa [hlookup] at hown
    · intro i rack hrack v hv
      have hne : cluster.spec.racks ≠ [] := by
        intro hnil
        rw [hnil] at hrack
        cases hrack
      have hracks' : resolved.getRacks = cluster.spec.racks := by
        rw [hfrom.getRacks, DeclaredCluster.getRacks_eq, if_neg hne]
      have hlt := hbudgets i rack (by rwa [hracks']) v hv
      rwa [getRackSize_eq, hracks', hfrom.size] at hlt
  · intro hfits
    have hracks : (resolved.spec.racks.length : Int) ≤ resolved.spec.size := by
      rw [hfrom.racks, hfrom.size]
      exact hfits.racks
    refine ⟨hracks, fun i _ => one_le_getRackSize (by rw [hfrom.size]; exact hfrom.one_le) hracks i, ?_, ?_, ?_⟩
    · rw [hfrom.size, hreplication]
      intro nsMap hns
      cases hlookup : nsMap.lookup "replication-factor" with
      | none => exact hfits.defaultReplication nsMap hns hlookup
      | some rf =>
        obtain ⟨i, hi, hlo⟩ := replicationFactor_of_admitted hadm hns hlookup
        exact ⟨i, hi, hlo, hfits.replication nsMap hns rf i hlookup hi⟩
    · rw [hfrom.maxUnavailable, hfrom.size]
      exact hfits.budget
    · intro i rack hrack v hv
      rw [getRackSize_eq]
      rw [hfrom.getRacks, DeclaredCluster.getRacks_eq] at hrack ⊢
      split at hrack
      · -- the default rack has no budget of its own
        rw [List.mem_singleton.1 (List.mem_of_getElem? hrack)] at hv
        cases hv
      · rename_i hne
        rw [if_neg hne, hfrom.size]
        exact hfits.rackBudgets i rack hrack v hv

/-! ## Two clusters -/

def twoCopies : ConfigMap :=
  ⟨[("namespaces", .list [.map [("name", .leaf (.str "test")), ("replication-factor", .leaf (.int 2))]])], rfl⟩

def budgetRack (id : Nat) (h : id < 2 ^ 63) : DeclaredRack :=
  { DeclaredRack.plain id h none with maxUnavailable := some (.int 1) }

/-- A cluster that takes its size from a template. -/
def sizeless (racks : List DeclaredRack) : DeclaredCluster :=
  let cluster := DeclaredCluster.plain "demo" "aerospike:ce-8.1.1.1" 0 racks
  { cluster with spec := { cluster.spec with
      aerospikeConfig := some twoCopies, maxUnavailable := some (.int 2), templateRef := some "small" } }

def sizeTemplate (size : Int) : ClusterTemplateSpec := ⟨⟨none⟩, "", some size, none, none, none⟩

theorem deferred_limits_hold_four : ∃ cluster resolved,
    admitCluster .none (sizeless [budgetRack 1 (by decide), budgetRack 2 (by decide)]) = .ok cluster ∧
      resolve (some (sizeTemplate 4)) cluster = .ok resolved ∧ SizeLimits resolved := by
  have hadm : admitCluster .none (sizeless [budgetRack 1 (by decide), budgetRack 2 (by decide)]) = .ok _ := rfl
  refine ⟨_, _, hadm, rfl, (@deferred_limits_hold .none _ _ _ (sizeTemplate 4) "small" hadm rfl rfl rfl).2 ?_⟩
  refine ⟨by decide, ?_, ?_, ?_, ?_⟩
  · intro nsMap hns rf i hrf hi
    cases List.mem_singleton.1 hns
    cases hrf
    cases hi
    decide
  · intro nsMap hns hnone rf hrf
    cases hrf
  · intro v hv
    cases hv
    decide
  · intro i rack hrack v hv
    match i, hrack with
    | 0, hrack =>
      cases hrack
      cases hv
      decide
    | 1, hrack =>
      cases hrack
      cases hv
      decide

/-- Three racks, two copies and a budget of two pods on a template of one pod: resolution passes all of it. -/
theorem deferred_limits_fail : ∃ cluster resolved,
    admitCluster .none (sizeless [budgetRack 1 (by decide), budgetRack 2 (by decide), budgetRack 3 (by decide)]) =
      .ok cluster ∧
      cluster.spec.size = 0 ∧ cluster.spec.templateRef = some "small" ∧
      resolve (some (sizeTemplate 1)) cluster = .ok resolved ∧ resolved.spec.size = 1 ∧
      resolved.spec.racks.length = 3 ∧ resolved.getRackSize resolved.getRacks 1 = 0 ∧
      ¬ ReplicationWithin 1 resolved.spec.entries ∧ resolved.spec.maxUnavailable = some (.int 2) ∧
      ∃ rack, resolved.getRacks[0]? = some rack ∧ rack.maxUnavailable = some (.int 1) ∧
        resolved.getRackSize resolved.getRacks 0 = 1 := by
  refine ⟨_, _, rfl, rfl, rfl, rfl, rfl, rfl, rfl, ?_, rfl, _, rfl, rfl, rfl⟩
  intro h
  obtain ⟨i, hi, -, hle⟩ := h _ List.mem_cons_self _ rfl
  cases hi
  exact absurd hle (by decide)

end Acko
