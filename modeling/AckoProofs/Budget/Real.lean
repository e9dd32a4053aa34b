/-
A budget that allows every pod to be evicted at once is none. Kubernetes resolves `maxUnavailable` against the
number of pods that the budget counts and rounds percentages up; this module says when what `reconcilePDB`
writes stays below that number.
-/
import AckoProofs.Lib.Least
import AckoProofs.Admission.RackLimits
import AckoProofs.Budget.Reconcile

namespace Acko

/-- Not all of `n` pods may be evicted at once. -/
def RealBudget (mu : IntOrString) (n : Int) : Prop := ∃ v, getScaledValueFromIntOrPercent mu n = some v ∧ v < n

/-- What a policy is made from keeps it below `n`: an integer always does, a percentage when the pods it
leaves make up one, and the default as far as the replication factors do. -/
def RealWhen (configured : Option IntOrString) (n : Int) (defaultReal : Prop) : Prop :=
  match configured with
  | some (.int _) => True
  | some (.str s) => ∃ p, (cutPercent s).bind atoi = some p ∧ 100 ≤ (100 - p) * n
  | none => defaultReal

theorem realBudget_str {s : String} {n : Int} :
    RealBudget (.str s) n ↔ ∃ p, (cutPercent s).bind atoi = some p ∧ 100 ≤ (100 - p) * n := by
  have hround : ∀ p : Int, (p * n + 99) / 100 < n ↔ 100 ≤ (100 - p) * n := by
    intro p
    have hsub : (100 - p) * n = 100 * n - p * n := Int.sub_mul 100 p n
    omega
  have hscaled : getScaledValueFromIntOrPercent (.str s) n =
      ((cutPercent s).bind atoi).map fun p => (p * n + 99) / 100 := by
    unfold getScaledValueFromIntOrPercent
    cases hcut : cutPercent s with
    | none => simp [hcut]
    | some digits => cases hp : atoi digits <;> simp [hcut, hp]
  unfold RealBudget
  rw [hscaled]
  cases (cutPercent s).bind atoi with
  | none => simp
  | some p => simp [hround]

theorem realBudget_resolvePDBPolicy {configured : Option IntOrString} {defaultMU n : Int} (hn : 1 < n) :
    RealBudget (resolvePDBPolicy configured defaultMU n) n ↔ RealWhen configured n (defaultMU < n) := by
  match configured with
  | none => simp [resolvePDBPolicy, RealWhen, RealBudget, getScaledValueFromIntOrPercent]
  | some (.str s) => exact realBudget_str
  | some (.int v) =>
    refine ⟨fun _ => trivial, fun _ => ⟨_, rfl, ?_⟩⟩
    split <;> split at * <;> omega

/-! ## The default -/

theorem one_le_namespaceReplicationFactor (nsMap : Config) : 1 ≤ namespaceReplicationFactor nsMap := by
  have hclamp : ∀ rf : Int, 1 ≤ if rf < 1 then defaultReplicationFactor else rf := by
    intro rf
    unfold defaultReplicationFactor
    split <;> omega
  exact hclamp _

theorem minReplicationFactor_some (config : ConfigMap) : minReplicationFactor (some config) =
    if Least.least namespaceReplicationFactor (namespaceMaps config.entries) = 0 then defaultReplicationFactor
    else Least.least namespaceReplicationFactor (namespaceMaps config.entries) := rfl

theorem minReplicationFactor_le_iff {config : ConfigMap} {bound : Int} (hbound : 2 ≤ bound) :
    minReplicationFactor (some config) ≤ bound ↔ namespaceMaps config.entries = [] ∨
      ∃ nsMap ∈ namespaceMaps config.entries, namespaceReplicationFactor nsMap ≤ bound := by
  rw [minReplicationFactor_some]
  by_cases hmaps : namespaceMaps config.entries = []
  · rw [hmaps]
    exact iff_of_true hbound (Or.inl rfl)
  · rw [if_neg (mt (Least.least_eq_zero one_le_namespaceReplicationFactor).1 hmaps), ← Int.lt_add_one_iff,
      Least.least_lt one_le_namespaceReplicationFactor hmaps]
    simp only [Int.lt_add_one_iff, hmaps, false_or]

theorem minReplicationFactor_le {config : ConfigMap} {bound : Int} (hbound : 2 ≤ bound)
    (h : ∀ nsMap ∈ namespaceMaps config.entries, namespaceReplicationFactor nsMap ≤ bound) :
    minReplicationFactor (some config) ≤ bound := by
  rw [minReplicationFactor_le_iff hbound]
  rcases List.eq_nil_or_concat (namespaceMaps config.entries) with hmaps | ⟨l, nsMap, hmaps⟩
  · exact Or.inl hmaps
  · have hmem : nsMap ∈ namespaceMaps config.entries := by simp [hmaps]
    exact Or.inr ⟨nsMap, hmem, h nsMap hmem⟩

theorem int32Of_le {v : Int} (hv : 1 ≤ v) : int32Of v ≤ v := by
  unfold int32Of Int.bmod
  dsimp only
  split <;> omega

theorem int32OfFloat_le {m e : Int} (h : 1 ≤ floatTrunc m e) : int32OfFloat m e ≤ floatTrunc m e := by
  unfold int32OfFloat
  split <;> omega

theorem namespaceReplicationFactor_le {nsMap : Config} {size : Int} (hsize : 2 ≤ size)
    (h : ∀ rf, nsMap.lookup "replication-factor" = some rf → ∃ i, Value.asInt rf = some i ∧ 1 ≤ i ∧ i ≤ size) :
    namespaceReplicationFactor nsMap ≤ size := by
  have hclamp : ∀ rf ≤ size, (if rf < 1 then defaultReplicationFactor else rf) ≤ size := by
    intro rf hrf
    split
    · exact hsize
    · exact hrf
  unfold namespaceReplicationFactor
  dsimp only
  split
  · rename_i v hv
    obtain ⟨i, hi, hlo, hhi⟩ := h _ hv
    cases hi
    exact hclamp _ (le_trans (int32Of_le hlo) hhi)
  · rename_i m e hv
    obtain ⟨i, hi, hlo, hhi⟩ := h _ hv
    rw [Value.asInt] at hi
    by_cases hint : floatIsInt m e = true
    · rw [if_pos hint] at hi
      cases hi
      exact hclamp _ (le_trans (int32OfFloat_le hlo) hhi)
    · rw [if_neg hint] at hi
      cases hi
  · exact hclamp _ hsize

theorem one_le_defaultMaxUnavailable (cluster : DeclaredCluster) (rack : DeclaredRack) :
    1 ≤ defaultMaxUnavailable cluster rack := by
  unfold defaultMaxUnavailable
  dsimp only
  split <;> omega

variable {cluster : DeclaredCluster}

/-- The default of a rack stays below `n` exactly if the smallest replication factor does not pass it. -/
theorem defaultMaxUnavailable_lt {rack : DeclaredRack} {n : Int} (hn : 1 < n) :
    defaultMaxUnavailable cluster rack < n ↔ minReplicationFactor (cluster.getEffectiveConfig rack) ≤ n := by
  unfold defaultMaxUnavailable
  dsimp only
  split <;> omega

theorem one_le_clusterDefaultMaxUnavailable (cluster : DeclaredCluster) (racks : List DeclaredRack) :
    1 ≤ clusterDefaultMaxUnavailable cluster racks := by
  unfold clusterDefaultMaxUnavailable
  dsimp only
  split <;> omega

theorem clusterDefaultMaxUnavailable_lt {racks : List DeclaredRack} (hracks : racks ≠ []) {n : Int} (hn : 1 < n) :
    clusterDefaultMaxUnavailable cluster racks < n ↔
      ∃ rack ∈ racks, minReplicationFactor (cluster.getEffectiveConfig rack) ≤ n := by
  have hleast : clusterDefaultMaxUnavailable cluster racks =
      if Least.least (defaultMaxUnavailable cluster) racks < 1 then 1
      else Least.least (defaultMaxUnavailable cluster) racks := rfl
  have hlt := @Least.least_lt _ _ (one_le_defaultMaxUnavailable cluster) n racks hracks
  have hzero := mt (@Least.least_eq_zero _ _ (one_le_defaultMaxUnavailable cluster) racks).1 hracks
  have hnonneg := Least.least_nonneg (one_le_defaultMaxUnavailable cluster) racks
  simp only [defaultMaxUnavailable_lt hn] at hlt
  rw [hleast, ← hlt, if_neg (by omega)]

/-- The default of a cluster whose size was checked stays below the size as soon as one rack brings no
namespaces of its own. -/
theorem minReplicationFactor_le_size {others : OtherChecks} {user : DeclaredCluster}
    (h : admitCluster others user = .ok cluster) (hsize : cluster.spec.sizeKnown = true) {rack : DeclaredRack}
    (hrack : rack ∈ cluster.getRacks) (hown : rack.ownEntries.lookup "namespaces" = none)
    (hpods : 1 < cluster.spec.size) :
    minReplicationFactor (cluster.getEffectiveConfig rack) ≤ cluster.spec.size := by
  have hadmitted : AdmittedSpec cluster.spec := admittedSpec_of_validate (admitCluster_eq_ok h).2
  obtain ⟨base, hbase, -⟩ := clusterPort_of_admitted h
  obtain ⟨effective, heffective, hentries⟩ := getEffectiveConfig_entries rack hbase
  have hmaps : namespaceMaps effective.entries = namespaceMaps base.entries := by
    rw [hentries, namespaceMaps_merge rack.ownEntries_distinct (hadmitted.ownEntries hrack).namespaces, hown]
    rfl
  rw [heffective]
  refine minReplicationFactor_le (by omega) fun nsMap hns => namespaceReplicationFactor_le (by omega) fun rf hrf => ?_
  rw [hmaps] at hns
  exact replicationWithin_of_admitted hadmitted hsize hbase nsMap hns rf hrf

/-! ## What is written -/

def Request.writtenPDB : Request → Option (String × PodDisruptionBudget)
  | .pdb name (.create budget) => some (name, budget)
  | .pdb name (.update budget) => some (name, budget)
  | _ => none

theorem planned_of_written {objects : Objects} {request : Request} {name : String} {pdb : PodDisruptionBudget}
    (hok : PDBRequest cluster objects request) (h : request.writtenPDB = some (name, pdb)) :
    ∃ planned ∈ cluster.plannedPDBs, name = planned.name ∧ pdb.maxUnavailable = some planned.maxUnavailable := by
  match request, hok, h with
  | .pdb _ (.create _), ⟨_, _, planned, hplanned, hname, hpdb⟩, h =>
    cases h
    exact ⟨planned, hplanned, hname, by rw [hpdb]; rfl⟩
  | .pdb _ (.update _), ⟨_, existing, _, _, planned, hplanned, hname, hpdb⟩, h =>
    cases h
    exact ⟨planned, hplanned, hname, by rw [hpdb]; rfl⟩
  | .pdb _ .delete, _, h => cases h

/-- The budget of the whole cluster is real exactly if what it is made from keeps it below the size. -/
def ClusterBudgetReal (cluster : DeclaredCluster) : Prop :=
  RealWhen (clusterConfigured cluster cluster.getRacks) cluster.spec.size
    (∃ rack ∈ cluster.getRacks, minReplicationFactor (cluster.getEffectiveConfig rack) ≤ cluster.spec.size)

def RackBudgetReal (cluster : DeclaredCluster) (rack : DeclaredRack) (rackSize : Int) : Prop :=
  RealWhen (rackConfigured cluster rack) rackSize
    (minReplicationFactor (cluster.getEffectiveConfig rack) ≤ rackSize)

def thirds : DeclaredCluster :=
  { DeclaredCluster.plain "demo" "aerospike:ce-8.1.1.1" 3 [.plain 1 one_lt_idBound none] with
    spec := { (DeclaredCluster.plain "demo" "aerospike:ce-8.1.1.1" 3 [.plain 1 one_lt_idBound none]).spec with
      maxUnavailable := some (.str "33%") } }

def halves : DeclaredCluster :=
  { thirds with spec := { thirds.spec with size := 2, maxUnavailable := some (.str "51%") } }

/-- Four nodes in two racks that hold four copies of everything, one rack with a budget of its own. -/
def copies : DeclaredCluster :=
  { thirds with
    spec := { thirds.spec with
      size := 4
      maxUnavailable := none
      aerospikeConfig := some ⟨[("namespaces", .list [.map [("name", .leaf (.str "test")),
        ("replication-factor", .leaf (.float 4 0))]])], rfl⟩
      rackConfig := some ⟨[{ DeclaredRack.plain 1 one_lt_idBound none with maxUnavailable := some (.int 1) },
        .plain 2 two_lt_idBound none], none, none, none⟩ } }

end Acko
