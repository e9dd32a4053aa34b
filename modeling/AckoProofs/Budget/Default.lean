/-
What the budget protects that nobody sets. It is derived from the replication factors of the racks' effective
configs, as the operator reads them: a factor that is no number counts as Aerospike's default of 2, a number
is narrowed to 32 bits. Narrowing is where the derivation can err on the unsafe side.
-/
import AckoProofs.Budget.Real

namespace Acko

/-! ## Factors -/

def statedNamespaces (config : Option ConfigMap) : List Value :=
  match config with
  | none => []
  | some config => ((config.entries.lookup "namespaces").bind Value.asList).getD []

def statedFactor (entry : Value) : Option Value := entry.asMap.bind (·.lookup "replication-factor")

/-- The integer that a value is: an `int`, or a `float64` without a fraction. -/
def wholeNumber : Value → Option Int
  | .leaf (.int i) => some i
  | .leaf (.float m e) => if floatWhole m e then some (floatTrunc m e) else none
  | _ => none

/-- The factor of an entry, if it is an integer below 2^31; an entry without one has it missing or malformed. -/
def wellFormedFactor (entry : Value) : Option Int :=
  ((statedFactor entry).bind wholeNumber).filter (fun rf => decide (rf < 2147483648))

/-- The factor is read as 2 or less: it is no number, or narrowing makes it 2 or less. Less than 1 becomes 2, and so
does a `float64` out of range. -/
def ReadLow : Option Value → Prop
  | some (.leaf (.int i)) => i.bmod 4294967296 ≤ 2
  | some (.leaf (.float m e)) => floatTrunc m e < 3 ∨ 2147483648 ≤ floatTrunc m e
  | _ => True

/-- Of the entries that are maps one has a factor that is read as 2 or less; or there is none. -/
def LowestIsTwo (config : Option ConfigMap) : Prop :=
  (∀ entry ∈ statedNamespaces config, entry.asMap = none) ∨
    ∃ entry ∈ statedNamespaces config, ∃ nsMap, entry.asMap = some nsMap ∧ ReadLow (nsMap.lookup "replication-factor")

/-! ## How they are read -/

theorem clamp_le_iff {rf bound : Int} (hbound : 2 ≤ bound) :
    (if rf < 1 then defaultReplicationFactor else rf) ≤ bound ↔ rf ≤ bound := by
  unfold defaultReplicationFactor
  split <;> omega

theorem namespaceReplicationFactor_le_two {nsMap : Config} :
    namespaceReplicationFactor nsMap ≤ 2 ↔ ReadLow (nsMap.lookup "replication-factor") := by
  unfold namespaceReplicationFactor
  rw [clamp_le_iff (by decide)]
  generalize nsMap.lookup "replication-factor" = stated
  match stated with
  | some (.leaf (.int i)) => exact Iff.rfl
  | some (.leaf (.float m e)) =>
    show int32OfFloat m e ≤ 2 ↔ floatTrunc m e < 3 ∨ 2147483648 ≤ floatTrunc m e
    unfold int32OfFloat
    split <;> omega
  | none | some (.leaf .nil) | some (.leaf (.bool _)) | some (.leaf (.str _)) | some (.list _) | some (.map _) =>
    exact iff_of_true (Int.le_refl 2) trivial

variable {entry : Value} {config : Option ConfigMap}

theorem minReplicationFactor_le_two : minReplicationFactor config ≤ 2 ↔ LowestIsTwo config := by
  cases config with
  | none => exact iff_of_true (by decide) (Or.inl fun _ h => by cases h)
  | some config =>
    have hmaps : namespaceMaps config.entries = (statedNamespaces (some config)).filterMap Value.asMap := rfl
    rw [minReplicationFactor_le_iff (by decide), hmaps, List.filterMap_eq_nil_iff]
    refine or_congr Iff.rfl ?_
    simp only [namespaceReplicationFactor_le_two, List.mem_filterMap]
    constructor
    · rintro ⟨nsMap, ⟨entry, hentry, hmap⟩, hlow⟩
      exact ⟨entry, hentry, nsMap, hmap, hlow⟩
    · rintro ⟨entry, hentry, nsMap, hmap, hlow⟩
      exact ⟨nsMap, ⟨entry, hentry, hmap⟩, hlow⟩

theorem wellFormedFactor_eq_some {rf : Int} (h : wellFormedFactor entry = some rf) :
    ∃ nsMap v, entry.asMap = some nsMap ∧ nsMap.lookup "replication-factor" = some v ∧ wholeNumber v = some rf ∧
      rf < 2147483648 := by
  unfold wellFormedFactor statedFactor at h
  rw [Option.filter_eq_some_iff, Option.bind_eq_some_iff] at h
  obtain ⟨⟨v, hstated, hwhole⟩, hlt⟩ := h
  obtain ⟨nsMap, hmap, hv⟩ := Option.bind_eq_some_iff.1 hstated
  exact ⟨nsMap, v, hmap, hv, hwhole, of_decide_eq_true hlt⟩

theorem int32Of_eq_self {v : Int} (hlo : -2147483648 ≤ v) (hhi : v < 2147483648) : int32Of v = v := by
  unfold int32Of Int.bmod
  dsimp only
  split <;> omega

theorem namespaceReplicationFactor_of_whole {nsMap : Config} {v : Value} {rf : Int}
    (hv : nsMap.lookup "replication-factor" = some v) (hrf : wholeNumber v = some rf) (hlo : 1 ≤ rf)
    (hhi : rf < 2147483648) : namespaceReplicationFactor nsMap = rf := by
  let clamp (i : Int) : Int := if i < 1 then defaultReplicationFactor else i
  have hclamp : clamp rf = rf := if_neg (by omega)
  unfold namespaceReplicationFactor
  rw [hv]
  unfold wholeNumber at hrf
  split at hrf
  · cases hrf
    exact (congrArg clamp (int32Of_eq_self (by omega) hhi)).trans hclamp
  · split at hrf
    · cases hrf
      exact (congrArg clamp (if_pos ⟨by omega, hhi⟩)).trans hclamp
    · cases hrf
  · cases hrf

theorem minReplicationFactor_le_wellFormed {rf : Int} (hentry : entry ∈ statedNamespaces config)
    (hrf : wellFormedFactor entry = some rf) (htwo : 2 ≤ rf) : minReplicationFactor config ≤ rf := by
  obtain ⟨nsMap, v, hmap, hv, hnumber, hlt⟩ := wellFormedFactor_eq_some hrf
  cases config with
  | none => cases hentry
  | some config =>
    exact (minReplicationFactor_le_iff htwo).2 (Or.inr ⟨nsMap, List.mem_filterMap.2 ⟨entry, hentry, hmap⟩,
      (namespaceReplicationFactor_of_whole hv hnumber (by omega) hlt).le⟩)

/-! ## The budget -/

/-- With no budget set anywhere: the cluster's budget is at least 1, is below every well-formed factor of every rack and
is 1 as soon as a rack has an entry whose factor is missing or malformed, if and only if there is no such entry or the
lowest factor that is read in one of the racks is 2 or less. -/
theorem default_budget_protects (cluster : DeclaredCluster) (racks : List DeclaredRack)
    (hcluster : cluster.spec.maxUnavailable = none) (hracks : ∀ rack ∈ racks, rack.maxUnavailable = none)
    (hfactors : ∀ rack ∈ racks, ∀ entry ∈ statedNamespaces (cluster.getEffectiveConfig rack), ∀ rf,
      wellFormedFactor entry = some rf → 2 ≤ rf) :
    (∃ mu, clusterPDBPolicy cluster racks = .int mu ∧ 1 ≤ mu ∧
      (∀ rack ∈ racks, ∀ entry ∈ statedNamespaces (cluster.getEffectiveConfig rack), ∀ rf,
        wellFormedFactor entry = some rf → mu < rf) ∧
      ((∃ rack ∈ racks, ∃ entry ∈ statedNamespaces (cluster.getEffectiveConfig rack), wellFormedFactor entry = none) →
        mu = 1)) ↔
    (¬ ∃ rack ∈ racks, ∃ entry ∈ statedNamespaces (cluster.getEffectiveConfig rack), wellFormedFactor entry = none) ∨
      ∃ rack ∈ racks, LowestIsTwo (cluster.getEffectiveConfig rack) := by
  have hconfigured : clusterConfigured cluster racks = none := by
    unfold clusterConfigured
    split
    · unfold rackConfigured
      rw [hracks _ (List.mem_singleton_self _)]
      exact hcluster
    · exact hcluster
  have hpolicy : clusterPDBPolicy cluster racks = .int (clusterDefaultMaxUnavailable cluster racks) := by
    unfold clusterPDBPolicy
    rw [hconfigured]
    rfl
  have hpositive := one_le_clusterDefaultMaxUnavailable cluster racks
  have hone : racks ≠ [] → (clusterDefaultMaxUnavailable cluster racks = 1 ↔
      ∃ rack ∈ racks, LowestIsTwo (cluster.getEffectiveConfig rack)) := by
    intro hne
    simp only [← minReplicationFactor_le_two]
    rw [← clusterDefaultMaxUnavailable_lt hne (by decide)]
    omega
  constructor
  · rintro ⟨mu, hmu, -, -, hmalformed⟩
    rw [hpolicy] at hmu
    cases hmu
    rw [or_iff_not_imp_left, not_not]
    intro hsome
    have ⟨rack, hrack, _⟩ := hsome
    exact (hone (List.ne_nil_of_mem hrack)).1 (hmalformed hsome)
  · intro h
    refine ⟨_, hpolicy, hpositive, ?_, ?_⟩
    · intro rack hrack entry hentry rf hrf
      have htwo := hfactors rack hrack entry hentry rf hrf
      exact (clusterDefaultMaxUnavailable_lt (List.ne_nil_of_mem hrack) (by omega)).2
        ⟨rack, hrack, minReplicationFactor_le_wellFormed hentry hrf htwo⟩
    · intro hsome
      obtain ⟨rack, hrack, hlow⟩ := h.resolve_left (not_not_intro hsome)
      exact (hone (List.ne_nil_of_mem hrack)).2 ⟨rack, hrack, hlow⟩

def replicated (name : String) (factor : Scalar) : Value :=
  .map [("name", .leaf (.str name)), ("replication-factor", .leaf factor)]

/-- One rack with a config of its own, whose two namespaces have these factors. -/
def factors (first second : Scalar) : DeclaredCluster :=
  .plain "demo" "aerospike:ce-8.1.1.1" 5 [.plain 1 one_lt_idBound (some ⟨[("namespaces",
    .list [replicated "test" first, replicated "bar" second])], rfl⟩)]

/-- 3.5 is no replication factor, but beside a factor of 2 nothing comes of it. -/
theorem default_budget_protects_unreadable :
    clusterPDBPolicy (factors (.float 2 0) (.float 35 (-1))) (factors (.float 2 0) (.float 35 (-1))).getRacks =
      .int 1 := by
  have hunset : ∀ rack ∈ (factors (.float 2 0) (.float 35 (-1))).getRacks, rack.maxUnavailable = none := by
    intro rack hrack
    cases List.mem_singleton.1 hrack
    rfl
  have htwo : ∀ rack ∈ (factors (.float 2 0) (.float 35 (-1))).getRacks, ∀ entry ∈ statedNamespaces
      ((factors (.float 2 0) (.float 35 (-1))).getEffectiveConfig rack), ∀ rf, wellFormedFactor entry = some rf →
        2 ≤ rf := by
    intro rack hrack entry hentry rf hrf
    cases List.mem_singleton.1 hrack
    rcases List.mem_cons.1 hentry with rfl | hentry
    · cases hrf
      decide
    · cases List.mem_singleton.1 hentry
      cases hrf
  obtain ⟨mu, hpolicy, -, -, hone⟩ := (default_budget_protects _ _ rfl hunset htwo).2
    (Or.inr ⟨_, List.mem_singleton_self _, Or.inr ⟨_, List.mem_cons_self, _, rfl, Or.inl (by decide)⟩⟩)
  rw [hpolicy, hone ⟨_, List.mem_singleton_self _, _, List.mem_cons_of_mem _ (List.mem_singleton_self _), by decide⟩]

/-- Beside a factor of 4 it is narrowed to 3, and the budget lets two pods go at once; such a rack is admitted. -/
theorem default_budget_reads_fraction :
    ∃ cluster, admitCluster .none (factors (.float 4 0) (.float 35 (-1))) = .ok cluster ∧
      cluster.spec.maxUnavailable = none ∧ (∀ rack ∈ cluster.getRacks, rack.maxUnavailable = none) ∧
      (∀ rack ∈ cluster.getRacks, ∀ entry ∈ statedNamespaces (cluster.getEffectiveConfig rack), ∀ rf,
        wellFormedFactor entry = some rf → 2 ≤ rf) ∧
      (∃ rack ∈ cluster.getRacks, ∃ entry ∈ statedNamespaces (cluster.getEffectiveConfig rack),
        wellFormedFactor entry = none) ∧
      clusterPDBPolicy cluster cluster.getRacks = .int 2 := by
  refine ⟨_, rfl, rfl, ?_, ?_, ⟨_, List.mem_singleton_self _, replicated "bar" (.float 35 (-1)),
    List.mem_cons_of_mem _ (List.mem_singleton_self _), by decide⟩, by decide +kernel⟩
  · intro rack hrack
    cases List.mem_singleton.1 hrack
    rfl
  · intro rack hrack entry hentry rf hrf
    cases List.mem_singleton.1 hrack
    rcases List.mem_cons.1 hentry with rfl | hentry
    · cases hrf
      decide
    · cases List.mem_singleton.1 hentry
      cases hrf

end Acko
