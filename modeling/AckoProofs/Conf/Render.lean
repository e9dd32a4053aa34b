/-
When an accepted config can be rendered. Admission keeps every section in a shape that the generator takes,
with one exception: it asks for a `name` in each namespace, not for one that is a text.
-/
import AckoProofs.Admission.RackLimits
import AckoProofs.Conf.Access

namespace Acko

/-! ## Loops -/

theorem writeEach_isOk {f : Nat → Value → Except String String} {P : Value → Prop}
    (hf : ∀ i v, (∃ s, f i v = .ok s) ↔ P v) : ∀ {l : List Value} {i : Nat},
      (∃ r, writeEach f i l = .ok r) ↔ ∀ v ∈ l, P v
  | [], i => ⟨(fun _ _ h => by cases h), fun _ => ⟨"", rfl⟩⟩
  | v :: l, i => by
    rw [List.forall_mem_cons, ← hf i v, ← writeEach_isOk hf (l := l) (i := i + 1)]
    constructor
    · rintro ⟨r, hr⟩
      rw [writeEach] at hr
      cases hv : f i v with
      | error e =>
        rw [hv] at hr
        cases hr
      | ok s =>
        cases hl : writeEach f (i + 1) l with
        | error e =>
          rw [hv, hl] at hr
          cases hr
        | ok rest => exact ⟨⟨s, rfl⟩, rest, rfl⟩
    · rintro ⟨⟨s, hs⟩, rest, hrest⟩
      refine ⟨s ++ rest, ?_⟩
      rw [writeEach, hs, hrest]
      rfl

variable {w : Config → String} {config : Config} {cluster : DeclaredCluster} {rack : DeclaredRack}

theorem confSections_isOk : ∀ {m : Config},
    (∃ r, confSections w m = .ok r) ↔ ∀ e ∈ m, ∃ s, confSection w e.1 e.2 = .ok s
  | [] => ⟨(fun _ _ h => by cases h), fun _ => ⟨"", rfl⟩⟩
  | (key, val) :: rest => by
    rw [List.forall_mem_cons, ← confSections_isOk (m := rest)]
    constructor
    · rintro ⟨r, hr⟩
      obtain ⟨s, l, hs, hl, -⟩ := confSections_cons_ok.1 hr
      exact ⟨⟨s, hs⟩, l, hl⟩
    · rintro ⟨⟨s, hs⟩, l, hl⟩
      exact ⟨s ++ l, confSections_cons_ok.2 ⟨s, l, hs, hl, rfl⟩⟩

theorem generateConfigCore_isOk :
    (∃ text, generateConfigCore config w = .ok text) ↔ ∀ e ∈ config, ∃ s, confSection w e.1 e.2 = .ok s := by
  have hsorted : ∀ e, e ∈ config.insertionSort (·.1 ≤ ·.1) ↔ e ∈ config :=
    fun e => (List.perm_insertionSort _ config).mem_iff
  rw [← forall_congr' fun e => imp_congr_left (hsorted e), ← confSections_isOk, generateConfigCore]

/-! ## Sections -/

theorem namespaceSection_isOk (i : Nat) (v : Value) :
    (∃ s, namespaceSection i v = .ok s) ↔ ∃ nsMap, v = .map nsMap ∧ (entryName nsMap).isSome = true := by
  cases v with
  | leaf s => simp [namespaceSection]
  | list l => simp [namespaceSection]
  | map m => cases h : entryName m <;> simp [namespaceSection, h]

theorem sinkSection_isOk (i : Nat) (v : Value) :
    (∃ s, sinkSection i v = .ok s) ↔ ∃ logMap, v = .map logMap ∧ (entryName logMap).isSome = true := by
  cases v with
  | leaf s => simp [sinkSection]
  | list l => simp [sinkSection]
  | map m => cases h : entryName m <;> simp [sinkSection, h]

theorem sinks_of_validateLogging {v : Value} (h : validateLoggingSection v = []) :
    ∃ l, v = .list l ∧ ∀ entry ∈ l, ∃ logMap, entry = .map logMap ∧ (entryName logMap).isSome = true := by
  cases v with
  | leaf s => cases h
  | map m => cases h
  | list l =>
    refine ⟨l, rfl, fun entry hentry => ?_⟩
    rw [validateLoggingSection, List.flatMap_eq_nil_iff] at h
    obtain ⟨i, hi⟩ := List.mem_iff_getElem?.1 hentry
    have herrors := h (entry, i) (List.mem_zipIdx_iff_getElem?.2 hi)
    cases entry with
    | leaf s => cases herrors
    | list l => cases herrors
    | map m =>
      refine ⟨m, rfl, ?_⟩
      unfold sinkErrors at herrors
      dsimp only at herrors
      rw [List.append_eq_nil_iff] at herrors
      unfold entryName
      cases hname : m.lookup "name" with
      | none =>
        rw [hname] at herrors
        cases herrors.1
      | some name =>
        rw [hname] at herrors
        rw [Option.bind_some]
        cases htext : Value.asString name with
        | none => simp [htext] at herrors
        | some s =>
          have hne : s ≠ "" := by
            rintro rfl
            simp [htext] at herrors
          simp [hne]

/-- The shapes that the generator relies on; the namespaces' names apart. -/
structure Shaped (config : Config) : Prop where
  namespaces : ∀ v, config.lookup "namespaces" = some v → ∃ l, v = .list l ∧ ∀ entry ∈ l, ∃ nsMap, entry = .map nsMap
  logging : ∀ v, config.lookup "logging" = some v →
    ∃ l, v = .list l ∧ ∀ entry ∈ l, ∃ logMap, entry = .map logMap ∧ (entryName logMap).isSome = true
  service : ∀ v, config.lookup "service" = some v → ∃ m, v = .map m
  network : ∀ v, config.lookup "network" = some v → ∃ m, v = .map m

theorem CEConfig.shaped (h : CEConfig config) : Shaped config where
  namespaces v hv := maps_of_validateNamespaces (h.namespaces v hv)
  logging v hv := sinks_of_validateLogging (h.logging v hv)
  service := h.service
  network := h.network

def NamespacesNamed (config : Config) : Prop := ∀ nsMap ∈ namespaceMaps config, (entryName nsMap).isSome = true

theorem namespaceMaps_list {l : List Value} (h : config.lookup "namespaces" = some (.list l)) :
    namespaceMaps config = l.filterMap Value.asMap := by
  rw [namespaceMaps, h]
  rfl

theorem confSection_isOk (h : Shaped config) {key : String} {val : Value} (hlook : config.lookup key = some val) :
    (∃ s, confSection w key val = .ok s) ↔ (key = "namespaces" → NamespacesNamed config) := by
  by_cases hns : key = "namespaces"
  · subst hns
    obtain ⟨l, rfl, hmaps⟩ := h.namespaces val hlook
    have hsection : confSection w "namespaces" (.list l) = generateNamespaceSections l := rfl
    rw [hsection, generateNamespaceSections, writeEach_isOk namespaceSection_isOk]
    unfold NamespacesNamed
    rw [namespaceMaps_list hlook]
    simp only [List.mem_filterMap, Value.asMap_eq_some, forall_const]
    constructor
    · rintro hall nsMap ⟨v, hv, rfl⟩
      obtain ⟨m, hm, hname⟩ := hall _ hv
      cases hm
      exact hname
    · intro hall v hv
      obtain ⟨m, rfl⟩ := hmaps v hv
      exact ⟨m, rfl, hall m ⟨_, hv, rfl⟩⟩
  · refine ⟨fun _ heq => absurd heq hns, fun _ => ?_⟩
    unfold confSection
    split
    · exact ⟨"", rfl⟩
    · split
      · rename_i hkey
        subst hkey
        obtain ⟨l, rfl, hsinks⟩ := h.logging val hlook
        obtain ⟨r, hr⟩ := (writeEach_isOk sinkSection_isOk (i := 0)).2 hsinks
        refine ⟨"logging \x7b\n" ++ r ++ "\x7d\n", ?_⟩
        show generateLoggingSection l = _
        rw [generateLoggingSection, hr]
        rfl
      · split
        · exact ⟨"", rfl⟩
        · split
          · rename_i hkey
            subst hkey
            obtain ⟨m, rfl⟩ := h.service val hlook
            exact ⟨_, rfl⟩
          · split
            · rename_i hkey
              subst hkey
              obtain ⟨m, rfl⟩ := h.network val hlook
              exact ⟨_, rfl⟩
            · cases val with
              | map m => exact ⟨_, rfl⟩
              | leaf s => exact ⟨_, rfl⟩
              | list l => exact ⟨_, rfl⟩

/-! ## The config of a rack -/

theorem shaped_minimalConfig (clusterName : String) : Shaped (minimalConfig clusterName) where
  namespaces v hv := by cases hv
  logging v hv := by cases hv
  service v hv := by cases hv; exact ⟨_, rfl⟩
  network v hv := by cases hv; exact ⟨_, rfl⟩

theorem ceConfig_of_effective (h : AdmittedSpec cluster.spec) (hrack : rack ∈ cluster.getRacks) {config : ConfigMap}
    (hconfig : cluster.getEffectiveConfig rack = some config) : CEConfig config.entries := by
  have hown : ∀ c, rack.aerospikeConfig = some c → CEConfig c.entries := by
    intro c hc
    have hce := h.ownEntries hrack
    rw [DeclaredRack.ownEntries, hc] at hce
    exact hce
  have hcluster : ∀ c, cluster.spec.aerospikeConfig = some c → CEConfig c.entries :=
    fun c hc => validateAerospikeConfig_eq_nil.1 (h.config c hc)
  unfold DeclaredCluster.getEffectiveConfig at hconfig
  split at hconfig
  · exact hown config hconfig
  · rename_i c hc _
    cases hconfig
    exact hcluster _ hc
  · rename_i c rc hc hrc
    cases hconfig
    exact CEConfig.merge rc.distinct (hcluster c hc) (hown rc hrc)

/-- What the reconciler reads of an admitted cluster: racks with ids of their own, whose sizes add up to the cluster's
and whose configs are of the Community Edition. -/
theorem reconciled_racks_of_admitted (h : AdmittedSpec cluster.spec) (hsize : 0 ≤ cluster.spec.size) :
    ((getRacks cluster.toCluster).map (·.id)).Nodup ∧
    ((List.range (getRacks cluster.toCluster).length).map
      (getRackSize cluster.toCluster (getRacks cluster.toCluster))).sum = cluster.spec.size ∧
    ∀ rack ∈ getRacks cluster.toCluster, ∀ config, getEffectiveConfig cluster.toCluster rack = some config →
      CEConfig config := by
  refine ⟨?_, ?_, ?_⟩
  · rw [getRacks_toCluster, List.map_map]
    change (cluster.getRacks.map (·.id)).Nodup
    rw [DeclaredCluster.getRacks_eq]
    split
    · exact List.nodup_singleton 0
    · exact h.nodup_ids
  · rw [funext (getRackSize_toCluster cluster), getRacks_toCluster, List.length_map]
    exact sum_rackSizes hsize (List.length_pos_iff.2 cluster.getRacks_ne_nil)
  · intro rack hrack config hconfig
    rw [getRacks_toCluster] at hrack
    obtain ⟨declared, hmem, rfl⟩ := List.mem_map.1 hrack
    rw [getEffectiveConfig_toCluster] at hconfig
    obtain ⟨effective, heffective, rfl⟩ := Option.map_eq_some_iff.1 hconfig
    exact ceConfig_of_effective h hmem heffective

theorem shaped_configOf (h : AdmittedSpec cluster.spec) (hrack : rack ∈ cluster.getRacks) :
    Shaped (cluster.configOf rack) := by
  unfold DeclaredCluster.configOf
  cases hconfig : cluster.getEffectiveConfig rack with
  | none => exact shaped_minimalConfig cluster.name
  | some config => exact (ceConfig_of_effective h hrack hconfig).shaped

theorem distinct_configOf (cluster : DeclaredCluster) (rack : DeclaredRack) :
    DocTree.wellKeyedFields (cluster.configOf rack) = true := by
  unfold DeclaredCluster.configOf
  cases cluster.getEffectiveConfig rack with
  | none => rfl
  | some config => exact config.distinct

theorem mem_renderedConfig {e : String × Value} (he : e ∈ cluster.renderedConfig rack) :
    e ∈ cluster.configOf rack ∨ e.1 = "network" ∧ ∃ m, e.2 = .map m := by
  rcases cluster.renderedConfig_cases rack with h | ⟨p, net, svc, -, -, h⟩
  · rw [h] at he
    exact Or.inl he
  · rw [h] at he
    rcases DocTree.mem_of_mem_put he with ⟨hkey, hval⟩ | he
    · exact Or.inr ⟨hkey, _, hval⟩
    · exact Or.inl he

theorem mem_renderedConfig_of_ne {key : String} {v : Value} (hne : key ≠ "network")
    (h : (key, v) ∈ cluster.configOf rack) : (key, v) ∈ cluster.renderedConfig rack := by
  rcases cluster.renderedConfig_cases rack with heq | ⟨p, net, svc, -, -, heq⟩
  · rw [heq]
    exact h
  · rw [heq]
    exact DocTree.mem_put_of_ne hne h

/-- The config of a rack of an accepted cluster is rendered, for any pods, exactly if each of its namespaces
has a name that is a text and not empty. -/
theorem accepted_config_renders {others : OtherChecks} {cluster : DeclaredCluster}
    (h : cluster.spec.validate others = none) {rack : DeclaredRack} (hrack : rack ∈ cluster.getRacks)
    (serviceName namespace_ : String) (podNames : List String) (heartbeatPort : Int) :
    (∃ text,
      generateConfForPod (cluster.renderedConfig rack) serviceName namespace_ podNames heartbeatPort = .ok text) ↔
      NamespacesNamed (cluster.configOf rack) := by
  have hshaped := shaped_configOf (admittedSpec_of_validate h) hrack
  have hdistinct := distinct_configOf cluster rack
  rw [generateConfForPod, generateConfigCore_isOk]
  constructor
  · intro hall
    cases hns : (cluster.configOf rack).lookup "namespaces" with
    | none =>
      intro nsMap hmem
      rw [namespaceMaps, hns] at hmem
      cases hmem
    | some v =>
      have hmem := mem_renderedConfig_of_ne (by decide) (DocTree.mem_of_lookup hns)
      exact (confSection_isOk hshaped hns).1 (hall _ hmem) rfl
  · intro hnamed e he
    rcases mem_renderedConfig he with hmem | ⟨hkey, m, hm⟩
    · exact (confSection_isOk hshaped (DocTree.lookup_of_mem hdistinct hmem)).2 fun _ => hnamed
    · rw [hkey, hm]
      exact ⟨_, rfl⟩

def namedUser (name : Scalar) : DeclaredCluster :=
  { DeclaredCluster.plain "demo" "aerospike:ce-8.1.1.1" 1 [.plain 1 one_lt_idBound none] with
    spec := { (DeclaredCluster.plain "demo" "aerospike:ce-8.1.1.1" 1 [.plain 1 one_lt_idBound none]).spec with
      aerospikeConfig := some ⟨[("namespaces", .list [.map [("name", .leaf name)]])], rfl⟩ } }

theorem accepted_config_renders_test : ∃ cluster, admitCluster .none (namedUser (.str "test")) = .ok cluster ∧
    ∀ rack ∈ cluster.getRacks, ∀ podNames, ∃ text,
      generateConfForPod (cluster.renderedConfig rack) cluster.name "default" podNames heartbeatPort = .ok text := by
  have hadm : admitCluster .none (namedUser (.str "test")) = .ok _ := rfl
  refine ⟨_, hadm, fun rack hrack podNames =>
    (accepted_config_renders (admitCluster_eq_ok hadm).2 hrack _ "default" podNames heartbeatPort).2 ?_⟩
  cases List.mem_singleton.1 hrack
  intro nsMap hns
  cases List.mem_singleton.1 hns
  rfl

/-- A name that is a number is accepted and cannot be rendered. -/
theorem accepted_config_fails : ∃ cluster, admitCluster .none (namedUser (.float 5 0)) = .ok cluster ∧
    ∃ rack ∈ cluster.getRacks, rackConf cluster rack "default" =
      .error "generating aerospike.conf: namespace entry 0 missing 'name' key" :=
  ⟨_, rfl, _, List.mem_cons_self, rfl⟩

end Acko
