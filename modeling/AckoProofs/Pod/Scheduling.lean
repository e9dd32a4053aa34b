/-
Which nodes a rack's pods may be scheduled on. The affinity of the template is put together by four steps, of
which some add to what is there and some replace it: the rack's placement replaces the node affinity, and the
affinity of the rack's own pod section replaces all of it. This module says what the nodes that the template
allows still satisfy.
-/
import AckoProofs.Pod.Template

namespace Acko

/-! ## Nodes -/

/-- A node, as the scheduler looks at it: its labels, and the fields that a selector may name. -/
structure KubeNode where
  labels : StringMap
  fields : StringMap

/-- The integer that a label holds is compared with the one in the requirement. -/
def numberMet (value : Option String) (values : List String) (cmp : Int → Int → Bool) : Bool :=
  match value.bind atoi, values with
  | some n, [bound] => (atoi bound).any (cmp n)
  | _, _ => false

/-- A requirement on labels; one that a value is not in holds as well where there is no value. -/
def NodeSelectorRequirement.met (values : StringMap) (r : NodeSelectorRequirement) : Bool :=
  let value := values.lookup r.key
  match r.operator with
  | .opIn => value.any (· ∈ r.values)
  | .opNotIn => value.all (· ∉ r.values)
  | .opExists => value.isSome
  | .opDoesNotExist => value.isNone
  | .opGt => numberMet value r.values fun n bound => decide (bound < n)
  | .opLt => numberMet value r.values fun n bound => decide (n < bound)

/-- All requirements of a term hold; a term without any holds nowhere. -/
def NodeSelectorTerm.matches (node : KubeNode) (t : NodeSelectorTerm) : Bool :=
  !(t.matchExpressions.isEmpty && t.matchFields.isEmpty) &&
    t.matchExpressions.all (·.met node.labels) && t.matchFields.all (·.met node.fields)

/-- The required node affinity. -/
def requiredSelector (affinity : Option Affinity) : Option NodeSelector :=
  affinity.bind fun a => a.nodeAffinity.bind (·.required)

/-- The node satisfies the required node affinity: one of its terms, if there is one. -/
def Affinity.allows (node : KubeNode) (affinity : Option Affinity) : Bool :=
  match requiredSelector affinity with
  | some selector => selector.nodeSelectorTerms.any (·.matches node)
  | none => true

/-- The node's hostname is not in the block list. -/
def KubeNode.Unblocked (blockList : List String) (node : KubeNode) : Prop :=
  ∀ host, node.labels.lookup hostnameLabelKey = some host → host ∉ blockList

/-- What an affinity allows once a block list has joined it: the nodes outside the list that meet the requirements of
one of its terms, if it has terms. A term without requirements, which holds nowhere by itself, is met by all of them. -/
def Affinity.AllowsBeside (blockList : List String) (node : KubeNode) (affinity : Option Affinity) : Prop :=
  if blockList = [] then Affinity.allows node affinity = true
  else node.Unblocked blockList ∧
    ∀ selector, requiredSelector affinity = some selector → selector.nodeSelectorTerms ≠ [] →
      ∃ t ∈ selector.nodeSelectorTerms,
        t.matchExpressions.all (·.met node.labels) = true ∧ t.matchFields.all (·.met node.fields) = true

/-- The node is where the rack's zone, region, node name and label ask for, as far as they are set. -/
structure RackSpec.PlacedOn (rack : RackSpec) (node : KubeNode) : Prop where
  zone : rack.zone ≠ "" → node.labels.lookup "topology.kubernetes.io/zone" = some rack.zone
  region : rack.region ≠ "" → node.labels.lookup "topology.kubernetes.io/region" = some rack.region
  nodeName : rack.nodeName ≠ "" → node.labels.lookup hostnameLabelKey = some rack.nodeName
  rackLabel : rack.rackLabel ≠ "" → node.labels.lookup "acko.io/rack" = some rack.rackLabel

/-! ## The rack's placement -/

variable {node : KubeNode} {rack : RackSpec} {affinity : Option Affinity} {blockList : List String}
  {cluster : AerospikeCluster}

theorem met_placement {key value : String} :
    NodeSelectorRequirement.met node.labels ⟨key, .opIn, [value]⟩ = true ↔ node.labels.lookup key = some value := by
  unfold NodeSelectorRequirement.met
  dsimp only
  cases node.labels.lookup key with
  | none => simp
  | some v => rw [Option.any_some, decide_eq_true_eq, List.mem_singleton, Option.some_inj]

theorem placedOn_iff : rack.PlacedOn node ↔ ∀ r ∈ rackAffinityTerms rack, r.met node.labels = true := by
  have hmet : (∀ r ∈ rackAffinityTerms rack, r.met node.labels = true) ↔
      ∀ e ∈ [("topology.kubernetes.io/zone", rack.zone), ("topology.kubernetes.io/region", rack.region),
        (hostnameLabelKey, rack.nodeName), ("acko.io/rack", rack.rackLabel)],
        e.2 ≠ "" → node.labels.lookup e.1 = some e.2 := by
    constructor
    · intro h e he hne
      exact met_placement.1 (h _ (List.mem_filterMap.2 ⟨e, he, if_neg hne⟩))
    · intro h r hr
      obtain ⟨e, he, hterm⟩ := List.mem_filterMap.1 hr
      obtain ⟨hne, heq⟩ := Option.ite_none_left_eq_some.1 hterm
      cases heq
      exact met_placement.2 (h e he hne)
  rw [hmet]
  simp only [List.forall_mem_cons]
  constructor
  · intro h
    exact ⟨h.zone, h.region, h.nodeName, h.rackLabel, List.forall_mem_nil _⟩
  · rintro ⟨hzone, hregion, hname, hlabel, -⟩
    exact ⟨hzone, hregion, hname, hlabel⟩

/-! ## The block list -/

/-- Every term has a requirement, and there is a term. -/
def NodeSelector.Proper (selector : NodeSelector) : Prop :=
  selector.nodeSelectorTerms ≠ [] ∧
    ∀ t ∈ selector.nodeSelectorTerms, (t.matchExpressions.isEmpty && t.matchFields.isEmpty) = false

theorem allows_of_required_none (h : requiredSelector affinity = none) : Affinity.allows node affinity = true := by
  rw [Affinity.allows, h]

theorem allows_iff {selector : NodeSelector} (h : requiredSelector affinity = some selector) :
    Affinity.allows node affinity = true ↔ ∃ t ∈ selector.nodeSelectorTerms, t.matches node = true := by
  rw [Affinity.allows, h]
  exact List.any_eq_true

theorem required_blocked {selector : NodeSelector} (hlist : blockList ≠ [])
    (h : requiredSelector affinity = some selector) (hne : selector.nodeSelectorTerms ≠ []) :
    requiredSelector (applyK8sNodeBlockList blockList affinity) =
      some ⟨selector.nodeSelectorTerms.map (·.block blockList)⟩ := by
  obtain ⟨a, rfl, hrequired⟩ := Option.bind_eq_some_iff.1 h
  obtain ⟨n, hnode, hselector⟩ := Option.bind_eq_some_iff.1 hrequired
  rw [applyK8sNodeBlockList_eq hlist]
  simp [requiredSelector, hnode, NodeAffinity.openTerms, hselector, hne]

theorem required_block_alone (hlist : blockList ≠ []) (h : requiredSelector affinity = none ∨
    ∃ selector, requiredSelector affinity = some selector ∧ selector.nodeSelectorTerms = []) :
    requiredSelector (applyK8sNodeBlockList blockList affinity) =
      some ⟨[NodeSelectorTerm.block blockList ⟨[], []⟩]⟩ := by
  rw [applyK8sNodeBlockList_eq hlist]
  have hterms : ((affinity.getD .empty).nodeAffinity.getD .empty).openTerms = [⟨[], []⟩] := by
    unfold NodeAffinity.openTerms
    rcases h with hnone | ⟨selector, hselector, hnil⟩
    · cases affinity with
      | none => rfl
      | some a =>
        rw [requiredSelector, Option.bind_some] at hnone
        cases hnode : a.nodeAffinity with
        | none => simp [hnode, NodeAffinity.empty]
        | some n =>
          rw [hnode, Option.bind_some] at hnone
          simp [hnode, hnone]
    · obtain ⟨a, rfl, hrequired⟩ := Option.bind_eq_some_iff.1 hselector
      obtain ⟨n, hnode, hn⟩ := Option.bind_eq_some_iff.1 hrequired
      simp [hnode, hn, hnil]
  simp only [hterms]
  rfl

theorem met_blockedRequirement : (blockedRequirement blockList).met node.labels = true ↔ node.Unblocked blockList := by
  unfold NodeSelectorRequirement.met blockedRequirement KubeNode.Unblocked
  cases node.labels.lookup hostnameLabelKey <;> simp

theorem matches_block {t : NodeSelectorTerm} :
    (t.block blockList).matches node = true ↔ node.Unblocked blockList ∧
      t.matchExpressions.all (·.met node.labels) = true ∧ t.matchFields.all (·.met node.fields) = true := by
  rw [← met_blockedRequirement]
  simp [NodeSelectorTerm.matches, NodeSelectorTerm.block, and_assoc, and_left_comm]

theorem matches_iff {t : NodeSelectorTerm} (hopen : (t.matchExpressions.isEmpty && t.matchFields.isEmpty) = false) :
    t.matches node = true ↔
      t.matchExpressions.all (·.met node.labels) = true ∧ t.matchFields.all (·.met node.fields) = true := by
  rw [NodeSelectorTerm.matches, hopen]
  simp only [Bool.not_false, Bool.true_and, Bool.and_eq_true]

theorem allows_block_iff :
    Affinity.allows node (applyK8sNodeBlockList blockList affinity) = true ↔
      Affinity.AllowsBeside blockList node affinity := by
  unfold Affinity.AllowsBeside
  by_cases hlist : blockList = []
  · rw [if_pos hlist, hlist]
    exact Iff.rfl
  rw [if_neg hlist]
  cases hrequired : requiredSelector affinity with
  | none =>
    rw [allows_iff (required_block_alone hlist (Or.inl hrequired))]
    simp [matches_block]
  | some selector =>
    by_cases hne : selector.nodeSelectorTerms = []
    · rw [allows_iff (required_block_alone hlist (Or.inr ⟨selector, hrequired, hne⟩))]
      simp [matches_block, hne]
    · rw [allows_iff (required_blocked hlist hrequired hne)]
      simp only [List.mem_map, exists_exists_and_eq_and, matches_block, Option.some_inj, forall_eq', ne_eq, hne,
        not_false_eq_true, true_implies]
      exact ⟨fun ⟨t, ht, hnode, hmet⟩ => ⟨hnode, t, ht, hmet⟩, fun ⟨hnode, t, ht, hmet⟩ => ⟨t, ht, hnode, hmet⟩⟩

/-- The block list only narrows what a proper selector allows. -/
theorem allows_of_proper
    (hproper : blockList ≠ [] → ∀ selector, requiredSelector affinity = some selector → selector.Proper)
    (h : Affinity.AllowsBeside blockList node affinity) : Affinity.allows node affinity = true := by
  unfold Affinity.AllowsBeside at h
  split at h
  · exact h
  · rename_i hlist
    cases hrequired : requiredSelector affinity with
    | none => exact allows_of_required_none hrequired
    | some selector =>
      obtain ⟨hne, hopen⟩ := hproper hlist selector hrequired
      obtain ⟨t, ht, hmet⟩ := h.2 selector hrequired hne
      exact (allows_iff hrequired).2 ⟨t, ht, (matches_iff (hopen t ht)).2 hmet⟩

/-- A term without requirements holds nowhere, and with the block it holds on all nodes outside the list. -/
theorem allowsBeside_of_not_proper {selector : NodeSelector} (hlist : blockList ≠ [])
    (hrequired : requiredSelector affinity = some selector) (hproper : ¬ selector.Proper)
    (hnode : node.Unblocked blockList) : Affinity.AllowsBeside blockList node affinity := by
  rw [Affinity.AllowsBeside, if_neg hlist]
  refine ⟨hnode, fun selector' hselector hne => ?_⟩
  rw [hrequired, Option.some_inj] at hselector
  subst hselector
  have hopen : ∃ t ∈ selector.nodeSelectorTerms, (t.matchExpressions.isEmpty && t.matchFields.isEmpty) = true := by
    by_contra hnone
    refine hproper ⟨hne, fun t ht => ?_⟩
    rw [Bool.eq_false_iff]
    exact fun hempty => hnone ⟨t, ht, hempty⟩
  obtain ⟨t, ht, hempty⟩ := hopen
  rw [Bool.and_eq_true, List.isEmpty_iff, List.isEmpty_iff] at hempty
  exact ⟨t, ht, by rw [hempty.1]; rfl, by rw [hempty.2]; rfl⟩

/-! ## What the steps keep -/

/-- The affinity of the cluster's section, with the term for one pod a node where that is asked for. -/
def spreadAffinity (cluster : AerospikeCluster) : Option Affinity :=
  if shouldInjectAntiAffinity cluster then injectPodAntiAffinity cluster.name cluster.affinity else cluster.affinity

def KeepsApart (cluster : AerospikeCluster) (affinity : Option Affinity) : Prop :=
  ∃ a anti, affinity = some a ∧ a.podAntiAffinity = some anti ∧ antiAffinityTerm cluster.name ∈ anti.required

theorem required_spread (cluster : AerospikeCluster) :
    requiredSelector (spreadAffinity cluster) = requiredSelector cluster.affinity := by
  unfold spreadAffinity
  split
  · unfold injectPodAntiAffinity requiredSelector
    cases cluster.affinity <;> rfl
  · rfl

theorem keepsApart_spread (h : shouldInjectAntiAffinity cluster = true) :
    KeepsApart cluster (spreadAffinity cluster) := by
  rw [spreadAffinity, if_pos h]
  exact ⟨_, _, rfl, rfl, List.mem_append_right _ (List.mem_singleton_self _)⟩

theorem KeepsApart.applyRackAffinity (rack : RackSpec) (h : KeepsApart cluster affinity) :
    KeepsApart cluster (applyRackAffinity rack affinity) := by
  obtain ⟨a, anti, rfl, hanti, hterm⟩ := h
  unfold Acko.applyRackAffinity
  split
  · exact ⟨a, anti, rfl, hanti, hterm⟩
  · exact ⟨_, anti, rfl, hanti, hterm⟩

theorem keepsApart_block_iff :
    KeepsApart cluster (applyK8sNodeBlockList blockList affinity) ↔ KeepsApart cluster affinity := by
  unfold Acko.applyK8sNodeBlockList
  split
  · exact Iff.rfl
  · cases affinity with
    | none =>
      constructor
      · rintro ⟨a, anti, ha, hanti, -⟩
        cases ha
        cases hanti
      · rintro ⟨a, anti, ha, -⟩
        cases ha
    | some own =>
      constructor
      · rintro ⟨a, anti, ha, hanti, hterm⟩
        cases ha
        exact ⟨own, anti, rfl, hanti, hterm⟩
      · rintro ⟨a, anti, ha, hanti, hterm⟩
        cases ha
        exact ⟨_, anti, rfl, hanti, hterm⟩

theorem required_placed (h : rackAffinityTerms rack ≠ []) (affinity : Option Affinity) :
    requiredSelector (applyRackAffinity rack affinity) = some ⟨[⟨rackAffinityTerms rack, []⟩]⟩ := by
  unfold applyRackAffinity
  split
  · rename_i hnil
    exact absurd hnil h
  · rfl

theorem applyRackAffinity_unplaced (h : rackAffinityTerms rack = []) (affinity : Option Affinity) :
    applyRackAffinity rack affinity = affinity := by
  rw [applyRackAffinity, h]

theorem placedOn_of_unplaced (h : rackAffinityTerms rack = []) (node : KubeNode) : rack.PlacedOn node := by
  rw [placedOn_iff, h]
  rintro _ ⟨⟩

theorem allowsBeside_placed (h : rackAffinityTerms rack ≠ []) :
    Affinity.AllowsBeside blockList node (applyRackAffinity rack affinity) ↔
      node.Unblocked blockList ∧ rack.PlacedOn node := by
  rw [Affinity.AllowsBeside, required_placed h, placedOn_iff, ← List.all_eq_true]
  by_cases hlist : blockList = []
  · rw [if_pos hlist, allows_iff (required_placed h affinity), hlist]
    simp [matches_iff, h, KubeNode.Unblocked]
  · rw [if_neg hlist]
    simp

/-! ## The template -/

/-- Where a step replaces a constraint, what it puts there asks for no less: the rack's own affinity, for the
placement and the term that keeps pods apart; the placement, for what the cluster's section requires of nodes; and the
block list that joins a selector without terms or with an empty one, for what that selector requires. -/
structure ReplacedByNoLess (cluster : AerospikeCluster) (rack : RackSpec) : Prop where
  own : rack.affinity ≠ none →
    (∀ node, Affinity.AllowsBeside cluster.spec.k8sNodeBlockList node rack.affinity → rack.PlacedOn node) ∧
    (cluster.spec.podSpec.bind (·.multiPodPerHost) = some false → KeepsApart cluster rack.affinity)
  placed : rack.affinity = none → rackAffinityTerms rack ≠ [] → ∀ node : KubeNode,
    node.Unblocked cluster.spec.k8sNodeBlockList → rack.PlacedOn node → Affinity.allows node cluster.affinity = true
  unplaced : rack.affinity = none → rackAffinityTerms rack = [] → cluster.spec.k8sNodeBlockList ≠ [] →
    ∀ selector, requiredSelector cluster.affinity = some selector → ¬ selector.Proper → ∀ node : KubeNode,
    node.Unblocked cluster.spec.k8sNodeBlockList → Affinity.allows node cluster.affinity = true

theorem affinity_templatePodSpec (cluster : AerospikeCluster) (rack : Option RackSpec) (configMapName : String) :
    (templatePodSpec cluster rack configMapName).affinity = (renderAffinity cluster rack).current := by
  unfold templatePodSpec
  cases cluster.spec.podSpec <;> cases rack.bind (·.podSpec) <;> rfl

theorem template_affinity (cluster : AerospikeCluster) (rack : RackSpec) (rackID : Int)
    (configMapName configHash : String) :
    (buildPodTemplateSpec cluster (some rack) rackID configMapName configHash).template.spec.affinity =
      applyK8sNodeBlockList cluster.spec.k8sNodeBlockList (askedAffinity cluster rack) := by
  show (templatePodSpec cluster (some rack) configMapName).affinity = _
  rw [affinity_templatePodSpec, current_renderAffinity]

theorem allowsBeside_spread :
    Affinity.AllowsBeside blockList node (spreadAffinity cluster) ↔
      Affinity.AllowsBeside blockList node cluster.affinity := by
  simp only [Affinity.AllowsBeside, Affinity.allows, required_spread]

/-- What is to survive, for the affinity that a template asks for before the block list. -/
def Survives (cluster : AerospikeCluster) (rack : RackSpec) (asked : Option Affinity) : Prop :=
  (∀ node, Affinity.AllowsBeside cluster.spec.k8sNodeBlockList node asked → rack.PlacedOn node ∧
    (rack.affinity = none → Affinity.allows node cluster.affinity = true)) ∧
  (cluster.spec.podSpec.bind (·.multiPodPerHost) = some false → KeepsApart cluster asked)

theorem survives_own_iff (hown : rack.affinity ≠ none) :
    Survives cluster rack rack.affinity ↔ ReplacedByNoLess cluster rack := by
  constructor
  · intro h
    exact ⟨fun _ => ⟨fun node hnode => (h.1 node hnode).1, h.2⟩, fun hnone => absurd hnone hown,
      fun hnone => absurd hnone hown⟩
  · intro h
    exact ⟨fun node hnode => ⟨(h.own hown).1 node hnode, fun hnone => absurd hnone hown⟩, (h.own hown).2⟩

theorem survives_placed_iff (hown : rack.affinity = none) :
    Survives cluster rack (placedAffinity cluster rack) ↔ ReplacedByNoLess cluster rack := by
  have hapart : cluster.spec.podSpec.bind (·.multiPodPerHost) = some false →
      KeepsApart cluster (placedAffinity cluster rack) :=
    fun hspread => (keepsApart_spread (decide_eq_true hspread)).applyRackAffinity rack
  rw [Survives, and_iff_left hapart, show placedAffinity cluster rack = applyRackAffinity rack (spreadAffinity cluster)
    from rfl]
  by_cases hterms : rackAffinityTerms rack = []
  · simp only [applyRackAffinity_unplaced hterms, allowsBeside_spread]
    constructor
    · intro h
      refine ⟨fun hsome => absurd hown hsome, fun _ hne => absurd hterms hne, ?_⟩
      intro _ _ hlist selector hselector hproper node hnode
      exact (h node (allowsBeside_of_not_proper hlist hselector hproper hnode)).2 hown
    · intro h node hnode
      refine ⟨placedOn_of_unplaced hterms node, fun _ => ?_⟩
      by_cases hproper : cluster.spec.k8sNodeBlockList ≠ [] →
          ∀ selector, requiredSelector cluster.affinity = some selector → selector.Proper
      · exact allows_of_proper hproper hnode
      · push Not at hproper
        obtain ⟨hlist, selector, hselector, hproper⟩ := hproper
        rw [Affinity.AllowsBeside, if_neg hlist] at hnode
        exact h.unplaced hown hterms hlist selector hselector hproper node hnode.1
  · simp only [allowsBeside_placed hterms]
    constructor
    · intro h
      exact ⟨fun hsome => absurd hown hsome, fun _ _ node hnode hplaced => (h node ⟨hnode, hplaced⟩).2 hown,
        fun _ hnil => absurd hnil hterms⟩
    · rintro h node ⟨hnode, hplaced⟩
      exact ⟨hplaced, fun _ => h.placed hown hterms node hnode hplaced⟩

/-- Every node that the template of a rack allows is where the rack is placed and, unless the rack has an affinity of
its own, one that the cluster's section allows, and pods that may not share a node are kept apart, if and only if what
the steps replace is replaced by no less. -/
theorem scheduling_constraints_survive (cluster : AerospikeCluster) (rack : RackSpec) (rackID : Int)
    (configMapName configHash : String) {affinity : Option Affinity}
    (haffinity : affinity =
      (buildPodTemplateSpec cluster (some rack) rackID configMapName configHash).template.spec.affinity) :
    ((∀ node, Affinity.allows node affinity = true → rack.PlacedOn node ∧
      (rack.affinity = none → Affinity.allows node cluster.affinity = true)) ∧
    (cluster.spec.podSpec.bind (·.multiPodPerHost) = some false → KeepsApart cluster affinity)) ↔
      ReplacedByNoLess cluster rack := by
  have hsurvives : Survives cluster rack (askedAffinity cluster rack) ↔ ReplacedByNoLess cluster rack := by
    unfold askedAffinity
    cases hown : rack.affinity with
    | none => exact survives_placed_iff hown
    | some a =>
      rw [← survives_own_iff (by rw [hown]; exact Option.some_ne_none a), hown]
      rfl
  rw [haffinity, template_affinity]
  simp only [allows_block_iff, keepsApart_block_iff]
  exact hsurvives

def spreadPods : AerospikeCluster :=
  { AerospikeCluster.bare "demo" "aerospike:ce-8.1.1.1" with
    spec := { (AerospikeCluster.bare "demo" "aerospike:ce-8.1.1.1").spec with
      podSpec := some { AerospikePodSpec.empty with multiPodPerHost := some false }
      k8sNodeBlockList := ["node-7"] } }

def zoneA : RackSpec := { RackSpec.bare 1 with zone := "zone-a" }

/-- The same with nodes of two zones required, of which the rack's is one. -/
def twoZones : AerospikeCluster :=
  { spreadPods with
    spec := { spreadPods.spec with
      podSpec := some { AerospikePodSpec.empty with
        multiPodPerHost := some false
        affinity := some ⟨some ⟨some ⟨[⟨[⟨"topology.kubernetes.io/zone", .opIn, ["zone-a", "zone-b"]⟩], []⟩]⟩, []⟩,
          none, none⟩ } } }

theorem scheduling_constraints_survive_zoneA :
    (∀ node, Affinity.allows node (buildPodTemplateSpec twoZones (some zoneA) 1 "demo-1" "h").template.spec.affinity =
      true → node.labels.lookup "topology.kubernetes.io/zone" = some "zone-a" ∧
        Affinity.allows node twoZones.affinity = true) ∧
    KeepsApart twoZones (buildPodTemplateSpec twoZones (some zoneA) 1 "demo-1" "h").template.spec.affinity := by
  have hnoLess : ReplacedByNoLess twoZones zoneA := by
    refine ⟨fun h => absurd rfl h, fun _ _ node _ hplaced => ?_, fun _ hnil => absurd hnil (by decide)⟩
    refine (allows_iff rfl).2 ⟨_, List.mem_singleton_self _, (matches_iff rfl).2 ⟨?_, rfl⟩⟩
    rw [List.all_cons, NodeSelectorRequirement.met, hplaced.zone (by decide)]
    rfl
  obtain ⟨hnodes, hspread⟩ := (scheduling_constraints_survive twoZones zoneA 1 "demo-1" "h" rfl).2 hnoLess
  exact ⟨fun node hnode => ⟨(hnodes node hnode).1.zone (by decide), (hnodes node hnode).2 rfl⟩, hspread rfl⟩

def ssdNodes : AerospikeCluster :=
  { spreadPods with
    spec := { spreadPods.spec with
      podSpec := some { AerospikePodSpec.empty with
        affinity := some ⟨some ⟨some ⟨[⟨[⟨"disk", .opIn, ["ssd"]⟩], []⟩]⟩, []⟩, none, none⟩ }
      k8sNodeBlockList := [] } }

/-- The rack in zone a, with an affinity of its own that asks for nothing. -/
def zoneAOwn : RackSpec := { zoneA with podSpec := some ⟨some .empty, [], ∅⟩ }

/-- The rack's placement replaces the cluster's required nodes, so a node in the zone without an SSD is allowed; and the
rack's own affinity replaces the placement and the term that keeps pods apart, so any node is. -/
theorem scheduling_constraints_replaced :
    (∃ node,
      Affinity.allows node (buildPodTemplateSpec ssdNodes (some zoneA) 1 "demo-1" "h").template.spec.affinity = true ∧
      zoneA.affinity = none ∧ Affinity.allows node ssdNodes.affinity = false) ∧
    (∃ node,
      Affinity.allows node (buildPodTemplateSpec spreadPods (some zoneAOwn) 1 "demo-1" "h").template.spec.affinity =
      true ∧ ¬ zoneAOwn.PlacedOn node) ∧
    spreadPods.spec.podSpec.bind (·.multiPodPerHost) = some false ∧
      ¬ KeepsApart spreadPods
        (buildPodTemplateSpec spreadPods (some zoneAOwn) 1 "demo-1" "h").template.spec.affinity := by
  refine ⟨⟨⟨Finmap.singleton "topology.kubernetes.io/zone" "zone-a", ∅⟩, by decide, rfl, by decide⟩,
    ⟨⟨∅, ∅⟩, by decide, ?_⟩, rfl, ?_⟩
  · intro h
    cases h.zone (by decide)
  · rintro ⟨a, anti, ha, hanti, -⟩
    cases ha
    cases hanti

/-! ## Blocked nodes -/

def AerospikeCluster.unblocked (cluster : AerospikeCluster) : AerospikeCluster :=
  { cluster with spec := { cluster.spec with k8sNodeBlockList := [] } }

theorem template_affinity_blocked (cluster : AerospikeCluster) (rack : Option RackSpec) (rackID : Int)
    (configMapName configHash : String) :
    (buildPodTemplateSpec cluster rack rackID configMapName configHash).template.spec.affinity =
      applyK8sNodeBlockList cluster.spec.k8sNodeBlockList
        (buildPodTemplateSpec cluster.unblocked rack rackID configMapName configHash).template.spec.affinity := by
  show (templatePodSpec cluster rack configMapName).affinity =
    applyK8sNodeBlockList _ (templatePodSpec cluster.unblocked rack configMapName).affinity
  rw [affinity_templatePodSpec, affinity_templatePodSpec]
  cases rack with
  | some rack =>
    rw [current_renderAffinity, current_renderAffinity]
    rfl
  | none =>
    unfold renderAffinity
    have hcluster : cluster.unblocked.affinity = cluster.affinity := rfl
    have hspread : shouldInjectAntiAffinity cluster.unblocked = shouldInjectAntiAffinity cluster := rfl
    rw [hcluster, hspread]
    cases cluster.affinity <;> cases shouldInjectAntiAffinity cluster <;> rfl

/-- No blocked node is allowed, whatever terms the affinity had before; and where each of them has an expression, the
block list changes nothing for the other nodes. -/
theorem blocked_nodes_inadmissible (cluster : AerospikeCluster) (rack : Option RackSpec) (rackID : Int)
    (configMapName configHash : String) (hlist : cluster.spec.k8sNodeBlockList ≠ []) {before after : Option Affinity}
    (hbefore : before =
      (buildPodTemplateSpec cluster.unblocked rack rackID configMapName configHash).template.spec.affinity)
    (hafter : after = (buildPodTemplateSpec cluster rack rackID configMapName configHash).template.spec.affinity) :
    (∀ node : KubeNode, ∀ host ∈ cluster.spec.k8sNodeBlockList, node.labels.lookup hostnameLabelKey = some host →
      Affinity.allows node after = false) ∧
    ∀ selector, requiredSelector before = some selector → selector.nodeSelectorTerms ≠ [] →
      (∀ t ∈ selector.nodeSelectorTerms, t.matchExpressions ≠ []) →
      ∀ node : KubeNode,
        (∀ host, node.labels.lookup hostnameLabelKey = some host → host ∉ cluster.spec.k8sNodeBlockList) →
        Affinity.allows node after = Affinity.allows node before := by
  rw [template_affinity_blocked, ← hbefore] at hafter
  subst hafter
  constructor
  · intro node host hhost hlabel
    rw [Bool.eq_false_iff]
    intro hallows
    rw [applyK8sNodeBlockList_eq hlist] at hallows
    obtain ⟨t', ht', hmatch⟩ := (allows_iff rfl).1 hallows
    obtain ⟨t, -, rfl⟩ := List.mem_map.1 ht'
    exact (matches_block.1 hmatch).1 host hlabel hhost
  · intro selector hselector hne hexpressions node hfree
    rw [Bool.eq_iff_iff, allows_iff (required_blocked hlist hselector hne), allows_iff hselector]
    constructor
    · rintro ⟨t', ht', hmatch⟩
      obtain ⟨t, ht, rfl⟩ := List.mem_map.1 ht'
      exact ⟨t, ht, (matches_iff (by simp [hexpressions t ht])).2 (matches_block.1 hmatch).2⟩
    · rintro ⟨t, ht, hmatch⟩
      rw [matches_iff (by simp [hexpressions t ht])] at hmatch
      exact ⟨_, List.mem_map_of_mem ht, matches_block.2 ⟨hfree, hmatch⟩⟩

theorem blocked_nodes_inadmissible_zoneA :
    (∀ node : KubeNode, node.labels.lookup hostnameLabelKey = some "node-7" → Affinity.allows node
      (buildPodTemplateSpec spreadPods (some zoneA) 1 "demo-1" "h").template.spec.affinity = false) ∧
    Affinity.allows ⟨Finmap.singleton "topology.kubernetes.io/zone" "zone-a", ∅⟩
      (buildPodTemplateSpec spreadPods (some zoneA) 1 "demo-1" "h").template.spec.affinity =
    Affinity.allows ⟨Finmap.singleton "topology.kubernetes.io/zone" "zone-a", ∅⟩
      (buildPodTemplateSpec spreadPods.unblocked (some zoneA) 1 "demo-1" "h").template.spec.affinity := by
  obtain ⟨hblocked, hfree⟩ := blocked_nodes_inadmissible spreadPods (some zoneA) 1 "demo-1" "h" (by decide) rfl rfl
  refine ⟨fun node hnode => hblocked node "node-7" (by decide) hnode, hfree _ rfl (by decide) ?_ _ ?_⟩
  · intro t ht
    cases List.mem_singleton.1 ht
    decide
  · intro host hhost
    cases hhost

end Acko
