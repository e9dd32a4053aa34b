/-
The affinity of a rack's pods. `podSpec.Affinity` is a pointer: where the cluster's or the rack's pod
section has an affinity, the builder points to that object and later steps write into it, so the
section that the pod-spec hash is taken of afterwards is no longer the user's.
-/
import AckoProofs.Pod.Spec

namespace Acko

/-! ## The steps -/

def hostnameLabelKey : String := "kubernetes.io/hostname"

variable (cluster : AerospikeCluster)

/-- Only if two pods on a node are refused. -/
def shouldInjectAntiAffinity : Bool :=
  (cluster.spec.podSpec.bind (·.multiPodPerHost)) = some false

def antiAffinityTerm (clusterName : String) : PodAffinityTerm :=
  ⟨some ⟨(selectorLabelsForCluster clusterName).toMap, []⟩, [], hostnameLabelKey, none, [], []⟩

/-- One more required term. -/
def injectPodAntiAffinity (clusterName : String) (affinity : Option Affinity) : Option Affinity :=
  let a := affinity.getD .empty
  let anti := a.podAntiAffinity.getD .empty
  some { a with podAntiAffinity := some { anti with required := anti.required ++ [antiAffinityTerm clusterName] } }

/-- A requirement on a node label, where a value is set for it. -/
def placementTerm : String × String → Option NodeSelectorRequirement
  | (key, value) => if value = "" then none else some ⟨key, .opIn, [value]⟩

def rackAffinityTerms (rack : RackSpec) : List NodeSelectorRequirement :=
  [("topology.kubernetes.io/zone", rack.zone), ("topology.kubernetes.io/region", rack.region),
    (hostnameLabelKey, rack.nodeName), ("acko.io/rack", rack.rackLabel)].filterMap placementTerm

/-- `applyRackAffinity`: the rack's requirements replace the node affinity. -/
def applyRackAffinity (rack : RackSpec) (affinity : Option Affinity) : Option Affinity :=
  match rackAffinityTerms rack with
  | [] => affinity
  | terms => some { affinity.getD .empty with nodeAffinity := some ⟨some ⟨[⟨terms, []⟩]⟩, []⟩ }

def blockedRequirement (blockList : List String) : NodeSelectorRequirement := ⟨hostnameLabelKey, .opNotIn, blockList⟩

def NodeSelectorTerm.block (blockList : List String) (t : NodeSelectorTerm) : NodeSelectorTerm :=
  { t with matchExpressions := t.matchExpressions ++ [blockedRequirement blockList] }

/-- `applyK8sNodeBlockList`: the block joins every term, and stands alone where there is none. -/
def applyK8sNodeBlockList (blockList : List String) (affinity : Option Affinity) : Option Affinity :=
  if blockList.isEmpty then affinity else
  let a := affinity.getD .empty
  let node := a.nodeAffinity.getD .empty
  let required := node.required.getD ⟨[]⟩
  let terms := if required.nodeSelectorTerms.isEmpty then [⟨[blockedRequirement blockList], []⟩]
    else required.nodeSelectorTerms.map (·.block blockList)
  some { a with nodeAffinity := some { node with required := some ⟨terms⟩ } }

/-! ## The pointer -/

/-- The object that `podSpec.Affinity` points to. -/
inductive AffinityOwner
  | template | cluster | rack
  deriving DecidableEq

/-- The affinity objects that the builder reaches: one of its own, that of `cluster.spec.podSpec` and
that of `rack.podSpec`. -/
structure Affinities where
  owner : AffinityOwner
  template : Option Affinity
  cluster : Option Affinity
  rack : Option Affinity

namespace Affinities

def current (a : Affinities) : Option Affinity :=
  match a.owner with
  | .template => a.template
  | .cluster => a.cluster
  | .rack => a.rack

def write (a : Affinities) (f : Option Affinity → Option Affinity) : Affinities :=
  match a.owner with
  | .template => { a with template := f a.template }
  | .cluster => { a with cluster := f a.cluster }
  | .rack => { a with rack := f a.rack }

def pointToCluster (a : Affinities) : Affinities := if a.cluster.isSome then { a with owner := .cluster } else a

def pointToRack (a : Affinities) : Affinities := if a.rack.isSome then { a with owner := .rack } else a

end Affinities

def RackSpec.affinity (rack : RackSpec) : Option Affinity := rack.podSpec.bind (·.affinity)

def AerospikeCluster.affinity (cluster : AerospikeCluster) : Option Affinity := cluster.spec.podSpec.bind (·.affinity)

/-- The affinity part of `BuildPodTemplateSpec`, in its order. -/
def renderAffinity (rack : Option RackSpec) : Affinities :=
  let start : Affinities := ⟨.template, none, cluster.affinity, rack.bind (·.affinity)⟩
  let settings := start.pointToCluster
  let spread := if shouldInjectAntiAffinity cluster then settings.write (injectPodAntiAffinity cluster.name)
    else settings
  let placed := match rack with
    | some rack => (spread.write (applyRackAffinity rack)).pointToRack
    | none => spread
  placed.write (applyK8sNodeBlockList cluster.spec.k8sNodeBlockList)

/-! ## What a rack asks for -/

/-- The affinity that the cluster's section and the rack's placement ask for. -/
def placedAffinity (rack : RackSpec) : Option Affinity :=
  applyRackAffinity rack
    (if shouldInjectAntiAffinity cluster then injectPodAntiAffinity cluster.name cluster.affinity else cluster.affinity)

/-- The affinity asked for before the block list: the rack's own counts where it has one. -/
def askedAffinity (rack : RackSpec) : Option Affinity :=
  rack.affinity <|> placedAffinity cluster rack

theorem current_renderAffinity (rack : RackSpec) : (renderAffinity cluster (some rack)).current =
      applyK8sNodeBlockList cluster.spec.k8sNodeBlockList (askedAffinity cluster rack) := by
  unfold renderAffinity askedAffinity placedAffinity
  cases cluster.affinity <;> cases hr : rack.affinity <;> cases shouldInjectAntiAffinity cluster <;>
    simp [Affinities.pointToCluster, Affinities.pointToRack, Affinities.write, Affinities.current, hr]

theorem cluster_renderAffinity_eq_none {cluster : AerospikeCluster} {rack : RackSpec} :
    (renderAffinity cluster (some rack)).cluster = none ↔ cluster.affinity = none := by
  have hrack : ∀ a, applyRackAffinity rack (some a) ≠ none := by
    intro a
    unfold applyRackAffinity
    split <;> simp
  have hblock : ∀ a, a ≠ none → applyK8sNodeBlockList cluster.spec.k8sNodeBlockList a ≠ none := by
    intro a ha
    unfold applyK8sNodeBlockList
    split
    · exact ha
    · simp
  unfold renderAffinity
  cases hc : cluster.affinity <;> cases hr : rack.affinity <;> cases shouldInjectAntiAffinity cluster <;>
    simp [Affinities.pointToCluster, Affinities.pointToRack, Affinities.write, hr, hrack, hblock, injectPodAntiAffinity]

variable {rack : RackSpec} {blockList : List String}

/-- Where the pod's affinity is the object of the cluster's section, that section is hashed with all
that the builder has written into it. -/
theorem cluster_renderAffinity {cluster : AerospikeCluster} (hcluster : cluster.affinity ≠ none)
    (hrack : rack.affinity = none) :
    (renderAffinity cluster (some rack)).cluster = (renderAffinity cluster (some rack)).current := by
  obtain ⟨a, ha⟩ := Option.ne_none_iff_exists'.1 hcluster
  unfold renderAffinity
  cases shouldInjectAntiAffinity cluster <;>
    simp [Affinities.pointToCluster, Affinities.pointToRack, Affinities.write, Affinities.current, ha, hrack]

/-! ## Placement -/

structure RackSpec.SamePlacement (rack rack' : RackSpec) : Prop where
  zone : rack.zone = rack'.zone
  region : rack.region = rack'.region
  nodeName : rack.nodeName = rack'.nodeName
  rackLabel : rack.rackLabel = rack'.rackLabel

theorem key_of_mem_placement {l : List (String × String)} {r : NodeSelectorRequirement}
    (h : r ∈ l.filterMap placementTerm) : r.key ∈ l.map (·.1) := by
  obtain ⟨⟨key, value⟩, hmem, hr⟩ := List.mem_filterMap.1 h
  simp only [placementTerm] at hr
  split at hr
  case isTrue => cases hr
  case isFalse =>
    cases hr
    exact List.mem_map_of_mem hmem

theorem placement_cons {key value value' : String} {l l' : List (String × String)}
    (hl : key ∉ l.map (·.1)) (hl' : key ∉ l'.map (·.1)) :
    ((key, value) :: l).filterMap placementTerm = ((key, value') :: l').filterMap placementTerm ↔
      value = value' ∧ l.filterMap placementTerm = l'.filterMap placementTerm := by
  have hnot : ∀ {l : List (String × String)} {v : String} {rest : List NodeSelectorRequirement},
      key ∉ l.map (·.1) → l.filterMap placementTerm ≠ ⟨key, .opIn, [v]⟩ :: rest := by
    intro l v rest hkey heq
    exact hkey (key_of_mem_placement (heq ▸ List.mem_cons_self ..))
  by_cases hv : value = "" <;> by_cases hv' : value' = ""
  · simp [placementTerm, hv, hv']
  · simp [placementTerm, hv, hv', hnot hl, Ne.symm hv']
  · simp [placementTerm, hv, hv', (hnot hl').symm]
  · simp [placementTerm, hv, hv']

theorem rackAffinityTerms_eq_iff {rack' : RackSpec} :
    rackAffinityTerms rack = rackAffinityTerms rack' ↔ rack.SamePlacement rack' := by
  unfold rackAffinityTerms
  rw [placement_cons (by simp [hostnameLabelKey]) (by simp [hostnameLabelKey]),
    placement_cons (by simp [hostnameLabelKey]) (by simp [hostnameLabelKey]),
    placement_cons (by simp [hostnameLabelKey]) (by simp [hostnameLabelKey]), placement_cons (by simp) (by simp)]
  exact ⟨fun ⟨h1, h2, h3, h4, _⟩ => ⟨h1, h2, h3, h4⟩,
    fun h => ⟨h.zone, h.region, h.nodeName, h.rackLabel, rfl⟩⟩

/-! ## What the block list leaves apart -/

/-- The terms of a required node affinity; where there is none, one without a requirement. -/
def NodeAffinity.openTerms (node : NodeAffinity) : List NodeSelectorTerm :=
  let terms := (node.required.getD ⟨[]⟩).nodeSelectorTerms
  if terms.isEmpty then [⟨[], []⟩] else terms

/-- Two affinities that a pod is scheduled alike by: they agree in their other parts and in the terms
of the required node affinity. -/
structure Affinity.SameRequest (a b : Affinity) : Prop where
  podAffinity : a.podAffinity = b.podAffinity
  podAntiAffinity : a.podAntiAffinity = b.podAntiAffinity
  preferred : (a.nodeAffinity.getD .empty).preferred = (b.nodeAffinity.getD .empty).preferred
  terms : (a.nodeAffinity.getD .empty).openTerms = (b.nodeAffinity.getD .empty).openTerms

theorem NodeSelectorTerm.block_injective (blockList : List String) :
    Function.Injective (NodeSelectorTerm.block blockList) := by
  rintro ⟨es, fs⟩ ⟨es', fs'⟩ h
  simp only [NodeSelectorTerm.block, NodeSelectorTerm.mk.injEq, List.append_cancel_right_eq] at h
  rw [h.1, h.2]

theorem applyK8sNodeBlockList_eq (h : blockList ≠ []) (affinity : Option Affinity) :
    applyK8sNodeBlockList blockList affinity =
      let a := affinity.getD .empty
      let node := a.nodeAffinity.getD .empty
      some { a with nodeAffinity := some ⟨some ⟨node.openTerms.map (·.block blockList)⟩, node.preferred⟩ } := by
  simp only [applyK8sNodeBlockList, NodeAffinity.openTerms, List.isEmpty_iff, h, if_false]
  split
  case isTrue => simp [NodeSelectorTerm.block]
  case isFalse => rfl

/-- The affinities are rendered alike: without a block list they are the same, and with one they ask
for the same. -/
def AlikeUnder (blockList : List String) (a b : Option Affinity) : Prop :=
  if blockList = [] then a = b else (a.getD .empty).SameRequest (b.getD .empty)

theorem applyK8sNodeBlockList_eq_iff {a b : Option Affinity} :
    applyK8sNodeBlockList blockList a = applyK8sNodeBlockList blockList b ↔ AlikeUnder blockList a b := by
  unfold AlikeUnder
  by_cases hlist : blockList = []
  · simp [hlist, applyK8sNodeBlockList]
  rw [if_neg hlist, applyK8sNodeBlockList_eq hlist, applyK8sNodeBlockList_eq hlist]
  simp only [Option.some.injEq, Affinity.mk.injEq, NodeAffinity.mk.injEq, NodeSelector.mk.injEq,
    (NodeSelectorTerm.block_injective blockList).list_map.eq_iff]
  constructor
  · rintro ⟨⟨hterms, hpreferred⟩, hpod, hanti⟩
    exact ⟨hpod, hanti, hpreferred, hterms⟩
  · intro h
    exact ⟨⟨h.terms, h.preferred⟩, h.podAffinity, h.podAntiAffinity⟩

theorem openTerms_applyRackAffinity {base : Option Affinity} (hbase : (base.getD .empty).nodeAffinity = none) :
    (((applyRackAffinity rack base).getD .empty).nodeAffinity.getD .empty).openTerms =
      [⟨rackAffinityTerms rack, []⟩] := by
  unfold applyRackAffinity
  split
  case h_1 hterms => rw [hterms, hbase]; rfl
  case h_2 => rfl

theorem applyRackAffinity_alike {rack' : RackSpec} {base : Option Affinity}
    (hbase : (base.getD .empty).nodeAffinity = none) :
    AlikeUnder blockList (applyRackAffinity rack base) (applyRackAffinity rack' base) ↔ rack.SamePlacement rack' := by
  rw [← rackAffinityTerms_eq_iff]
  have hterms : ∀ r : RackSpec, (((applyRackAffinity r base).getD .empty).nodeAffinity.getD .empty).openTerms =
      [⟨rackAffinityTerms r, []⟩] := fun r => openTerms_applyRackAffinity hbase
  constructor
  · intro h
    have hopen : [(⟨rackAffinityTerms rack, []⟩ : NodeSelectorTerm)] = [⟨rackAffinityTerms rack', []⟩] := by
      rw [← hterms rack, ← hterms rack']
      unfold AlikeUnder at h
      split at h
      case isTrue => rw [h]
      case isFalse => exact h.terms
    simpa using hopen
  · intro h
    have heq : applyRackAffinity rack base = applyRackAffinity rack' base := by
      rw [applyRackAffinity, applyRackAffinity, h]
    exact applyK8sNodeBlockList_eq_iff.1 (by rw [heq])

end Acko
