/-
The loop of `reconcileRacks` as far as it renders pods. All racks are rendered from one cluster object
in memory, and the affinity that the builder writes into is shared with it: what one rack's rendering
writes is read by the next, is hashed, and stays in the spec.
-/
import AckoProofs.Pod.Hash

namespace Acko

/-! ## The loop -/

/-- The template of a rack as it is sent, and the pod-spec hash it is compared by. -/
structure RackRendering where
  template : PodTemplateSpec
  podSpecHash : String
  deriving DecidableEq

def clusterAfter (cluster : AerospikeCluster) (rack : RackSpec) : AerospikeCluster :=
  cluster.withAffinity (renderAffinity cluster (some rack)).cluster

def rackAfter (cluster : AerospikeCluster) (rack : RackSpec) : RackSpec :=
  rack.withAffinity (renderAffinity cluster (some rack)).rack

/-- `getRacks`: a spec without racks has the default rack. -/
def AerospikeCluster.racks (cluster : AerospikeCluster) : List RackSpec :=
  if cluster.spec.racks.isEmpty then [.bare 0] else cluster.spec.racks

section Loop

variable (shortSHA256 : HashInput → String)

/-- What `reconcileStatefulSet` computes for a rack from the cluster as it finds it. -/
def renderRack (cluster : AerospikeCluster) (rack : RackSpec) (hash : String) : RackRendering :=
  let template := (rackTemplate cluster rack hash).template
  let podSpecHash := computePodSpecHash shortSHA256 (clusterAfter cluster rack) (rackAfter cluster rack)
  let storageHash := computeStorageHash shortSHA256 (clusterAfter cluster rack) (rackAfter cluster rack)
  { template := { template with
      annotations := (template.annotations.insert podSpecHashKey podSpecHash).insert storageHashKey storageHash }
    podSpecHash := podSpecHash }

/-- The racks one after the other, each with the hash of its effective config: the renderings, and the
cluster and the racks afterwards. -/
def renderRacks (hash : Nat → String) :
    List (RackSpec × Nat) → AerospikeCluster → List RackRendering × AerospikeCluster × List RackSpec
  | [], cluster => ([], cluster, [])
  | (rack, i) :: rest, cluster =>
    let (renderings, last, racks) := renderRacks hash rest (clusterAfter cluster rack)
    (renderRack shortSHA256 cluster rack (hash i) :: renderings, last, rackAfter cluster rack :: racks)

/-- The loop over the racks of a cluster. The racks of the spec are themselves the objects that it
works on; the default rack is in no spec. -/
def AerospikeCluster.reconcileRacks (hash : Nat → String) (cluster : AerospikeCluster) :
    List RackRendering × AerospikeCluster :=
  let (renderings, last, racks) := renderRacks shortSHA256 hash cluster.racks.zipIdx cluster
  (renderings, if cluster.spec.racks.isEmpty then last else { last with spec := { last.spec with racks := racks } })

end Loop

/-- Whatever the hash function, each rack is rendered as if it were the only one, and the spec is left
as it was. -/
structure AerospikeCluster.Independent (cluster : AerospikeCluster) (hash : Nat → String) : Prop where
  each : ∀ shortSHA256, (cluster.reconcileRacks shortSHA256 hash).1 =
    cluster.racks.zipIdx.map fun r => renderRack shortSHA256 cluster r.1 (hash r.2)
  spec : ∀ shortSHA256, (cluster.reconcileRacks shortSHA256 hash).2.spec = cluster.spec

/-! ## When the racks do not disturb each other -/

/-- The node affinity that a rack with these requirements leaves in the shared object. -/
def placedNode (blockList : List String) (terms : List NodeSelectorRequirement) : NodeAffinity :=
  ⟨some ⟨[⟨if blockList = [] then terms else terms ++ [blockedRequirement blockList], []⟩]⟩, []⟩

/-- The racks leave the shared node affinity as the user wrote it wherever it is read again: at a rack
without a placement of its own, and at the end. `intact` says that it is so before them. -/
def undisturbed (blockList : List String) (node : Option NodeAffinity) (intact : Bool) : List RackSpec → Bool
  | [] => intact
  | rack :: rest =>
    if rackAffinityTerms rack = [] then intact && undisturbed blockList node blockList.isEmpty rest
    else undisturbed blockList node (node = some (placedNode blockList (rackAffinityTerms rack))) rest

/-- What the racks share is not written into, or is written back: no block list meets an affinity of a
rack, and an affinity of the cluster's section gets no anti-affinity term and has its node affinity
back wherever it is read again. -/
structure AerospikeCluster.RacksApart (cluster : AerospikeCluster) : Prop where
  own : cluster.spec.k8sNodeBlockList = [] ∨ ∀ rack ∈ cluster.racks, rack.affinity = none
  shared : ∀ a, cluster.affinity = some a → shouldInjectAntiAffinity cluster = false ∧
    undisturbed cluster.spec.k8sNodeBlockList a.nodeAffinity true cluster.racks = true

/-! ## Writes into the shared objects -/

section Writes

variable {cluster : AerospikeCluster} {rack : RackSpec}

theorem withAffinity_self (cluster : AerospikeCluster) : cluster.withAffinity cluster.affinity = cluster := by
  have hsection : (cluster.spec.podSpec.map fun p => { p with affinity := cluster.affinity }) =
      cluster.spec.podSpec := by
    unfold AerospikeCluster.affinity
    cases cluster.spec.podSpec <;> rfl
  unfold AerospikeCluster.withAffinity
  rw [hsection]

theorem withAffinity_withAffinity (cluster : AerospikeCluster) (x y : Option Affinity) :
    (cluster.withAffinity x).withAffinity y = cluster.withAffinity y := by
  unfold AerospikeCluster.withAffinity
  simp [Function.comp_def]

theorem affinity_withAffinity (h : cluster.affinity ≠ none) (x : Option Affinity) :
    (cluster.withAffinity x).affinity = x := by
  unfold AerospikeCluster.affinity at h
  unfold AerospikeCluster.withAffinity AerospikeCluster.affinity
  cases hp : cluster.spec.podSpec with
  | none => simp [hp] at h
  | some p => rfl

theorem shouldInject_withAffinity (cluster : AerospikeCluster) (x : Option Affinity) :
    shouldInjectAntiAffinity (cluster.withAffinity x) = shouldInjectAntiAffinity cluster := by
  unfold shouldInjectAntiAffinity AerospikeCluster.withAffinity
  cases cluster.spec.podSpec <;> rfl

theorem cluster_renderAffinity_eq (cluster : AerospikeCluster) (rack : RackSpec) :
    (renderAffinity cluster (some rack)).cluster =
      if cluster.affinity = none then none
      else if rack.affinity = none then
        applyK8sNodeBlockList cluster.spec.k8sNodeBlockList (placedAffinity cluster rack)
      else placedAffinity cluster rack := by
  unfold renderAffinity placedAffinity
  cases cluster.affinity <;> cases hr : rack.affinity <;> cases shouldInjectAntiAffinity cluster <;>
    simp [Affinities.pointToCluster, Affinities.pointToRack, Affinities.write, hr]

theorem rack_renderAffinity_eq (cluster : AerospikeCluster) (rack : RackSpec) :
    (renderAffinity cluster (some rack)).rack =
      if rack.affinity = none then none else applyK8sNodeBlockList cluster.spec.k8sNodeBlockList rack.affinity := by
  unfold renderAffinity
  cases cluster.affinity <;> cases hr : rack.affinity <;> cases shouldInjectAntiAffinity cluster <;>
    simp [Affinities.pointToCluster, Affinities.pointToRack, Affinities.write, hr]

theorem applyK8sNodeBlockList_ne {blockList : List String} (h : blockList ≠ []) (a : Affinity) :
    applyK8sNodeBlockList blockList (some a) ≠ some a := by
  rw [applyK8sNodeBlockList_eq h]
  intro heq
  have hterms : ∀ n : Option NodeAffinity,
      n = some ⟨some ⟨(n.getD .empty).openTerms.map (·.block blockList)⟩, (n.getD .empty).preferred⟩ → False := by
    rintro (_ | ⟨required, preferred⟩) hn
    · cases hn
    simp only [Option.getD_some, Option.some.injEq, NodeAffinity.mk.injEq, and_true] at hn
    cases required with
    | none => cases hn
    | some selector =>
      obtain ⟨terms⟩ := selector
      simp only [NodeAffinity.openTerms, Option.getD_some, Option.some.injEq, NodeSelector.mk.injEq] at hn
      -- the first term would have to be its own extension
      cases terms with
      | nil => cases hn
      | cons t ts =>
        have hfirst : t = t.block blockList := (List.cons.inj hn).1
        have hlen := congrArg (fun t : NodeSelectorTerm => t.matchExpressions.length) hfirst
        simp [NodeSelectorTerm.block] at hlen
  exact hterms a.nodeAffinity (congrArg Affinity.nodeAffinity (Option.some.inj heq)).symm

theorem RackSpec.withAffinity_self (rack : RackSpec) : rack.withAffinity rack.affinity = rack := by
  have hsection : (rack.podSpec.map fun p => { p with affinity := rack.affinity }) = rack.podSpec := by
    unfold RackSpec.affinity
    cases rack.podSpec <;> rfl
  unfold RackSpec.withAffinity
  rw [hsection]

theorem RackSpec.affinity_withAffinity (h : rack.affinity ≠ none) (x : Option Affinity) :
    (rack.withAffinity x).affinity = x := by
  unfold RackSpec.affinity at h
  unfold RackSpec.withAffinity RackSpec.affinity
  cases hp : rack.podSpec with
  | none => simp [hp] at h
  | some p => rfl

/-- The rendering leaves a rack as it was, unless a block list is written into its affinity. -/
theorem rackAfter_eq_self : rackAfter cluster rack = rack ↔
    cluster.spec.k8sNodeBlockList = [] ∨ rack.affinity = none := by
  unfold rackAfter
  rw [rack_renderAffinity_eq]
  cases hr : rack.affinity with
  | none =>
    rw [if_pos rfl, ← hr, rack.withAffinity_self]
    simp
  | some a =>
    rw [if_neg (by simp), ← hr]
    by_cases hb : cluster.spec.k8sNodeBlockList = []
    · rw [hb]
      simp [applyK8sNodeBlockList, rack.withAffinity_self]
    · refine iff_of_false ?_ (by simp [hb, hr])
      intro heq
      have haff := congrArg RackSpec.affinity heq
      rw [RackSpec.affinity_withAffinity (by simp [hr]), hr] at haff
      exact applyK8sNodeBlockList_ne hb a haff

theorem rackAfter_withAffinity (cluster : AerospikeCluster) (x : Option Affinity) (rack : RackSpec) :
    rackAfter (cluster.withAffinity x) rack = rackAfter cluster rack := by
  rw [rackAfter, rackAfter, rack_renderAffinity_eq, rack_renderAffinity_eq]
  rfl

theorem clusterAfter_withAffinity (cluster : AerospikeCluster) (x : Option Affinity) (rack : RackSpec) :
    clusterAfter (cluster.withAffinity x) rack =
      cluster.withAffinity (renderAffinity (cluster.withAffinity x) (some rack)).cluster := by
  rw [clusterAfter, withAffinity_withAffinity]

end Writes

/-! ## One rack after others -/

section Loop

variable {cluster : AerospikeCluster}

theorem podSpecHashInput_eq_of_hashes {a b : PodSpecHashInput}
    (h : ∀ shortSHA256 : HashInput → String, shortSHA256 (.podSpec a) = shortSHA256 (.podSpec b)) : a = b := by
  by_contra hne
  let tell : HashInput → String := fun
    | .podSpec i => if i = a then "first" else "second"
    | _ => ""
  have htell : tell (.podSpec a) = tell (.podSpec b) := h tell
  simp only [tell, if_true, if_neg (Ne.symm hne)] at htell
  exact absurd htell (by decide)

theorem renderRack_eq_iff (hc : cluster.affinity ≠ none) {x : Option Affinity} (hx : x ≠ none) (rack : RackSpec)
    (hash : String) :
    (∀ shortSHA256, renderRack shortSHA256 (cluster.withAffinity x) rack hash =
        renderRack shortSHA256 cluster rack hash) ↔
      (renderAffinity (cluster.withAffinity x) (some rack)).cluster = (renderAffinity cluster (some rack)).cluster := by
  obtain ⟨p, hp⟩ : ∃ p, cluster.spec.podSpec = some p := by
    unfold AerospikeCluster.affinity at hc
    cases hp : cluster.spec.podSpec with
    | none => simp [hp] at hc
    | some p => exact ⟨p, rfl⟩
  constructor
  · intro h
    have hinput := podSpecHashInput_eq_of_hashes fun sha => congrArg RackRendering.podSpecHash (h sha)
    have hspec := congrArg (fun i : PodSpecHashInput => i.podSpec.bind (·.affinity)) hinput
    simpa [podSpecHashInput, clusterAfter, AerospikeCluster.withAffinity, hp] using hspec
  · intro h shortSHA256
    have hafter : clusterAfter (cluster.withAffinity x) rack = clusterAfter cluster rack := by
      rw [clusterAfter, clusterAfter, h, withAffinity_withAffinity]
    have hrack := rackAfter_withAffinity cluster x rack
    have hsame : SameHashed (cluster.withAffinity x) cluster rack rack :=
      ⟨rfl, by rw [withAffinity_withAffinity], h, rfl, rfl, rfl, rfl, rfl⟩
    have hunhashed : SameUnhashed (cluster.withAffinity x) cluster rack rack := by
      refine ⟨Or.inr rfl, Or.inr rfl, fun _ => rfl, ?_, ?_, ?_⟩
      · simp [tolerationsFor, AerospikeCluster.withAffinity, hp]
      · simp [nodeSelectorFor, AerospikeCluster.withAffinity, hp]
      · unfold SameAffinity
        cases rack.affinity with
        | none => exact Or.inl (by rw [affinity_withAffinity hc]; exact hx)
        | some own => exact applyK8sNodeBlockList_eq_iff.1 rfl
    have htemplate : (rackTemplate (cluster.withAffinity x) rack hash).template =
        (rackTemplate cluster rack hash).template :=
      (hsame.template_iff rfl).2 hunhashed
    rw [renderRack, renderRack, hafter, hrack, htemplate]

theorem clusterAfter_of_none (hc : cluster.affinity = none) (rack : RackSpec) :
    clusterAfter cluster rack = cluster := by
  rw [clusterAfter, cluster_renderAffinity_eq_none.2 hc, ← hc, withAffinity_self]

/-- Each rack leaves the affinity of the cluster's section as it would leave the first one, and the last
one is the first. -/
def Settles (cluster : AerospikeCluster) : Option Affinity → List RackSpec → Prop
  | x, [] => x = cluster.affinity
  | x, rack :: rest =>
    let y := (renderAffinity (cluster.withAffinity x) (some rack)).cluster
    y = (renderAffinity cluster (some rack)).cluster ∧ Settles cluster y rest

theorem renderRacks_settles (hc : cluster.affinity ≠ none) (hash : Nat → String) :
    ∀ (l : List (RackSpec × Nat)) {x : Option Affinity}, x ≠ none →
      (((∀ sha, (renderRacks sha hash l (cluster.withAffinity x)).1 =
            l.map fun r => renderRack sha cluster r.1 (hash r.2)) ∧
          ∀ sha, (renderRacks sha hash l (cluster.withAffinity x)).2.1 = cluster) ↔
        Settles cluster x (l.map (·.1)))
  | [], x, _ => by
    have hself : cluster.withAffinity x = cluster ↔ x = cluster.affinity := by
      constructor
      · intro h
        rw [← affinity_withAffinity hc x, h]
      · rintro rfl
        exact withAffinity_self cluster
    simpa [renderRacks, Settles] using hself
  | (rack, i) :: rest, x, hx => by
    have hy : (renderAffinity (cluster.withAffinity x) (some rack)).cluster ≠ none := by
      rw [Ne, cluster_renderAffinity_eq_none, affinity_withAffinity hc]
      exact hx
    have ih := renderRacks_settles hc hash rest hy
    simp only [List.map_cons, Settles, ← renderRack_eq_iff hc hx rack (hash i), ← ih, renderRacks,
      clusterAfter_withAffinity, List.cons.injEq]
    constructor
    · rintro ⟨h, hlast⟩
      exact ⟨fun sha => (h sha).1, fun sha => (h sha).2, hlast⟩
    · rintro ⟨hfirst, hrest, hlast⟩
      exact ⟨fun sha => ⟨hfirst sha, hrest sha⟩, hlast⟩

theorem renderRacks_of_none (hc : cluster.affinity = none) (sha : HashInput → String) (hash : Nat → String) :
    ∀ l : List (RackSpec × Nat), (renderRacks sha hash l cluster).1 =
        (l.map fun r => renderRack sha cluster r.1 (hash r.2)) ∧ (renderRacks sha hash l cluster).2.1 = cluster
  | [] => ⟨rfl, rfl⟩
  | (rack, i) :: rest => by
    have ih := renderRacks_of_none hc sha hash rest
    simp only [renderRacks, clusterAfter_of_none hc, List.map_cons, ih.1, ih.2, and_self]

/-- The loop changes nothing of the cluster but the affinity of its section, and writes into each rack
as if it were the only one. -/
theorem renderRacks_frame (sha : HashInput → String) (hash : Nat → String) :
    ∀ (l : List (RackSpec × Nat)) (x : Option Affinity),
      (∃ y, (renderRacks sha hash l (cluster.withAffinity x)).2.1 = cluster.withAffinity y) ∧
        (renderRacks sha hash l (cluster.withAffinity x)).2.2 = l.map fun r => rackAfter cluster r.1
  | [], x => ⟨⟨x, rfl⟩, rfl⟩
  | (rack, i) :: rest, x => by
    have ih := renderRacks_frame sha hash rest (renderAffinity (cluster.withAffinity x) (some rack)).cluster
    simpa only [renderRacks, clusterAfter_withAffinity, rackAfter_withAffinity, List.map_cons, List.cons.injEq,
      true_and] using ih

theorem spec_reconcileRacks (sha : HashInput → String) (hash : Nat → String) :
    (cluster.reconcileRacks sha hash).2.spec = cluster.spec ↔
      (renderRacks sha hash cluster.racks.zipIdx cluster).2.1 = cluster ∧
        ∀ rack ∈ cluster.racks, rackAfter cluster rack = rack := by
  have hframe := @renderRacks_frame cluster sha hash cluster.racks.zipIdx cluster.affinity
  rw [withAffinity_self] at hframe
  obtain ⟨⟨y, hy⟩, hracks⟩ := hframe
  have hmap : (cluster.racks.zipIdx.map fun r => rackAfter cluster r.1) = cluster.racks.map (rackAfter cluster) := by
    conv_rhs => rw [← List.zipIdx_map_fst 0 cluster.racks]
    rw [List.map_map]
    rfl
  rw [hmap] at hracks
  have hfix : cluster.racks.map (rackAfter cluster) = cluster.racks ↔
      ∀ rack ∈ cluster.racks, rackAfter cluster rack = rack := by
    conv_lhs => rw [← List.map_id cluster.racks, List.map_map]
    exact List.map_inj_left
  have hlast : (cluster.withAffinity y).spec = cluster.spec ↔ cluster.withAffinity y = cluster := by
    constructor
    · intro h
      exact congrArg (fun spec => (⟨cluster.name, spec⟩ : AerospikeCluster)) h
    · intro h
      rw [h]
  unfold AerospikeCluster.reconcileRacks
  rw [← hfix]
  cases hempty : cluster.spec.racks.isEmpty with
  | true =>
    -- the default rack is not written back to the spec, and has no affinity of its own
    have hdefault : cluster.racks = [.bare 0] := by simp [AerospikeCluster.racks, hempty]
    have hbare : rackAfter cluster (.bare 0) = .bare 0 := rackAfter_eq_self.2 (Or.inr rfl)
    have hsame : cluster.racks.map (rackAfter cluster) = cluster.racks := by
      rw [hdefault, List.map_singleton, hbare]
    simp only [if_true, hy, hlast, hsame, and_true]
  | false =>
    have hspec : cluster.racks = cluster.spec.racks := by simp [AerospikeCluster.racks, hempty]
    simp only [hy, hracks, Bool.false_eq_true, if_false]
    constructor
    · intro h
      have hsame : cluster.racks.map (rackAfter cluster) = cluster.racks := by
        rw [hspec]
        exact hspec ▸ congrArg AerospikeClusterSpec.racks h
      rw [hsame, hspec] at h
      exact ⟨hlast.1 h, hsame⟩
    · rintro ⟨hcluster, hsame⟩
      rw [hsame, hcluster, hspec]

/-! ## The shared node affinity -/

/-- The required anti-affinity terms of the cluster's section. -/
def antiTerms (x : Option Affinity) : Nat := ((x.getD .empty).podAntiAffinity.getD .empty).required.length

theorem podAntiAffinity_applyRackAffinity (rack : RackSpec) (x : Option Affinity) :
    antiTerms (applyRackAffinity rack x) = antiTerms x := by
  unfold applyRackAffinity
  split <;> rfl

theorem podAntiAffinity_applyK8sNodeBlockList (blockList : List String) (x : Option Affinity) :
    antiTerms (applyK8sNodeBlockList blockList x) = antiTerms x := by
  unfold applyK8sNodeBlockList
  split <;> rfl

theorem Settles.antiTerms_add (hc : cluster.affinity ≠ none) (hinject : shouldInjectAntiAffinity cluster = true) :
    ∀ {l : List RackSpec} {x : Option Affinity}, x ≠ none → Settles cluster x l →
      antiTerms x + l.length = antiTerms cluster.affinity
  | [], x, _, h => by
    rw [show x = cluster.affinity from h]
    rfl
  | rack :: rest, x, hx, ⟨_, h⟩ => by
    have hy : (renderAffinity (cluster.withAffinity x) (some rack)).cluster ≠ none := by
      rw [Ne, cluster_renderAffinity_eq_none, affinity_withAffinity hc]
      exact hx
    have ih := Settles.antiTerms_add hc hinject hy h
    have hone : antiTerms (placedAffinity (cluster.withAffinity x) rack) = antiTerms x + 1 := by
      rw [placedAffinity, podAntiAffinity_applyRackAffinity, shouldInject_withAffinity, if_pos hinject,
        affinity_withAffinity hc]
      simp [antiTerms, injectPodAntiAffinity]
    rw [cluster_renderAffinity_eq, if_neg (by rw [affinity_withAffinity hc]; exact hx)] at ih
    rw [List.length_cons]
    split at ih
    · rw [podAntiAffinity_applyK8sNodeBlockList, hone] at ih
      omega
    · rw [hone] at ih
      omega

/-- The affinity differs from the user's in the node affinity alone, and in that only by terms that
require something. -/
structure WrittenOver (a a₀ : Affinity) : Prop where
  podAffinity : a.podAffinity = a₀.podAffinity
  podAntiAffinity : a.podAntiAffinity = a₀.podAntiAffinity
  terms : a = a₀ ∨ ∃ e es fs ts preferred, a.nodeAffinity = some ⟨some ⟨⟨e :: es, fs⟩ :: ts⟩, preferred⟩

theorem WrittenOver.refl (a : Affinity) : WrittenOver a a := ⟨rfl, rfl, Or.inl rfl⟩

variable {blockList : List String}

theorem WrittenOver.eq_of_alike (hb : blockList ≠ []) {a a₀ : Affinity} (h : WrittenOver a a₀)
    (halike : applyK8sNodeBlockList blockList (some a) = applyK8sNodeBlockList blockList (some a₀)) : a = a₀ := by
  rcases h.terms with heq | ⟨e, es, fs, ts, preferred, hnode⟩
  · exact heq
  rw [applyK8sNodeBlockList_eq_iff, AlikeUnder, if_neg hb] at halike
  have hpreferred := halike.preferred
  have hterms := halike.terms
  simp only [Option.getD_some, hnode] at hpreferred hterms
  have hnode₀ : a₀.nodeAffinity = some ⟨some ⟨⟨e :: es, fs⟩ :: ts⟩, preferred⟩ := by
    cases hn : a₀.nodeAffinity with
    | none => simp [hn, NodeAffinity.openTerms, NodeAffinity.empty] at hterms
    | some node =>
      obtain ⟨required, preferred₀⟩ := node
      simp only [hn, Option.getD_some] at hpreferred hterms
      subst hpreferred
      cases required with
      | none => simp [NodeAffinity.openTerms] at hterms
      | some selector =>
        obtain ⟨terms⟩ := selector
        cases terms with
        | nil => simp [NodeAffinity.openTerms] at hterms
        | cons t ts' =>
          have hlist : (⟨e :: es, fs⟩ :: ts : List NodeSelectorTerm) = t :: ts' := hterms
          rw [hlist]
  obtain ⟨node, pod, anti⟩ := a
  obtain ⟨node₀, pod₀, anti₀⟩ := a₀
  obtain ⟨rfl, rfl⟩ : pod = pod₀ ∧ anti = anti₀ := ⟨h.podAffinity, h.podAntiAffinity⟩
  rw [show node = node₀ from hnode.trans hnode₀.symm]

theorem cluster_renderAffinity_withAffinity (hc : cluster.affinity ≠ none)
    (hinject : shouldInjectAntiAffinity cluster = false) {rack : RackSpec}
    (hown : cluster.spec.k8sNodeBlockList = [] ∨ rack.affinity = none) (a : Affinity) :
    (renderAffinity (cluster.withAffinity (some a)) (some rack)).cluster =
      applyK8sNodeBlockList cluster.spec.k8sNodeBlockList (applyRackAffinity rack (some a)) := by
  rw [cluster_renderAffinity_eq, affinity_withAffinity hc, if_neg (by simp), placedAffinity, shouldInject_withAffinity,
    hinject, affinity_withAffinity hc]
  show (if rack.affinity = none then applyK8sNodeBlockList cluster.spec.k8sNodeBlockList _ else _) = _
  rcases hown with hb | hr
  · rw [hb]
    simp [applyK8sNodeBlockList]
  · rw [if_pos hr]
    rfl

theorem applyK8sNodeBlockList_placed {rack : RackSpec} (hterms : rackAffinityTerms rack ≠ []) (a : Affinity) :
    applyK8sNodeBlockList blockList (applyRackAffinity rack (some a)) =
      some { a with nodeAffinity := some (placedNode blockList (rackAffinityTerms rack)) } := by
  have hplaced : applyRackAffinity rack (some a) =
      some { a with nodeAffinity := some ⟨some ⟨[⟨rackAffinityTerms rack, []⟩]⟩, []⟩ } := by
    unfold applyRackAffinity
    split
    · contradiction
    · rfl
  rw [hplaced]
  unfold applyK8sNodeBlockList placedNode
  by_cases hb : blockList = [] <;> simp [hb, NodeSelectorTerm.block]

theorem applyK8sNodeBlockList_written (hb : blockList ≠ []) (a : Affinity) :
    ∃ b, applyK8sNodeBlockList blockList (some a) = some b ∧ WrittenOver b a := by
  refine ⟨_, applyK8sNodeBlockList_eq hb (some a), rfl, rfl, Or.inr ?_⟩
  have hopen : ∀ node : NodeAffinity, ∃ t ts, node.openTerms = t :: ts := by
    intro node
    unfold NodeAffinity.openTerms
    cases (node.required.getD ⟨[]⟩).nodeSelectorTerms with
    | nil => exact ⟨_, _, rfl⟩
    | cons t ts => exact ⟨t, ts, rfl⟩
  obtain ⟨t, ts, ht⟩ := hopen ((a.nodeAffinity).getD .empty)
  simp only [Option.getD_some, ht, List.map_cons, NodeSelectorTerm.block]
  cases t.matchExpressions with
  | nil => exact ⟨_, _, _, _, _, rfl⟩
  | cons e es => exact ⟨_, _, _, _, _, rfl⟩

/-- The racks settle exactly where they leave the node affinity undisturbed. -/
theorem settles_iff_undisturbed {a₀ : Affinity} (hc : cluster.affinity = some a₀)
    (hinject : shouldInjectAntiAffinity cluster = false) :
    ∀ (l : List RackSpec), (∀ rack ∈ l, cluster.spec.k8sNodeBlockList = [] ∨ rack.affinity = none) →
      ∀ (a : Affinity) (intact : Bool), WrittenOver a a₀ → (intact = true ↔ a = a₀) →
        (Settles cluster (some a) l ↔
          undisturbed cluster.spec.k8sNodeBlockList a₀.nodeAffinity intact l = true)
  | [], _, a, intact, _, hintact => by
    rw [undisturbed, hintact, Settles, hc, Option.some.injEq]
  | rack :: rest, hown, a, intact, ha, hintact => by
    have hne : cluster.affinity ≠ none := by rw [hc]; simp
    have hrest := settles_iff_undisturbed hc hinject rest fun r hr => hown r (List.mem_cons_of_mem _ hr)
    have hafter : ∀ b, (renderAffinity (cluster.withAffinity (some b)) (some rack)).cluster =
        applyK8sNodeBlockList cluster.spec.k8sNodeBlockList (applyRackAffinity rack (some b)) :=
      cluster_renderAffinity_withAffinity hne hinject (hown rack List.mem_cons_self)
    have hfirst : (renderAffinity cluster (some rack)).cluster =
        applyK8sNodeBlockList cluster.spec.k8sNodeBlockList (applyRackAffinity rack (some a₀)) := by
      have h := hafter a₀
      rw [← hc, withAffinity_self, hc] at h
      exact h
    rw [Settles, hafter, hfirst, undisturbed]
    by_cases hterms : rackAffinityTerms rack = []
    · have hunplaced : ∀ b, applyRackAffinity rack (some b) = some b := by
        intro b
        rw [applyRackAffinity, hterms]
      rw [if_pos hterms, hunplaced, hunplaced, Bool.and_eq_true]
      by_cases hb : cluster.spec.k8sNodeBlockList = []
      · -- nothing is written: the rack reads what it leaves
        simp only [hb, applyK8sNodeBlockList, List.isEmpty_nil, if_true, Option.some.injEq]
        rw [hb] at hrest
        constructor
        · rintro ⟨rfl, hsettles⟩
          exact ⟨hintact.2 rfl, (hrest a true (.refl a) (by simp)).1 hsettles⟩
        · rintro ⟨hi, hundisturbed⟩
          obtain rfl := hintact.1 hi
          exact ⟨rfl, (hrest a true (.refl a) (by simp)).2 hundisturbed⟩
      · -- the block is appended to what is there, which is then no longer the user's
        have hnext : ∀ b, applyK8sNodeBlockList cluster.spec.k8sNodeBlockList (some a₀) = some b → WrittenOver b a₀ →
            (Settles cluster (some b) rest ↔
              undisturbed cluster.spec.k8sNodeBlockList a₀.nodeAffinity
                cluster.spec.k8sNodeBlockList.isEmpty rest = true) := by
          intro b hbeq hwritten
          refine hrest _ _ hwritten ?_
          have hbne : b ≠ a₀ := by
            rintro rfl
            exact applyK8sNodeBlockList_ne hb _ hbeq
          simp [hb, hbne]
        obtain ⟨b, hbeq, hwritten⟩ := applyK8sNodeBlockList_written hb a₀
        constructor
        · rintro ⟨heq, hsettles⟩
          rw [heq, hbeq] at hsettles
          exact ⟨hintact.2 (ha.eq_of_alike hb heq), (hnext b hbeq hwritten).1 hsettles⟩
        · rintro ⟨hi, hundisturbed⟩
          obtain rfl := hintact.1 hi
          rw [hbeq]
          exact ⟨rfl, (hnext b hbeq hwritten).2 hundisturbed⟩
    · -- the terms of the rack replace the node affinity, whatever it was
      rw [if_neg hterms, applyK8sNodeBlockList_placed hterms, applyK8sNodeBlockList_placed hterms]
      have hsame : ∀ node, ({ a with nodeAffinity := node } : Affinity) = { a₀ with nodeAffinity := node } := by
        intro node
        rw [ha.podAffinity, ha.podAntiAffinity]
      rw [hsame]
      simp only [true_and]
      refine hrest _ _ ⟨rfl, rfl, Or.inr ?_⟩ ?_
      · obtain ⟨e, es, he⟩ := List.exists_cons_of_ne_nil hterms
        rw [he, placedNode]
        by_cases hb : cluster.spec.k8sNodeBlockList = []
        · exact ⟨e, es, [], [], [], by rw [if_pos hb]⟩
        · exact ⟨e, _, [], [], [], by rw [if_neg hb]; rfl⟩
      · obtain ⟨node₀, pod₀, anti₀⟩ := a₀
        simp [eq_comm]

end Loop

/-! ## Independence -/

/-- The racks are independent where the loop leaves the cluster's section alone, and no rack has an affinity
of its own that the block list is written into. -/
theorem independent_iff_loop (cluster : AerospikeCluster) (hash : Nat → String) :
    cluster.Independent hash ↔
      ((∀ sha, (renderRacks sha hash cluster.racks.zipIdx cluster).1 =
          cluster.racks.zipIdx.map fun r => renderRack sha cluster r.1 (hash r.2)) ∧
        ∀ sha, (renderRacks sha hash cluster.racks.zipIdx cluster).2.1 = cluster) ∧
      ∀ rack ∈ cluster.racks, cluster.spec.k8sNodeBlockList = [] ∨ rack.affinity = none := by
  constructor
  · rintro ⟨heach, hspec⟩
    have hspec := fun sha => (spec_reconcileRacks sha hash).1 (hspec sha)
    exact ⟨⟨heach, fun sha => (hspec sha).1⟩,
      fun rack hrack => rackAfter_eq_self.1 ((hspec fun _ => "").2 rack hrack)⟩
  · rintro ⟨⟨heach, hlast⟩, hracks⟩
    exact ⟨heach, fun sha => (spec_reconcileRacks sha hash).2
      ⟨hlast sha, fun rack hrack => rackAfter_eq_self.2 (hracks rack hrack)⟩⟩

/-- Where a term is injected into the anti-affinity of the section, it has one more after each rack. -/
theorem not_injected_of_settles {cluster : AerospikeCluster} {a : Affinity} (hc : cluster.affinity = some a)
    (h : Settles cluster (some a) cluster.racks) : shouldInjectAntiAffinity cluster = false := by
  have hne : cluster.affinity ≠ none := by rw [hc]; simp
  have hracks : cluster.racks ≠ [] := by
    unfold AerospikeCluster.racks
    cases h : cluster.spec.racks <;> simp
  rw [← Bool.not_eq_true]
  intro hinject
  have hcount := Settles.antiTerms_add hne hinject (by simp) h
  rw [hc] at hcount
  exact hracks (List.length_eq_zero_iff.1 (by omega))

/-- The racks of a cluster are rendered independently, for every hash function and whatever the hashes
of their configs are, exactly where what they share is not written into or is written back. -/
theorem racks_independent_iff (cluster : AerospikeCluster) (hash : Nat → String) :
    cluster.Independent hash ↔ cluster.RacksApart := by
  have hown : (∀ rack ∈ cluster.racks, cluster.spec.k8sNodeBlockList = [] ∨ rack.affinity = none) ↔
      (cluster.spec.k8sNodeBlockList = [] ∨ ∀ rack ∈ cluster.racks, rack.affinity = none) := by
    by_cases hb : cluster.spec.k8sNodeBlockList = [] <;> simp [hb]
  rw [independent_iff_loop]
  cases hc : cluster.affinity with
  | none =>
    refine ⟨fun h => ⟨hown.1 h.2, fun a ha => by rw [hc] at ha; cases ha⟩,
      fun h => ⟨⟨fun sha => ?_, fun sha => ?_⟩, hown.2 h.own⟩⟩
    · exact (renderRacks_of_none hc sha hash _).1
    · exact (renderRacks_of_none hc sha hash _).2
  | some a =>
    have hne : cluster.affinity ≠ none := by rw [hc]; simp
    have hloop := renderRacks_settles hne hash cluster.racks.zipIdx hne
    rw [withAffinity_self] at hloop
    rw [hloop, show cluster.racks.zipIdx.map (·.1) = cluster.racks from List.zipIdx_map_fst 0 _, hc]
    constructor
    · rintro ⟨hsettles, h⟩
      have hinject := not_injected_of_settles hc hsettles
      refine ⟨hown.1 h, ?_⟩
      intro a' ha'
      rw [hc] at ha'
      cases ha'
      exact ⟨hinject, (settles_iff_undisturbed hc hinject _ h a true (.refl a) (by simp)).1 hsettles⟩
    · intro h
      obtain ⟨hinject, hundisturbed⟩ := h.shared a hc
      exact ⟨(settles_iff_undisturbed hc hinject _ (hown.2 h.own) a true (.refl a) (by simp)).2 hundisturbed,
        hown.2 h.own⟩

/-- Two racks of a cluster with an empty affinity in its pod section and a blocked node. -/
def twoRackCluster : AerospikeCluster :=
  let bare := AerospikeCluster.bare "demo" "aerospike:ce-8"
  { bare with spec := { bare.spec with
    racks := [.bare 1, .bare 2]
    podSpec := some { AerospikePodSpec.empty with affinity := some .empty }
    k8sNodeBlockList := ["node-1"] } }

/-- The second rack's template excludes the blocked node twice, alone it would once, and the spec has
the requirements afterwards. -/
theorem second_rack_disturbed :
    let racks := twoRackCluster.reconcileRacks (fun _ => "") (fun _ => "")
    let required := fun a : Option Affinity =>
      (((a.getD .empty).nodeAffinity.getD .empty).openTerms.map (·.matchExpressions)).flatten
    (racks.1.map fun r => required r.template.spec.affinity) =
        [[blockedRequirement ["node-1"]], [blockedRequirement ["node-1"], blockedRequirement ["node-1"]]] ∧
      required (renderRack (fun _ => "") twoRackCluster (.bare 2) "").template.spec.affinity =
        [blockedRequirement ["node-1"]] ∧
      required racks.2.affinity = [blockedRequirement ["node-1"], blockedRequirement ["node-1"]] ∧
      ¬ twoRackCluster.Independent fun _ => "" := by
  refine ⟨by decide +kernel, by decide +kernel, by decide +kernel, fun h => ?_⟩
  exact absurd (h.each fun _ => "") (by decide +kernel)

end Acko
