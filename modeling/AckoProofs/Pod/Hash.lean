/-
Change detection. A StatefulSet is patched when the replica count or one of three hashes changes: that
of the effective config, that of the pod settings and that of the storage. An edit of anything else
that the template is rendered from is never applied.
-/
import AckoProofs.Pod.Template

namespace Acko

/-! ## The hashes -/

/-- The fields that `computePodSpecHash` hashes. -/
structure PodSpecHashInput where
  image : String
  podSpec : Option AerospikePodSpec
  monitoring : Option AerospikeMonitoringSpec
  podService : Option AerospikeServiceSpec
  aerospikeNetworkPolicy : Option AerospikeNetworkPolicy
  k8sNodeBlockList : List String
  rackID : Int
  preStopSleepSec : Int
  deriving DecidableEq

/-- What `ShortSHA256` is called on. -/
inductive HashInput
  | config (value : Config)
  | podSpec (input : PodSpecHashInput)
  | storage (storage : Option AerospikeStorageSpec)

def podSpecHashInput (cluster : AerospikeCluster) (rack : RackSpec) : PodSpecHashInput where
  image := cluster.spec.image
  podSpec := cluster.spec.podSpec
  monitoring := cluster.spec.monitoring
  podService := cluster.spec.podService
  aerospikeNetworkPolicy := cluster.spec.aerospikeNetworkPolicy
  k8sNodeBlockList := cluster.spec.k8sNodeBlockList
  rackID := rack.id
  preStopSleepSec := preStopSleepSeconds

def rackTemplate (cluster : AerospikeCluster) (rack : RackSpec) (hash : String) : Rendered :=
  buildPodTemplateSpec cluster (some rack) rack.id (configMapName cluster.name rack.id) hash

/-- What `computePodSpecHash` and `computeStorageHash` hash. They are called after the template has
been built, on the cluster and the rack that it leaves. -/
def rackHashInputs (cluster : AerospikeCluster) (rack : RackSpec) (hash : String) :
    PodSpecHashInput × Option AerospikeStorageSpec :=
  let rendered := rackTemplate cluster rack hash
  let rack := rendered.rack.getD rack
  (podSpecHashInput rendered.cluster rack, effectiveStorage rendered.cluster (some rack))

section Hashes

variable (shortSHA256 : HashInput → String)

/-- Empty without a config. -/
def configHash : Option Config → String
  | none => ""
  | some config => shortSHA256 (.config config)

/-- Of the fields that need a new pod. -/
def computePodSpecHash (cluster : AerospikeCluster) (rack : RackSpec) : String :=
  shortSHA256 (.podSpec (podSpecHashInput cluster rack))

/-- Of the rack's effective storage. -/
def computeStorageHash (cluster : AerospikeCluster) (rack : RackSpec) : String :=
  shortSHA256 (.storage (effectiveStorage cluster (some rack)))

/-- The hashes that `reconcileStatefulSet` compares with those of the live StatefulSet. -/
def rackHashes (cluster : AerospikeCluster) (rack : RackSpec) (config : Option Config) : Hashes :=
  let hash := configHash shortSHA256 config
  let rendered := rackTemplate cluster rack hash
  let rack := rendered.rack.getD rack
  ⟨hash, computePodSpecHash shortSHA256 rendered.cluster rack, computeStorageHash shortSHA256 rendered.cluster rack⟩

/-- The annotations of the template that is written: the two later hashes are set over those that
`BuildPodTemplateSpec` has copied. -/
def rackAnnotations (cluster : AerospikeCluster) (rack : RackSpec) (config : Option Config) : StringMap :=
  let hashes := rackHashes shortSHA256 cluster rack config
  ((rackTemplate cluster rack hashes.config).template.annotations.insert podSpecHashKey hashes.podSpec).insert
    storageHashKey hashes.storage

end Hashes

/-! ## What is hashed -/

/-- The hashed inputs of two racks agree. -/
structure SameHashed (cluster cluster' : AerospikeCluster) (rack rack' : RackSpec) : Prop where
  image : cluster.spec.image = cluster'.spec.image
  podSpec : (cluster.withAffinity none).spec.podSpec = (cluster'.withAffinity none).spec.podSpec
  affinity : (renderAffinity cluster (some rack)).cluster = (renderAffinity cluster' (some rack')).cluster
  monitoring : cluster.spec.monitoring = cluster'.spec.monitoring
  podService : cluster.spec.podService = cluster'.spec.podService
  k8sNodeBlockList : cluster.spec.k8sNodeBlockList = cluster'.spec.k8sNodeBlockList
  rackID : rack.id = rack'.id
  storage : effectiveStorage cluster (some rack) = effectiveStorage cluster' (some rack')

variable {cluster : AerospikeCluster} {hash : String}

variable {cluster' : AerospikeCluster}

theorem sameHashed_of_inputs {rack rack' : RackSpec}
    (h : rackHashInputs cluster rack hash = rackHashInputs cluster' rack' hash) :
    SameHashed cluster cluster' rack rack' := by
  obtain ⟨hinput, hstorage⟩ := Prod.mk.injEq .. ▸ h
  obtain ⟨himage, hspec, hmonitoring, hservice, -, hblock, hid, -⟩ := PodSpecHashInput.mk.injEq .. ▸ hinput
  have hparts : (cluster.withAffinity none).spec.podSpec = (cluster'.withAffinity none).spec.podSpec ∧
      (renderAffinity cluster (some rack)).cluster = (renderAffinity cluster' (some rack')).cluster := by
    have hspec :
        cluster.spec.podSpec.map (fun p => { p with affinity := (renderAffinity cluster (some rack)).cluster }) =
        cluster'.spec.podSpec.map fun p => { p with affinity := (renderAffinity cluster' (some rack')).cluster } :=
      hspec
    cases hp : cluster.spec.podSpec <;> cases hp' : cluster'.spec.podSpec <;>
      simp only [hp, hp', Option.map_none, Option.map_some, Option.some.injEq, reduceCtorEq] at hspec
    · have hnone : cluster.affinity = none := by simp [AerospikeCluster.affinity, hp]
      have hnone' : cluster'.affinity = none := by simp [AerospikeCluster.affinity, hp']
      refine ⟨by simp [AerospikeCluster.withAffinity, hp, hp'], ?_⟩
      rw [cluster_renderAffinity_eq_none.2 hnone, cluster_renderAffinity_eq_none.2 hnone']
    · rename_i p p'
      refine ⟨?_, congrArg AerospikePodSpec.affinity hspec⟩
      have hplain := congrArg (fun p : AerospikePodSpec => { p with affinity := none }) hspec
      simpa [AerospikeCluster.withAffinity, hp, hp'] using hplain
  exact ⟨himage, hparts.1, hparts.2, hmonitoring, hservice, hblock, hid, hstorage⟩

/-! ## What is not hashed -/

def AerospikeCluster.ingressRate (cluster : AerospikeCluster) : String :=
  (cluster.spec.bandwidthConfig.map (·.ingress)).getD ""

def AerospikeCluster.egressRate (cluster : AerospikeCluster) : String :=
  (cluster.spec.bandwidthConfig.map (·.egress)).getD ""

def AerospikeCluster.monitored (cluster : AerospikeCluster) : Bool :=
  (cluster.spec.monitoring.map (·.enabled)).getD false

/-- The tolerations of a rack's pods: its own where it has some, else those of the cluster's section. -/
def tolerationsFor (cluster : AerospikeCluster) (rack : RackSpec) : List Toleration :=
  let own := (rack.podSpec.map (·.tolerations)).getD []
  if own.isEmpty then (cluster.spec.podSpec.map (·.tolerations)).getD [] else own

/-- The node selector of a rack's pods, chosen likewise. -/
def nodeSelectorFor (cluster : AerospikeCluster) (rack : RackSpec) : StringMap :=
  let own := (rack.podSpec.map (·.nodeSelector)).getD ∅
  if own = ∅ then (cluster.spec.podSpec.map (·.nodeSelector)).getD ∅ else own

/-- The affinities of two racks agree. Without overrides in the racks, an affinity in the cluster's
section is hashed with the placement written into it; without that, the placements have to agree. -/
def SameAffinity (cluster cluster' : AerospikeCluster) (rack rack' : RackSpec) : Prop :=
  match rack.affinity, rack'.affinity with
  | none, none => cluster.affinity ≠ none ∨ rack.SamePlacement rack'
  | own, own' => AlikeUnder cluster.spec.k8sNodeBlockList (own <|> placedAffinity cluster rack)
      (own' <|> placedAffinity cluster' rack')

/-- The inputs of the template that no hash covers agree. -/
structure SameUnhashed (cluster cluster' : AerospikeCluster) (rack rack' : RackSpec) : Prop where
  ingress : ingressBandwidthKey ∈ cluster.podMetadata.annotations ∨ cluster.ingressRate = cluster'.ingressRate
  egress : egressBandwidthKey ∈ cluster.podMetadata.annotations ∨ cluster.egressRate = cluster'.egressRate
  admin : cluster.monitored = true →
    adminCredentials cluster.spec.aerospikeAccessControl = adminCredentials cluster'.spec.aerospikeAccessControl
  tolerations : tolerationsFor cluster rack = tolerationsFor cluster' rack'
  nodeSelector : nodeSelectorFor cluster rack = nodeSelectorFor cluster' rack'
  affinity : SameAffinity cluster cluster' rack rack'

/-! ## Annotations -/

theorem lookup_insertUnlessEmpty {key value k : String} {m : StringMap} :
    (insertUnlessEmpty key value m).lookup k = if k = key ∧ value ≠ "" then some value else m.lookup k := by
  unfold insertUnlessEmpty
  by_cases hv : value = "" <;> by_cases hk : k = key
  · simp [hv]
  · simp [hv]
  · subst hk
    simp [hv]
  · simp [hv, hk]

theorem bandwidthAnnotations_eq (cluster : AerospikeCluster) (m : StringMap) :
    bandwidthAnnotations cluster.spec.bandwidthConfig m =
      insertUnlessEmpty egressBandwidthKey cluster.egressRate
        (insertUnlessEmpty ingressBandwidthKey cluster.ingressRate m) := by
  unfold bandwidthAnnotations AerospikeCluster.egressRate AerospikeCluster.ingressRate
  cases cluster.spec.bandwidthConfig <;> rfl

theorem lookup_templateAnnotations (cluster : AerospikeCluster) (hash k : String) :
    (templateAnnotations cluster hash).lookup k =
      if k ∈ cluster.podMetadata.annotations then cluster.podMetadata.annotations.lookup k
      else if k = egressBandwidthKey ∧ cluster.egressRate ≠ "" then some cluster.egressRate
      else if k = ingressBandwidthKey ∧ cluster.ingressRate ≠ "" then some cluster.ingressRate
      else if k = configHashKey then some hash else none := by
  unfold templateAnnotations mapsCopy
  rw [bandwidthAnnotations_eq]
  split
  case isTrue h => rw [Finmap.lookup_union_left h]
  case isFalse h =>
    have hbase : (Labels.toMap [(configHashKey, hash)]).lookup k = if k = configHashKey then some hash else none := by
      rw [lookup_toMap, DocTree.lookup_cons_eq]
      rfl
    rw [Finmap.lookup_union_right h, lookup_insertUnlessEmpty, lookup_insertUnlessEmpty, hbase]

theorem some_unless_empty_inj {v v' : String} :
    (if v ≠ "" then some v else none) = (if v' ≠ "" then some v' else none) ↔ v = v' := by
  by_cases hv : v = "" <;> by_cases hv' : v' = ""
  · simp [hv, hv']
  · simp [hv, hv', Ne.symm hv']
  · simp [hv, hv']
  · simp [hv, hv']

/-- The annotation of a rate tells the rate, unless the user's annotations replace it. -/
theorem rate_of_annotations_eq {key : String} {rate : AerospikeCluster → String}
    (hrate : ∀ c : AerospikeCluster, key ∉ c.podMetadata.annotations →
      (templateAnnotations c hash).lookup key = if rate c ≠ "" then some (rate c) else none)
    (hmeta : cluster.podMetadata = cluster'.podMetadata)
    (h : templateAnnotations cluster hash = templateAnnotations cluster' hash) :
    key ∈ cluster.podMetadata.annotations ∨ rate cluster = rate cluster' := by
  by_cases hkey : key ∈ cluster.podMetadata.annotations
  · exact Or.inl hkey
  · have hlookup := congrArg (Finmap.lookup key) h
    rw [hrate cluster hkey, hrate cluster' (hmeta ▸ hkey)] at hlookup
    exact Or.inr (some_unless_empty_inj.1 hlookup)

theorem templateAnnotations_eq_iff (hmeta : cluster.podMetadata = cluster'.podMetadata) :
    templateAnnotations cluster hash = templateAnnotations cluster' hash ↔
      (ingressBandwidthKey ∈ cluster.podMetadata.annotations ∨ cluster.ingressRate = cluster'.ingressRate) ∧
        (egressBandwidthKey ∈ cluster.podMetadata.annotations ∨ cluster.egressRate = cluster'.egressRate) := by
  constructor
  · intro h
    refine ⟨rate_of_annotations_eq (fun c hkey => ?_) hmeta h, rate_of_annotations_eq (fun c hkey => ?_) hmeta h⟩ <;>
      rw [lookup_templateAnnotations, if_neg hkey]
    · simp [show ingressBandwidthKey ≠ egressBandwidthKey by decide, show ingressBandwidthKey ≠ configHashKey by decide]
    · simp [show egressBandwidthKey ≠ ingressBandwidthKey by decide, show egressBandwidthKey ≠ configHashKey by decide]
  · rintro ⟨hingress, hegress⟩
    refine Finmap.ext_lookup fun k => ?_
    rw [lookup_templateAnnotations, lookup_templateAnnotations, ← hmeta]
    by_cases hk : k ∈ cluster.podMetadata.annotations
    · rw [if_pos hk, if_pos hk]
    rw [if_neg hk, if_neg hk]
    by_cases hin : k = ingressBandwidthKey
    · subst hin
      rw [hingress.resolve_left hk]
      simp [show ingressBandwidthKey ≠ egressBandwidthKey by decide]
    by_cases heg : k = egressBandwidthKey
    · subst heg
      rw [hegress.resolve_left hk]
      simp [hin]
    simp [hin, heg]

/-! ## The template -/

theorem templatePodSpec_eq (cluster : AerospikeCluster) (rack : RackSpec) (configMapName : String) :
    templatePodSpec cluster (some rack) configMapName =
      { initContainers := templateInitContainers cluster (effectiveStorage cluster (some rack))
        containers := templateContainers cluster (effectiveStorage cluster (some rack))
        volumes := templateVolumes (effectiveStorage cluster (some rack)) configMapName
        terminationGracePeriodSeconds := some ((cluster.spec.podSpec.bind (·.terminationGracePeriodSeconds)).getD 60)
        automountServiceAccountToken := if cluster.externalServiceType.isSome then some true else none
        affinity := (renderAffinity cluster (some rack)).current
        tolerations := tolerationsFor cluster rack
        nodeSelector := nodeSelectorFor cluster rack
        securityContext := cluster.spec.podSpec.bind (·.securityContext)
        serviceAccountName := (cluster.spec.podSpec.map (·.serviceAccountName)).getD ""
        dnsPolicy := (cluster.spec.podSpec.map (·.dnsPolicy)).getD ""
        hostNetwork := (cluster.spec.podSpec.map (·.hostNetwork)).getD false
        imagePullSecrets := (cluster.spec.podSpec.map (·.imagePullSecrets)).getD []
        readinessGates := if (cluster.spec.podSpec.bind (·.readinessGateEnabled)) = some true
          then [aerospikeReadinessGateConditionType] else []
        topologySpreadConstraints := (cluster.spec.podSpec.map (·.topologySpreadConstraints)).getD []
        priorityClassName := (cluster.spec.podSpec.map (·.priorityClassName)).getD "" } := by
  have hself : ∀ {α : Type} [DecidableEq α] (a b : α), (if a = b then b else a) = a := by
    intro α _ a b
    split
    case isTrue h => exact h.symm
    case isFalse => rfl
  unfold templatePodSpec tolerationsFor nodeSelectorFor
  cases cluster.spec.podSpec <;> cases hr : rack.podSpec <;>
    simp [applyPodSpecSettings, applyRackPodSpecOverrides, hr, hself]

section SameHashed

variable {cluster cluster' : AerospikeCluster} {rack rack' : RackSpec} (h : SameHashed cluster cluster' rack rack')

include h

theorem SameHashed.bind {β : Type} (f : AerospikePodSpec → Option β)
    (hf : ∀ p a, f { p with affinity := a } = f p) : cluster.spec.podSpec.bind f = cluster'.spec.podSpec.bind f := by
  have hplain : ∀ c : AerospikeCluster, (c.withAffinity none).spec.podSpec.bind f = c.spec.podSpec.bind f := by
    intro c
    unfold AerospikeCluster.withAffinity
    cases c.spec.podSpec with
    | none => rfl
    | some p => exact hf p none
  rw [← hplain cluster, ← hplain cluster', h.podSpec]

theorem SameHashed.map {β : Type} (f : AerospikePodSpec → β)
    (hf : ∀ p a, f { p with affinity := a } = f p) : cluster.spec.podSpec.map f = cluster'.spec.podSpec.map f := by
  rw [Option.map_eq_bind, Option.map_eq_bind]
  exact h.bind _ fun p a => congrArg some (hf p a)

theorem SameHashed.podMetadata : cluster.podMetadata = cluster'.podMetadata := by
  rw [AerospikeCluster.podMetadata, AerospikeCluster.podMetadata, h.bind (·.metadata) fun _ _ => rfl]

theorem SameHashed.exporter_iff :
    exporterSidecars cluster = exporterSidecars cluster' ↔ (cluster.monitored = true →
      adminCredentials cluster.spec.aerospikeAccessControl =
        adminCredentials cluster'.spec.aerospikeAccessControl) := by
  unfold exporterSidecars AerospikeCluster.monitored
  rw [← h.monitoring]
  cases cluster.spec.monitoring with
  | none => simp
  | some monitoring => cases hen : monitoring.enabled <;> simp [hen, buildExporterSidecar_eq_iff]

theorem SameHashed.shouldInject : shouldInjectAntiAffinity cluster = shouldInjectAntiAffinity cluster' := by
  rw [shouldInjectAntiAffinity, shouldInjectAntiAffinity, h.bind (·.multiPodPerHost) fun _ _ => rfl]

theorem SameHashed.affinity_iff (hname : cluster.name = cluster'.name) :
    (renderAffinity cluster (some rack)).current = (renderAffinity cluster' (some rack')).current ↔
      SameAffinity cluster cluster' rack rack' := by
  have hnone : cluster.affinity = none ↔ cluster'.affinity = none := by
    rw [← @cluster_renderAffinity_eq_none cluster rack, h.affinity, cluster_renderAffinity_eq_none]
  have hasked : (renderAffinity cluster (some rack)).current = (renderAffinity cluster' (some rack')).current ↔
      AlikeUnder cluster.spec.k8sNodeBlockList (askedAffinity cluster rack) (askedAffinity cluster' rack') := by
    rw [current_renderAffinity, current_renderAffinity, ← h.k8sNodeBlockList, applyK8sNodeBlockList_eq_iff]
  unfold SameAffinity
  cases hr : rack.affinity with
  | some own => rw [hasked, askedAffinity, askedAffinity, hr]
  | none =>
    cases hr' : rack'.affinity with
    | some own' => rw [hasked, askedAffinity, askedAffinity, hr, hr']
    | none =>
      by_cases hc : cluster.affinity = none
      · -- nothing of the placement is hashed: the pod's affinity is an object of the template
        have hc' := hnone.1 hc
        rw [hasked, askedAffinity, askedAffinity, hr, hr']
        simp only [placedAffinity, hc, hc', ← hname, ← h.shouldInject, ne_eq, not_true_eq_false, false_or]
        refine applyRackAffinity_alike ?_
        cases shouldInjectAntiAffinity cluster <;> rfl
      · rw [← cluster_renderAffinity hc hr, ← cluster_renderAffinity (fun hc' => hc (hnone.2 hc')) hr', h.affinity]
        exact iff_of_true rfl (Or.inl hc)

theorem SameHashed.initContainers (storageSpec : Option AerospikeStorageSpec) :
    templateInitContainers cluster storageSpec = templateInitContainers cluster' storageSpec := by
  have huser : cluster.userInitContainers = cluster'.userInitContainers := by
    rw [AerospikeCluster.userInitContainers, AerospikeCluster.userInitContainers,
      h.map (·.initContainers) fun _ _ => rfl]
  simp only [templateInitContainers, buildInitContainer, AerospikeCluster.externalServiceType, huser, h.image,
    h.podService]

theorem SameHashed.containers_iff (storageSpec : Option AerospikeStorageSpec) :
    templateContainers cluster storageSpec = templateContainers cluster' storageSpec ↔
      exporterSidecars cluster = exporterSidecars cluster' := by
  have huser : cluster.userSidecars = cluster'.userSidecars := by
    rw [AerospikeCluster.userSidecars, AerospikeCluster.userSidecars, h.map (·.sidecars) fun _ _ => rfl]
  simp only [templateContainers, buildAerospikeContainer, huser, h.image,
    h.bind (·.aerospikeContainerSpec) fun _ _ => rfl, List.cons.injEq, true_and, List.append_cancel_right_eq]

/-- Of two racks whose hashes agree, the templates agree where the unhashed inputs do. -/
theorem SameHashed.template_iff (hname : cluster.name = cluster'.name) {hash : String} :
    (rackTemplate cluster rack hash).template = (rackTemplate cluster' rack' hash).template ↔
      SameUnhashed cluster cluster' rack rack' := by
  have hlabels : ∀ id, templateLabels cluster id = templateLabels cluster' id := by
    intro id
    rw [templateLabels, templateLabels, h.podMetadata, hname]
  have hservice : cluster.externalServiceType = cluster'.externalServiceType := by
    rw [AerospikeCluster.externalServiceType, AerospikeCluster.externalServiceType, h.podService]
  rw [rackTemplate, rackTemplate, buildPodTemplateSpec, buildPodTemplateSpec]
  simp only [templatePodSpec_eq, PodTemplateSpec.mk.injEq, PodSpec.mk.injEq, templateAnnotations_eq_iff h.podMetadata,
    h.initContainers, h.storage, h.containers_iff, h.exporter_iff, h.affinity_iff hname, hlabels, hservice, hname,
    h.rackID, h.bind (·.terminationGracePeriodSeconds) fun _ _ => rfl, h.bind (·.securityContext) fun _ _ => rfl,
    h.bind (·.readinessGateEnabled) fun _ _ => rfl, h.map (·.serviceAccountName) fun _ _ => rfl,
    h.map (·.dnsPolicy) fun _ _ => rfl, h.map (·.hostNetwork) fun _ _ => rfl,
    h.map (·.imagePullSecrets) fun _ _ => rfl, h.map (·.topologySpreadConstraints) fun _ _ => rfl,
    h.map (·.priorityClassName) fun _ _ => rfl, and_true, true_and]
  constructor
  · rintro ⟨⟨hingress, hegress⟩, hadmin, haffinity, htolerations, hselector⟩
    exact ⟨hingress, hegress, hadmin, htolerations, hselector, haffinity⟩
  · intro hsame
    exact ⟨⟨hsame.ingress, hsame.egress⟩, hsame.admin, hsame.affinity, hsame.tolerations, hsame.nodeSelector⟩

end SameHashed

/-! ## Completeness -/

theorem lookup_rackAnnotations (shortSHA256 : HashInput → String) (cluster : AerospikeCluster) (rack : RackSpec)
    (config : Option Config) :
    let hashes := rackHashes shortSHA256 cluster rack config
    let annotations := rackAnnotations shortSHA256 cluster rack config
    annotations.lookup podSpecHashKey = some hashes.podSpec ∧ annotations.lookup storageHashKey = some hashes.storage ∧
      annotations.lookup configHashKey =
        some ((cluster.podMetadata.annotations.lookup configHashKey).getD hashes.config) := by
  intro hashes annotations
  have hconfig : annotations.lookup configHashKey =
      (templateAnnotations cluster hashes.config).lookup configHashKey := by
    show (Finmap.insert storageHashKey _ (Finmap.insert podSpecHashKey _ _)).lookup configHashKey = _
    rw [Finmap.lookup_insert_of_ne _ (by decide), Finmap.lookup_insert_of_ne _ (by decide)]
    rfl
  refine ⟨?_, Finmap.lookup_insert _, ?_⟩
  · show (Finmap.insert storageHashKey _ (Finmap.insert podSpecHashKey _ _)).lookup podSpecHashKey = _
    rw [Finmap.lookup_insert_of_ne _ (by decide), Finmap.lookup_insert]
  · rw [hconfig, lookup_templateAnnotations]
    by_cases hkey : configHashKey ∈ cluster.podMetadata.annotations
    · obtain ⟨v, hv⟩ := Finmap.mem_iff.1 hkey
      rw [if_pos hkey, hv]
      rfl
    · rw [if_neg hkey, Finmap.lookup_eq_none.2 hkey]
      simp [show configHashKey ≠ egressBandwidthKey by decide, show configHashKey ≠ ingressBandwidthKey by decide]

/-- Change detection, for every hash function. Of two racks of clusters of one name with the same
effective config and the same hashed inputs, the templates are equal exactly where the inputs agree
that are not hashed: the bandwidth rates that the user's annotations do not replace, the admin user
of a monitored cluster, and the tolerations, node selector and affinity that the racks ask for. The
pod-spec and storage hashes of a written template are the computed ones, and its config hash is
unless the user's annotations set another. -/
theorem changes_detected_iff (shortSHA256 : HashInput → String) (config : Option Config) :
    (∀ (cluster cluster' : AerospikeCluster) (rack rack' : RackSpec), cluster.name = cluster'.name →
      rackHashInputs cluster rack (configHash shortSHA256 config) =
        rackHashInputs cluster' rack' (configHash shortSHA256 config) →
      ((rackTemplate cluster rack (configHash shortSHA256 config)).template =
          (rackTemplate cluster' rack' (configHash shortSHA256 config)).template ↔
        SameUnhashed cluster cluster' rack rack')) ∧
    ∀ (cluster : AerospikeCluster) (rack : RackSpec),
      let hashes := rackHashes shortSHA256 cluster rack config
      let annotations := rackAnnotations shortSHA256 cluster rack config
      annotations.lookup podSpecHashKey = some hashes.podSpec ∧
        annotations.lookup storageHashKey = some hashes.storage ∧
        (annotations.lookup configHashKey = some hashes.config ↔
          ∀ v, cluster.podMetadata.annotations.lookup configHashKey = some v → v = hashes.config) := by
  constructor
  · intro cluster cluster' rack rack' hname hinputs
    exact (sameHashed_of_inputs hinputs).template_iff hname
  · intro cluster rack hashes annotations
    obtain ⟨hpod, hstorage, hconfig⟩ := lookup_rackAnnotations shortSHA256 cluster rack config
    refine ⟨hpod, hstorage, ?_⟩
    rw [hconfig]
    cases cluster.podMetadata.annotations.lookup configHashKey <;> simp [hashes]

/-- An ACL without monitoring is in no template and in no hash. -/
theorem changes_detected_acl :
    let cluster := AerospikeCluster.bare "demo" "aerospike:ce-8"
    let secured : AerospikeCluster := { cluster with spec := { cluster.spec with
      aerospikeAccessControl := some ⟨[⟨"admin", "admin-secret", ["sys-admin", "user-admin"]⟩]⟩ } }
    rackHashInputs cluster (.bare 1) "" = rackHashInputs secured (.bare 1) "" ∧
      (rackTemplate cluster (.bare 1) "").template = (rackTemplate secured (.bare 1) "").template := by
  refine ⟨by decide +kernel, ?_⟩
  refine ((changes_detected_iff (fun _ => "") none).1 _ _ _ _ rfl (by decide +kernel)).2 ?_
  exact ⟨Or.inr rfl, Or.inr rfl, by decide, rfl, rfl, Or.inr ⟨rfl, rfl, rfl, rfl⟩⟩

/-- A rack that moves to another zone has another template and the hashed inputs it had; and a
config-hash annotation among the user's stands in the template whatever the config is, also where its
hash is another. -/
theorem zone_change_undetected :
    let cluster := AerospikeCluster.bare "demo" "aerospike:ce-8"
    let rack : RackSpec := { RackSpec.bare 1 with zone := "a" }
    let moved : RackSpec := { RackSpec.bare 1 with zone := "b" }
    let pinned : AerospikeCluster := { cluster with spec := { cluster.spec with
      podSpec := some { AerospikePodSpec.empty with metadata := some ⟨∅, Labels.toMap [(configHashKey, "pinned")]⟩ } } }
    rackHashInputs cluster rack "" = rackHashInputs cluster moved "" ∧
      (rackTemplate cluster rack "").template ≠ (rackTemplate cluster moved "").template ∧
      (∀ shortSHA256 config,
        (rackAnnotations shortSHA256 pinned rack config).lookup configHashKey = some "pinned") ∧
      ∀ shortSHA256, (rackHashes shortSHA256 pinned rack none).config ≠ "pinned" := by
  refine ⟨by decide +kernel, by decide +kernel, fun shortSHA256 config => ?_, fun shortSHA256 =>
    show "" ≠ "pinned" by decide⟩
  rw [(lookup_rackAnnotations shortSHA256 _ _ config).2.2]
  rfl

end Acko
