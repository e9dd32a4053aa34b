/-
The volumes, mounts and claim templates that a storage section renders into. A volume with an inline
source becomes a volume of the pod; one with a claim becomes a claim template of the StatefulSet; a
mount is written for either, under the volume's name.
-/
import AckoProofs.Storage.Spec

namespace Acko

/-! ## Volumes of a pod -/

/-- The source of a `corev1.Volume` as far as the operator writes it. -/
inductive InlineSource
  | emptyDir (source : EmptyDirVolumeSource)
  | secret (source : SecretVolumeSource)
  | configMap (source : ConfigMapVolumeSource)
  | hostPath (source : HostPathVolumeSource)
  deriving DecidableEq

structure Volume where
  name : String
  source : InlineSource
  deriving DecidableEq

structure VolumeMount where
  name : String
  mountPath : String
  readOnly : Bool
  subPath : String
  subPathExpr : String
  mountPropagation : Option MountPropagation
  deriving DecidableEq

def VolumeMount.of (name mountPath : String) (readOnly : Bool) : VolumeMount :=
  ⟨name, mountPath, readOnly, "", "", none⟩

/-- `volumeForSpec`: the first inline source counts; a claim is left to the claim templates. -/
def volumeForSpec (vol : VolumeSpec) : Option Volume :=
  match vol.source.emptyDir, vol.source.secret, vol.source.configMap, vol.source.hostPath with
  | some s, _, _, _ => some ⟨vol.name, .emptyDir s⟩
  | none, some s, _, _ => some ⟨vol.name, .secret s⟩
  | none, none, some s, _ => some ⟨vol.name, .configMap s⟩
  | none, none, none, some s => some ⟨vol.name, .hostPath s⟩
  | none, none, none, none => none

def buildVolumeMount (name : String) (att : AerospikeVolumeAttachment) : VolumeMount :=
  ⟨name, att.path, att.readOnly, att.subPath, att.subPathExpr, att.mountPropagation⟩

variable (storageSpec : Option AerospikeStorageSpec)

/-- `BuildVolumes`: the volumes of the pod and the mounts of the Aerospike container. -/
def buildVolumes : List Volume × List VolumeMount :=
  match storageSpec with
  | none => ([], [])
  | some storage =>
    (storage.volumes.filterMap volumeForSpec,
      storage.volumes.filterMap fun vol => vol.aerospike.map (buildVolumeMount vol.name))

def volumeMountsForContainer (containerName : String) (isSidecar : Bool) : List VolumeMount :=
  match storageSpec with
  | none => []
  | some storage => storage.volumes.flatMap fun vol =>
    ((if isSidecar then vol.sidecars else vol.initContainers).filter (·.containerName = containerName)).map
      fun att => buildVolumeMount vol.name att.toAerospikeVolumeAttachment

/-! ## Claim templates -/

/-- A `corev1.PersistentVolumeClaim` of `volumeClaimTemplates`; `storage` is the text of the requested size. -/
structure ClaimTemplate where
  name : String
  labels : StringMap
  annotations : StringMap
  accessModes : List AccessMode
  volumeMode : VolumeMode
  storage : String
  storageClassName : Option String
  selector : Option LabelSelector
  deriving DecidableEq

def claimTemplate (name : String) (pv : PersistentVolumeSpec) : ClaimTemplate where
  name := name
  labels := (pv.metadata.map (·.labels)).getD ∅
  annotations := (pv.metadata.map (·.annotations)).getD ∅
  accessModes := if pv.accessModes.isEmpty then [.readWriteOnce] else pv.accessModes
  volumeMode := pv.volumeMode.getD .filesystem
  storage := pv.size
  storageClassName := if pv.storageClass = "" then none else some pv.storageClass
  selector := pv.selector

/-- One for each volume with a claim. -/
def buildVolumeClaimTemplates : List ClaimTemplate :=
  match storageSpec with
  | none => []
  | some storage => storage.volumes.filterMap fun vol => vol.source.persistentVolume.map (claimTemplate vol.name)

/-! ## What a mount rests on -/

def storageVolumes : List VolumeSpec :=
  (storageSpec.map (·.volumes)).getD []

theorem name_of_volumeForSpec {vol : VolumeSpec} {v : Volume} (h : volumeForSpec vol = some v) : v.name = vol.name := by
  unfold volumeForSpec at h
  split at h
  case h_5 => cases h
  all_goals
    cases h
    rfl

theorem volumeForSpec_eq_none {vol : VolumeSpec} : volumeForSpec vol = none ↔
    vol.source.emptyDir = none ∧ vol.source.secret = none ∧ vol.source.configMap = none ∧
      vol.source.hostPath = none := by
  unfold volumeForSpec
  split <;> simp_all

variable {storageSpec : Option AerospikeStorageSpec}

theorem mem_inline_names {n : String} :
    n ∈ (buildVolumes storageSpec).1.map (·.name) ↔
      ∃ vol ∈ storageVolumes storageSpec, vol.name = n ∧ (volumeForSpec vol).isSome := by
  cases storageSpec with
  | none => simp [buildVolumes, storageVolumes]
  | some storage =>
    simp only [buildVolumes, storageVolumes, Option.map_some, Option.getD_some, List.mem_map, List.mem_filterMap,
      Option.isSome_iff_exists]
    constructor
    · rintro ⟨v, ⟨vol, hvol, hv⟩, rfl⟩
      exact ⟨vol, hvol, (name_of_volumeForSpec hv).symm, v, hv⟩
    · rintro ⟨vol, hvol, rfl, v, hv⟩
      exact ⟨v, ⟨vol, hvol, hv⟩, name_of_volumeForSpec hv⟩

theorem mem_claimTemplate_names {n : String} :
    n ∈ (buildVolumeClaimTemplates storageSpec).map (·.name) ↔
      ∃ vol ∈ storageVolumes storageSpec, vol.name = n ∧ vol.source.persistentVolume.isSome := by
  cases storageSpec with
  | none => simp [buildVolumeClaimTemplates, storageVolumes]
  | some storage =>
    simp only [buildVolumeClaimTemplates, storageVolumes, Option.map_some, Option.getD_some, List.mem_map,
      List.mem_filterMap, Option.map_eq_some_iff, Option.isSome_iff_exists]
    constructor
    · rintro ⟨t, ⟨vol, hvol, pv, hpv, rfl⟩, rfl⟩
      exact ⟨vol, hvol, rfl, pv, hpv⟩
    · rintro ⟨vol, hvol, rfl, pv, hpv⟩
      exact ⟨claimTemplate vol.name pv, ⟨vol, hvol, pv, hpv, rfl⟩, rfl⟩

theorem volume_of_mount {m : VolumeMount} (h : m ∈ (buildVolumes storageSpec).2) :
    ∃ vol ∈ storageVolumes storageSpec, vol.name = m.name := by
  cases storageSpec with
  | none => cases h
  | some storage =>
    obtain ⟨vol, hvol, hm⟩ := List.mem_filterMap.1 h
    obtain ⟨att, -, rfl⟩ := Option.map_eq_some_iff.1 hm
    exact ⟨vol, hvol, rfl⟩

theorem volume_of_attachment {containerName : String} {isSidecar : Bool} {m : VolumeMount}
    (h : m ∈ volumeMountsForContainer storageSpec containerName isSidecar) :
    ∃ vol ∈ storageVolumes storageSpec, vol.name = m.name := by
  cases storageSpec with
  | none => cases h
  | some storage =>
    obtain ⟨vol, hvol, hm⟩ := List.mem_flatMap.1 h
    obtain ⟨att, -, rfl⟩ := List.mem_map.1 hm
    exact ⟨vol, hvol, rfl⟩

end Acko
