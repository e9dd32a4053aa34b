/-
The storage section of the spec: volumes, their sources and attachments, and the policies that
fill in what a volume leaves unset.
-/
import AckoProofs.Kube.Labels

namespace Acko

/-! ## Volumes -/

inductive VolumeMode
  | filesystem | block
  deriving DecidableEq, Repr

inductive AccessMode
  | readWriteOnce | readOnlyMany | readWriteMany | readWriteOncePod
  deriving DecidableEq, Repr

inductive MountPropagation
  | none | hostToContainer | bidirectional
  deriving DecidableEq, Repr

inductive VolumeInitMethod
  | none | deleteFiles | dd | blkdiscard | headerCleanup
  deriving DecidableEq, Repr

inductive VolumeWipeMethod
  | none | deleteFiles | dd | blkdiscard | headerCleanup | blkdiscardWithHeaderCleanup
  deriving DecidableEq, Repr

/-- `metav1.LabelSelector`; an expression is a key, an operator and its values. -/
structure LabelSelector where
  matchLabels : StringMap
  matchExpressions : List (String × String × List String)
  deriving DecidableEq

/-- `AerospikeObjectMeta`. -/
structure ObjectMeta where
  labels : StringMap
  annotations : StringMap
  deriving DecidableEq

/-- A claim template. An empty `volumeMode` is `none`. -/
structure PersistentVolumeSpec where
  storageClass : String
  volumeMode : Option VolumeMode
  size : String
  accessModes : List AccessMode
  selector : Option LabelSelector
  metadata : Option ObjectMeta
  deriving DecidableEq

structure EmptyDirVolumeSource where
  medium : String
  sizeLimit : Option String
  deriving DecidableEq, Repr

structure SecretVolumeSource where
  secretName : String
  optional : Option Bool
  deriving DecidableEq, Repr

structure ConfigMapVolumeSource where
  name : String
  optional : Option Bool
  deriving DecidableEq, Repr

structure HostPathVolumeSource where
  path : String
  type : Option String
  deriving DecidableEq, Repr

structure VolumeSource where
  persistentVolume : Option PersistentVolumeSpec
  emptyDir : Option EmptyDirVolumeSource
  secret : Option SecretVolumeSource
  configMap : Option ConfigMapVolumeSource
  hostPath : Option HostPathVolumeSource
  deriving DecidableEq

structure AerospikeVolumeAttachment where
  path : String
  readOnly : Bool
  subPath : String
  subPathExpr : String
  mountPropagation : Option MountPropagation
  deriving DecidableEq, Repr

/-- A mount of a sidecar or of an init container. -/
structure VolumeAttachment extends AerospikeVolumeAttachment where
  containerName : String
  deriving DecidableEq, Repr

structure VolumeSpec where
  name : String
  source : VolumeSource
  aerospike : Option AerospikeVolumeAttachment
  sidecars : List VolumeAttachment
  initContainers : List VolumeAttachment
  initMethod : Option VolumeInitMethod
  wipeMethod : Option VolumeWipeMethod
  cascadeDelete : Option Bool
  deriving DecidableEq

structure AerospikeVolumePolicy where
  initMethod : Option VolumeInitMethod
  wipeMethod : Option VolumeWipeMethod
  cascadeDelete : Option Bool
  deriving DecidableEq, Repr

structure AerospikeStorageSpec where
  volumes : List VolumeSpec
  cleanupThreads : Int
  filesystemVolumePolicy : Option AerospikeVolumePolicy
  blockVolumePolicy : Option AerospikeVolumePolicy
  localStorageClasses : List String
  deleteLocalStorageOnRestart : Option Bool
  deriving DecidableEq

/-- `TemplateStorage`: the data volume of a cluster template; `request` is
`resources.requests.storage`. -/
structure TemplateStorage where
  storageClassName : String
  volumeMode : Option VolumeMode
  accessModes : List AccessMode
  request : Option String
  localPVRequired : Bool
  deriving DecidableEq

/-! ## Policies -/

/-- `getVolumePolicy`: the policy of the volume's mode; none for a volume without a claim. -/
def getVolumePolicy (vol : VolumeSpec) (storageSpec : Option AerospikeStorageSpec) : Option AerospikeVolumePolicy :=
  match storageSpec, vol.source.persistentVolume with
  | some storage, some pv =>
    if pv.volumeMode.getD .filesystem = .block then storage.blockVolumePolicy else storage.filesystemVolumePolicy
  | _, _ => none

/-- The volume's own value, then that of its policy, then the default. -/
def resolveSetting {α : Type} (own : VolumeSpec → Option α) (policy : AerospikeVolumePolicy → Option α) (default : α)
    (vol : VolumeSpec) (storageSpec : Option AerospikeStorageSpec) : α :=
  match own vol with
  | some value => value
  | none => ((getVolumePolicy vol storageSpec).bind policy).getD default

/-- The volume's own, or its policy's. -/
def resolveInitMethod : VolumeSpec → Option AerospikeStorageSpec → VolumeInitMethod :=
  resolveSetting (·.initMethod) (·.initMethod) .none

/-- The volume's own, or its policy's. -/
def resolveWipeMethod : VolumeSpec → Option AerospikeStorageSpec → VolumeWipeMethod :=
  resolveSetting (·.wipeMethod) (·.wipeMethod) .none

/-- The volume's own, or its policy's. -/
def resolveCascadeDelete : VolumeSpec → Option AerospikeStorageSpec → Bool :=
  resolveSetting (·.cascadeDelete) (·.cascadeDelete) false

/-- A volume with a claim that is deleted with the cluster or the rack. -/
def VolumeSpec.cascades (vol : VolumeSpec) (storage : AerospikeStorageSpec) : Bool :=
  vol.source.persistentVolume.isSome && resolveCascadeDelete vol (some storage)

variable (storageSpec : Option AerospikeStorageSpec)

def cascadeDeleteVolumeNames : List String :=
  match storageSpec with
  | none => []
  | some storage => (storage.volumes.filter (·.cascades storage)).map (·.name)

def hasCascadeDeletePVCs : Bool :=
  cascadeDeleteVolumeNames storageSpec ≠ []

/-- The storage has a volume of this name with a claim that is deleted with the rack. -/
def CascadeVolume (name : String) : Prop :=
  ∃ storage, storageSpec = some storage ∧ ∃ vol ∈ storage.volumes, vol.name = name ∧
    vol.source.persistentVolume.isSome = true ∧ resolveCascadeDelete vol (some storage) = true

theorem mem_cascadeDeleteVolumeNames {storageSpec : Option AerospikeStorageSpec} {name : String} :
    name ∈ cascadeDeleteVolumeNames storageSpec ↔ CascadeVolume storageSpec name := by
  cases storageSpec with
  | none => simp [cascadeDeleteVolumeNames, CascadeVolume]
  | some storage =>
    simp only [cascadeDeleteVolumeNames, CascadeVolume, VolumeSpec.cascades, List.mem_map, List.mem_filter,
      Bool.and_eq_true, Option.some.injEq, exists_eq_left']
    exact ⟨fun ⟨vol, ⟨hmem, hpv, hcascade⟩, hname⟩ => ⟨vol, hmem, hname, hpv, hcascade⟩,
      fun ⟨vol, hmem, hname, hpv, hcascade⟩ => ⟨vol, ⟨hmem, hpv, hcascade⟩, hname⟩⟩

instance (storageSpec : Option AerospikeStorageSpec) (name : String) : Decidable (CascadeVolume storageSpec name) :=
  decidable_of_iff _ mem_cascadeDeleteVolumeNames

/-! ## Plain objects -/

def VolumeSpec.claim (name size : String) (cascadeDelete : Option Bool) : VolumeSpec where
  name := name
  source := ⟨some ⟨"", none, size, [], none, none⟩, none, none, none, none⟩
  aerospike := some ⟨"/opt/aerospike/" ++ name, false, "", "", none⟩
  sidecars := []
  initContainers := []
  initMethod := none
  wipeMethod := none
  cascadeDelete := cascadeDelete

def AerospikeStorageSpec.ofVolumes (volumes : List VolumeSpec) : AerospikeStorageSpec :=
  ⟨volumes, 1, none, none, [], none⟩

def dataStorage (cascadeDelete : Bool) : AerospikeStorageSpec :=
  .ofVolumes [.claim "data" "1Gi" (some cascadeDelete)]

end Acko
