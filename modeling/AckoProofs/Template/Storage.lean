/-
The storage part of template resolution: the template's storage adds one volume with a claim to a
cluster whose spec has no volumes.
-/
import AckoProofs.Pod.Spec

namespace Acko

/-! ## Resolution -/

/-- The override wins field by field. -/
def mergeTemplateSpec (base override : Option AerospikeClusterTemplateSpec) : Option AerospikeClusterTemplateSpec :=
  match base, override with
  | none, override => override
  | some base, none => some base
  | some base, some override => some ⟨override.storage <|> base.storage⟩

def defaultDataVolumeName : String := "data"
def defaultDataMountPath : String := "/opt/aerospike/data"

def TemplateStorage.claim (t : TemplateStorage) : PersistentVolumeSpec where
  storageClass := t.storageClassName
  volumeMode := some (t.volumeMode.getD .filesystem)
  size := t.request.getD "1Gi"
  accessModes := if t.accessModes.isEmpty then [.readWriteOnce] else t.accessModes
  selector := none
  metadata := none

def TemplateStorage.volume (t : TemplateStorage) : VolumeSpec where
  name := defaultDataVolumeName
  source := ⟨some t.claim, none, none, none, none⟩
  aerospike := some ⟨defaultDataMountPath, false, "", "", none⟩
  sidecars := []
  initContainers := []
  initMethod := none
  wipeMethod := none
  cascadeDelete := none

/-- One data volume, unless the spec has storage. -/
def applyStorage (tmplStorage : Option TemplateStorage) (storage : Option AerospikeStorageSpec) :
    Option AerospikeStorageSpec :=
  match tmplStorage with
  | none => storage
  | some t =>
    if storageVolumes storage ≠ [] then storage else
    let base := storage.getD ⟨[], 0, none, none, [], none⟩
    some { base with volumes := base.volumes ++ [t.volume] }

variable (snapshot : AerospikeClusterTemplateSpec)

variable (cluster : AerospikeCluster)

def templateStorage : Option TemplateStorage :=
  cluster.spec.templateRef.bind fun _ => (mergeTemplateSpec (some snapshot) cluster.spec.overrides).bind (·.storage)

/-- `Resolve` with the snapshot of the template, as far as the storage is concerned. -/
def resolveTemplate : AerospikeCluster :=
  { cluster with spec := { cluster.spec with
    storage := applyStorage (templateStorage snapshot cluster) cluster.spec.storage } }

/-! ## The volume it adds -/

/-- The storage whose volume is added: the spec has no volumes of its own. -/
def addedStorage : Option TemplateStorage :=
  (templateStorage snapshot cluster).filter fun _ => storageVolumes cluster.spec.storage = []

theorem storageVolumes_resolveTemplate :
    storageVolumes (resolveTemplate snapshot cluster).spec.storage =
      match addedStorage snapshot cluster with
      | some t => [t.volume]
      | none => storageVolumes cluster.spec.storage := by
  unfold resolveTemplate applyStorage addedStorage
  cases templateStorage snapshot cluster with
  | none => rfl
  | some t =>
    by_cases h : storageVolumes cluster.spec.storage = []
    · have hbase : (cluster.spec.storage.getD ⟨[], 0, none, none, [], none⟩).volumes = [] := by
        cases hs : cluster.spec.storage with
        | none => rfl
        | some storage => simpa [hs, storageVolumes] using h
      simp only [h, ne_eq, not_true_eq_false, if_false, decide_true, Option.filter_some, if_true]
      simp only [storageVolumes, Option.map_some, Option.getD_some, hbase, List.nil_append]
    · simp only [h, ne_eq, not_false_eq_true, if_true, decide_false, Option.filter_some, Bool.false_eq_true, if_false]

end Acko
