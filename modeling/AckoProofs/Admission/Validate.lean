/-
The admission of an update (`ValidateUpdate`) with the checks of the storage sections. A Go error is
an `Option String`, nil being `none`; the warnings are left out, and the checks of other parts of the
spec are given by their errors.
-/
import AckoProofs.Pod.Spec
import AckoProofs.Reconcile.Object

namespace Acko

/-- What the validator does not decide by itself here: how a quantity parses, the errors of the checks
of other parts of the spec, in the order `validate` runs them, and the check of the ServiceMonitor
against the API server. -/
structure ValidateEnv where
  parseQuantity : String → Except String Rat
  beforeRacks : AerospikeCluster → List String
  rackConfig : RackSpec → List String
  beforeStorage : AerospikeCluster → List String
  afterStorage : AerospikeCluster → List String
  overrides : AerospikeClusterTemplateSpec → List String
  serviceMonitor : AerospikeCluster → Option String

/-- `%q` of a name. -/
def quoted (s : String) : String := "\"" ++ s ++ "\""

/-! ## Volumes -/

def VolumeSource.count (source : VolumeSource) : Nat :=
  [source.persistentVolume.isSome, source.emptyDir.isSome, source.secret.isSome, source.configMap.isSome,
    source.hostPath.isSome].count true

def volumeField (vol : VolumeSpec) (index : Nat) : String :=
  "storage.volumes[" ++ toString index ++ "] " ++ quoted vol.name ++ ": "

def sourceErrors (vol : VolumeSpec) (index : Nat) : List String :=
  if vol.source.count = 0 then [volumeField vol index ++ "exactly one volume source must be specified"]
  else if 1 < vol.source.count then
    [volumeField vol index ++ "only one volume source can be specified (found " ++ toString vol.source.count ++ ")"]
  else []

variable (parse : String → Except String Rat)

def sizeErrors (vol : VolumeSpec) (index : Nat) : List String :=
  match vol.source.persistentVolume with
  | none => []
  | some pv =>
    if pv.size = "" then [volumeField vol index ++ "persistentVolume.size must not be empty"] else
    match parse pv.size with
    | .error err => [volumeField vol index ++ "persistentVolume.size " ++ quoted pv.size ++
        " is not a valid Kubernetes quantity: " ++ err]
    | .ok qty => if qty ≤ 0 then [volumeField vol index ++
        "persistentVolume.size must be a positive quantity (got " ++ quoted pv.size ++ ")"] else []

def mountErrors (vol : VolumeSpec) (index : Nat) : List String :=
  match vol.aerospike with
  | none => []
  | some att =>
    (if att.path ≠ "" ∧ ¬ att.path.toList.head? = some '/' then [volumeField vol index ++
      "aerospike.path must be an absolute path (got " ++ quoted att.path ++ ")"] else []) ++
    if att.subPath ≠ "" ∧ att.subPathExpr ≠ "" then [volumeField vol index ++
      "aerospike.subPath and aerospike.subPathExpr are mutually exclusive"] else []

def attachmentErrors (place kind : String) (atts : List VolumeAttachment) (att : VolumeAttachment) (j : Nat) :
    List String :=
  (if att.subPath ≠ "" ∧ att.subPathExpr ≠ "" then [place ++ kind ++ "[" ++ toString j ++ "] " ++
    quoted att.containerName ++ " subPath and subPathExpr are mutually exclusive"] else []) ++
  duplicateErrors place kind kind (atts.take j) att j
where
  duplicateErrors (place kind otherKind : String) (others : List VolumeAttachment) (att : VolumeAttachment) (j : Nat) :
      List String :=
    match others.findIdx? (·.containerName = att.containerName) with
    | some prev => [place ++ kind ++ "[" ++ toString j ++ "] containerName " ++ quoted att.containerName ++
        " duplicates " ++ otherKind ++ "[" ++ toString prev ++ "]"]
    | none => []

/-- No container is attached twice. -/
def validateVolumeAttachments (vol : VolumeSpec) (index : Nat) : List String :=
  (vol.sidecars.zipIdx.flatMap fun (sc, j) => attachmentErrors (volumeField vol index) "sidecars" vol.sidecars sc j) ++
  vol.initContainers.zipIdx.flatMap fun (ic, j) =>
    attachmentErrors (volumeField vol index) "initContainers" vol.initContainers ic j ++
      attachmentErrors.duplicateErrors (volumeField vol index) "initContainers" "sidecars" vol.sidecars ic j

/-- The volume has one source and sound attachments. -/
def validateVolume (vol : VolumeSpec) (index : Nat) : List String :=
  sourceErrors vol index ++ sizeErrors parse vol index ++ mountErrors vol index ++ validateVolumeAttachments vol index

/-- Each volume, and the names are distinct. -/
def validateStorage (storage : AerospikeStorageSpec) : List String :=
  (storage.volumes.zipIdx.flatMap fun (vol, i) =>
    if vol.name ∈ (storage.volumes.take i).map (·.name) then
      ["storage.volumes: duplicate volume name " ++ quoted vol.name] else []) ++
  (storage.volumes.zipIdx.flatMap fun (vol, i) => validateVolume parse vol i) ++
  if storage.deleteLocalStorageOnRestart = some true ∧ storage.localStorageClasses = [] then
    ["storage.deleteLocalStorageOnRestart is true but storage.localStorageClasses is empty; " ++
      "specify which storage classes are local"] else []

def validateRackStorage (racks : List RackSpec) : List String :=
  racks.flatMap fun rack => match rack.storage with
    | none => []
    | some storage => (validateStorage parse storage).map
        ("spec.rackConfig.racks[id=" ++ toString rack.id ++ "]." ++ ·)

/-! ## The spec -/

/-- The ID and the label of a rack, against those of the racks before it. -/
def rackIdentityErrors (id : Int) (rackLabel : String) (seenIDs : List Int) (seenLabels : List String) : List String :=
  (if id ≤ 0 then ["rack ID must be > 0, got " ++ toString id ++
    " (rack ID 0 is reserved for the default rack)"] else []) ++
  (if id ∈ seenIDs then ["duplicate rack ID " ++ toString id ++ " in rackConfig"] else []) ++
  if rackLabel ≠ "" ∧ rackLabel ∈ seenLabels then
    ["duplicate rackLabel " ++ quoted rackLabel ++ " in rackConfig; each rack must have a unique rackLabel"] else []

/-- Rack by rack. -/
def validateRackConfig (env : ValidateEnv) (racks : List RackSpec) : List String :=
  racks.zipIdx.flatMap fun (rack, i) =>
    rackIdentityErrors rack.id rack.rackLabel ((racks.take i).map (·.id)) ((racks.take i).map (·.rackLabel)) ++
      env.rackConfig rack

def validateErrors (env : ValidateEnv) (cluster : AerospikeCluster) : List String :=
  env.beforeRacks cluster ++ validateRackConfig env cluster.spec.racks ++ env.beforeStorage cluster ++
  (match cluster.spec.storage with
    | some storage => validateStorage env.parseQuantity storage
    | none => []) ++
  validateRackStorage env.parseQuantity cluster.spec.racks ++ env.afterStorage cluster ++
  (if cluster.spec.overrides.isSome ∧ cluster.spec.templateRef.isNone then
    ["spec.overrides can only be set when spec.templateRef is specified"] else []) ++
  match cluster.spec.overrides with
  | some overrides => env.overrides overrides
  | none => []

/-- All errors in one text. -/
def validate (env : ValidateEnv) (cluster : AerospikeCluster) : Option String :=
  let errors := validateErrors env cluster
  if errors.isEmpty then none else some ("validation failed: " ++ "; ".intercalate errors)

def validateWithCtx (env : ValidateEnv) (cluster : AerospikeCluster) : Option String :=
  validate env cluster <|> env.serviceMonitor cluster

/-! ## Claims do not change -/

/-- `persistentVolumeSpecsEqual`: sizes are compared as quantities. -/
def persistentVolumeSpecsEqual (a b : PersistentVolumeSpec) : Bool :=
  (decide (a.size = b.size) || match parse a.size, parse b.size with
    | .ok p, .ok q => decide (p = q)
    | _, _ => false) &&
  decide ({ a with size := "" } = { b with size := "" })

def putClaim (out : List (String × PersistentVolumeSpec)) (vol : VolumeSpec) : List (String × PersistentVolumeSpec) :=
  match vol.source.persistentVolume with
  | some pv => DocTree.put out vol.name pv
  | none => out

/-- `pvBackedVolumes`: of two volumes of one name the later counts. -/
def pvBackedVolumes (storage : Option AerospikeStorageSpec) : List (String × PersistentVolumeSpec) :=
  (storageVolumes storage).foldl putClaim []

def immutableError (field verb name : String) : String :=
  field ++ " is immutable for persistentVolume-backed volumes: cannot " ++ verb ++ " volume " ++ quoted name ++
    ". These volumes become the StatefulSet's volumeClaimTemplates, which Kubernetes does not allow " ++
    "changing on a running StatefulSet. Create a new cluster with the desired storage and migrate data"

def sortedKeys {α : Type} (m : List (String × α)) : List String := (m.map (·.1)).insertionSort (· ≤ ·)

theorem mem_sortedKeys {α : Type} {m : List (String × α)} {n : String} : n ∈ sortedKeys m ↔ (m.lookup n).isSome := by
  unfold sortedKeys
  rw [(List.perm_insertionSort _ _).mem_iff, List.lookup_isSome_iff, List.mem_map]
  simp only [beq_iff_eq]
  exact ⟨fun ⟨e, he, hn⟩ => ⟨e, he, hn.symm⟩, fun ⟨e, he, hn⟩ => ⟨e, he, hn.symm⟩⟩

/-- The first claim added, changed or removed. -/
def comparePVVolumes (field : String) (oldStorage newStorage : Option AerospikeStorageSpec) : Option String :=
  let oldPVs := pvBackedVolumes oldStorage
  let newPVs := pvBackedVolumes newStorage
  ((sortedKeys newPVs).findSome? fun name =>
    match oldPVs.lookup name, newPVs.lookup name with
    | none, _ => some (immutableError field "add" name)
    | some oldPV, some newPV =>
      if persistentVolumeSpecsEqual parse oldPV newPV then none else some (immutableError field "change" name)
    | some _, none => none) <|>
  (sortedKeys oldPVs).findSome? fun name =>
    match newPVs.lookup name with
    | none => some (immutableError field "remove" name)
    | some _ => none

/-- `racksByID`: of two racks of one ID the later counts. -/
def racksByID (racks : List RackSpec) : List (Int × RackSpec) :=
  racks.foldl (fun out rack => DocTree.put out rack.id rack) []

/-- Claims of cluster and racks stay the same. -/
def validateStorageImmutability (oldCluster cluster : AerospikeCluster) : Option String :=
  comparePVVolumes parse "spec.storage" oldCluster.spec.storage cluster.spec.storage <|>
  (racksByID cluster.spec.racks).findSome? fun (id, newRack) =>
    match (racksByID oldCluster.spec.racks).lookup id with
    | none => none
    | some oldRack => comparePVVolumes parse ("spec.rackConfig.racks[id=" ++ toString id ++ "].storage")
        oldRack.storage newRack.storage

/-! ## The update -/

def templateRefError (oldCluster cluster : AerospikeCluster) : Option String :=
  match oldCluster.spec.templateRef, cluster.spec.templateRef with
  | none, some _ => some ("spec.templateRef is immutable: cannot add templateRef to an existing cluster; " ++
      "create a new cluster that references the template")
  | some oldRef, none => some ("spec.templateRef is immutable: cannot remove templateRef from a cluster " ++
      "that was created with one (was " ++ quoted oldRef ++ ")")
  | some oldRef, some newRef => if oldRef = newRef then none else
      some ("spec.templateRef is immutable: cannot change templateRef from " ++ quoted oldRef ++ " to " ++
        quoted newRef ++ "; create a new cluster instead")
  | none, none => none

/-- `OperationStatus` as far as the validator reads it. -/
structure OperationStatus where
  id : String
  phase : Phase

/-- Operations do not change while one is in progress. -/
def operationsError (status : Option OperationStatus) (oldOps newOps : List OperationSpec) : Option String :=
  match status with
  | some status =>
    if status.phase = .inProgress ∧ oldOps ≠ newOps then
      some ("cannot change operations while operation " ++ quoted status.id ++ " is InProgress")
    else none
  | none => none

/-- Without racks there is the default rack 0. -/
def effectiveRackIDs (racks : List RackSpec) : List Int := if racks = [] then [0] else (racks.map (·.id)).dedup

/-- `%v` of a `[]int`. -/
def intsText (ids : List Int) : String := "[" ++ " ".intercalate (ids.map toString) ++ "]"

/-- Racks are not added and removed in one update. -/
def rackIDsError (oldRacks racks : List RackSpec) : Option String :=
  let oldIDs := effectiveRackIDs oldRacks
  let newIDs := effectiveRackIDs racks
  let removedIDs := (oldIDs.filter (· ∉ newIDs)).insertionSort (· ≤ ·)
  let addedIDs := (newIDs.filter (· ∉ oldIDs)).insertionSort (· ≤ ·)
  let text := "cannot add new rack IDs " ++ intsText addedIDs ++ " and remove existing rack IDs " ++
    intsText removedIDs ++ " in the same update"
  if removedIDs = [] ∨ addedIDs = [] then none
  else if 0 ∈ addedIDs ∨ 0 ∈ removedIDs then
    some (text ++ ": this switches the cluster between the implicit default rack (ID 0) and explicit racks, " ++
      "which recreates StatefulSets and risks data loss; introduce or remove rack-awareness by creating a new " ++
      "cluster and migrating data instead")
  else some (text ++ "; please do this in two separate steps (first add, then remove, or vice versa)")

/-- `ValidateUpdate`; `status` is the old cluster's `status.operationStatus`. -/
def validateUpdate (env : ValidateEnv) (status : Option OperationStatus) (oldCluster cluster : AerospikeCluster) :
    Option String :=
  templateRefError oldCluster cluster <|> validateStorageImmutability env.parseQuantity oldCluster cluster <|>
    operationsError status oldCluster.spec.operations cluster.spec.operations <|>
    rackIDsError oldCluster.spec.racks cluster.spec.racks <|> validateWithCtx env cluster

end Acko
