/-
Where the entries of `INIT_VOLUMES` lead inside the init container. Their paths are those of the server's
mounts, while the init container mounts what a volume attaches to it by name, so an entry leads to its
volume where the last attachment at the path is the volume's own.
-/
import AckoProofs.Lib.Keyed
import AckoProofs.Volumes.Tasks

namespace Acko

/-! ## Paths inside a container -/

/-- The components of a path; empty ones and `.` do not count. -/
def pathComponents (path : String) : List (List Char) :=
  (path.toList.splitOn '/').filter fun part => part ≠ [] ∧ part ≠ ['.']

variable (container : TemplateContainer)

/-- The mount at a path; of two at one path the later one hides the other. -/
def TemplateContainer.mountAt (path : String) : Option VolumeMount :=
  container.volumeMounts.reverse.find? fun m => pathComponents m.mountPath = pathComponents path

/-- The path is the root of a mount of this volume, under the same sub-path as in the server. -/
def TemplateContainer.resolves (path : String) (vol : VolumeSpec) : Bool :=
  (container.mountAt path).any fun m => m.name = vol.name ∧
    vol.aerospike.all fun att => m.subPath = att.subPath ∧ m.subPathExpr = att.subPathExpr

def TemplateContainer.UniqueMounts : Prop :=
  ∀ m ∈ container.volumeMounts, ∀ m' ∈ container.volumeMounts,
    pathComponents m.mountPath = pathComponents m'.mountPath → m = m'

instance (container : TemplateContainer) : Decidable container.UniqueMounts :=
  inferInstanceAs (Decidable (∀ m ∈ container.volumeMounts, ∀ m' ∈ container.volumeMounts, _ → _))

theorem mountAt_of_mem {container : TemplateContainer} (hunique : container.UniqueMounts) {m : VolumeMount}
    (hm : m ∈ container.volumeMounts) : container.mountAt m.mountPath = some m := by
  cases hfind : container.mountAt m.mountPath with
  | none =>
    have hnone := List.find?_eq_none.1 hfind m (List.mem_reverse.2 hm)
    simp at hnone
  | some m' =>
    have hmem := List.mem_reverse.1 (List.mem_of_find?_eq_some hfind)
    have hpath := List.find?_some hfind
    rw [hunique m' hmem m hm (of_decide_eq_true hpath)]

/-! ## Attachments -/

def VolumeSpec.AttachedToInit (vol : VolumeSpec) : Prop :=
  ∃ ic ∈ vol.initContainers, ic.containerName = initContainerName ∧ ic.path = vol.aerospikePath

/-- What the init container mounts: the operator's own two volumes, and then what the volumes attach to it. -/
def initAttachments (storage : AerospikeStorageSpec) : List (String × AerospikeVolumeAttachment) :=
  [(configMapVolumeName, ⟨configMapVolumeMountPath, true, "", "", none⟩),
    (aerospikeConfigVolumeName, ⟨aerospikeConfigPath, false, "", "", none⟩)] ++
  storage.volumes.flatMap fun vol => (vol.initContainers.filter (·.containerName = initContainerName)).map
    fun ic => (vol.name, ic.toAerospikeVolumeAttachment)

/-- The last attachment to the init container at the path of the server's mount is of the same volume and under the
same sub-path. -/
def VolumeSpec.FoundByInit (storage : AerospikeStorageSpec) (vol : VolumeSpec) : Prop :=
  ∃ a, (initAttachments storage).reverse.find?
      (fun a => pathComponents a.2.path = pathComponents vol.aerospikePath) = some a ∧
    a.1 = vol.name ∧ ∀ att ∈ vol.aerospike, a.2.subPath = att.subPath ∧ a.2.subPathExpr = att.subPathExpr

variable {storage : AerospikeStorageSpec} {vol : VolumeSpec}

section Mounts

variable {cluster : AerospikeCluster} {rack : Option RackSpec}
  (hstorage : effectiveStorage cluster rack = some storage)

include hstorage

theorem variableValue_init (kubelet : Kubelet)
    (hplain : ∀ vol ∈ initVolumes (some storage), ReferenceFree vol.aerospikePath) :
    variableValue kubelet (podInitContainer cluster rack).env "INIT_VOLUMES" = buildInitVolumesEnv (some storage) := by
  unfold podInitContainer
  rw [hstorage]
  refine (variableValue_referenceFree kubelet cluster _ hplain fun vol hvol => ?_).2
  exact absurd (mem_wipeVolumes.1 hvol).2.1 List.not_mem_nil

theorem mount_of_attachment (hvol : vol ∈ storage.volumes) {ic : VolumeAttachment} (hic : ic ∈ vol.initContainers)
    (hname : ic.containerName = initContainerName) :
    buildVolumeMount vol.name ic.toAerospikeVolumeAttachment ∈ (podInitContainer cluster rack).volumeMounts := by
  refine List.mem_append_right _ ?_
  rw [hstorage]
  refine List.mem_flatMap.2 ⟨vol, hvol, List.mem_map.2 ⟨ic, ?_, rfl⟩⟩
  exact List.mem_filter.2 ⟨hic, decide_eq_true hname⟩

theorem mountAt_attachment (hunique : (podInitContainer cluster rack).UniqueMounts) (hvol : vol ∈ storage.volumes)
    {ic : VolumeAttachment} (hic : ic ∈ vol.initContainers) (hname : ic.containerName = initContainerName) :
    (podInitContainer cluster rack).mountAt ic.path =
      some (buildVolumeMount vol.name ic.toAerospikeVolumeAttachment) :=
  mountAt_of_mem hunique (mount_of_attachment hstorage hvol hic hname)

theorem volumeMounts_podInitContainer : (podInitContainer cluster rack).volumeMounts =
    (initAttachments storage).map fun a => buildVolumeMount a.1 a.2 := by
  show _ ++ volumeMountsForContainer (effectiveStorage cluster rack) initContainerName false = _
  rw [hstorage, initAttachments, List.map_append, List.map_flatMap]
  simp only [List.map_map]
  rfl

theorem resolves_iff (vol : VolumeSpec) :
    (podInitContainer cluster rack).resolves vol.aerospikePath vol = true ↔ vol.FoundByInit storage := by
  unfold TemplateContainer.resolves TemplateContainer.mountAt VolumeSpec.FoundByInit
  rw [volumeMounts_podInitContainer hstorage, ← List.map_reverse, List.find?_map, Option.any_map, Option.any_eq_true]
  refine exists_congr fun a => and_congr Iff.rfl ?_
  rw [decide_eq_true_iff]
  refine and_congr Iff.rfl ?_
  cases vol.aerospike with
  | none => exact iff_of_true rfl fun att hatt => by cases hatt
  | some att =>
    simp only [Option.all_some, Option.mem_def, Option.some_inj, forall_eq', buildVolumeMount]
    exact decide_eq_true_iff

end Mounts

/-! ## Admitted names -/

theorem nodup_of_validateStorage {parse : String → Except String Rat} (h : validateStorage parse storage = []) :
    (storage.volumes.map (·.name)).Nodup := by
  simp only [validateStorage, List.append_eq_nil_iff, List.flatMap_eq_nil_iff] at h
  refine Keyed.nodup_of_take _ fun vol i hi hearlier => ?_
  have herrors := h.1.1 (vol, i) (List.mem_zipIdx_iff_getElem?.2 hi)
  rw [if_pos hearlier] at herrors
  cases herrors

theorem filter_name_eq : ∀ {volumes : List VolumeSpec}, (volumes.map (·.name)).Nodup →
    vol ∈ volumes → volumes.filter (·.name = vol.name) = [vol]
  | [], _, h => nomatch h
  | v :: volumes, hnodup, h => by
    rw [List.map_cons, List.nodup_cons] at hnodup
    rcases List.mem_cons.1 h with rfl | h
    · rw [List.filter_cons_of_pos (by simp), List.filter_eq_nil_iff.2]
      intro v hv hname
      exact hnodup.1 (List.mem_map.2 ⟨v, hv, of_decide_eq_true hname⟩)
    · have hne : v.name ≠ vol.name := fun heq => hnodup.1 (heq ▸ List.mem_map_of_mem h)
      rw [List.filter_cons_of_neg (by simpa using hne)]
      exact filter_name_eq hnodup.2 h

/-! ## The entries and their volumes -/

theorem name_of_resolves {container : TemplateContainer} {path : String} {vol' : VolumeSpec}
    (h : container.resolves path vol = true) (h' : container.resolves path vol' = true) : vol.name = vol'.name := by
  unfold TemplateContainer.resolves at h h'
  cases hm : container.mountAt path with
  | none =>
    rw [hm] at h
    cases h
  | some m =>
    simp only [hm, Option.any_some, Bool.decide_and, Bool.and_eq_true, decide_eq_true_eq] at h h'
    exact h.1.symm.trans h'.1

/-- Of paths in which the kubelet finds nothing to expand: each entry leads to the volume it was written for, and no
other entry does, if and only if no path with an entry holds a separator and each is found by the init container. -/
theorem init_entries_resolve (parse : String → Except String Rat) (cluster : AerospikeCluster) (rack : Option RackSpec)
    (storage : AerospikeStorageSpec) (kubelet : Kubelet) (hstorage : effectiveStorage cluster rack = some storage)
    (hvalid : validateStorage parse storage = [])
    (hplain : ∀ vol ∈ initVolumes (some storage), ReferenceFree vol.aerospikePath)
    {rackID : Int} {configMapName configHash : String} {container : TemplateContainer}
    (hcontainer :
      (buildPodTemplateSpec cluster rack rackID configMapName configHash).template.spec.initContainers.head? =
      some container) :
    let entries := decodeVolumes (variableValue kubelet container.env "INIT_VOLUMES")
    (List.Forall₂ (fun vol entry => entry = initTask (some storage) vol ∧ container.resolves entry.path vol = true)
        (initVolumes (some storage)) entries ∧
      ∀ vol ∈ initVolumes (some storage),
        entries.filter (fun entry => container.resolves entry.path vol) = [initTask (some storage) vol]) ↔
      ∀ vol ∈ initVolumes (some storage), SeparatorFree vol.aerospikePath ∧ vol.FoundByInit storage := by
  intro entries
  rw [head_initContainers, Option.some_inj] at hcontainer
  subst hcontainer
  have hfree : entries = (initVolumes (some storage)).map (initTask (some storage)) ↔
      ∀ vol ∈ initVolumes (some storage), SeparatorFree vol.aerospikePath := by
    rw [← decode_initVolumes, ← variableValue_init hstorage kubelet hplain]
  have hresolves : ∀ vol, (podInitContainer cluster rack).resolves (initTask (some storage) vol).path vol = true ↔
      vol.FoundByInit storage :=
    resolves_iff hstorage
  constructor
  · rintro ⟨hforall, -⟩
    have hentries : entries = (initVolumes (some storage)).map (initTask (some storage)) := by
      have hsame : List.Forall₂ (· = ·) entries ((initVolumes (some storage)).map (initTask (some storage))) := by
        rw [List.forall₂_map_right_iff]
        exact (hforall.imp fun _ _ h => h.1).flip
      rwa [List.forall₂_eq_eq_eq] at hsame
    rw [hentries, List.forall₂_map_right_iff, List.forall₂_same] at hforall
    exact fun vol hvol => ⟨hfree.1 hentries vol hvol, (hresolves vol).1 (hforall vol hvol).2⟩
  · intro h
    have hentries := hfree.2 fun vol hvol => (h vol hvol).1
    have hleads : ∀ vol ∈ initVolumes (some storage),
        (podInitContainer cluster rack).resolves (initTask (some storage) vol).path vol = true := fun vol hvol =>
      (hresolves vol).2 (h vol hvol).2
    constructor
    · rw [hentries, List.forall₂_map_right_iff]
      exact List.forall₂_same.2 fun vol hvol => ⟨rfl, hleads vol hvol⟩
    · intro vol hvol
      have hnodup : ((initVolumes (some storage)).map (·.name)).Nodup :=
        (List.filter_sublist.map _).nodup (nodup_of_validateStorage hvalid)
      rw [hentries, List.filter_map, ← List.map_singleton (f := initTask (some storage)), ← filter_name_eq hnodup hvol]
      refine congrArg (List.map _) (List.filter_congr fun v hv => ?_)
      -- the entry of another volume leads to that volume
      rw [Function.comp_apply, Bool.eq_iff_iff, decide_eq_true_eq]
      constructor
      · exact fun h => name_of_resolves (hleads v hv) h
      · intro h
        have hsame := filter_name_eq hnodup hvol
        have hv' : v ∈ (initVolumes (some storage)).filter (·.name = vol.name) := by simp [hv, h]
        rw [hsame, List.mem_singleton] at hv'
        subst hv'
        exact hleads v hv

def VolumeSpec.withInitMount (vol : VolumeSpec) : VolumeSpec :=
  { vol with initContainers := vol.aerospike.toList.map fun att => ⟨att, initContainerName⟩ }

def clusterOf (volumes : List VolumeSpec) : AerospikeCluster :=
  let cluster := AerospikeCluster.bare "demo" "aerospike:ce-8.1.1.1"
  { cluster with spec := { cluster.spec with storage := some (.ofVolumes volumes) } }

/-- Mounted by the init container at the path of the server's mount, spelt with a slash at its end. -/
def sharedScratch : VolumeSpec :=
  { VolumeSpec.scratch "tmp" "/tmp/a" with
    initContainers := [⟨⟨"/tmp/a/", false, "", "", none⟩, initContainerName⟩] }

theorem init_entries_resolve_scratch :
    let container := podInitContainer (clusterOf [sharedScratch]) none
    let entries := decodeVolumes (variableValue (.ofPod "demo-0-0" "10.0.0.1") container.env "INIT_VOLUMES")
    ∀ vol ∈ initVolumes (some (.ofVolumes [sharedScratch])),
      entries.filter (fun entry => container.resolves entry.path vol) =
        [initTask (some (.ofVolumes [sharedScratch])) vol] := by
  refine ((init_entries_resolve (fun _ => .ok 1) (clusterOf [sharedScratch]) none (.ofVolumes [sharedScratch])
    (.ofPod "demo-0-0" "10.0.0.1") rfl (by decide +kernel) (by decide +kernel)
    (head_initContainers (clusterOf [sharedScratch]) none 0 "demo-config" "h")).2 ?_).2
  intro vol hvol
  obtain rfl := List.mem_singleton.1 hvol
  exact ⟨by decide +kernel, _, rfl, rfl, by decide⟩

/-- A volume that only the server mounts is admitted, and its entry leads to no mount of the init container. -/
theorem init_entries_lost :
    let storage := AerospikeStorageSpec.ofVolumes [.scratch "tmp" "/tmp/a"]
    let container := podInitContainer (clusterOf [.scratch "tmp" "/tmp/a"]) none
    (∀ parse, validateStorage parse storage = []) ∧
      effectiveStorage (clusterOf [.scratch "tmp" "/tmp/a"]) none = some storage ∧
      decodeVolumes (variableValue (.ofPod "demo-0-0" "10.0.0.1") container.env "INIT_VOLUMES") =
        [⟨"deleteFiles", "/tmp/a"⟩] ∧
      (InitRun.smooth.exec container).2 = [.removeFiles "/tmp/a"] ∧ container.mountAt "/tmp/a" = none := by
  refine ⟨fun parse => rfl, rfl, ?_, ?_, ?_⟩ <;> decide +kernel

end Acko
