/-
What an admitted update leaves of a rack's claims. The validator compares the storage of the spec and
the override of each rack as they are written, while a rack's StatefulSet is built from one of them,
after the template has been resolved. The claims are kept where the same one is chosen on both sides.
-/
import AckoProofs.Admission.Validate
import AckoProofs.Pod.Hash
import AckoProofs.Template.Storage

namespace Acko

variable {parse : String → Except String Rat}

/-! ## Claims by name -/

variable {n : String}

theorem isSome_lookup_putClaim :
    ∀ (volumes : List VolumeSpec) (out : List (String × PersistentVolumeSpec)),
    ((volumes.foldl putClaim out).lookup n).isSome ↔
      (out.lookup n).isSome ∨ ∃ vol ∈ volumes, vol.name = n ∧ vol.source.persistentVolume.isSome
  | [], out => by simp
  | vol :: volumes, out => by
    rw [List.foldl_cons, isSome_lookup_putClaim volumes, putClaim]
    cases hpv : vol.source.persistentVolume with
    | none => simp [hpv]
    | some pv =>
      simp only [DocTree.lookup_put, List.exists_mem_cons_iff, hpv, Option.isSome_some, and_true]
      by_cases hn : n = vol.name
      · simp [hn]
      · simp [hn, Ne.symm hn]

theorem isSome_lookup_pvBackedVolumes {storage : Option AerospikeStorageSpec} :
    ((pvBackedVolumes storage).lookup n).isSome ↔
      ∃ vol ∈ storageVolumes storage, vol.name = n ∧ vol.source.persistentVolume.isSome := by
  rw [pvBackedVolumes, isSome_lookup_putClaim]
  simp

/-- The claims of two storage sections are the same: by name, with equal specs. -/
def SamePVs (parse : String → Except String Rat) (oldStorage newStorage : Option AerospikeStorageSpec) : Prop :=
  ∀ name, Option.Rel (fun a b => persistentVolumeSpecsEqual parse a b = true)
    ((pvBackedVolumes oldStorage).lookup name) ((pvBackedVolumes newStorage).lookup name)

variable {oldStorage s s' storageSpec : Option AerospikeStorageSpec} {cluster : AerospikeCluster}

theorem comparePVVolumes_eq_none {field : String} {newStorage : Option AerospikeStorageSpec} :
    comparePVVolumes parse field oldStorage newStorage = none ↔ SamePVs parse oldStorage newStorage := by
  simp only [comparePVVolumes, Option.orElse_eq_none, List.findSome?_eq_none_iff, mem_sortedKeys, SamePVs]
  constructor
  · rintro ⟨hnew, hold⟩ name
    have hnew := hnew name
    have hold := hold name
    cases ho : (pvBackedVolumes oldStorage).lookup name <;> cases hn : (pvBackedVolumes newStorage).lookup name <;>
      simp only [ho, hn, Option.isSome_some, Option.isSome_none, forall_const, reduceCtorEq] at hnew hold
    · exact .none
    · refine .some ?_
      by_contra hne
      rw [if_neg hne] at hnew
      cases hnew
  · intro h
    constructor <;> intro name hsome <;> have hrel := h name <;>
      cases ho : (pvBackedVolumes oldStorage).lookup name <;> cases hn : (pvBackedVolumes newStorage).lookup name <;>
      simp only [ho, hn, Option.isSome_none, Bool.false_eq_true] at hrel hsome <;> cases hrel
    case left.some.some.some heq => simp [heq]
    case right.some.some.some heq => rfl

/-! ## Racks by ID -/

variable {rack : RackSpec}

theorem mem_of_lookup_racksByID {racks : List RackSpec} {id : Int} (h : (racksByID racks).lookup id = some rack) :
    rack ∈ racks ∧ rack.id = id := by
  have hloop : ∀ (racks : List RackSpec) (out : List (Int × RackSpec)),
      (racks.foldl (fun out rack => DocTree.put out rack.id rack) out).lookup id = some rack →
        out.lookup id = some rack ∨ rack ∈ racks ∧ rack.id = id := by
    intro racks
    induction racks with
    | nil => exact fun out h => Or.inl h
    | cons r racks ih =>
      intro out h
      rcases ih _ h with h | ⟨hmem, hid⟩
      · rw [DocTree.lookup_put] at h
        split at h
        case isTrue hid =>
          cases h
          exact Or.inr ⟨List.mem_cons_self .., hid.symm⟩
        case isFalse => exact Or.inl h
      · exact Or.inr ⟨List.mem_cons_of_mem _ hmem, hid⟩
  rcases hloop racks [] h with h | h
  · cases h
  · exact h

/-- The rack of an ID as the cluster runs it: one of the spec or, where the spec has none, the default
rack 0. -/
def rackOf (cluster : AerospikeCluster) (id : Int) : Option RackSpec :=
  if cluster.spec.racks = [] then if id = 0 then some (.bare 0) else none
  else (racksByID cluster.spec.racks).lookup id

/-! ## Admission -/

/-- Every volume of a section has a source. -/
def Sourced (storage : Option AerospikeStorageSpec) : Prop :=
  ∀ vol ∈ storageVolumes storage, (volumeForSpec vol).isSome ∨ vol.source.persistentVolume.isSome

theorem source_of_sourceErrors {vol : VolumeSpec} {index : Nat} (h : sourceErrors vol index = []) :
    (volumeForSpec vol).isSome ∨ vol.source.persistentVolume.isSome := by
  rw [← not_not (a := (volumeForSpec vol).isSome ∨ _), not_or]
  rintro ⟨hinline, hpv⟩
  rw [Bool.not_eq_true, Option.isSome_eq_false_iff, Option.isNone_iff_eq_none] at hinline hpv
  obtain ⟨hempty, hsecret, hmap, hpath⟩ := volumeForSpec_eq_none.1 hinline
  simp [sourceErrors, VolumeSource.count, hempty, hsecret, hmap, hpath, hpv] at h

theorem sourced_of_validateStorage {storage : AerospikeStorageSpec} (h : validateStorage parse storage = []) :
    Sourced (some storage) := by
  intro vol hvol
  obtain ⟨i, hi, rfl⟩ := List.getElem_of_mem hvol
  simp only [validateStorage, List.append_eq_nil_iff, List.flatMap_eq_nil_iff] at h
  have herrors := h.1.2 (storage.volumes[i], i) (List.mem_zipIdx_iff_getElem?.2 (List.getElem?_eq_getElem hi))
  simp only [validateVolume, List.append_eq_nil_iff] at herrors
  exact source_of_sourceErrors herrors.1.1.1

/-- What an admitted update is known to satisfy. -/
structure Admitted (parse : String → Except String Rat) (old new : AerospikeCluster) : Prop where
  storage : SamePVs parse old.spec.storage new.spec.storage
  racks : ∀ id oldRack newRack, (racksByID old.spec.racks).lookup id = some oldRack →
    (racksByID new.spec.racks).lookup id = some newRack → SamePVs parse oldRack.storage newRack.storage
  ids : ∀ rack ∈ new.spec.racks, 0 < rack.id
  sourced : Sourced new.spec.storage
  rackSourced : ∀ rack ∈ new.spec.racks, Sourced rack.storage

theorem admitted_of_validateUpdate {env : ValidateEnv} {status : Option OperationStatus} {old new : AerospikeCluster}
    (h : validateUpdate env status old new = none) : Admitted env.parseQuantity old new := by
  simp only [validateUpdate, Option.orElse_eq_none] at h
  obtain ⟨-, himmutable, -, -, hctx⟩ := h
  simp only [validateStorageImmutability, Option.orElse_eq_none, List.findSome?_eq_none_iff] at himmutable
  simp only [validateWithCtx, Option.orElse_eq_none] at hctx
  have herrors : validateErrors env new = [] := by
    by_contra hne
    simp [validate, hne] at hctx
  simp only [validateErrors, List.append_eq_nil_iff] at herrors
  obtain ⟨⟨⟨⟨⟨⟨⟨-, hrackConfig⟩, -⟩, hstorage⟩, hrackStorage⟩, -⟩, -⟩, -⟩ := herrors
  simp only [validateRackConfig, rackIdentityErrors, List.flatMap_eq_nil_iff, List.append_eq_nil_iff] at hrackConfig
  simp only [validateRackStorage, List.flatMap_eq_nil_iff] at hrackStorage
  refine ⟨comparePVVolumes_eq_none.1 himmutable.1, ?_, ?_, ?_, ?_⟩
  · intro id oldRack newRack hold hnew
    obtain ⟨l₁, l₂, heq, -⟩ := List.lookup_eq_some_iff.1 hnew
    have hcompare := himmutable.2 (id, newRack) (heq ▸ List.mem_append_right l₁ (List.mem_cons_self ..))
    rw [hold] at hcompare
    exact comparePVVolumes_eq_none.1 hcompare
  · intro rack hrack
    obtain ⟨i, hi, rfl⟩ := List.getElem_of_mem hrack
    have hid := (hrackConfig (new.spec.racks[i], i)
      (List.mem_zipIdx_iff_getElem?.2 (List.getElem?_eq_getElem hi))).1.1.1
    by_contra hneg
    rw [if_pos (not_lt.1 hneg)] at hid
    cases hid
  · cases hs : new.spec.storage with
    | none => intro vol hvol; cases hvol
    | some storage =>
      rw [hs] at hstorage
      exact sourced_of_validateStorage hstorage
  · intro rack hrack
    have hrackErrors := hrackStorage rack hrack
    cases hs : rack.storage with
    | none => intro vol hvol; cases hvol
    | some storage =>
      rw [hs] at hrackErrors
      exact sourced_of_validateStorage (List.map_eq_nil_iff.1 hrackErrors)

/-! ## Claims of the effective storage -/

def ClaimFree (storage : Option AerospikeStorageSpec) : Prop :=
  ∀ vol ∈ storageVolumes storage, vol.source.persistentVolume = none

theorem claimFree_iff {storage : Option AerospikeStorageSpec} :
    ClaimFree storage ↔ ∀ name, (pvBackedVolumes storage).lookup name = none := by
  simp only [← Option.not_isSome_iff_eq_none, isSome_lookup_pvBackedVolumes, ClaimFree]
  constructor
  · rintro h name ⟨vol, hvol, -, hpv⟩
    exact h vol hvol hpv
  · intro h vol hvol hpv
    exact h vol.name ⟨vol, hvol, rfl, hpv⟩

theorem rel_none_left {α β : Type} {r : α → β → Prop} {b : Option β} : Option.Rel r none b ↔ b = none := by
  cases b <;> simp

theorem rel_none_right {α β : Type} {r : α → β → Prop} {a : Option α} : Option.Rel r a none ↔ a = none := by
  cases a <;> simp

theorem samePVs_of_claimFree_left (h : ClaimFree s) : SamePVs parse s s' ↔ ClaimFree s' := by
  rw [claimFree_iff] at h ⊢
  simp only [SamePVs, h, rel_none_left]

theorem samePVs_of_claimFree_right (h : ClaimFree s') : SamePVs parse s s' ↔ ClaimFree s := by
  rw [claimFree_iff] at h ⊢
  simp only [SamePVs, h, rel_none_right]

theorem claimFree_none : ClaimFree none := fun _ h => by cases h

section Resolved

variable {snapshot : AerospikeClusterTemplateSpec} {cluster : AerospikeCluster}

theorem pvBackedVolumes_resolved_none (h : addedStorage snapshot cluster = none) :
    pvBackedVolumes (resolveTemplate snapshot cluster).spec.storage = pvBackedVolumes cluster.spec.storage := by
  rw [pvBackedVolumes, pvBackedVolumes, storageVolumes_resolveTemplate, h]

theorem pvBackedVolumes_resolved_some {t : TemplateStorage} (h : addedStorage snapshot cluster = some t) :
    pvBackedVolumes (resolveTemplate snapshot cluster).spec.storage = [(defaultDataVolumeName, t.claim)] := by
  rw [pvBackedVolumes, storageVolumes_resolveTemplate, h]
  rfl

theorem claimFree_of_addedStorage {t : TemplateStorage} (h : addedStorage snapshot cluster = some t) :
    ClaimFree cluster.spec.storage := by
  have hnil := (Option.filter_eq_some_iff.1 h).2
  intro vol hvol
  rw [of_decide_eq_true hnil] at hvol
  cases hvol

/-- Neither the spec nor the template gives the cluster a claim. -/
structure NoClaims (snapshot : AerospikeClusterTemplateSpec) (cluster : AerospikeCluster) : Prop where
  spec : ClaimFree cluster.spec.storage
  template : addedStorage snapshot cluster = none

theorem claimFree_resolved : ClaimFree (resolveTemplate snapshot cluster).spec.storage ↔ NoClaims snapshot cluster := by
  rw [claimFree_iff]
  constructor
  · intro h
    cases hadded : addedStorage snapshot cluster with
    | none =>
      rw [pvBackedVolumes_resolved_none hadded, ← claimFree_iff] at h
      exact ⟨h, hadded⟩
    | some t =>
      have := h defaultDataVolumeName
      rw [pvBackedVolumes_resolved_some hadded] at this
      simp at this
  · rintro ⟨hspec, hadded⟩
    rw [pvBackedVolumes_resolved_none hadded, ← claimFree_iff]
    exact hspec

end Resolved

/-- The claims of a rack are chosen alike on both sides of an update: from overrides on both, or from
the spec on both with the template adding the same claim or none. Where only one side has an override,
which then has no claims, the other side has none either. -/
def ClaimsKept (parse : String → Except String Rat) (snapshot : AerospikeClusterTemplateSpec)
    (old new : AerospikeCluster) (oldRack newRack : RackSpec) : Prop :=
  match oldRack.storage, newRack.storage with
  | some _, some _ => True
  | some _, none => NoClaims snapshot new
  | none, some _ => NoClaims snapshot old
  | none, none => Option.Rel (fun t t' => persistentVolumeSpecsEqual parse t.claim t'.claim = true)
      (addedStorage snapshot old) (addedStorage snapshot new)

theorem Admitted.resolved_iff {snapshot : AerospikeClusterTemplateSpec} {old new : AerospikeCluster}
    (h : Admitted parse old new) :
    SamePVs parse (resolveTemplate snapshot old).spec.storage (resolveTemplate snapshot new).spec.storage ↔
      Option.Rel (fun t t' => persistentVolumeSpecsEqual parse t.claim t'.claim = true)
        (addedStorage snapshot old) (addedStorage snapshot new) := by
  cases hold : addedStorage snapshot old <;> cases hnew : addedStorage snapshot new
  · have hsame := h.storage
    rw [SamePVs, ← pvBackedVolumes_resolved_none hold, ← pvBackedVolumes_resolved_none hnew] at hsame
    exact iff_of_true hsame .none
  · have hfree : ClaimFree old.spec.storage := (samePVs_of_claimFree_right (claimFree_of_addedStorage hnew)).1 h.storage
    have hresolved := claimFree_resolved.2 ⟨hfree, hold⟩
    rw [samePVs_of_claimFree_left hresolved, claimFree_resolved]
    exact iff_of_false (fun hno => by rw [hno.template] at hnew; cases hnew) (fun hrel => by cases hrel)
  · have hfree : ClaimFree new.spec.storage := (samePVs_of_claimFree_left (claimFree_of_addedStorage hold)).1 h.storage
    have hresolved := claimFree_resolved.2 ⟨hfree, hnew⟩
    rw [samePVs_of_claimFree_right hresolved, claimFree_resolved]
    exact iff_of_false (fun hno => by rw [hno.template] at hold; cases hold) (fun hrel => by cases hrel)
  · rename_i t t'
    rw [SamePVs, pvBackedVolumes_resolved_some hold, pvBackedVolumes_resolved_some hnew]
    constructor
    · intro hsame
      have hrel := hsame defaultDataVolumeName
      simpa using hrel
    · rintro (heq | _) name
      rw [DocTree.lookup_cons_eq, DocTree.lookup_cons_eq]
      split
      · exact .some heq
      · exact .none

section Rack

variable {snapshot : AerospikeClusterTemplateSpec} {old new : AerospikeCluster} {id : Int} {oldRack newRack : RackSpec}

theorem Admitted.override (h : Admitted parse old new) (hids : ∀ rack ∈ old.spec.racks, 0 < rack.id)
    (hold : rackOf old id = some oldRack) (hnew : rackOf new id = some newRack) :
    SamePVs parse oldRack.storage newRack.storage := by
  unfold rackOf at hold hnew
  by_cases holdNil : old.spec.racks = [] <;> by_cases hnewNil : new.spec.racks = [] <;>
    simp only [holdNil, hnewNil, if_true, if_false] at hold hnew
  · -- the default rack on both sides
    split at hold
    case isFalse => cases hold
    case isTrue hid =>
      rw [if_pos hid] at hnew
      cases hold
      cases hnew
      exact (samePVs_of_claimFree_left claimFree_none).2 claimFree_none
  · split at hold
    case isFalse => cases hold
    case isTrue hid =>
      obtain ⟨hmem, hrack⟩ := mem_of_lookup_racksByID hnew
      have := h.ids newRack hmem
      omega
  · split at hnew
    case isFalse => cases hnew
    case isTrue hid =>
      obtain ⟨hmem, hrack⟩ := mem_of_lookup_racksByID hold
      have := hids oldRack hmem
      omega
  · exact h.racks id oldRack newRack hold hnew

/-- The claims of a rack are kept exactly where they are chosen alike. -/
theorem Admitted.effective_iff (h : Admitted parse old new) (hrack : SamePVs parse oldRack.storage newRack.storage) :
    SamePVs parse (effectiveStorage (resolveTemplate snapshot old) (some oldRack))
        (effectiveStorage (resolveTemplate snapshot new) (some newRack)) ↔
      ClaimsKept parse snapshot old new oldRack newRack := by
  unfold ClaimsKept
  cases hold : oldRack.storage <;> cases hnew : newRack.storage <;> rw [hold, hnew] at hrack
  · rw [effectiveStorage_none hold, effectiveStorage_none hnew]
    exact h.resolved_iff
  · have hfree := (samePVs_of_claimFree_left claimFree_none).1 hrack
    rw [effectiveStorage_none hold, effectiveStorage_some hnew, samePVs_of_claimFree_right hfree, claimFree_resolved]
  · have hfree := (samePVs_of_claimFree_right claimFree_none).1 hrack
    rw [effectiveStorage_some hold, effectiveStorage_none hnew, samePVs_of_claimFree_left hfree, claimFree_resolved]
  · rw [effectiveStorage_some hold, effectiveStorage_some hnew]
    exact iff_of_true hrack trivial

theorem Admitted.effective_sourced (h : Admitted parse old new) (hnew : rackOf new id = some newRack) :
    Sourced (effectiveStorage (resolveTemplate snapshot new) (some newRack)) := by
  cases hs : newRack.storage with
  | some storage =>
    have hmem : newRack ∈ new.spec.racks := by
      unfold rackOf at hnew
      split at hnew
      case isFalse => exact (mem_of_lookup_racksByID hnew).1
      case isTrue =>
        split at hnew <;> cases hnew
        cases hs
    rw [effectiveStorage_some hs, ← hs]
    exact h.rackSourced newRack hmem
  | none =>
    rw [effectiveStorage_none hs]
    intro vol hvol
    rw [storageVolumes_resolveTemplate] at hvol
    cases hadded : addedStorage snapshot new with
    | none => rw [hadded] at hvol; exact h.sourced vol hvol
    | some t =>
      rw [hadded] at hvol
      obtain rfl := List.mem_singleton.1 hvol
      exact Or.inr rfl

end Rack

/-! ## Mounts -/

theorem mem_templateVolumes_names {configMapName n : String} :
    n ∈ (templateVolumes storageSpec configMapName).map (·.name) ↔
      n ∈ (buildVolumes storageSpec).1.map (·.name) ∨ n ∈ [configMapVolumeName, aerospikeConfigVolumeName] := by
  simp [templateVolumes]

variable {m : VolumeMount}

/-- A mount of a pod is one that the user wrote, or that of a volume of the storage section or of one
of the operator's volumes. -/
theorem mem_mounts
    (h : m ∈ (templateInitContainers cluster storageSpec ++ templateContainers cluster storageSpec).flatMap
      (·.volumeMounts)) :
    m ∈ cluster.userMounts ∨ (∃ vol ∈ storageVolumes storageSpec, vol.name = m.name) ∨
      m.name ∈ [configMapVolumeName, aerospikeConfigVolumeName] := by
  have huser : ∀ {c : TemplateContainer} {isSidecar : Bool},
      m ∈ (withStorageMounts storageSpec isSidecar c).volumeMounts →
      m ∈ c.volumeMounts ∨ ∃ vol ∈ storageVolumes storageSpec, vol.name = m.name := by
    intro c isSidecar hm
    exact (List.mem_append.1 hm).imp_right volume_of_attachment
  obtain ⟨c, hc, hm⟩ := List.mem_flatMap.1 h
  rcases List.mem_append.1 hc with hc | hc
  · rcases List.mem_cons.1 hc with rfl | hc
    · rcases List.mem_append.1 hm with hm | hm
      · refine Or.inr (Or.inr ?_)
        rcases List.mem_cons.1 hm with rfl | hm
        · exact List.mem_cons_self ..
        · obtain rfl := List.mem_singleton.1 hm
          exact List.mem_cons_of_mem _ (List.mem_cons_self ..)
      · exact Or.inr (Or.inl (volume_of_attachment hm))
    · obtain ⟨uc, huc, rfl⟩ := List.mem_map.1 hc
      rcases huser hm with hm | hvol
      · exact Or.inl (List.mem_flatMap.2 ⟨uc, List.mem_append_left _ huc, hm⟩)
      · exact Or.inr (Or.inl hvol)
  · rcases List.mem_cons.1 hc with rfl | hc
    · rcases List.mem_append.1 hm with hm | hm
      · exact Or.inr (Or.inl (volume_of_mount hm))
      · obtain rfl := List.mem_singleton.1 hm
        exact Or.inr (Or.inr (List.mem_cons_of_mem _ (List.mem_cons_self ..)))
    · rcases List.mem_append.1 hc with hc | hc
      · unfold exporterSidecars at hc
        split at hc
        case h_2 => cases hc
        case h_1 =>
          split at hc
          case isFalse => cases hc
          case isTrue =>
            obtain rfl := List.mem_singleton.1 hc
            cases hm
      · obtain ⟨uc, huc, rfl⟩ := List.mem_map.1 hc
        rcases huser hm with hm | hvol
        · exact Or.inl (List.mem_flatMap.2 ⟨uc, List.mem_append_right _ huc, hm⟩)
        · exact Or.inr (Or.inl hvol)

theorem mem_mounts_of_user (h : m ∈ cluster.userMounts) :
    m ∈ (templateInitContainers cluster storageSpec ++ templateContainers cluster storageSpec).flatMap
      (·.volumeMounts) := by
  obtain ⟨c, hc, hm⟩ := List.mem_flatMap.1 h
  have hmem : ∀ isSidecar, m ∈ (withStorageMounts storageSpec isSidecar c).volumeMounts :=
    fun _ => List.mem_append_left _ hm
  rcases List.mem_append.1 hc with hc | hc
  · exact List.mem_flatMap.2 ⟨_, List.mem_append_left _ (List.mem_cons_of_mem _ (List.mem_map_of_mem hc)), hmem false⟩
  · exact List.mem_flatMap.2 ⟨_, List.mem_append_right _ (List.mem_cons_of_mem _
      (List.mem_append_right _ (List.mem_map_of_mem hc))), hmem true⟩

/-- The mount is that of an inline volume of the template or of a claim template. -/
def Backed (template : PodTemplateSpec) (claims : List ClaimTemplate) (m : VolumeMount) : Prop :=
  m.name ∈ template.spec.volumes.map (·.name) ∨ m.name ∈ claims.map (·.name)

instance (template : PodTemplateSpec) (claims : List ClaimTemplate) (m : VolumeMount) :
    Decidable (Backed template claims m) := inferInstanceAs (Decidable (_ ∨ _))

/-- The mounts that users write themselves name a volume of the storage section or of the operator. -/
def UserMountsNamed (cluster : AerospikeCluster) (storageSpec : Option AerospikeStorageSpec) : Prop :=
  ∀ m ∈ cluster.userMounts, (∃ vol ∈ storageVolumes storageSpec, vol.name = m.name) ∨
    m.name ∈ [configMapVolumeName, aerospikeConfigVolumeName]

theorem SamePVs.mem_claimTemplate_names (h : SamePVs parse s s') :
    n ∈ (buildVolumeClaimTemplates s).map (·.name) ↔ n ∈ (buildVolumeClaimTemplates s').map (·.name) := by
  rw [Acko.mem_claimTemplate_names, Acko.mem_claimTemplate_names, ← isSome_lookup_pvBackedVolumes,
    ← isSome_lookup_pvBackedVolumes]
  have hrel := h n
  cases hold : (pvBackedVolumes s).lookup n <;> cases hnew : (pvBackedVolumes s').lookup n <;>
    simp only [hold, hnew] at hrel <;> cases hrel
  · rfl
  · exact iff_of_true rfl rfl

theorem backed_iff {hash : String} (hsame : SamePVs parse oldStorage (effectiveStorage cluster (some rack)))
    (hsourced : Sourced (effectiveStorage cluster (some rack))) :
    Backed (rackTemplate cluster rack hash).template (buildVolumeClaimTemplates oldStorage) m ↔
      (∃ vol ∈ storageVolumes (effectiveStorage cluster (some rack)), vol.name = m.name) ∨
        m.name ∈ [configMapVolumeName, aerospikeConfigVolumeName] := by
  have hvolumes : (rackTemplate cluster rack hash).template.spec.volumes =
      templateVolumes (effectiveStorage cluster (some rack)) (configMapName cluster.name rack.id) :=
    congrArg PodSpec.volumes (templatePodSpec_eq cluster rack _)
  rw [Backed, hvolumes, mem_templateVolumes_names, hsame.mem_claimTemplate_names, mem_inline_names,
    mem_claimTemplate_names]
  constructor
  · rintro ((⟨vol, hvol, hname, -⟩ | hoperator) | ⟨vol, hvol, hname, -⟩)
    · exact Or.inl ⟨vol, hvol, hname⟩
    · exact Or.inr hoperator
    · exact Or.inl ⟨vol, hvol, hname⟩
  · rintro (⟨vol, hvol, hname⟩ | hoperator)
    · rcases hsourced vol hvol with hinline | hpv
      · exact Or.inl (Or.inl ⟨vol, hvol, hname, hinline⟩)
      · exact Or.inr ⟨vol, hvol, hname, hpv⟩
    · exact Or.inl (Or.inr hoperator)

theorem mounts_backed_iff {hash : String} (hsame : SamePVs parse oldStorage (effectiveStorage cluster (some rack)))
    (hsourced : Sourced (effectiveStorage cluster (some rack))) :
    (∀ m ∈ (rackTemplate cluster rack hash).template.spec.mounts,
        Backed (rackTemplate cluster rack hash).template (buildVolumeClaimTemplates oldStorage) m) ↔
      UserMountsNamed cluster (effectiveStorage cluster (some rack)) := by
  have hmounts : (rackTemplate cluster rack hash).template.spec.mounts =
      (templateInitContainers cluster (effectiveStorage cluster (some rack)) ++
        templateContainers cluster (effectiveStorage cluster (some rack))).flatMap (·.volumeMounts) :=
    congrArg PodSpec.mounts (templatePodSpec_eq cluster rack _)
  rw [hmounts]
  constructor
  · intro h m hm
    exact (backed_iff hsame hsourced).1 (h m (mem_mounts_of_user hm))
  · intro h m hm
    refine (backed_iff hsame hsourced).2 ?_
    rcases mem_mounts hm with huser | hnamed
    · exact h m huser
    · exact hnamed

/-! ## Immutability -/

/-- Storage immutability. In an admitted update, whose old rack IDs are positive as the schema has
them, a rack of both sides keeps its claims and every mount of its new template is backed, exactly
where the claims are chosen alike on both sides and the mounts in users' own containers name volumes
of the rack. -/
theorem storage_immutable_iff {env : ValidateEnv} {status : Option OperationStatus} {old new : AerospikeCluster}
    (hids : ∀ rack ∈ old.spec.racks, 0 < rack.id) (haccept : validateUpdate env status old new = none)
    (snapshot : AerospikeClusterTemplateSpec) {id : Int} {oldRack newRack : RackSpec}
    (hold : rackOf old id = some oldRack) (hnew : rackOf new id = some newRack) (hash : String) :
    let oldStorage := effectiveStorage (resolveTemplate snapshot old) (some oldRack)
    let newStorage := effectiveStorage (resolveTemplate snapshot new) (some newRack)
    let template := (rackTemplate (resolveTemplate snapshot new) newRack hash).template
    (SamePVs env.parseQuantity oldStorage newStorage ∧
        ∀ m ∈ template.spec.mounts, Backed template (buildVolumeClaimTemplates oldStorage) m) ↔
      ClaimsKept env.parseQuantity snapshot old new oldRack newRack ∧ UserMountsNamed new newStorage := by
  intro oldStorage newStorage template
  have hadmitted := admitted_of_validateUpdate haccept
  have hclaims : SamePVs env.parseQuantity oldStorage newStorage ↔
      ClaimsKept env.parseQuantity snapshot old new oldRack newRack :=
    hadmitted.effective_iff (hadmitted.override hids hold hnew)
  have hsourced : Sourced newStorage := hadmitted.effective_sourced hnew
  rw [← hclaims]
  constructor
  · rintro ⟨hsame, hmounts⟩
    exact ⟨hsame, (mounts_backed_iff hsame hsourced).1 hmounts⟩
  · rintro ⟨hsame, hnamed⟩
    exact ⟨hsame, (mounts_backed_iff hsame hsourced).2 hnamed⟩

def ValidateEnv.plain : ValidateEnv where
  parseQuantity size := if size = "1Gi" then .ok 1073741824 else .error "quantities must match the regular expression"
  beforeRacks _ := []
  rackConfig _ := []
  beforeStorage _ := []
  afterStorage _ := []
  overrides _ := []
  serviceMonitor _ := none

def storedCluster (image : String) (rack : RackSpec) : AerospikeCluster :=
  let cluster := AerospikeCluster.bare "demo" image
  { cluster with spec := { cluster.spec with storage := some (dataStorage true), racks := [rack] } }

/-- A new image alone leaves the rack its claims. -/
theorem storage_immutable_image :
    let old := storedCluster "aerospike:ce-7" (.bare 1)
    let new := storedCluster "aerospike:ce-8" (.bare 1)
    validateUpdate .plain none old new = none ∧
      SamePVs ValidateEnv.plain.parseQuantity (effectiveStorage old (some (.bare 1)))
        (effectiveStorage new (some (.bare 1))) := by
  intro old new
  have haccept : validateUpdate .plain none old new = none := by decide +kernel
  have hold : rackOf old 1 = some (.bare 1) := rfl
  have hnew : rackOf new 1 = some (.bare 1) := rfl
  refine ⟨haccept, ((storage_immutable_iff (by decide +kernel) haccept ⟨none⟩ hold hnew "").2 ⟨.none, ?_⟩).1⟩
  intro m hm
  cases hm

/-- A rack whose override has only an inline volume gives the override up: the update is admitted,
and the new template mounts the volume `data` of the spec, for which the rack's StatefulSet has no
claim template. -/
theorem override_removal_unbacked :
    let scratch : VolumeSpec := { VolumeSpec.claim "scratch" "" none with
      source := ⟨none, some ⟨"", none⟩, none, none, none⟩ }
    let oldRack : RackSpec := { RackSpec.bare 1 with storage := some (.ofVolumes [scratch]) }
    let old := storedCluster "aerospike:ce-8" oldRack
    let new := storedCluster "aerospike:ce-8" (.bare 1)
    validateUpdate .plain none old new = none ∧ rackOf old 1 = some oldRack ∧ rackOf new 1 = some (.bare 1) ∧
      ¬ SamePVs ValidateEnv.plain.parseQuantity (effectiveStorage old (some oldRack))
        (effectiveStorage new (some (.bare 1))) ∧
      ∃ m ∈ (rackTemplate new (.bare 1) "").template.spec.mounts,
        ¬ Backed (rackTemplate new (.bare 1) "").template
          (buildVolumeClaimTemplates (effectiveStorage old (some oldRack))) m := by
  intro scratch oldRack old new
  refine ⟨by decide +kernel, by decide +kernel, by decide +kernel, fun hsame => ?_, by decide +kernel⟩
  have hnone : (pvBackedVolumes (effectiveStorage old (some oldRack))).lookup "data" = none := by decide +kernel
  have hsome : (pvBackedVolumes (effectiveStorage new (some (.bare 1)))).lookup "data" ≠ none := by decide +kernel
  have hrel := hsame "data"
  rw [hnone, rel_none_left] at hrel
  exact hsome hrel

end Acko
