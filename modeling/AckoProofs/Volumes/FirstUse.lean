/-
Initialisation over the starts of a pod. The template is rendered from the spec alone and the script keeps no
record of what it has done, so the method of a volume is run at every start on that volume: at the first one
only where there is no other.
-/
import AckoProofs.Volumes.Mounts

namespace Acko

/-! ## A task that was carried out -/

/-- The commands of the task are among those that were run, one after the other, and its path is a mount of the
volume. -/
def RanOn (container : TemplateContainer) (commands : List ShellCommand) (task : VolumeTask) (vol : VolumeSpec) :
    Prop :=
  ((container.mountAt task.path).map (·.name) = some vol.name ∧ Script.commands task.script ≠ []) ∧
    Script.commands task.script <:+: commands

theorem infix_flatMap {α β : Type} {f : α → List β} {l : List α} {a : α} (h : a ∈ l) : f a <:+: l.flatMap f := by
  obtain ⟨front, back, rfl⟩ := List.append_of_mem h
  exact ⟨front.flatMap f, back.flatMap f, by simp⟩

theorem commands_script_ne_nil {path : String} {method : VolumeWipeMethod} (hmethod : method ≠ .none)
    (hstop : ∀ e, .stop e ∉ method.script path) : Script.commands (method.script path) ≠ [] := by
  cases method <;> simp only [VolumeWipeMethod.script] at hstop ⊢
  case none => exact absurd rfl hmethod
  case deleteFiles =>
    split
    case isTrue hpath =>
      rw [if_pos hpath] at hstop
      exact absurd (List.mem_singleton_self _) (hstop _)
    case isFalse => simp [Script.commands, Script.Step.command]
  all_goals simp [Script.commands, Script.Step.command]

theorem script_initTask {storageSpec : Option AerospikeStorageSpec} {vol : VolumeSpec}
    (h : resolveInitMethod vol storageSpec ≠ .none) :
    ∃ method : VolumeWipeMethod, method ≠ .none ∧
      (initTask storageSpec vol).script = method.script vol.aerospikePath := by
  unfold VolumeTask.script initTask
  cases hmethod : resolveInitMethod vol storageSpec with
  | none => exact absurd hmethod h
  | deleteFiles => exact ⟨.deleteFiles, by decide, rfl⟩
  | dd => exact ⟨.dd, by decide, rfl⟩
  | blkdiscard => exact ⟨.blkdiscard, by decide, rfl⟩
  | headerCleanup => exact ⟨.headerCleanup, by decide, rfl⟩

/-- What the init container of a rack needs so that its entries lead to their volumes. -/
structure Reaches (cluster : AerospikeCluster) (rack : Option RackSpec) (storage : AerospikeStorageSpec) : Prop where
  effective : effectiveStorage cluster rack = some storage
  free : ∀ vol ∈ initVolumes (some storage), SeparatorFree vol.aerospikePath
  plain : ∀ vol ∈ initVolumes (some storage), ReferenceFree vol.aerospikePath
  unique : (podInitContainer cluster rack).UniqueMounts

theorem ran_initTask {cluster : AerospikeCluster} {rack : Option RackSpec} {storage : AerospikeStorageSpec}
    (h : Reaches cluster rack storage) {run : InitRun}
    (hcompleted : (run.exec (podInitContainer cluster rack)).1 = none)
    {vol : VolumeSpec} (hvol : vol ∈ initVolumes (some storage)) (hattached : vol.AttachedToInit) :
    RanOn (podInitContainer cluster rack) (run.exec (podInitContainer cluster rack)).2 (initTask (some storage) vol)
      vol := by
  obtain ⟨hmem, hmethod, -⟩ := mem_initVolumes.1 hvol
  obtain ⟨ic, hic, hname, hpath⟩ := hattached
  have hmount := mountAt_attachment h.effective h.unique hmem hic hname
  rw [hpath] at hmount
  have hentry : initTask (some storage) vol ∈
      decodeVolumes (variableValue run.kubelet (podInitContainer cluster rack).env "INIT_VOLUMES") := by
    rw [variableValue_init h.effective run.kubelet h.plain, decode_initVolumes.2 h.free]
    exact List.mem_map_of_mem hvol
  have hscript : (initTask (some storage) vol).script <:+:
      volumeScript run.kubelet (podInitContainer cluster rack).env :=
    (infix_flatMap hentry).trans (List.suffix_append _ _).isInfix
  obtain ⟨method, hne, harm⟩ := script_initTask hmethod
  refine ⟨⟨?_, ?_⟩, ?_⟩
  · rw [show (initTask (some storage) vol).path = vol.aerospikePath from rfl, hmount]
    rfl
  · rw [harm]
    refine commands_script_ne_nil hne fun e he => ?_
    exact (exec_completed hcompleted).2 e (hscript.subset (harm ▸ he))
  · rw [(exec_completed hcompleted).1]
    exact hscript.filterMap _

/-! ## Starts -/

/-- A start of a pod: the cluster and the rack that its template was rendered from, and the run of its init
container, which completed. -/
structure PodStart where
  cluster : AerospikeCluster
  rack : Option RackSpec
  run : InitRun
  completed : (run.exec (podInitContainer cluster rack)).1 = none

def PodStart.container (start : PodStart) : TemplateContainer := podInitContainer start.cluster start.rack

def PodStart.commands (start : PodStart) : List ShellCommand := (start.run.exec start.container).2

def PodStart.Initialises (storage : AerospikeStorageSpec) (vol : VolumeSpec) (start : PodStart) : Prop :=
  RanOn start.container start.commands (initTask (some storage) vol) vol

/-- The method is run at the first start and at no later one. -/
def InitialisedOnce (storage : AerospikeStorageSpec) (vol : VolumeSpec) : List PodStart → Prop
  | [] => True
  | first :: later => first.Initialises storage vol ∧ ∀ start ∈ later, ¬ start.Initialises storage vol

theorem initialisedOnce_iff {storage : AerospikeStorageSpec} {starts : List PodStart}
    (hreaches : ∀ start ∈ starts, Reaches start.cluster start.rack storage) {vol : VolumeSpec}
    (hvol : vol ∈ initVolumes (some storage)) (hattached : vol.AttachedToInit) :
    InitialisedOnce storage vol starts ↔ starts.length ≤ 1 := by
  have hevery : ∀ start ∈ starts, start.Initialises storage vol := fun start hstart =>
    ran_initTask (hreaches start hstart) start.completed hvol hattached
  match starts with
  | [] => simp [InitialisedOnce]
  | [first] => simpa [InitialisedOnce] using hevery first
  | first :: second :: later =>
    refine iff_of_false ?_ (by simp)
    rintro ⟨-, hlater⟩
    exact hlater second List.mem_cons_self (hevery second (by simp))

/-- Of volumes that are attached to the init container at their Aerospike path: every persistent one with a method is
initialised at the first start and at no later one if and only if there is at most one start, or no such volume. -/
theorem initialised_once (storage : AerospikeStorageSpec) (starts : List PodStart)
    (hreaches : ∀ start ∈ starts, Reaches start.cluster start.rack storage)
    (hattached : ∀ vol ∈ storage.volumes, vol.aerospike.isSome → vol.AttachedToInit) :
    (∀ vol ∈ initVolumes (some storage), vol.source.persistentVolume.isSome → InitialisedOnce storage vol starts) ↔
      starts.length ≤ 1 ∨ ∀ vol ∈ initVolumes (some storage), ¬ vol.source.persistentVolume.isSome := by
  have hiff : ∀ vol ∈ initVolumes (some storage), InitialisedOnce storage vol starts ↔ starts.length ≤ 1 := by
    intro vol hvol
    obtain ⟨hmem, -, haerospike⟩ := mem_initVolumes.1 hvol
    exact initialisedOnce_iff hreaches hvol (hattached vol hmem haerospike)
  constructor
  · intro h
    by_cases hnone : ∀ vol ∈ initVolumes (some storage), ¬ vol.source.persistentVolume.isSome
    · exact Or.inr hnone
    · push Not at hnone
      obtain ⟨vol, hvol, hpersistent⟩ := hnone
      exact Or.inl ((hiff vol hvol).1 (h vol hvol hpersistent))
  · rintro (hone | hnone) vol hvol hpersistent
    · exact (hiff vol hvol).2 hone
    · exact absurd hpersistent (hnone vol hvol)

/-- A claim at `/opt/aerospike/data` that the init container mounts too; its files are deleted to initialise it. -/
def sharedData : VolumeSpec :=
  { (VolumeSpec.claim "data" "1Gi" none).withInitMount with initMethod := some .deleteFiles }

theorem smooth_completed : (InitRun.smooth.exec (podInitContainer (clusterOf [sharedData]) none)).1 = none := by
  decide +kernel

def smoothStart : PodStart := ⟨clusterOf [sharedData], none, .smooth, smooth_completed⟩

theorem reaches_smoothStart : Reaches smoothStart.cluster smoothStart.rack (.ofVolumes [sharedData]) :=
  ⟨rfl, by decide +kernel, by decide +kernel, by decide +kernel⟩

theorem attached_sharedData : ∀ vol ∈ (AerospikeStorageSpec.ofVolumes [sharedData]).volumes,
    vol.aerospike.isSome → vol.AttachedToInit := by
  intro vol hvol _
  obtain rfl := List.mem_singleton.1 hvol
  exact ⟨_, List.mem_singleton_self _, rfl, rfl⟩

theorem initialised_once_data : InitialisedOnce (.ofVolumes [sharedData]) sharedData [smoothStart] :=
  (initialised_once (.ofVolumes [sharedData]) [smoothStart]
    (fun start hstart => List.mem_singleton.1 hstart ▸ reaches_smoothStart) attached_sharedData).2 (Or.inl (by decide))
    sharedData (by decide) rfl

/-- The second start on the same claim deletes its files again. -/
theorem initialised_again :
    validateStorage (fun _ => .ok 1073741824) (.ofVolumes [sharedData]) = [] ∧
      sharedData.source.persistentVolume.isSome ∧ smoothStart.commands = [.removeFiles "/opt/aerospike/data"] ∧
      (smoothStart.container.mountAt "/opt/aerospike/data").map (·.name) = some "data" ∧
      ¬ InitialisedOnce (.ofVolumes [sharedData]) sharedData [smoothStart, smoothStart] := by
  refine ⟨by decide +kernel, rfl, by decide +kernel, by decide +kernel, ?_⟩
  rintro ⟨hfirst, hlater⟩
  exact hlater smoothStart List.mem_cons_self hfirst

end Acko
