/-
Dirty volumes, from the restart that records them to the status that no longer lists them. A cold restart
writes the volumes with a wipe method into the pod's entry; the entry is cleared as soon as the pod is seen
Ready. The template never carries `WIPE_VOLUMES`, so in between a volume is wiped only where its init method
does the same.
-/
import AckoProofs.Lib.Run
import AckoProofs.Status.Publish
import AckoProofs.Volumes.FirstUse

namespace Acko

open Publish (ListedPod)

/-! ## Marking -/

/-- The volumes with a wipe method. -/
def getDirtyVolumes (storageSpec : Option AerospikeStorageSpec) : List String :=
  ((storageVolumes storageSpec).filter fun vol => resolveWipeMethod vol storageSpec ≠ .none).map (·.name)

/-- `markDirtyVolumes`: the entries of the status with those of one pod replaced. -/
def markDirtyVolumes (pods : PodStatuses) (podName : String) (dirtyVols : List String) : PodStatuses :=
  DocTree.put pods podName { (pods.lookup podName).getD .zero with dirtyVolumes := dirtyVols }

/-! ## Runs -/

/-- A run of an init container: the pod, the storage its template was rendered with, and the commands it ran. -/
structure InitRecord where
  pod : String
  storage : Option AerospikeStorageSpec
  container : TemplateContainer
  commands : List ShellCommand
  completed : Bool

/-- The run carried out the wipe method of the volume of this name on that volume. -/
def InitRecord.Wiped (record : InitRecord) (volume : String) : Prop :=
  ∃ vol ∈ storageVolumes record.storage, vol.name = volume ∧
    RanOn record.container record.commands (wipeTask record.storage vol) vol

/-- The cluster as templates are rendered from it and as its status is published, and the init containers that
have run so far. -/
structure VolumeWorld where
  cluster : AerospikeCluster
  object : PublishedCluster
  history : List InitRecord

/-- A change of the spec, a cold restart with whether the dirty volumes could be written, the init container of a
new pod, and an update of the status from the pods that are listed. -/
inductive VolumeMove
  | edit (cluster : AerospikeCluster) (spec : ObjectSpec)
  | coldRestart (podName : String) (marked : Bool)
  | start (podName : String) (rack : Option RackSpec) (run : InitRun)
  | publish (pods : List ListedPod) (now : Time)

def initRecord (cluster : AerospikeCluster) (podName : String) (rack : Option RackSpec) (run : InitRun) : InitRecord :=
  let container := podInitContainer cluster rack
  ⟨podName, effectiveStorage cluster rack, container, (run.exec container).2, (run.exec container).1.isNone⟩

namespace VolumeWorld

def withPods (s : VolumeWorld) (pods : PodStatuses) : VolumeWorld :=
  { s with object := { s.object with status := { s.object.status with pods := pods } } }

/-- The cold restart of a pod of any rack marks the volumes of the cluster's own storage. -/
def step (s : VolumeWorld) : VolumeMove → Option VolumeWorld
  | .edit cluster spec => some { s with cluster := cluster, object := { s.object with spec := spec } }
  | .coldRestart podName marked =>
    let dirtyVols := getDirtyVolumes s.cluster.spec.storage
    some (if marked ∧ dirtyVols ≠ [] then s.withPods (markDirtyVolumes s.object.status.pods podName dirtyVols) else s)
  | .start podName rack run => some { s with history := s.history ++ [initRecord s.cluster podName rack run] }
  | .publish pods now => some { s with object := (Publish.populateStatus pods now s.object).1 }

def dirty (s : VolumeWorld) (podName : String) : List String :=
  ((s.object.status.pods.lookup podName).getD .zero).dirtyVolumes

end VolumeWorld

/-! ## What a move leaves of the list -/

variable {podName : String}

theorem dirty_mark {s : VolumeWorld} {other : String} {dirtyVols : List String} :
    (s.withPods (markDirtyVolumes s.object.status.pods podName dirtyVols)).dirty other =
      if other = podName then dirtyVols else s.dirty other := by
  unfold VolumeWorld.dirty VolumeWorld.withPods markDirtyVolumes
  rw [DocTree.lookup_put]
  split <;> rfl

theorem lookup_podStatuses {cluster : PublishedCluster} {now : Time} {podName : String} {pods : List ListedPod}
    (h : ∃ listed ∈ pods, listed.pod.name = podName) : ∃ listed ∈ pods, listed.pod.name = podName ∧
      (Publish.podStatuses cluster now pods).lookup podName = some (Publish.podStatusOf cluster now listed) := by
  -- the entry stays from the last pod of this name on
  have hfold : ∀ (l : List ListedPod) (acc : PodStatuses),
      (∃ listed ∈ l, listed.pod.name = podName ∧ (l.foldl (fun statuses p =>
        DocTree.put statuses p.pod.name (Publish.podStatusOf cluster now p)) acc).lookup podName =
          some (Publish.podStatusOf cluster now listed)) ∨
      ((∀ listed ∈ l, listed.pod.name ≠ podName) ∧ (l.foldl (fun statuses p =>
        DocTree.put statuses p.pod.name (Publish.podStatusOf cluster now p)) acc).lookup podName =
          acc.lookup podName) := by
    intro l
    induction l with
    | nil => exact fun acc => Or.inr ⟨fun _ hmem => (by cases hmem), rfl⟩
    | cons p l ih =>
      intro acc
      rcases ih (DocTree.put acc p.pod.name (Publish.podStatusOf cluster now p)) with
          ⟨q, hq, hname, hq'⟩ | ⟨hnone, hacc⟩
      · exact Or.inl ⟨q, List.mem_cons_of_mem _ hq, hname, hq'⟩
      · rw [DocTree.lookup_put] at hacc
        by_cases hp : podName = p.pod.name
        · rw [if_pos hp] at hacc
          exact Or.inl ⟨p, List.mem_cons_self, hp.symm, hacc⟩
        · rw [if_neg hp] at hacc
          refine Or.inr ⟨?_, hacc⟩
          intro q hq
          rcases List.mem_cons.1 hq with rfl | hq
          · exact Ne.symm hp
          · exact hnone q hq
  rcases hfold pods [] with hlast | ⟨hnone, -⟩
  · exact hlast
  · obtain ⟨listed, hmem, hname⟩ := h
    exact absurd hname (hnone listed hmem)

theorem dirty_publish {s t : VolumeWorld} {pods : List ListedPod} {now : Time}
    (hlisted : ∃ listed ∈ pods, listed.pod.name = podName) (hstep : s.step (.publish pods now) = some t) :
    t.dirty podName = s.dirty podName ∨
      ∃ listed ∈ pods, listed.pod.name = podName ∧ isPodReady listed.pod = true := by
  cases hstep
  obtain ⟨listed, hmem, hname, hlookup⟩ := @lookup_podStatuses s.object now podName pods hlisted
  cases hready : isPodReady listed.pod with
  | true => exact Or.inr ⟨listed, hmem, hname, hready⟩
  | false =>
    left
    show (((Publish.podStatuses s.object now pods).lookup podName).getD .zero).dirtyVolumes = _
    rw [hlookup, Option.getD_some, Publish.podStatusOf, Publish.buildPodStatus, hname, VolumeWorld.dirty]
    simp only [hready]
    rfl

/-! ## Where the init method wipes -/

/-- In a pod of this rack the volume is initialised by the commands that would wipe it, and its entry leads to
it. -/
def WipedByInit (cluster : AerospikeCluster) (rack : Option RackSpec) (volume : String) : Prop :=
  ∃ storage, Reaches cluster rack storage ∧ ∃ vol ∈ initVolumes (some storage), vol.name = volume ∧
    vol.AttachedToInit ∧ (resolveInitMethod vol (some storage)).text = (resolveWipeMethod vol (some storage)).text

theorem wiped_initRecord {cluster : AerospikeCluster} {rack : Option RackSpec} {volume : String} {run : InitRun}
    (h : WipedByInit cluster rack volume) (hcompleted : (initRecord cluster podName rack run).completed = true) :
    (initRecord cluster podName rack run).Wiped volume := by
  obtain ⟨storage, hreaches, vol, hvol, hname, hattached, hmethod⟩ := h
  have hran := ran_initTask hreaches (Option.isNone_iff_eq_none.1 hcompleted) hvol hattached
  have htask : wipeTask (some storage) vol = initTask (some storage) vol := by
    rw [wipeTask, initTask, hmethod]
  refine ⟨vol, ?_, hname, ?_⟩
  · show vol ∈ storageVolumes (effectiveStorage cluster rack)
    rw [hreaches.effective]
    exact (mem_initVolumes.1 hvol).1
  · show RanOn _ _ (wipeTask (effectiveStorage cluster rack) vol) vol
    rw [hreaches.effective, htask]
    exact hran

/-- The moves of a run in which a pod is not Ready before a new init container of it has completed, is always
listed, is not marked again without the volume, and has the volume wiped by its init method; `since` counts the
init containers before the run. -/
def KeepsDirty (podName volume : String) (since : Nat) (s : VolumeWorld) : VolumeMove → Prop
  | .edit _ _ => True
  | .coldRestart name marked => name = podName → marked = true → getDirtyVolumes s.cluster.spec.storage ≠ [] →
      volume ∈ getDirtyVolumes s.cluster.spec.storage
  | .start name rack _ => name = podName → WipedByInit s.cluster rack volume
  | .publish pods _ => (∃ listed ∈ pods, listed.pod.name = podName) ∧
      ∀ listed ∈ pods, listed.pod.name = podName → isPodReady listed.pod = true →
        ∃ record ∈ s.history.drop since, record.pod = podName ∧ record.completed = true

/-- Since the recording: the init containers of the pod that completed have wiped the volume, and it is listed as
long as none has. -/
structure DirtyUntilWiped (podName volume : String) (since : Nat) (s : VolumeWorld) : Prop where
  longer : since ≤ s.history.length
  wiped : ∀ record ∈ s.history.drop since, record.pod = podName → record.completed = true → record.Wiped volume
  listed : volume ∈ s.dirty podName ∨
    ∃ record ∈ s.history.drop since, record.pod = podName ∧ record.Wiped volume

theorem dirtyUntilWiped_step {volume : String} {since : Nat} {s t : VolumeWorld} {move : VolumeMove}
    (hi : DirtyUntilWiped podName volume since s) (hkeeps : KeepsDirty podName volume since s move)
    (hstep : s.step move = some t) : DirtyUntilWiped podName volume since t := by
  cases move with
  | edit cluster spec =>
    cases hstep
    exact ⟨hi.longer, hi.wiped, hi.listed⟩
  | coldRestart name marked =>
    cases hstep
    split
    case isTrue hmark =>
      refine ⟨hi.longer, hi.wiped, ?_⟩
      rw [dirty_mark]
      split
      case isTrue hname => exact Or.inl (hkeeps hname.symm hmark.1 hmark.2)
      case isFalse => exact hi.listed
    case isFalse => exact hi
  | start name rack run =>
    cases hstep
    have hdrop : (s.history ++ [initRecord s.cluster name rack run]).drop since =
        s.history.drop since ++ [initRecord s.cluster name rack run] := List.drop_append_of_le_length hi.longer
    constructor
    · show since ≤ (s.history ++ _).length
      rw [List.length_append]
      exact Nat.le_add_right_of_le hi.longer
    · intro record hrecord hpod hcompleted
      rw [hdrop, List.mem_append, List.mem_singleton] at hrecord
      rcases hrecord with hrecord | rfl
      · exact hi.wiped record hrecord hpod hcompleted
      · exact wiped_initRecord (hkeeps hpod) hcompleted
    · rcases hi.listed with hdirty | ⟨record, hrecord, hpod, hwiped⟩
      · exact Or.inl hdirty
      · refine Or.inr ⟨record, ?_, hpod, hwiped⟩
        rw [hdrop]
        exact List.mem_append_left _ hrecord
  | publish pods now =>
    obtain ⟨hlisted, hready⟩ := hkeeps
    have hhistory : t.history = s.history := by
      cases hstep
      rfl
    refine ⟨hhistory ▸ hi.longer, hhistory ▸ hi.wiped, ?_⟩
    rw [hhistory]
    rcases hi.listed with hdirty | hwiped
    · rcases dirty_publish hlisted hstep with hsame | ⟨listed, hmem, hname, hisReady⟩
      · exact Or.inl (hsame ▸ hdirty)
      · -- the pod came up again, so an init container of it has completed
        obtain ⟨record, hrecord, hpod, hcompleted⟩ := hready listed hmem hname hisReady
        exact Or.inr ⟨record, hrecord, hpod, hi.wiped record hrecord hpod hcompleted⟩
    · exact Or.inr hwiped

/-- In such a run, a volume that a cold restart has recorded and the status no longer lists was wiped in between. -/
theorem wiped_before_clean (s marked t : VolumeWorld) (podName volume : String) (moves : List VolumeMove)
    (hmark : s.step (.coldRestart podName true) = some marked) (hdirty : volume ∈ marked.dirty podName)
    (hrun : Lts.run VolumeWorld.step marked moves = some t)
    (hkeeps : Lts.Along VolumeWorld.step (KeepsDirty podName volume s.history.length) marked moves)
    (hclean : volume ∉ t.dirty podName) :
    ∃ record ∈ t.history.drop s.history.length, record.pod = podName ∧ record.Wiped volume := by
  have hhistory : marked.history = s.history := by
    cases hmark
    split <;> rfl
  have hstart : DirtyUntilWiped podName volume s.history.length marked := by
    refine ⟨le_of_eq (congrArg List.length hhistory.symm), ?_, Or.inl hdirty⟩
    intro record hrecord
    rw [hhistory, List.drop_length] at hrecord
    cases hrecord
  have hend := Lts.run_invariant (fun _ _ _ hi hc hs => dirtyUntilWiped_step hi hc hs) hstart hkeeps hrun
  rcases hend.listed with hlisted | hwiped
  · exact absurd hlisted hclean
  · exact hwiped

variable (initMethod : Option VolumeInitMethod)

/-- A claim with the wipe method `deleteFiles`, and this init method, that the init container mounts too. -/
def wipedData : VolumeSpec :=
  { sharedData with initMethod := initMethod, wipeMethod := some .deleteFiles }

def wipedWorld : VolumeWorld :=
  ⟨clusterOf [wipedData initMethod], .fresh "demo" "aerospike:ce-8.1.1.1", []⟩

def markedWorld : VolumeWorld :=
  (wipedWorld initMethod).withPods (markDirtyVolumes [] "demo-0-0" ["data"])

def restartMoves : List VolumeMove :=
  [.start "demo-0-0" none .smooth,
    .publish [⟨.serving "demo-0-0" "aerospike:ce-8.1.1.1" "10.0.0.1" ⟨"", "", ""⟩, none, ""⟩] 0]

theorem wipedByInit_data : WipedByInit (clusterOf [wipedData (some .deleteFiles)]) none "data" := by
  refine ⟨.ofVolumes [wipedData (some .deleteFiles)], ⟨rfl, by decide +kernel, by decide +kernel, by decide +kernel⟩,
    wipedData (some .deleteFiles), by decide +kernel, rfl, ?_, by decide +kernel⟩
  exact ⟨_, List.mem_singleton_self _, rfl, rfl⟩

theorem wiped_before_clean_data :
    ∃ t, Lts.run VolumeWorld.step (markedWorld (some .deleteFiles)) restartMoves = some t ∧
    ∃ record ∈ t.history.drop 0, record.pod = "demo-0-0" ∧ record.Wiped "data" := by
  refine ⟨_, rfl, wiped_before_clean (wipedWorld (some .deleteFiles)) (markedWorld (some .deleteFiles)) _ "demo-0-0"
    "data" restartMoves rfl (by decide +kernel) rfl ?_ (by decide +kernel)⟩
  refine .cons rfl (fun _ => wipedByInit_data) (.cons rfl ⟨⟨_, List.mem_singleton_self _, rfl⟩, ?_⟩ trivial)
  exact fun _ _ _ _ => ⟨_, List.mem_singleton_self _, rfl, by decide +kernel⟩

/-- Without an init method the pod comes up on the dirty volume: no command is run, and the status lists it no
longer. -/
theorem dirty_volume_declared_clean :
    (wipedWorld none).step (.coldRestart "demo-0-0" true) = some (markedWorld none) ∧
      (markedWorld none).dirty "demo-0-0" = ["data"] ∧
      ∃ t, Lts.run VolumeWorld.step (markedWorld none) restartMoves = some t ∧ t.dirty "demo-0-0" = [] ∧
        t.history.map (fun record => (record.commands, record.completed)) = [([], true)] := by
  refine ⟨rfl, rfl, _, rfl, ?_, ?_⟩ <;> decide +kernel

end Acko
