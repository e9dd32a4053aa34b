/-
What the operator writes into `INIT_VOLUMES` and `WIPE_VOLUMES`, and what the script reads there. The paths
are joined as they stand, so as long as the kubelet finds no reference to expand in them they are read back where
none of them holds a separator, and only there.
-/
import AckoProofs.Admission.Validate
import AckoProofs.Volumes.Script

namespace Acko

/-! ## What is written -/

/-- The path of the server's mount; empty for a volume that the server does not mount. -/
def VolumeSpec.aerospikePath (vol : VolumeSpec) : String := (vol.aerospike.map (·.path)).getD ""

variable (storageSpec : Option AerospikeStorageSpec)

def initVolumes : List VolumeSpec :=
  (storageVolumes storageSpec).filter fun vol => resolveInitMethod vol storageSpec ≠ .none ∧ vol.aerospike.isSome

def initTask (vol : VolumeSpec) : VolumeTask :=
  ⟨(resolveInitMethod vol storageSpec).text, vol.aerospikePath⟩

def wipeVolumes (dirtyVolumes : List String) : List VolumeSpec :=
  ((storageVolumes storageSpec).filter (·.name ∈ dirtyVolumes)).filter fun vol =>
    resolveWipeMethod vol storageSpec ≠ .none ∧ vol.aerospike.isSome

def wipeTask (vol : VolumeSpec) : VolumeTask :=
  ⟨(resolveWipeMethod vol storageSpec).text, vol.aerospikePath⟩

/-- A list of tasks as the value of a variable. -/
def encodeVolumes (tasks : List VolumeTask) : String := ",".intercalate (tasks.map VolumeTask.text)

theorem filterMap_eq_map_filter {α β : Type} {f : α → Option β} {p : α → Bool} {g : α → β}
    (h : ∀ a, f a = if p a then some (g a) else none) (l : List α) : l.filterMap f = (l.filter p).map g := by
  induction l with
  | nil => rfl
  | cons a l ih =>
    rw [List.filterMap_cons, h a, List.filter_cons, ih]
    cases p a <;> rfl

theorem buildInitVolumesEnv_eq :
    buildInitVolumesEnv storageSpec = encodeVolumes ((initVolumes storageSpec).map (initTask storageSpec)) := by
  rw [encodeVolumes, List.map_map, buildInitVolumesEnv, initVolumes]
  congr 1
  refine filterMap_eq_map_filter (fun vol => ?_) _
  cases hatt : vol.aerospike <;> cases hmethod : resolveInitMethod vol storageSpec <;>
    simp [hatt, hmethod, initTask, VolumeTask.text, VolumeSpec.aerospikePath]

theorem buildWipeVolumesEnv_eq (dirtyVolumes : List String) : buildWipeVolumesEnv storageSpec dirtyVolumes =
      encodeVolumes ((wipeVolumes storageSpec dirtyVolumes).map (wipeTask storageSpec)) := by
  rw [encodeVolumes, List.map_map, buildWipeVolumesEnv, wipeVolumes]
  congr 1
  refine filterMap_eq_map_filter (fun vol => ?_) _
  cases hatt : vol.aerospike <;> cases hmethod : resolveWipeMethod vol storageSpec <;>
    simp [hatt, hmethod, wipeTask, VolumeTask.text, VolumeSpec.aerospikePath]

/-! ## Reading back -/

/-- A text that neither of the two cuts, nor the end of a line, goes through. -/
def SeparatorFree (text : String) : Prop := ∀ c ∈ text.toList, c ≠ ',' ∧ c ≠ ':' ∧ c ≠ '\n'

instance (text : String) : Decidable (SeparatorFree text) := List.decidableBAll _ _

/-- A text in which the kubelet finds nothing to expand. -/
def ReferenceFree (text : String) : Prop := '$' ∉ text.toList

instance (text : String) : Decidable (ReferenceFree text) := inferInstanceAs (Decidable (¬ _))

theorem referenceFree_initMethod (method : VolumeInitMethod) : ReferenceFree method.text := by
  cases method <;> decide

theorem referenceFree_wipeMethod (method : VolumeWipeMethod) : ReferenceFree method.text := by
  cases method <;> decide

theorem separatorFree_initMethod (method : VolumeInitMethod) : SeparatorFree method.text := by
  cases method <;> decide

theorem separatorFree_wipeMethod (method : VolumeWipeMethod) : SeparatorFree method.text := by
  cases method <;> decide

theorem readFields_eq {sep : Char} {text : List Char} (h : '\n' ∉ text) :
    readFields sep text = Cut.fields sep text := by
  rw [readFields, List.takeWhile_eq_self_iff.2]
  intro c hc
  simp only [ne_eq, decide_not, Bool.not_eq_true', decide_eq_false_iff_not]
  rintro rfl
  exact h hc

theorem mem_of_mem_readFields {sep : Char} {text part : List Char} (h : part ∈ readFields sep text) :
    ∀ c ∈ part, c ∈ text ∧ c ≠ sep ∧ c ≠ '\n' := by
  intro c hc
  obtain ⟨hmem, hsep⟩ := Cut.mem_of_mem_fields h c hc
  refine ⟨List.takeWhile_subset _ hmem, hsep, ?_⟩
  simpa using List.mem_takeWhile_imp hmem

theorem toList_text (task : VolumeTask) : task.text.toList = task.method.toList ++ ':' :: task.path.toList := by
  simp [VolumeTask.text]

theorem mem_text {task : VolumeTask} {c : Char} (hmethod : SeparatorFree task.method) (hpath : SeparatorFree task.path)
    (hc : c ∈ task.text.toList) : c ≠ ',' ∧ c ≠ '\n' := by
  rw [toList_text, List.mem_append, List.mem_cons] at hc
  rcases hc with hc | rfl | hc
  · exact ⟨(hmethod c hc).1, (hmethod c hc).2.2⟩
  · decide
  · exact ⟨(hpath c hc).1, (hpath c hc).2.2⟩

theorem readTask_text {task : VolumeTask} (hmethod : SeparatorFree task.method) (hpath : SeparatorFree task.path) :
    readTask task.text.toList = task := by
  have hline : '\n' ∉ task.text.toList := fun hc => (mem_text hmethod hpath hc).2 rfl
  have hmethodColon : ':' ∉ task.method.toList := fun hc => (hmethod _ hc).2.1 rfl
  have hpathColon : ':' ∉ task.path.toList := fun hc => (hpath _ hc).2.1 rfl
  have hfields := Cut.getD_fields_pair hmethodColon hpathColon
  rw [readTask, readFields_eq hline, toList_text, hfields.1, hfields.2, String.ofList_toList, String.ofList_toList]

theorem separatorFree_readTask {text spec : List Char} (h : spec ∈ readFields ',' text) :
    SeparatorFree (readTask spec).path := by
  intro c hc
  rw [readTask, String.toList_ofList, List.getD_eq_getElem?_getD] at hc
  cases hpart : (readFields ':' spec)[1]? with
  | none =>
    rw [hpart] at hc
    cases hc
  | some part =>
    rw [hpart] at hc
    obtain ⟨hspec, hcolon, hline⟩ := mem_of_mem_readFields (List.mem_of_getElem? hpart) c hc
    exact ⟨(mem_of_mem_readFields h c hspec).2.1, hcolon, hline⟩

theorem toList_encodeVolumes (tasks : List VolumeTask) :
    (encodeVolumes tasks).toList = [','].intercalate (tasks.map fun task => task.text.toList) := by
  rw [encodeVolumes, String.toList_intercalate, List.map_map]
  rfl

theorem referenceFree_encodeVolumes {tasks : List VolumeTask}
    (h : ∀ task ∈ tasks, ReferenceFree task.method ∧ ReferenceFree task.path) :
    ReferenceFree (encodeVolumes tasks) := by
  intro hc
  rw [toList_encodeVolumes] at hc
  rcases Cut.mem_intercalate hc with hc | ⟨text, htext, hc⟩
  · exact absurd hc (by decide)
  · obtain ⟨task, htask, rfl⟩ := List.mem_map.1 htext
    rw [toList_text, List.mem_append, List.mem_cons] at hc
    rcases hc with hc | hc | hc
    · exact (h task htask).1 hc
    · exact absurd hc (by decide)
    · exact (h task htask).2 hc

/-- Tasks are read back exactly where no path holds a separator. -/
theorem decodeVolumes_encodeVolumes {tasks : List VolumeTask} (hmethod : ∀ task ∈ tasks, SeparatorFree task.method) :
    decodeVolumes (encodeVolumes tasks) = tasks ↔ ∀ task ∈ tasks, SeparatorFree task.path := by
  constructor
  · intro h task htask
    rw [← h] at htask
    obtain ⟨spec, hspec, rfl⟩ := List.mem_map.1 htask
    exact separatorFree_readTask hspec
  · intro hpath
    have hwhole := toList_encodeVolumes tasks
    have hline : '\n' ∉ (encodeVolumes tasks).toList := by
      intro hc
      rw [hwhole] at hc
      rcases Cut.mem_intercalate hc with hc | ⟨text, htext, hc⟩
      · exact absurd hc (by decide)
      · obtain ⟨task, htask, rfl⟩ := List.mem_map.1 htext
        exact (mem_text (hmethod task htask) (hpath task htask) hc).2 rfl
    rw [decodeVolumes, readFields_eq hline, hwhole, Cut.fields_intercalate, List.map_map]
    · conv_rhs => rw [← List.map_id tasks]
      exact List.map_congr_left fun task htask => readTask_text (hmethod task htask) (hpath task htask)
    · intro text htext hc
      obtain ⟨task, htask, rfl⟩ := List.mem_map.1 htext
      exact (mem_text (hmethod task htask) (hpath task htask) hc).1 rfl
    · intro text htext hnil
      obtain ⟨task, -, rfl⟩ := List.mem_map.1 htext
      rw [toList_text] at hnil
      exact absurd hnil (by simp)

/-! ## Commands -/

variable {command : ShellCommand}

theorem path_of_mem_script {path : String} {method : VolumeWipeMethod}
    (h : command ∈ Script.commands (method.script path)) : command.path = path := by
  cases method <;> simp only [VolumeWipeMethod.script] at h
  case deleteFiles =>
    split at h
    · cases h
    · cases List.mem_singleton.1 h
      rfl
  case none => cases h
  case dd | headerCleanup =>
    cases List.mem_singleton.1 h
    rfl
  case blkdiscard | blkdiscardWithHeaderCleanup =>
    rcases List.mem_pair.1 h with rfl | rfl <;> rfl

theorem path_of_mem_processVolumes {volumes : String} (h : command ∈ Script.commands (processVolumes volumes)) :
    ∃ task ∈ decodeVolumes volumes, command.path = task.path := by
  rw [processVolumes, Script.commands_flatMap] at h
  obtain ⟨task, htask, h⟩ := List.mem_flatMap.1 h
  refine ⟨task, htask, ?_⟩
  unfold VolumeTask.script at h
  split at h
  case h_1 method _ => exact path_of_mem_script h
  case h_2 => cases h

/-! ## The round trip -/

variable {storageSpec : Option AerospikeStorageSpec}

variable {vol : VolumeSpec}

theorem mem_initVolumes :
    vol ∈ initVolumes storageSpec ↔ vol ∈ storageVolumes storageSpec ∧
      resolveInitMethod vol storageSpec ≠ .none ∧ vol.aerospike.isSome := by
  simp [initVolumes]

variable {dirtyVolumes : List String}

theorem mem_wipeVolumes :
    vol ∈ wipeVolumes storageSpec dirtyVolumes ↔ vol ∈ storageVolumes storageSpec ∧ vol.name ∈ dirtyVolumes ∧
      resolveWipeMethod vol storageSpec ≠ .none ∧ vol.aerospike.isSome := by
  rw [wipeVolumes, List.mem_filter, List.mem_filter, decide_eq_true_eq, decide_eq_true_eq, and_assoc]

theorem aerospikePath_of_isSome (h : vol.aerospike.isSome) :
    ∃ att, vol.aerospike = some att ∧ vol.aerospikePath = att.path := by
  obtain ⟨att, hatt⟩ := Option.isSome_iff_exists.1 h
  exact ⟨att, hatt, by simp [VolumeSpec.aerospikePath, hatt]⟩

theorem decode_initVolumes :
    decodeVolumes (buildInitVolumesEnv storageSpec) = (initVolumes storageSpec).map (initTask storageSpec) ↔
      ∀ vol ∈ initVolumes storageSpec, SeparatorFree vol.aerospikePath := by
  rw [buildInitVolumesEnv_eq, decodeVolumes_encodeVolumes]
  · exact List.forall_mem_map
  · exact List.forall_mem_map.2 fun vol _ => separatorFree_initMethod _

theorem decode_wipeVolumes :
    decodeVolumes (buildWipeVolumesEnv storageSpec dirtyVolumes) =
        (wipeVolumes storageSpec dirtyVolumes).map (wipeTask storageSpec) ↔
      ∀ vol ∈ wipeVolumes storageSpec dirtyVolumes, SeparatorFree vol.aerospikePath := by
  rw [buildWipeVolumesEnv_eq, decodeVolumes_encodeVolumes]
  · exact List.forall_mem_map
  · exact List.forall_mem_map.2 fun vol _ => separatorFree_wipeMethod _

/-- The variables of the init container, where no path of an entry holds a reference. -/
theorem variableValue_referenceFree (kubelet : Kubelet) (cluster : AerospikeCluster) (volumeMounts : List VolumeMount)
    (hinit : ∀ vol ∈ initVolumes storageSpec, ReferenceFree vol.aerospikePath)
    (hwipe : ∀ vol ∈ wipeVolumes storageSpec dirtyVolumes, ReferenceFree vol.aerospikePath) :
    variableValue kubelet (buildInitContainer cluster storageSpec volumeMounts dirtyVolumes).env "WIPE_VOLUMES" =
        buildWipeVolumesEnv storageSpec dirtyVolumes ∧
      variableValue kubelet (buildInitContainer cluster storageSpec volumeMounts dirtyVolumes).env "INIT_VOLUMES" =
        buildInitVolumesEnv storageSpec := by
  refine variableValue_volumes kubelet cluster storageSpec volumeMounts dirtyVolumes ?_ ?_
  · rw [buildWipeVolumesEnv_eq]
    exact referenceFree_encodeVolumes
      (List.forall_mem_map.2 fun vol hvol => ⟨referenceFree_wipeMethod _, hwipe vol hvol⟩)
  · rw [buildInitVolumesEnv_eq]
    exact referenceFree_encodeVolumes
      (List.forall_mem_map.2 fun vol hvol => ⟨referenceFree_initMethod _, hinit vol hvol⟩)

theorem path_of_mem_exec {run : InitRun} {container : TemplateContainer} {initTasks wipeTasks : List VolumeTask}
    (hinit : decodeVolumes (variableValue run.kubelet container.env "INIT_VOLUMES") = initTasks)
    (hwipe : decodeVolumes (variableValue run.kubelet container.env "WIPE_VOLUMES") = wipeTasks)
    (h : command ∈ (run.exec container).2) : ∃ task ∈ wipeTasks ++ initTasks, command.path = task.path := by
  have hscript := mem_exec h
  rw [volumeScript, Script.commands_append] at hscript
  rcases List.mem_append.1 hscript with h | h
  · obtain ⟨task, htask, hpath⟩ := path_of_mem_processVolumes h
    exact ⟨task, List.mem_append_left _ (hwipe ▸ htask), hpath⟩
  · obtain ⟨task, htask, hpath⟩ := path_of_mem_processVolumes h
    exact ⟨task, List.mem_append_right _ (hinit ▸ htask), hpath⟩

/-- Of paths in which the kubelet finds nothing to expand, the script reads what the operator has written, and its
commands work on the Aerospike paths of volumes, if and only if no path of an entry holds a separator. -/
theorem volume_tasks_round_trip (cluster : AerospikeCluster) (storageSpec : Option AerospikeStorageSpec)
    (volumeMounts : List VolumeMount) (dirtyVolumes : List String) (run : InitRun)
    (hplain : ∀ vol ∈ storageVolumes storageSpec, ReferenceFree vol.aerospikePath) :
    let container := buildInitContainer cluster storageSpec volumeMounts dirtyVolumes
    (decodeVolumes (variableValue run.kubelet container.env "INIT_VOLUMES") =
        (initVolumes storageSpec).map (initTask storageSpec) ∧
      decodeVolumes (variableValue run.kubelet container.env "WIPE_VOLUMES") =
        (wipeVolumes storageSpec dirtyVolumes).map (wipeTask storageSpec) ∧
      ∀ command ∈ (run.exec container).2,
        ∃ vol ∈ storageVolumes storageSpec, ∃ att, vol.aerospike = some att ∧ command.path = att.path) ↔
      (∀ vol ∈ initVolumes storageSpec, SeparatorFree vol.aerospikePath) ∧
        ∀ vol ∈ wipeVolumes storageSpec dirtyVolumes, SeparatorFree vol.aerospikePath := by
  intro container
  obtain ⟨hwipeValue, hinitValue⟩ := variableValue_referenceFree run.kubelet cluster volumeMounts
    (fun vol hvol => hplain vol (mem_initVolumes.1 hvol).1)
    (fun vol hvol => hplain vol (@mem_wipeVolumes storageSpec vol dirtyVolumes |>.1 hvol).1)
  have hconfined : decodeVolumes (variableValue run.kubelet container.env "INIT_VOLUMES") =
        (initVolumes storageSpec).map (initTask storageSpec) →
      decodeVolumes (variableValue run.kubelet container.env "WIPE_VOLUMES") =
        (wipeVolumes storageSpec dirtyVolumes).map (wipeTask storageSpec) →
      ∀ command ∈ (run.exec container).2,
        ∃ vol ∈ storageVolumes storageSpec, ∃ att, vol.aerospike = some att ∧ command.path = att.path := by
    intro hinit hwipe command hcommand
    obtain ⟨task, htask, hpath⟩ := path_of_mem_exec hinit hwipe hcommand
    rcases List.mem_append.1 htask with htask | htask
    · obtain ⟨vol, hvol, rfl⟩ := List.mem_map.1 htask
      obtain ⟨hmem, -, -, hatt⟩ := mem_wipeVolumes.1 hvol
      obtain ⟨att, hatt, hattPath⟩ := aerospikePath_of_isSome hatt
      exact ⟨vol, hmem, att, hatt, hpath.trans hattPath⟩
    · obtain ⟨vol, hvol, rfl⟩ := List.mem_map.1 htask
      obtain ⟨hmem, -, hatt⟩ := mem_initVolumes.1 hvol
      obtain ⟨att, hatt, hattPath⟩ := aerospikePath_of_isSome hatt
      exact ⟨vol, hmem, att, hatt, hpath.trans hattPath⟩
  rw [← decode_initVolumes, ← decode_wipeVolumes, ← hinitValue, ← hwipeValue]
  exact ⟨fun h => ⟨h.1, h.2.1⟩, fun h => ⟨h.1, h.2, hconfined h.1 h.2⟩⟩

/-- An `emptyDir` at a path, whose files are deleted at the start and when it is dirty. -/
def VolumeSpec.scratch (name path : String) : VolumeSpec where
  name := name
  source := ⟨none, some ⟨"", none⟩, none, none, none⟩
  aerospike := some ⟨path, false, "", "", none⟩
  sidecars := []
  initContainers := []
  initMethod := some .deleteFiles
  wipeMethod := some .deleteFiles
  cascadeDelete := none

theorem volume_tasks_round_trip_scratch :
    let storage := some (AerospikeStorageSpec.ofVolumes [.scratch "tmp" "/tmp/a", .scratch "log" "/log"])
    decodeVolumes (variableValue (.ofPod "demo-0-0" "10.0.0.1")
        (buildInitContainer (.bare "demo" "aerospike:ce-8.1.1.1") storage [] ["log"]).env "INIT_VOLUMES") =
        [⟨"deleteFiles", "/tmp/a"⟩, ⟨"deleteFiles", "/log"⟩] ∧
      decodeVolumes (variableValue (.ofPod "demo-0-0" "10.0.0.1")
        (buildInitContainer (.bare "demo" "aerospike:ce-8.1.1.1") storage [] ["log"]).env "WIPE_VOLUMES") =
        [⟨"deleteFiles", "/log"⟩] := by
  intro storage
  obtain ⟨hinit, hwipe, -⟩ := (volume_tasks_round_trip (.bare "demo" "aerospike:ce-8.1.1.1") storage [] ["log"] .smooth
    (by decide)).2 ⟨by decide, by decide⟩
  exact ⟨hinit, hwipe⟩

/-- A path with separators is admitted, and the script deletes the files below a path that is no volume's; so it does
for a path with a reference, which the kubelet expands. -/
theorem volume_tasks_misread :
    let storage := AerospikeStorageSpec.ofVolumes [.scratch "tmp" "/tmp/a,deleteFiles:/opt/aerospike/data"]
    (∀ parse, validateStorage parse storage = []) ∧
      decodeVolumes (buildInitVolumesEnv (some storage)) =
        [⟨"deleteFiles", "/tmp/a"⟩, ⟨"deleteFiles", "/opt/aerospike/data"⟩] ∧
      (initVolumes (some storage)).map (initTask (some storage)) =
        [⟨"deleteFiles", "/tmp/a,deleteFiles:/opt/aerospike/data"⟩] ∧
      .removeFiles "/opt/aerospike/data" ∈
        (InitRun.smooth.exec (buildInitContainer (.bare "demo" "aerospike:ce-8.1.1.1") (some storage) [] [])).2 ∧
      (InitRun.smooth.exec (buildInitContainer (.bare "demo" "aerospike:ce-8.1.1.1")
        (some (.ofVolumes [.scratch "tmp" "/data/$(POD_NAME)"])) [] [])).2 = [.removeFiles "/data/demo-0-0"] := by
  refine ⟨fun parse => rfl, ?_, ?_, ?_, ?_⟩ <;> decide +kernel

end Acko
