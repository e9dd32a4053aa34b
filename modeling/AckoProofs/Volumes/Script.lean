/-
The part of the init container's script that works on volumes (`process_volumes`). It gets a text of
`method:path` entries, cuts it up with the shell's `read` and runs the commands of each entry's method; a
command that must not fail and does ends the script, and with it the init container.

The text is the value of a variable of the container, in which the kubelet has expanded references to other
variables.
-/
import AckoProofs.Lib.Cut
import AckoProofs.Lib.Script
import AckoProofs.Pod.Template

namespace Acko

/-! ## Entries -/

/-- What the script makes of an entry: two texts. -/
structure VolumeTask where
  method : String
  path : String
  deriving DecidableEq, Repr

def VolumeTask.text (task : VolumeTask) : String := task.method ++ ":" ++ task.path

/-- `IFS=sep read -ra … <<< text`: the fields of the first line. -/
def readFields (sep : Char) (text : List Char) : List (List Char) :=
  Cut.fields sep (text.takeWhile (· ≠ '\n'))

/-- The first two fields; an element that an array does not have reads as the empty text. -/
def readTask (spec : List Char) : VolumeTask :=
  ⟨String.ofList ((readFields ':' spec).getD 0 []), String.ofList ((readFields ':' spec).getD 1 [])⟩

/-- The entries that `process_volumes` goes through; the empty text has none. -/
def decodeVolumes (volumes : String) : List VolumeTask := (readFields ',' volumes.toList).map readTask

/-! ## The environment -/

/-- What the kubelet fills a container's environment from: the values behind references to fields and the like, and
the variables of services. -/
structure Kubelet where
  source : EnvVarSource → String
  services : List (String × String)

/-- How much of a reference `$(NAME)` has been read. -/
inductive ReferenceState
  | plain | operator | name (read : List Char)

/-- A value with its references expanded: `$$` becomes `$`, and a reference that does not resolve or is not closed
stays as it is. -/
def expandFrom (resolve : String → Option String) : ReferenceState → List Char → List Char
  | .plain, [] => []
  | .operator, [] => ['$']
  | .name read, [] => '$' :: '(' :: read
  | .plain, c :: rest => if c = '$' then expandFrom resolve .operator rest else c :: expandFrom resolve .plain rest
  | .operator, c :: rest =>
    if c = '(' ∧ ')' ∈ rest then expandFrom resolve (.name []) rest
    else if c = '$' then '$' :: expandFrom resolve .plain rest
    else '$' :: c :: expandFrom resolve .plain rest
  | .name read, c :: rest =>
    if c = ')' then
      ((resolve (String.ofList read)).map (·.toList)).getD ('$' :: '(' :: read ++ [')']) ++
        expandFrom resolve .plain rest
    else expandFrom resolve (.name (read ++ [c])) rest

/-- The value of an entry; references are to the entries before it, else to the variables of services. -/
def Kubelet.value (kubelet : Kubelet) (vars : List (String × String)) (v : EnvVar) : String :=
  if v.value ≠ "" then
    String.ofList (expandFrom (fun name => (kubelet.services ++ vars).reverse.lookup name) .plain v.value.toList)
  else (v.valueFrom.map kubelet.source).getD ""

def Kubelet.environment (kubelet : Kubelet) (env : List EnvVar) : List (String × String) :=
  env.foldl (fun vars v => vars ++ [(v.name, kubelet.value vars v)]) []

/-- The value of a variable of the container; of two entries with one name the later one counts. -/
def variableValue (kubelet : Kubelet) (env : List EnvVar) (name : String) : String :=
  ((kubelet.environment env).reverse.lookup name).getD ""

/-! ## Commands -/

/-- `rm -rf "${path:?}"/*`, `dd if=/dev/zero of="${path}"` with `bs` and `count=1`, and `blkdiscard "${path}"`. -/
inductive ShellCommand
  | removeFiles (path : String)
  | zero (path : String) (bs : Nat)
  | discard (path : String)
  deriving DecidableEq, Repr

def ShellCommand.path : ShellCommand → String
  | .removeFiles path => path
  | .zero path _ => path
  | .discard path => path

/-- The script of one arm of the `case`, with the message that its failure ends with. -/
def VolumeWipeMethod.script (path : String) : VolumeWipeMethod → List (Script.Step ShellCommand String)
  | .none => []
  | .deleteFiles =>
    -- `:?` ends the script on an empty path
    if path = "" then [.stop "path: parameter null or not set"] else [.send (.removeFiles path) id]
  | .dd => [.send (.zero path 1048576) fun _ =>
      "ERROR: dd failed to zero " ++ path ++ "; refusing to start Aerospike on a dirty volume."]
  | .blkdiscard => [.send (.discard path) id, .send (.zero path 1048576) fun _ =>
      "ERROR: post-blkdiscard dd verification failed on " ++ path ++ "."]
  | .headerCleanup => [.send (.zero path 4096) fun _ =>
      "ERROR: dd header cleanup failed on " ++ path ++ "."]
  | .blkdiscardWithHeaderCleanup => [.send (.discard path) id, .send (.zero path 4096) fun _ =>
      "ERROR: dd header cleanup failed on " ++ path ++ " after blkdiscard."]

/-- The arms of the `case`, in order. -/
def scriptMethods : List VolumeWipeMethod :=
  [.deleteFiles, .dd, .blkdiscard, .headerCleanup, .blkdiscardWithHeaderCleanup]

/-- An entry of another method is skipped. -/
def VolumeTask.script (task : VolumeTask) : List (Script.Step ShellCommand String) :=
  match scriptMethods.find? (·.text = task.method) with
  | some method => method.script task.path
  | none => []

def processVolumes (volumes : String) : List (Script.Step ShellCommand String) :=
  (decodeVolumes volumes).flatMap VolumeTask.script

/-! ## A run of the script -/

/-- The volumes to wipe come before those to initialise. -/
def volumeScript (kubelet : Kubelet) (env : List EnvVar) : List (Script.Step ShellCommand String) :=
  processVolumes (variableValue kubelet env "WIPE_VOLUMES") ++ processVolumes (variableValue kubelet env "INIT_VOLUMES")

/-- What a run meets: the kubelet that starts it, the error that ends it before it comes to the volumes, if one does,
and how the commands end. -/
structure InitRun where
  kubelet : Kubelet
  earlier : Option String
  answer : Script.Session Unit ShellCommand → ShellCommand → Plan.Answer String

/-- The kubelet of a pod; the init container refers to its fields only. -/
def Kubelet.ofPod (podName podIP : String) : Kubelet where
  source
    | .fieldRef "metadata.name" => podName
    | .fieldRef "metadata.namespace" => "default"
    | .fieldRef "status.podIP" => podIP
    | _ => ""
  services := []

def InitRun.smooth : InitRun := ⟨.ofPod "demo-0-0" "10.0.0.1", none, fun _ _ => .done⟩

/-- The script goes on after a `blkdiscard` that failed. -/
def InitRun.tolerated (run : InitRun) (s : Script.Session Unit ShellCommand) : ShellCommand → Plan.Answer String
  | .discard _ => .done
  | command => run.answer s command

/-- The error that ends the init container, and the commands it has run until then. -/
def InitRun.exec (run : InitRun) (container : TemplateContainer) : Option String × List ShellCommand :=
  match run.earlier with
  | some error => (some error, [])
  | none =>
    let result := Script.exec (fun s _ => s) run.tolerated ⟨(), []⟩ (volumeScript run.kubelet container.env)
    (result.1, result.2.sent)

variable {container : TemplateContainer}

theorem mem_exec {run : InitRun} {command : ShellCommand} (h : command ∈ (run.exec container).2) :
    command ∈ Script.commands (volumeScript run.kubelet container.env) := by
  unfold InitRun.exec at h
  split at h
  case h_1 => cases h
  case h_2 =>
    generalize hresult : Script.exec (fun s _ => s) run.tolerated ⟨(), []⟩ (volumeScript run.kubelet container.env) =
      result at h
    have hsent := Script.mem_sent_exec (hresult ▸ h)
    exact hsent.resolve_left List.not_mem_nil

theorem exec_completed {run : InitRun} (h : (run.exec container).1 = none) :
    (run.exec container).2 = Script.commands (volumeScript run.kubelet container.env) ∧
      ∀ error, .stop error ∉ volumeScript run.kubelet container.env := by
  unfold InitRun.exec at h ⊢
  split at h
  case h_1 => cases h
  case h_2 =>
    generalize hresult : Script.exec (fun s _ => s) run.tolerated ⟨(), []⟩ (volumeScript run.kubelet container.env) =
      result at h ⊢
    obtain ⟨error, session⟩ := result
    cases h
    obtain ⟨hsent, hno⟩ := Script.exec_done hresult
    exact ⟨(congrArg Script.Session.sent hsent).trans (List.nil_append _), hno⟩

/-! ## The init container of a pod -/

def podInitContainer (cluster : AerospikeCluster) (rack : Option RackSpec) : TemplateContainer :=
  let storageSpec := effectiveStorage cluster rack
  buildInitContainer cluster storageSpec (volumeMountsForContainer storageSpec initContainerName false) []

/-- It is the first init container of the template that is rendered. -/
theorem head_initContainers (cluster : AerospikeCluster) (rack : Option RackSpec) (rackID : Int)
    (configMapName configHash : String) :
    (buildPodTemplateSpec cluster rack rackID configMapName configHash).template.spec.initContainers.head? =
      some (podInitContainer cluster rack) := by
  show (templatePodSpec cluster rack configMapName).initContainers.head? = _
  unfold templatePodSpec
  cases cluster.spec.podSpec <;> cases rack.bind (·.podSpec) <;> rfl

theorem expandFrom_plain (resolve : String → Option String) : ∀ {text : List Char}, '$' ∉ text →
    expandFrom resolve .plain text = text
  | [], _ => rfl
  | c :: rest, h => by
    rw [List.mem_cons, not_or] at h
    rw [expandFrom, if_neg (Ne.symm h.1), expandFrom_plain resolve h.2]

variable (kubelet : Kubelet)

theorem variableValue_concat (env : List EnvVar) (v : EnvVar) (key : String) :
    variableValue kubelet (env ++ [v]) key =
      if v.name = key then kubelet.value (kubelet.environment env) v else variableValue kubelet env key := by
  have hstep : kubelet.environment (env ++ [v]) =
      kubelet.environment env ++ [(v.name, kubelet.value (kubelet.environment env) v)] := by
    rw [Kubelet.environment, List.foldl_append, List.foldl_cons, List.foldl_nil]
    rfl
  rw [variableValue, hstep, List.reverse_append, List.reverse_singleton, List.singleton_append, DocTree.lookup_cons_eq]
  by_cases hname : v.name = key
  · rw [if_pos hname, if_pos hname.symm]
    rfl
  · rw [if_neg hname, if_neg (Ne.symm hname)]
    rfl

theorem value_referenceFree (vars : List (String × String)) {v : EnvVar} (hvalue : v.value ≠ "")
    (hplain : '$' ∉ v.value.toList) : kubelet.value vars v = v.value := by
  rw [Kubelet.value, if_pos hvalue, expandFrom_plain _ hplain, String.ofList_toList]

theorem variableValue_append (env : List EnvVar) (name : String) {value : String} (hplain : '$' ∉ value.toList)
    (key : String) : variableValue kubelet (env ++ envUnlessEmpty name value) key =
      if value ≠ "" ∧ name = key then value else variableValue kubelet env key := by
  unfold envUnlessEmpty
  by_cases hvalue : value = ""
  · simp [hvalue]
  · have hstep := variableValue_concat kubelet env (.text name value) key
    rw [value_referenceFree kubelet _ hvalue hplain] at hstep
    rw [if_neg hvalue, hstep]
    exact if_congr (and_iff_right hvalue).symm rfl rfl

/-- The last entry with the name decides, whatever is before it. -/
theorem variableValue_last (env : List EnvVar) (key : String) : ∀ own : List EnvVar,
    (own.filter (·.name = key)).getLast? = none ∧
        variableValue kubelet (env ++ own) key = variableValue kubelet env key ∨
      ∃ v vars, (own.filter (·.name = key)).getLast? = some v ∧
        variableValue kubelet (env ++ own) key = kubelet.value vars v := by
  intro own
  induction own using List.reverseRecOn with
  | nil => exact .inl ⟨rfl, by rw [List.append_nil]⟩
  | append_singleton own v ih =>
    rw [← List.append_assoc, variableValue_concat, List.filter_append]
    by_cases hname : v.name = key
    · refine .inr ⟨v, kubelet.environment (env ++ own), ?_, if_pos hname⟩
      simp [hname]
    · rw [if_neg hname, show [v].filter (·.name = key) = [] from by simp [hname], List.append_nil]
      exact ih

theorem keys_environment (env : List EnvVar) : (kubelet.environment env).map Prod.fst = env.map (·.name) := by
  induction env using List.reverseRecOn with
  | nil => rfl
  | append_singleton env v ih =>
    rw [Kubelet.environment, List.foldl_append, List.foldl_cons, List.foldl_nil, List.map_append, List.map_append]
    exact congrArg (· ++ [v.name]) ih

theorem variableValue_of_not_mem {env : List EnvVar} {name : String} (h : name ∉ env.map (·.name)) :
    variableValue kubelet env name = "" := by
  have hlookup : (kubelet.environment env).reverse.lookup name = none := by
    rw [List.lookup_eq_none_iff]
    intro entry hentry
    rw [bne_iff_ne]
    rintro rfl
    exact h (keys_environment kubelet env ▸ List.mem_map_of_mem (List.mem_reverse.1 hentry))
  rw [variableValue, hlookup]
  rfl

/-- Where the kubelet finds no reference in them, the two variables have the values that the operator writes. -/
theorem variableValue_volumes (cluster : AerospikeCluster) (storageSpec : Option AerospikeStorageSpec)
    (volumeMounts : List VolumeMount) (dirtyVolumes : List String)
    (hwipe : '$' ∉ (buildWipeVolumesEnv storageSpec dirtyVolumes).toList)
    (hinit : '$' ∉ (buildInitVolumesEnv storageSpec).toList) :
    variableValue kubelet (buildInitContainer cluster storageSpec volumeMounts dirtyVolumes).env "WIPE_VOLUMES" =
        buildWipeVolumesEnv storageSpec dirtyVolumes ∧
      variableValue kubelet (buildInitContainer cluster storageSpec volumeMounts dirtyVolumes).env "INIT_VOLUMES" =
        buildInitVolumesEnv storageSpec := by
  simp only [buildInitContainer, variableValue_append kubelet _ _ hinit, variableValue_append kubelet _ _ hwipe]
  constructor
  · by_cases hempty : buildWipeVolumesEnv storageSpec dirtyVolumes = ""
    · rw [if_neg (by simp), if_neg (by simp [hempty]), hempty]
      refine variableValue_of_not_mem kubelet ?_
      cases cluster.externalServiceType <;> simp [buildInitEnvVars, EnvVar.field, EnvVar.text]
    · rw [if_neg (by simp), if_pos ⟨hempty, trivial⟩]
  · by_cases hempty : buildInitVolumesEnv storageSpec = ""
    · rw [if_neg (by simp [hempty]), if_neg (by simp), hempty]
      refine variableValue_of_not_mem kubelet ?_
      cases cluster.externalServiceType <;> simp [buildInitEnvVars, EnvVar.field, EnvVar.text]
    · rw [if_pos ⟨hempty, trivial⟩]

end Acko
