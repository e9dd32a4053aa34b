/-
One pass over an on-demand operation (`reconcileOperations`): the pods it is about, the wait for the pods
it has restarted already, the next batch of restarts, and the record of both in the status.
-/
import AckoProofs.Pod.Spec
import AckoProofs.Reconcile.Object

namespace Acko

/-! ## The status of an operation -/

/-- `OperationStatus` in full, as the passes write it. -/
structure OperationRecord where
  id : String
  kind : OperationKind
  phase : Phase
  completedPods : List String
  failedPods : List String
  deriving DecidableEq

def operationSettled (op : OperationSpec) (status : Option OperationRecord) : Bool :=
  status.any fun st => st.id = op.id && (st.phase = .completed || st.phase = .error)

def outstanding (completed failed : List String) (pod : Pod) : Bool := pod.name ∉ completed && pod.name ∉ failed

/-! ## Targets -/

def podNamed (pods : List Pod) (name : String) : Option Pod := pods.reverse.find? (·.name = name)

/-- No names means every pod. -/
def filterPodsByNames (allPods : List Pod) (names : List String) : List Pod :=
  if names.isEmpty then allPods else names.filterMap (podNamed allPods)

variable {pods : List Pod} {name : String} {pod : Pod} {completed failed : List String}

theorem podNamed_eq_some (h : podNamed pods name = some pod) : pod ∈ pods ∧ pod.name = name :=
  ⟨List.mem_reverse.1 (List.mem_of_find?_eq_some h), by simpa using List.find?_some h⟩

theorem podNamed_eq_none : podNamed pods name = none ↔ name ∉ pods.map (·.name) := by
  simp [podNamed]

theorem podNamed_isSome (h : name ∈ pods.map (·.name)) : ∃ pod, podNamed pods name = some pod := by
  cases hp : podNamed pods name with
  | some pod => exact ⟨pod, rfl⟩
  | none => exact absurd h (podNamed_eq_none.1 hp)

theorem mem_filterPodsByNames {allPods : List Pod} {names : List String} (h : pod ∈ filterPodsByNames allPods names) :
    pod ∈ allPods ∧ (names ≠ [] → pod.name ∈ names) := by
  unfold filterPodsByNames at h
  split at h
  · rename_i hn
    exact ⟨h, fun hne => absurd (List.isEmpty_iff.1 hn) hne⟩
  · obtain ⟨name, hname, hpod⟩ := List.mem_filterMap.1 h
    obtain ⟨hmem, rfl⟩ := podNamed_eq_some hpod
    exact ⟨hmem, fun _ => hname⟩

theorem mem_names_filterPodsByNames {allPods : List Pod} {names : List String} :
    name ∈ (filterPodsByNames allPods names).map (·.name) ↔
      name ∈ allPods.map (·.name) ∧ (names ≠ [] → name ∈ names) := by
  constructor
  · intro h
    obtain ⟨pod, hpod, rfl⟩ := List.mem_map.1 h
    obtain ⟨hmem, hnames⟩ := mem_filterPodsByNames hpod
    exact ⟨List.mem_map_of_mem hmem, hnames⟩
  · rintro ⟨hmem, hnames⟩
    unfold filterPodsByNames
    split
    · exact hmem
    · rename_i hn
      obtain ⟨pod, hpod⟩ := podNamed_isSome hmem
      have hname := hnames (by simpa using hn)
      exact List.mem_map.2 ⟨pod, List.mem_filterMap.2 ⟨name, hname, hpod⟩, (podNamed_eq_some hpod).2⟩

/-! ## The gate -/

/-- Why a pod that the operation has restarted is not back. -/
inductive OperationInFlight
  | notRecreated (pod : String)
  | terminating (pod : String)
  | notReady (pod : String) (phase : PodPhase)
  deriving DecidableEq

def OperationInFlight.message : OperationInFlight → String
  | .notRecreated pod => "pod " ++ pod ++ " was restarted but has not been recreated yet"
  | .terminating pod => "pod " ++ pod ++ " is still terminating"
  | .notReady pod phase => "pod " ++ pod ++ " has been restarted but is not Ready yet (phase " ++ phase.text ++ ")"

def podRestartInFlight (pods : List Pod) (name : String) : Option OperationInFlight :=
  match podNamed pods name with
  | none => some (.notRecreated name)
  | some pod =>
    if pod.deletionTimestamp.isSome then some (.terminating name)
    else if !isPodReady pod then some (.notReady name pod.phase)
    else none

/-- The restarted pods are looked at in the order of their names. -/
def operationRestartInFlightReason (pods : List Pod) (completed : List String) : Option OperationInFlight :=
  (completed.dedup.insertionSort (· ≤ ·)).findSome? (podRestartInFlight pods)

/-- `onDemandOperationRackID`: an operation is of no rack. -/
def onDemandOperationRackID : Int := -1

/-- The zero `rackRestartTarget`: no hashes to compare with, and no pods to count. -/
def RackRestartTarget.zero : RackRestartTarget := ⟨⟨"", "", ""⟩, 0, .parallel⟩

/-- By restarts in flight, or by the gate. -/
def operationBatchBlocked (checks : MigrationChecks) (cluster : Cluster) (pods : List Pod)
    (completed failed : List String) (migration : Except String Bool) (now : Time) : Bool × MigrationChecks :=
  if !pods.any (outstanding completed failed) then (false, checks)
  else if (operationRestartInFlightReason pods completed).isSome then (true, checks)
  else isBatchBlocked checks cluster onDemandOperationRackID pods .zero migration now

theorem podRestartInFlight_eq_none : podRestartInFlight pods name = none ↔
    ∃ pod, podNamed pods name = some pod ∧ pod.deletionTimestamp = none ∧ isPodReady pod = true := by
  unfold podRestartInFlight
  cases podNamed pods name with
  | none => simp
  | some pod =>
    cases hd : pod.deletionTimestamp with
    | some d => simp [hd]
    | none => cases hr : isPodReady pod <;> simp [hd, hr]

theorem operationRestartInFlightReason_eq_none :
    operationRestartInFlightReason pods completed = none ↔ ∀ name ∈ completed, podRestartInFlight pods name = none := by
  unfold operationRestartInFlightReason
  rw [List.findSome?_eq_none_iff]
  constructor
  · intro h name hname
    exact h name ((List.perm_insertionSort _ _).mem_iff.2 (List.mem_dedup.2 hname))
  · intro h name hname
    exact h name (List.mem_dedup.1 ((List.perm_insertionSort _ _).mem_iff.1 hname))

theorem back_of_not_blocked {checks : MigrationChecks} {cluster : Cluster} {migration : Except String Bool}
    {now : Time} (h : (operationBatchBlocked checks cluster pods completed failed migration now).1 = false)
    (hout : pods.any (outstanding completed failed) = true) :
    ∀ name ∈ completed, ∃ pod, podNamed pods name = some pod ∧ pod.deletionTimestamp = none ∧
      isPodReady pod = true := by
  unfold operationBatchBlocked at h
  rw [hout] at h
  simp only [Bool.not_true, Bool.false_eq_true, if_false] at h
  split at h
  · cases h
  · rename_i hr
    have hnone : operationRestartInFlightReason pods completed = none := by simpa using hr
    intro name hname
    exact podRestartInFlight_eq_none.1 (operationRestartInFlightReason_eq_none.1 hnone name hname)

/-! ## Restarts -/

/-- `warmRestartPod`: the signal, where the exec API is there. -/
def warmRestartPod (env : RestartEnv) (pod : Pod) : Bool × List Effect :=
  if env.restConfig && env.signalOk pod.name then (true, [.signal pod.name pod.podIP]) else (false, [])

def operationRestart (env : RestartEnv) : OperationKind → Pod → Bool × List Effect
  | .warmRestart, pod => warmRestartPod env pod
  | .podRestart, pod => coldRestartPod env pod

/-- The pods restarted and failed so far, those attempted in this pass, and its effects. -/
structure Progress where
  completed : List String
  failed : List String
  attempted : List String
  effects : List Effect

def Progress.attempt (env : RestartEnv) (kind : OperationKind) (g : Progress) (pod : Pod) : Progress :=
  let (ok, effects) := operationRestart env kind pod
  { completed := if ok then g.completed ++ [pod.name] else g.completed
    failed := if ok then g.failed else g.failed ++ [pod.name]
    attempted := g.attempted ++ [pod.name]
    effects := g.effects ++ effects }

/-- The loop over the targets: a pod that is resolved is passed over, and a full batch ends it. -/
def operate (env : RestartEnv) (kind : OperationKind) (batchSize : Int) : Progress → List Pod → Progress
  | g, [] => g
  | g, pod :: rest =>
    if !outstanding g.completed g.failed pod then operate env kind batchSize g rest
    else if batchSize ≤ g.attempted.length then g
    else operate env kind batchSize (g.attempt env kind pod) rest

/-! ## The pass -/

def priorProgress (op : OperationSpec) (status : Option OperationRecord) : Progress :=
  match status with
  | some st => if st.id = op.id then ⟨st.completedPods, st.failedPods, [], []⟩ else ⟨[], [], [], []⟩
  | none => ⟨[], [], [], []⟩

/-- Returns whether the operation is over. -/
def finalizeOperationPhase (opStatus : OperationRecord) (pods : List Pod) : OperationRecord × Bool :=
  if pods.any (outstanding opStatus.completedPods opStatus.failedPods) then (opStatus, false)
  else ({ opStatus with phase := if opStatus.failedPods.isEmpty then .completed else .error }, true)

/-- What the write of the status comes back with. -/
inductive PersistReply
  | done
  | conflict
  | failed (reason : String)
  deriving DecidableEq

/-- What a pass learns from outside besides the pods: the replies of its calls, and of the write of
the status. -/
structure OperationEnv where
  restart : RestartEnv
  persist : PersistReply

/-- What a pass returns and leaves: whether it wants another pass, its error, the status that is
recorded afterwards, the failure states of the migration check, the pods it attempted, its effects. -/
structure OperationOutcome where
  inProgress : Bool
  error : Option String
  status : Option OperationRecord
  checks : MigrationChecks
  attempted : List String
  effects : List Effect

def OperationOutcome.idle (inProgress : Bool) (error : Option String) (status : Option OperationRecord)
    (checks : MigrationChecks) : OperationOutcome := ⟨inProgress, error, status, checks, [], []⟩

/-- The operation names pods, and none of them exists. -/
def unmatchedOutcome (env : OperationEnv) (op : OperationSpec) (status : Option OperationRecord)
    (checks : MigrationChecks) : OperationOutcome :=
  match env.persist with
  | .done => .idle false none (some ⟨op.id, op.kind, .error, [], []⟩) checks
  | .conflict => .idle true none status checks
  | .failed err => .idle false (some err) status checks

def runOperation (env : OperationEnv) (cluster : Cluster) (op : OperationSpec) (status : Option OperationRecord)
    (targets : List Pod) (checks : MigrationChecks) : OperationOutcome :=
  let g :=
    operate env.restart op.kind (getRollingUpdateBatchSize cluster targets.length) (priorProgress op status) targets
  let (opStatus, allDone) := finalizeOperationPhase ⟨op.id, op.kind, .inProgress, g.completed, g.failed⟩ targets
  match env.persist with
  | .done => ⟨!allDone, none, some opStatus, checks, g.attempted, g.effects⟩
  -- the pods are restarted already, and the status does not say so
  | .conflict => ⟨true, none, status, checks, g.attempted, g.effects⟩
  | .failed err => ⟨!allDone, some err, status, checks, g.attempted, g.effects⟩

def operationGate (env : OperationEnv) (checks : MigrationChecks) (cluster : Cluster) (op : OperationSpec)
    (status : Option OperationRecord) (targets : List Pod) : Bool × MigrationChecks :=
  operationBatchBlocked checks cluster targets (priorProgress op status).completed (priorProgress op status).failed
    env.restart.migration env.restart.now

/-- The first operation only, batch by batch. -/
def reconcileOperations (env : OperationEnv) (checks : MigrationChecks) (cluster : Cluster)
    (operations : List OperationSpec) (status : Option OperationRecord) (pods : List Pod) : OperationOutcome :=
  match operations with
  | [] => .idle false none status checks
  | op :: _ =>
    if operationSettled op status then .idle false none status checks else
    match env.restart.listError with
    | some err => .idle false (some err) status checks
    | none =>
      let targets := filterPodsByNames pods op.podList
      if !op.podList.isEmpty && targets.isEmpty then unmatchedOutcome env op status checks else
      let (blocked, checks) := operationGate env checks cluster op status targets
      if blocked then .idle true none status checks
      else runOperation env cluster op status targets checks

/-! ## What a pass can do -/

section Cases

variable (env : OperationEnv) (checks : MigrationChecks) (cluster : Cluster) (op : OperationSpec)
  (rest : List OperationSpec) (status : Option OperationRecord) (pods : List Pod)

/-- A pass leaves everything, or records that no named pod exists, or runs a batch that nothing
blocks. -/
theorem reconcileOperations_cases :
    (∃ inProgress error checks', reconcileOperations env checks cluster (op :: rest) status pods =
      .idle inProgress error status checks') ∨
    (operationSettled op status = false ∧ op.podList ≠ [] ∧ filterPodsByNames pods op.podList = [] ∧
      env.restart.listError = none ∧ env.persist = .done ∧
      reconcileOperations env checks cluster (op :: rest) status pods =
        .idle false none (some ⟨op.id, op.kind, .error, [], []⟩) checks) ∨
    (operationSettled op status = false ∧ env.restart.listError = none ∧
      (op.podList ≠ [] → filterPodsByNames pods op.podList ≠ []) ∧
      (operationGate env checks cluster op status (filterPodsByNames pods op.podList)).1 = false ∧
      reconcileOperations env checks cluster (op :: rest) status pods =
        runOperation env cluster op status (filterPodsByNames pods op.podList)
          (operationGate env checks cluster op status (filterPodsByNames pods op.podList)).2) := by
  unfold reconcileOperations
  simp only
  split
  · exact Or.inl ⟨_, _, _, rfl⟩
  · rename_i hsettled
    have hsettled : operationSettled op status = false := by simpa using hsettled
    split
    · exact Or.inl ⟨_, _, _, rfl⟩
    · rename_i hlist
      split
      · rename_i hmatch
        simp only [Bool.and_eq_true, Bool.not_eq_true', List.isEmpty_eq_false_iff, List.isEmpty_iff] at hmatch
        unfold unmatchedOutcome
        cases hpersist : env.persist with
        | done => exact Or.inr (Or.inl ⟨hsettled, hmatch.1, hmatch.2, hlist, rfl, rfl⟩)
        | conflict => exact Or.inl ⟨_, _, _, rfl⟩
        | failed err => exact Or.inl ⟨_, _, _, rfl⟩
      · rename_i hmatch
        split
        · exact Or.inl ⟨_, _, _, rfl⟩
        · rename_i hgate
          refine Or.inr (Or.inr ⟨hsettled, hlist, ?_, by simpa using hgate, rfl⟩)
          intro hne hnil
          simp [hne, hnil] at hmatch

end Cases

/-! ## The batch -/

/-- The pods a pass attempts: the first outstanding ones, each name once, up to a limit. -/
def operationBatch : Nat → List String → List Pod → List Pod
  | _, _, [] => []
  | limit, resolved, pod :: rest =>
    if pod.name ∈ resolved then operationBatch limit resolved rest
    else match limit with
      | 0 => []
      | limit + 1 => pod :: operationBatch limit (pod.name :: resolved) rest

theorem operationBatch_congr : ∀ (pods : List Pod) (limit : Nat) {a b : List String}, (∀ n, n ∈ a ↔ n ∈ b) →
    operationBatch limit a pods = operationBatch limit b pods
  | [], _, _, _, _ => rfl
  | pod :: rest, limit, a, b, h => by
    unfold operationBatch
    rw [operationBatch_congr rest limit h]
    by_cases hp : pod.name ∈ b
    · rw [if_pos ((h _).2 hp), if_pos hp]
    · rw [if_neg (mt (h _).1 hp), if_neg hp]
      cases limit with
      | zero => rfl
      | succ limit =>
        have hcons : ∀ n, n ∈ pod.name :: a ↔ n ∈ pod.name :: b := by
          intro n
          rw [List.mem_cons, List.mem_cons, h n]
        simp only [operationBatch_congr rest limit hcons]

/-- The batch is a part of the targets, without a resolved name and without a name twice. -/
structure BatchOf (limit : Nat) (resolved : List String) (pods batch : List Pod) : Prop where
  sublist : batch.Sublist pods
  nodup : (batch.map (·.name)).Nodup
  fresh : ∀ p ∈ batch, p.name ∉ resolved
  length : batch.length ≤ limit
  rest : batch.length = limit ∨ ∀ p ∈ pods, p.name ∈ resolved ∨ p.name ∈ batch.map (·.name)

theorem BatchOf.skip {limit : Nat} {resolved : List String} {batch : List Pod} (hp : pod.name ∈ resolved)
    (h : BatchOf limit resolved pods batch) : BatchOf limit resolved (pod :: pods) batch := by
  refine ⟨h.sublist.cons pod, h.nodup, h.fresh, h.length, ?_⟩
  rcases h.rest with hlen | hall
  · exact Or.inl hlen
  · refine Or.inr fun p hmem => ?_
    rcases List.mem_cons.1 hmem with rfl | hmem
    · exact Or.inl hp
    · exact hall p hmem

theorem BatchOf.take {limit : Nat} {resolved : List String} {batch : List Pod} (hp : pod.name ∉ resolved)
    (h : BatchOf limit (pod.name :: resolved) pods batch) :
    BatchOf (limit + 1) resolved (pod :: pods) (pod :: batch) := by
  refine ⟨h.sublist.cons_cons pod, ?_, ?_, Nat.succ_le_succ h.length, ?_⟩
  · rw [List.map_cons, List.nodup_cons]
    refine ⟨?_, h.nodup⟩
    intro hmem
    obtain ⟨p, hpmem, hname⟩ := List.mem_map.1 hmem
    exact h.fresh p hpmem (by rw [hname]; exact List.mem_cons_self)
  · intro p hmem
    rcases List.mem_cons.1 hmem with rfl | hmem
    · exact hp
    · exact fun hres => h.fresh p hmem (List.mem_cons_of_mem _ hres)
  · rcases h.rest with hlen | hall
    · exact Or.inl (by rw [List.length_cons, hlen])
    · refine Or.inr fun p hmem => ?_
      rw [List.map_cons, List.mem_cons]
      rcases List.mem_cons.1 hmem with rfl | hmem
      · exact Or.inr (Or.inl rfl)
      · rcases hall p hmem with hres | hres
        · rcases List.mem_cons.1 hres with hres | hres
          · exact Or.inr (Or.inl hres)
          · exact Or.inl hres
        · exact Or.inr (Or.inr hres)

theorem operationBatch_spec : ∀ (pods : List Pod) (limit : Nat) (resolved : List String),
    BatchOf limit resolved pods (operationBatch limit resolved pods)
  | [], limit, resolved => by
    refine ⟨List.Sublist.refl _, List.nodup_nil, ?_, Nat.zero_le _, Or.inr ?_⟩
    · intro p hp
      cases hp
    · intro p hp
      cases hp
  | pod :: rest, limit, resolved => by
    unfold operationBatch
    by_cases hp : pod.name ∈ resolved
    · rw [if_pos hp]
      exact (operationBatch_spec rest limit resolved).skip hp
    · rw [if_neg hp]
      cases limit with
      | zero =>
        -- the batch is full, whatever is left
        refine ⟨List.nil_sublist _, List.nodup_nil, ?_, Nat.le_refl _, Or.inl rfl⟩
        intro p hmem
        cases hmem
      | succ limit =>
        exact (operationBatch_spec rest limit (pod.name :: resolved)).take hp

def Progress.after (env : RestartEnv) (kind : OperationKind) (g : Progress) (batch : List Pod) : Progress where
  completed := g.completed ++ (batch.filter fun p => (operationRestart env kind p).1).map (·.name)
  failed := g.failed ++ (batch.filter fun p => !(operationRestart env kind p).1).map (·.name)
  attempted := g.attempted ++ batch.map (·.name)
  effects := g.effects ++ batch.flatMap fun p => (operationRestart env kind p).2

theorem Progress.after_cons (env : RestartEnv) (kind : OperationKind) (g : Progress) (pod : Pod) (batch : List Pod) :
    g.after env kind (pod :: batch) = (g.attempt env kind pod).after env kind batch := by
  unfold Progress.after Progress.attempt
  cases h : (operationRestart env kind pod).1 <;> simp [h, List.append_assoc]

theorem outstanding_eq_false : outstanding completed failed pod = false ↔ pod.name ∈ completed ++ failed := by
  unfold outstanding
  rw [List.mem_append]
  by_cases hc : pod.name ∈ completed <;> by_cases hf : pod.name ∈ failed <;> simp [hc, hf]

theorem outstanding_eq_true : outstanding completed failed pod = true ↔ pod.name ∉ completed ++ failed := by
  rw [← outstanding_eq_false, Bool.not_eq_false]

theorem operate_eq (env : RestartEnv) (kind : OperationKind) (batchSize : Int) : ∀ (pods : List Pod) (g : Progress),
    operate env kind batchSize g pods =
      g.after env kind (operationBatch (batchSize - g.attempted.length).toNat (g.completed ++ g.failed) pods)
  | [], g => by simp [operate, operationBatch, Progress.after]
  | pod :: rest, g => by
    unfold operate operationBatch
    by_cases hp : pod.name ∈ g.completed ++ g.failed
    · rw [outstanding_eq_false.2 hp, if_pos hp, operate_eq env kind batchSize rest g]
      rfl
    · have hout : outstanding g.completed g.failed pod = true := by
        rw [outstanding_eq_true]
        exact hp
      rw [hout, if_neg hp, if_neg (by simp)]
      by_cases hsize : batchSize ≤ g.attempted.length
      · have hzero : (batchSize - g.attempted.length).toNat = 0 := by omega
        rw [if_pos hsize, hzero]
        simp [Progress.after]
      · obtain ⟨limit, hlimit⟩ : ∃ limit, (batchSize - g.attempted.length).toNat = limit + 1 :=
          ⟨(batchSize - g.attempted.length).toNat - 1, by omega⟩
        have hnext : (batchSize - (g.attempt env kind pod).attempted.length).toNat = limit := by
          simp only [Progress.attempt, List.length_append, List.length_singleton]
          omega
        -- whether the restart succeeds decides which list the pod goes to, not whether it is resolved
        have hresolved : ∀ n, n ∈ (g.attempt env kind pod).completed ++ (g.attempt env kind pod).failed ↔
            n ∈ pod.name :: (g.completed ++ g.failed) := by
          intro n
          unfold Progress.attempt
          cases hok : (operationRestart env kind pod).1 <;> simp [hok] <;> tauto
        rw [if_neg hsize, operate_eq env kind batchSize rest, hlimit, hnext, operationBatch_congr rest limit hresolved,
          ← Progress.after_cons]

end Acko
