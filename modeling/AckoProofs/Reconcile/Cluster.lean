/-
A reconcile pass (`Reconcile`): pause, circuit breaker and degraded phase first, then the services,
the scaling of the racks, the rolling restart and the status of the cluster (`reconcileCluster`).
-/
import AckoProofs.Reconcile.Status

namespace Acko

open Shared (emit Within)

/-! ## What a pass learns from outside -/

/-- What the resolution of the template comes to: a failed or a repeated pass, or the spec with the
template applied. -/
inductive TemplateReply
  | failed (reason : String)
  | requeue
  | resolved (apply : ClusterSpec → ClusterSpec)

/-- The answers to the calls of a pass that are not about the object itself, in the order of the
pass. `permanent` says that the error that ends the pass is a validation error, `objs` and `pods`
are read by the scaling, and `loopSts` and `loopPods` by the rolling-restart loop. -/
structure ReconcileEnv where
  template : TemplateReply
  permanent : Bool
  servicesError : Option String
  detectError : Option String
  scale : ScaleEnv
  hashesOf : Cluster → Rack → Hashes
  objs : List StatefulSetObject
  pods : Int → List Pod
  checks : MigrationChecks
  auxiliaryError : Option String
  operations : Except String Bool
  restart : Int → RestartEnv
  loopSts : Int → Option StatefulSet
  loopPods : Int → List Pod
  acl : Except String Bool
  status : StatusEnv
  allReady : Bool

/-! ## Scaling -/

/-- Whether a rack is to grow and whether one is to shrink. -/
def detectScaling (objs : List StatefulSetObject) (cluster : Cluster) (racks : List Rack) : Bool × Bool :=
  racks.zipIdx.foldl (fun (up, down) r =>
    match findStatefulSet objs (statefulSetName cluster.name r.1.id) with
    | none => (true, down)
    | some sts =>
      let desired := getRackSize cluster racks r.2
      (up || statefulSetReplicas sts < desired, down || desired < statefulSetReplicas sts)) (false, false)

variable (env : ReconcileEnv) (cluster : ClusterObject)

def announceScaling : Op (PhaseReply × ClusterObject) :=
  match detectScaling env.objs cluster.toCluster (getRacks cluster.toCluster) with
  | (true, _) => setPhase cluster .scalingUp "Scaling up cluster"
  | (false, true) => setPhase cluster .scalingDown "Scaling down cluster"
  | (false, false) => pure (.done, cluster)

/-- The same answers with every phase patch going through: in a pass the patches are calls of their
own. -/
def ScaleEnv.phasesDone (env : ScaleEnv) : ScaleEnv :=
  { env with sts := fun name => { env.sts name with phase := .done }, phase := .done }

def reportMigration (reason : String) (events : List ScaleEvent) : Op (PhaseReply × ClusterObject) :=
  if .probe (.ok true) ∈ events then setPhase cluster .waitingForMigration reason else pure (.done, cluster)

def reconcileRacksLoop (env : ReconcileEnv) :
    List (Rack × Nat) → ClusterObject → Op (Except String Bool × ClusterObject)
  | [], cluster => pure (.ok false, cluster)
  | r :: rest, cluster => do
    let (result, events) := reconcileRack env.scale.phasesDone cluster.toCluster env.pods env.hashesOf env.objs
      (getRacks cluster.toCluster) r
    emit (events.map .scale)
    match ← reportMigration cluster ("Scale-down deferred for rack " ++ toString r.1.id ++
        ": data migration in progress") events with
    | (.failed err, cluster) => pure (.error err, cluster)
    | (_, cluster) => match result with
      | .error err => pure (.error err, cluster)
      | .ok deferred =>
        let (result, cluster) ← reconcileRacksLoop env rest cluster
        pure (result.map (deferred || ·), cluster)

/-- The teardown of the removed racks (`cleanupRemovedRacks`); a phase patch that fails ends it
right after the probe. -/
def reconcileRemovedRacks : Op (Except String Bool × MigrationChecks × ClusterObject) := do
  let (result, checks, events) := cleanupRemovedRacks env.scale.phasesDone cluster.toCluster env.pods env.objs
    env.checks (getRacks cluster.toCluster)
  match ← reportMigration cluster "Rack teardown deferred: data migration in progress" events with
  | (.failed err, cluster) => do
    emit [.scale (.probe (.ok true))]
    pure (.error err, checks, cluster)
  | (_, cluster) => do
    emit (events.map .scale)
    pure (result, checks, cluster)

/-! ## Rolling restart -/

/-- The effects of a rolling restart in their order; the degraded phase is a write of the object. -/
def replayEffects (rackID : Int) : List Effect → Op Unit
  | [] => pure ()
  | .setConfigDegraded failedPods :: rest => do
    setConfigDegraded failedPods
    replayEffects rackID rest
  | e :: rest => do
    emit [.restart rackID e]
    replayEffects rackID rest

def ReconcileEnv.restartPass (checks : MigrationChecks) (cluster : Cluster) (rack : Rack) : PassOutcome :=
  reconcileRollingRestart (env.restart rack.id) checks cluster rack.id (env.loopSts rack.id) (env.loopPods rack.id)

def ClusterObject.withPending (o : ClusterObject) : Option (List String) → ClusterObject
  | some pending => { o with status := { o.status with pendingRestartPods := pending } }
  | none => o

@[simp] theorem ClusterObject.withPending_toCluster (o : ClusterObject) (pending : Option (List String)) :
    (o.withPending pending).toCluster = o.toCluster := by
  cases pending <;> rfl

/-- The loop over the racks, up to the first that restarts or waits; `none` where all racks have
nothing to restart. -/
def restartRacks (env : ReconcileEnv) :
    List Rack → MigrationChecks → ClusterObject → Op (Except String (Option ReconcileResult) × ClusterObject)
  | [], _, cluster => pure (.ok none, cluster)
  | rack :: rest, checks, cluster => do
    let out := env.restartPass checks cluster.toCluster rack
    replayEffects rack.id out.effects
    let cluster := cluster.withPending out.pending
    match out.result with
    | .error err => pure (.error err, cluster)
    | .ok false => restartRacks env rest out.checks cluster
    | .ok true =>
      match ← setPhase cluster .rollingRestart ("Rolling restart in progress for rack " ++ toString rack.id) with
      | (.failed err, cluster) => pure (.error err, cluster)
      | (_, cluster) => pure (.ok (some (.requeueAfter restartRequeueInterval)), cluster)

/-! ## The end of a pass -/

/-- Completed, unless the ACL sync failed. -/
def terminalPhaseForACL : Except String Bool → Phase × String
  | .error err => (.aclSync, "ACL synchronization failed; will retry: " ++ err)
  | .ok _ => (.completed, "Cluster is healthy and stable")

/-- Writes the status and picks the last phase. -/
def finalizeReconcile : Op (Except String ReconcileResult) := do
  let (phase, reason) := terminalPhaseForACL env.acl
  match ← updateStatusAndPhase env.status phase reason with
  | .error .conflict => pure (.ok .requeue)
  | .error (.failed err) => pure (.error err)
  | .ok _ => match env.acl with
    | .error _ => pure (.ok (.requeueAfter aclRetryInterval))
    | .ok _ => match ← refetchCluster with
      | .error _ => pure (.ok .finished)
      | .ok _ => pure (.ok (if env.allReady then .finished else .requeueAfter podReadyPollInterval))

def announceACL : Op (PhaseReply × ClusterObject) :=
  if cluster.spec.hasAccessControl then setPhase cluster .aclSync "Synchronizing ACL roles and users"
  else pure (.done, cluster)

def reconcileACLAndStatus : Op (Except String ReconcileResult) := do
  match ← announceACL cluster with
  | (.failed err, _) => pure (.error err)
  | _ => do
    emit [.acl]
    finalizeReconcile env

/-! ## The pass -/

/-- What follows the scaling: auxiliary resources, on-demand operations, readiness gates, rolling
restart, access control and status. -/
def reconcileResources (checks : MigrationChecks) (cluster : ClusterObject) : Op (Except String ReconcileResult) := do
  emit [.auxiliary]
  match env.auxiliaryError with
  | some err => pure (.error err)
  | none => do
    emit [.operations]
    match env.operations with
    | .error err => pure (.error err)
    | .ok true => pure (.ok (.requeueAfter defaultReconcileRetryInterval))
    | .ok false => do
      emit [.readinessGates]
      match ← restartRacks env (getRacks cluster.toCluster) checks cluster with
      | (.error err, _) => pure (.error err)
      | (.ok (some result), _) => pure (.ok result)
      | (.ok none, cluster) => reconcileACLAndStatus env cluster

/-- The stages in the order of the source. -/
def reconcileCluster : Op (Except String ReconcileResult) :=
  match env.detectError with
  | some err => pure (.error err)
  | none => do
    match ← announceScaling env cluster with
    | (.failed err, _) => pure (.error err)
    | (_, cluster) =>
      match ← reconcileRacksLoop env (getRacks cluster.toCluster).zipIdx cluster with
      | (.error err, _) => pure (.error err)
      | (.ok true, _) => pure (.ok (.requeueAfter migrationRequeueInterval))
      | (.ok false, cluster) =>
        match ← reconcileRemovedRacks env cluster with
        | (.error err, _, _) => pure (.error err)
        | (.ok true, _, _) => pure (.ok (.requeueAfter migrationRequeueInterval))
        | (.ok false, checks, cluster) => reconcileResources env checks cluster

def announceProgress : Op (PhaseReply × ClusterObject) :=
  if cluster.status.observedGeneration ≠ cluster.generation ∨ cluster.status.phase = .none then
    setPhase cluster .inProgress "Reconciliation started"
  else pure (.done, cluster)

/-- The pass from its first phase on. `read` is the spec as it was read, without the template. -/
def reconcileSpec (read : ObjectSpec) (cluster : ClusterObject) : Op ReconcileResult := do
  match ← announceProgress cluster with
  | (.conflict, _) => pure .requeue
  | (.failed err, _) => handleReconcileError env.permanent err
  | (.done, cluster) => do
    emit [.services]
    match env.servicesError with
    | some err => handleReconcileError env.permanent err
    | none => do
      emit [.processed cluster.generation read]
      match ← reconcileCluster env cluster with
      | .error err => handleReconcileError env.permanent err
      | .ok result =>
        if 0 < cluster.status.failedReconcileCount then do
          let _ ← resetFailedReconcileCount
          pure result
        else pure result

def ClusterObject.withTemplate (o : ClusterObject) (apply : ClusterSpec → ClusterSpec) : ClusterObject :=
  { o with spec := { o.spec with spec := apply o.spec.spec } }

/-- A pass of a cluster that is neither deleted nor paused: the breaker comes before the degraded
phase. -/
def reconcileActive : Op ReconcileResult :=
  if maxFailedReconciles ≤ cluster.status.failedReconcileCount then handleCircuitBreakerBackoff cluster
  else if cluster.status.phase = .configDegraded then pure (.requeueAfter (60 * second))
  else match cluster.spec.templateRef with
    | none => reconcileSpec env cluster.spec cluster
    | some _ => match env.template with
      | .failed err => handleReconcileError env.permanent err
      | .requeue => pure .requeue
      | .resolved apply => reconcileSpec env cluster.spec (cluster.withTemplate apply)

/-- The finalizer goes last. -/
def finalizeDeletion : Op ReconcileResult := do
  emit [.cascadePVCs]
  match ← Shared.modify applyEdit fun latest => some ({ latest with finalizer := false }, []) with
  | .error .conflict => pure .requeue
  | .error (.failed err) => pure (.failed err)
  | .ok _ => pure .finished

/-- A conflict on the phase is passed over. -/
def handleDeletion : Op ReconcileResult :=
  if !cluster.finalizer then pure .finished
  else do
    match ← setPhase cluster .deleting "Cluster is being deleted" with
    | (.failed err, _) => pure (.failed err)
    | _ => finalizeDeletion

def addFinalizer (copy : Shared.Copy ClusterObject) : Op ReconcileResult := do
  match ← Shared.put applyEdit copy.version { copy.val with finalizer := true } [] with
  | .error (.failed err) => pure (.failed err)
  | _ => pure .requeue

/-- The body of a pass that has read the object. -/
def reconcileRead (copy : Shared.Copy ClusterObject) : Op ReconcileResult :=
  let cluster := copy.val
  if cluster.deleting then handleDeletion cluster
  else if !cluster.finalizer then addFinalizer copy
  else if cluster.spec.paused = some true then do
    match ← handlePause with
    | .error err => pure (.failed (callErrorMessage err))
    | .ok _ => pure .finished
  else if cluster.status.phase = .paused then do
    match ← handleResume with
    | .error _ => pure .requeue
    | .ok _ => reconcileActive env cluster.clearErrors
  else reconcileActive env cluster

/-- Deletion, finalizer and pause come first. -/
def reconcile : Op ReconcileResult := do
  match ← refetchCluster with
  | .error err => pure (.failed (callErrorMessage err))
  | .ok copy => do
    emit [.started]
    reconcileRead env copy

/-! ## Runs -/

/-- A user edits the object, or a pass is made, with the edits and faults that come between its
calls. -/
inductive ReconcileStep
  | edit (d : UserEdit)
  | reconcile (env : ReconcileEnv) (turns : List (Shared.Turn UserEdit))

def ReconcileStep.step (w : OpWorld) : ReconcileStep → Option OpWorld
  | .edit d => some (w.editAll applyEdit [d])
  | .reconcile env turns => some { (Acko.reconcile env { w with turns := turns }).2 with turns := [] }

theorem reconcile_keeps {A : UserEdit → Prop} {P : ClusterObject → List OpEntry → Prop} {env : ReconcileEnv}
    (hA : Shared.KeptByEdits applyEdit A P) (hstart : ∀ o l, P o l → P o (l ++ [.event .started]))
    (hread : ∀ copy, Shared.Triple (fun w => Within A P w ∧ w.obj = copy.val ∧ w.version = copy.version)
      (reconcileRead env copy) fun _ => Within A P) : Shared.Keeps A P (reconcile env) := by
  refine Shared.Triple.bind (Q := fun r w => Within A P w ∧
      ∀ copy, r = .ok copy → w.obj = copy.val ∧ w.version = copy.version) ?_ ?_
  · refine Shared.get_triple hA.stable (fun w err hw => ⟨hw, ?_⟩) (fun w hw => ⟨hw, ?_⟩)
    · rintro _ ⟨⟩
    · rintro _ ⟨⟩
      exact ⟨rfl, rfl⟩
  · rintro (err | copy)
    · exact .pure fun w hw => hw.1
    · refine Shared.Triple.bind (.emit fun w hw => ?_) fun _ => hread copy
      exact ⟨⟨hstart _ _ hw.1.1, hw.1.2⟩, hw.2 copy rfl⟩

/-- Every call of a pass succeeds, there is nothing to scale or to restart, and all pods are
Ready. -/
def ReconcileEnv.calm (hosts : List String) : ReconcileEnv where
  template := .resolved id
  permanent := false
  servicesError := none
  detectError := none
  scale := .calm
  hashesOf _ _ := ⟨"", "", ""⟩
  objs := []
  pods _ := []
  checks := []
  auxiliaryError := none
  operations := .ok false
  restart _ := .calm false hosts
  loopSts _ := none
  loopPods _ := []
  acl := .ok true
  status := ⟨fun _ => .ok [], 0, false⟩
  allReady := true

end Acko
