/-
The writes of the object's status: the phase (`setPhase`, `setConfigDegraded`), pause and resume,
the circuit breaker's counter, and the status at the end of a pass (`updateStatusAndPhase`).
-/
import AckoProofs.Reconcile.Object

namespace Acko

open Shared (CallError Copy)

/-! ## Calls on the object -/

def refetchCluster : Op (Except CallError (Copy ClusterObject)) := Shared.get applyEdit

def callErrorMessage : CallError → String
  | .conflict => "the object has been modified"
  | .failed reason => reason

def defaultRetries : Nat := 3

def modifyWithRetry (f : ClusterObject → Option (ClusterObject × List PassEvent)) :
    Op (Except CallError ClusterObject) :=
  Shared.retryOnConflict (fun _ => do pure (← Shared.modify applyEdit f, ())) defaultRetries ()

/-! ## The phase -/

def phaseReply : Except CallError ClusterObject → PhaseReply
  | .ok _ => .done
  | .error .conflict => .conflict
  | .error (.failed reason) => .failed reason

/-- The phase, its reason and the pending pods of the copy in memory, where one of them differs. -/
def phaseWrite (cluster : ClusterObject) (phase : Phase) (reason : String) (latest : ClusterObject) :
    Option (ClusterObject × List PassEvent) :=
  if latest.status.phase = phase ∧ latest.status.phaseReason = reason ∧
      latest.status.pendingRestartPods = cluster.status.pendingRestartPods then none
  else some ({ latest with status := { latest.status with
      phase := phase
      phaseReason := reason
      pendingRestartPods := cluster.status.pendingRestartPods } }, [.persisted phase])

/-- Returns the reply and the copy in memory, which has the phase where the write went through. -/
def setPhase (cluster : ClusterObject) (phase : Phase) (reason : String) : Op (PhaseReply × ClusterObject) := do
  match phaseReply (← modifyWithRetry (phaseWrite cluster phase reason)) with
  | .done => pure (.done, cluster.withPhase phase reason)
  | reply => pure (reply, cluster)

def degradedReason (failedPods : List String) : String :=
  "Dynamic config rollback failed on pods: " ++ ", ".intercalate failedPods

/-- The merge patch of the degraded phase: only what differs from the copy read before is sent. -/
def degradedPatch (base : ClusterObject) (reason : String) (o : ClusterObject) : ClusterObject :=
  o.withPhase (if base.status.phase = .configDegraded then o.status.phase else .configDegraded)
    (if base.status.phaseReason = reason then o.status.phaseReason else reason)

def degradedEvents (o : ClusterObject) : List PassEvent :=
  .persisted o.status.phase ::
    if o.status.phase = .configDegraded then [.degraded (o.spec.paused = some true || o.deleting)] else []

/-- Errors are logged only. -/
def setConfigDegraded (failedPods : List String) : Op Unit := do
  match ← refetchCluster with
  | .error _ => pure ()
  | .ok base =>
    let _ ← Shared.patch applyEdit (degradedPatch base.val (degradedReason failedPods)) degradedEvents
    pure ()

/-! ## Pause and resume -/

def pausePhaseReason : String := "Reconciliation paused by user"

/-- Conflicts are retried. -/
def handlePause : Op (Except CallError ClusterObject) :=
  modifyWithRetry fun latest => some (latest.withPhase .paused pausePhaseReason, [.persisted .paused])

def ClusterObject.clearErrors (o : ClusterObject) : ClusterObject :=
  { o with status := { o.status with failedReconcileCount := 0, lastReconcileError := "" } }

/-- The phase is left as it is; the counter is cleared where the cluster was paused. -/
def handleResume : Op (Except CallError ClusterObject) :=
  modifyWithRetry fun latest =>
    some (if latest.status.phase = .paused ∨ latest.status.phase = .error then latest.clearErrors else latest,
      [.persisted latest.status.phase])

/-! ## The circuit breaker -/

def maxFailedReconciles : Nat := 10

def second : Time := 10 ^ 9

def defaultReconcileRetryInterval : Time := 5 * second
def restartRequeueInterval : Time := 15 * second
def migrationRequeueInterval : Time := 30 * second
def podReadyPollInterval : Time := 60 * second
def aclRetryInterval : Time := 30 * second
def maxBackoffSeconds : Nat := 300

/-- Doubles with each failure, up to a bound. -/
def calculateBackoff (failCount : Nat) : Time :=
  if failCount = 0 then defaultReconcileRetryInterval
  else (min (2 ^ min failCount 9) maxBackoffSeconds : Nat) * second

example : calculateBackoff 3 = 8 * second ∧ calculateBackoff 10 = 300 * second := by decide

/-- What a pass asks the controller for. -/
inductive ReconcileResult
  | finished
  | requeue
  | requeueAfter (t : Time)
  | failed (reason : String)
  deriving DecidableEq

/-- As many whole characters as fit into a number of bytes. -/
def takeBytes : Nat → List Char → List Char
  | _, [] => []
  | limit, c :: rest => if c.utf8Size ≤ limit then c :: takeBytes (limit - c.utf8Size) rest else []

/-- `truncateUTF8` for a budget that has room for the dots. -/
def truncateUTF8 (s : String) (maxBytes : Nat) : String :=
  if s.utf8ByteSize ≤ maxBytes then s else String.ofList (takeBytes (maxBytes - 3) s.toList) ++ "..."

/-- The status after a failed pass. A validation error does not heal by itself, and opens the
breaker at once. -/
def errorStatus (permanent : Bool) (err : String) (status : ObjectStatus) : ObjectStatus :=
  { status with
    failedReconcileCount := if permanent then maxFailedReconciles else status.failedReconcileCount + 1
    lastReconcileError := truncateUTF8 err 256 }

/-- Counts the failure and asks for a retry. -/
def handleReconcileError (permanent : Bool) (err : String) : Op ReconcileResult := do
  match ← Shared.modify applyEdit fun latest =>
      some ({ latest with status := errorStatus permanent err latest.status }, [.persisted latest.status.phase]) with
  | .error _ => pure (.failed err)
  | .ok latest => pure (.requeueAfter (calculateBackoff latest.status.failedReconcileCount))

def recoveringReason : String := "Recovering from circuit breaker backoff"

def resetWrite (latest : ClusterObject) : Option (ClusterObject × List PassEvent) :=
  if latest.status.failedReconcileCount = 0 ∧ latest.status.lastReconcileError = "" ∧
      latest.status.phase ≠ .backoffActive then none
  else
    let cleared := latest.clearErrors
    let recovered := if latest.status.phase = .backoffActive then cleared.withPhase .inProgress recoveringReason
      else cleared
    some (recovered, [.persisted recovered.status.phase])

def resetFailedReconcileCount : Op (Except CallError ClusterObject) := Shared.modify applyEdit resetWrite

def backoffReason (failedReconcileCount : Nat) : String :=
  "Circuit breaker active after " ++ toString failedReconcileCount ++ " consecutive failures; backing off " ++
    toString (calculateBackoff failedReconcileCount / second) ++ "s"

/-- The phase is written on the first entry only, and an error of that write is logged only. -/
def handleCircuitBreakerBackoff (cluster : ClusterObject) : Op ReconcileResult := do
  let count := cluster.status.failedReconcileCount
  if cluster.status.phase ≠ .backoffActive then
    let _ ← setPhase cluster .backoffActive (backoffReason count)
    pure (.requeueAfter (calculateBackoff count))
  else pure (.requeueAfter (calculateBackoff count))

/-! ## The end of a pass -/

/-- What a status write learns from outside: the pods listed at each attempt, the clock, and
whether the pod statuses, counts and conditions are what they were. -/
structure StatusEnv where
  pods : Nat → Except String (List Pod)
  now : Time
  unchanged : Bool

/-- Since when each pod that is not Ready has been so. -/
def unstablePods (prev : List (String × Time)) (now : Time) (pods : List Pod) : List (String × Time) :=
  pods.filterMap fun p => if isPodReady p then none else some (p.name, (prev.lookup p.name).getD now)

def populateStatus (pods : List Pod) (now : Time) (o : ClusterObject) : ClusterObject :=
  { o with status := { o.status with
    observedGeneration := o.generation
    aerospikeConfig := o.spec.spec.aerospikeConfig
    unstableSince := unstablePods o.status.unstableSince now pods } }

def publishStatus (phase : Phase) (reason : String) (pods : List Pod) (now : Time) (o : ClusterObject) :
    ClusterObject :=
  let o := (populateStatus pods now o).withPhase phase reason
  if phase = .completed then
    { o with status := { o.status with appliedSpec := some o.spec, pendingRestartPods := [] } }
  else o

/-- Nothing that the status shows differs. -/
def statusUnchanged (env : StatusEnv) (prev : ClusterObject) (phase : Phase) (reason : String) : Bool :=
  prev.status.phase = phase && prev.status.phaseReason = reason &&
    prev.status.observedGeneration = prev.generation && env.unchanged

/-- One attempt to write: after a conflict the status is computed anew for the object as it is
then, but with the generation observed first. -/
def persistStatus (env : StatusEnv) (phase : Phase) (reason : String) (observed : Nat)
    (attempt : Copy ClusterObject × Nat) : Op (Except CallError Unit × Copy ClusterObject × Nat) := do
  let (latest, k) := attempt
  match ← Shared.put applyEdit latest.version latest.val [.persisted phase, .recorded latest.val.status] with
  | .error .conflict =>
    match ← refetchCluster with
    | .error err => pure (.error err, attempt)
    | .ok refetched => match env.pods k with
      | .error err => pure (.error (.failed err), attempt)
      | .ok pods =>
        let next := publishStatus phase reason pods env.now refetched.val
        pure (.error .conflict,
          ⟨{ next with status := { next.status with observedGeneration := observed } }, refetched.version⟩, k + 1)
  | result => pure (result, attempt)

/-- Skips the write if nothing changed. -/
def updateStatusAndPhase (env : StatusEnv) (phase : Phase) (reason : String) : Op (Except CallError Unit) := do
  match ← refetchCluster with
  | .error err => pure (.error err)
  | .ok copy => match env.pods 0 with
    | .error err => pure (.error (.failed err))
    | .ok pods =>
      if statusUnchanged env copy.val phase reason then pure (.ok ())
      else
        let latest := publishStatus phase reason pods env.now copy.val
        Shared.retryOnConflict (persistStatus env phase reason latest.status.observedGeneration) defaultRetries
          (⟨latest, copy.version⟩, 1)

/-! ## What the writes keep -/

section Keeps

variable {A : UserEdit → Prop} {P : ClusterObject → List OpEntry → Prop}

variable {f : ClusterObject → Option (ClusterObject × List PassEvent)}

theorem modifyWithRetry_keeps (hA : Shared.KeptByEdits applyEdit A P)
    (h : ∀ o l new events, P o l → f o = some (new, events) → P new (l ++ events.map .event)) :
    Shared.Keeps A P (modifyWithRetry f) :=
  .retryOnConflict (fun _ => .bind (.modify hA h) fun _ => .pure) _ _

theorem setPhase_keeps (hA : Shared.KeptByEdits applyEdit A P) {cluster : ClusterObject} {phase : Phase}
    {reason : String}
    (h : ∀ o l pending, P o l → P { o with status := { o.status with
        phase := phase, phaseReason := reason, pendingRestartPods := pending } } (l ++ [.event (.persisted phase)])) :
    Shared.Keeps A P (setPhase cluster phase reason) := by
  refine .bind (modifyWithRetry_keeps hA ?_) ?_
  · intro o l new events ho hf
    unfold phaseWrite at hf
    split at hf
    · cases hf
    · cases hf
      exact h o l _ ho
  · intro result
    rcases result with (_ | _) | _ <;> exact .pure

theorem modifyWithRetry_quiet {P Q : OpWorld → Prop} (hP : ∀ w, P w → w.turns = [])
    (hskip : ∀ w, P w → f w.obj = none → Q w)
    (hwrite : ∀ w new events, P w → f w.obj = some (new, events) → Q (w.write new events)) :
    Shared.Triple P (modifyWithRetry f) fun r w => (∃ o, r = .ok o) ∧ Q w := by
  refine Shared.retryOnConflict_first (Shared.Triple.bind (Q := fun r w => (∃ o, r = .ok o) ∧ Q w) ?_ ?_) _
  · exact Shared.modify_quiet hP (fun w hw hf => ⟨⟨_, rfl⟩, hskip w hw hf⟩)
      fun w new events hw hf => ⟨⟨_, rfl⟩, hwrite w new events hw hf⟩
  · intro r
    refine .assume ?_
    rintro ⟨o, rfl⟩
    exact .pure fun w hw => ⟨by simp, ⟨o, rfl⟩, hw⟩

end Keeps

end Acko
