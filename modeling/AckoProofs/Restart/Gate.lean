/-
When the next restart batch of a rack has to wait (`isBatchBlocked`): a pod of the previous batch
is not back yet, a readiness gate is open, or data is migrating. A migration check that does not
answer blocks as well, until it has failed often and long enough.
-/
import AckoProofs.Restart.Select

namespace Acko

/-! ## The previous batch -/

structure RackRestartTarget where
  hashes : Hashes
  replicas : Int
  podManagementPolicy : PodManagementPolicy

/-- Why the previous batch is not finished. -/
inductive InFlight
  | terminating (pod : String)
  | notReady (pod : String) (phase : PodPhase)
  | missing (existing : Nat) (replicas : Int)
  deriving DecidableEq

def PodPhase.text : PodPhase → String
  | .pending => "Pending"
  | .running => "Running"
  | .succeeded => "Succeeded"
  | .failed => "Failed"
  | .unknown => "Unknown"

def InFlight.message : InFlight → String
  | .terminating pod => "pod " ++ pod ++ " is still terminating"
  | .notReady pod phase => "pod " ++ pod ++ " has been restarted but is not Ready yet (phase " ++ phase.text ++ ")"
  | .missing existing replicas => "only " ++ toString existing ++ " of " ++ toString replicas ++
      " rack pods exist; a replacement has not been recreated yet"

/-- The first pod that is terminating, or carries the target's hashes and is not Ready. -/
def podInFlight (target : Hashes) : List Pod → Option InFlight
  | [] => none
  | pod :: rest =>
    if pod.deletionTimestamp.isSome then some (.terminating pod.name)
    else if target.config = "" then podInFlight target rest
    else if pod.stale target then podInFlight target rest
    else if !isPodReady pod then some (.notReady pod.name pod.phase)
    else podInFlight target rest

/-- `none` stands for the empty reason. -/
def restartInFlightReason (rackPods : List Pod) (target : RackRestartTarget) : Option InFlight :=
  match podInFlight target.hashes rackPods with
  | some reason => some reason
  | none =>
    if 0 < target.replicas ∧ target.podManagementPolicy ≠ .orderedReady ∧ rackPods.length < target.replicas then
      some (.missing rackPods.length target.replicas)
    else none

theorem podInFlight_eq_none {target : Hashes} (hc : target.config ≠ "") : ∀ (pods : List Pod),
    podInFlight target pods = none ↔
      ∀ pod ∈ pods, pod.deletionTimestamp = none ∧ (pod.stale target = false → isPodReady pod = true) := by
  intro pods
  induction pods with
  | nil => simp [podInFlight]
  | cons pod rest ih =>
    rw [podInFlight, List.forall_mem_cons, ← ih, if_neg hc]
    cases hd : pod.deletionTimestamp with
    | some d => simp
    | none =>
      cases hs : pod.stale target with
      | true => simp
      | false => cases hr : isPodReady pod <;> simp

/-- The previous batch of a rack is finished: no pod terminates, every pod on the target's hashes
is Ready, and under parallel pod management all pods exist. -/
theorem restartInFlightReason_eq_none {target : RackRestartTarget} (hc : target.hashes.config ≠ "") {pods : List Pod} :
    restartInFlightReason pods target = none ↔
      (∀ pod ∈ pods, pod.deletionTimestamp = none ∧ (pod.stale target.hashes = false → isPodReady pod = true)) ∧
      (0 < target.replicas → target.podManagementPolicy ≠ .orderedReady → target.replicas ≤ pods.length) := by
  rw [← podInFlight_eq_none hc, restartInFlightReason]
  cases podInFlight target.hashes pods with
  | some r => simp
  | none =>
    simp only [true_and]
    constructor
    · intro h hr hp
      by_contra hlt
      rw [if_pos ⟨hr, hp, by omega⟩] at h
      cases h
    · intro h
      rw [if_neg]
      rintro ⟨hr, hp, hlt⟩
      have := h hr hp
      omega

/-! ## Readiness gates -/

def podHasReadinessGate (pod : Pod) : Bool := pod.readinessGates.any (· = aerospikeReadinessGateConditionType)

def findPodReadinessCondition (pod : Pod) : Option Bool :=
  (pod.conditions.find? (·.type = aerospikeReadinessGateConditionType)).map (·.status = .conditionTrue)

variable (cluster : Cluster)

/-- Pods without the gate count as satisfied. -/
def isPodReadinessGateSatisfied (pod : Pod) : Bool :=
  if !isReadinessGateEnabled cluster then true
  else if !podHasReadinessGate pod then true
  else (findPodReadinessCondition pod).getD false

/-- A running pod, not terminating, whose gate is not satisfied. -/
def gateUnsatisfied (pod : Pod) : Bool :=
  pod.phase = .running && pod.deletionTimestamp.isNone && !isPodReadinessGateSatisfied cluster pod

/-- The name of the first pod whose gate blocks the restart. -/
def anyPodGateUnsatisfied (rackPods : List Pod) : Option String :=
  (rackPods.find? (gateUnsatisfied cluster)).map (·.name)

/-! ## The migration check -/

structure MigrationCheckState where
  failures : Nat
  firstSeen : Time
  lastSeen : Time
  deriving DecidableEq, Repr

/-- The failure states by key, in memory. -/
abbrev MigrationChecks := List (String × MigrationCheckState)

def maxMigrationCheckFailures : Nat := 5

def migrationCheckFailureGrace : Time := maxPodUnstableDuration

/-- How long an untouched entry survives. -/
def migrationCheckStateTTL : Time := 60 * minute

/-- By cluster and rack. -/
def migrationCheckKey (rackID : Int) : String := cluster.uid ++ "/" ++ toString rackID

variable (checks : MigrationChecks)

/-- Drops the entries nothing has touched for the time to live. -/
def sweepMigrationCheckState (now : Time) : MigrationChecks :=
  checks.filter fun e => now - e.2.lastSeen ≤ migrationCheckStateTTL

/-- The state after one more failure, and whether the escape hatch is open: enough failures in a
row, over a long enough time. -/
def recordMigrationCheckFailure (cluster : Cluster) (rackID : Int) (now : Time) :
    MigrationChecks × Bool :=
  let key := migrationCheckKey cluster rackID
  let checks := sweepMigrationCheckState checks now
  let state := (checks.lookup key).getD ⟨0, now, now⟩
  let state := { state with failures := state.failures + 1, lastSeen := now }
  (DocTree.put checks key state,
    maxMigrationCheckFailures ≤ state.failures && migrationCheckFailureGrace ≤ now - state.firstSeen)

/-- The streak of one rack. -/
def clearMigrationCheckFailures (cluster : Cluster) (rackID : Int) : MigrationChecks :=
  checks.filter fun e => e.1 ≠ migrationCheckKey cluster rackID

/-! ## The gate -/

/-- Whether the next batch has to wait. `migration` is what the migration check says when it is
asked: an answer, or an error. -/
def isBatchBlocked (cluster : Cluster) (rackID : Int) (rackPods : List Pod) (target : RackRestartTarget)
    (migration : Except String Bool) (now : Time) : Bool × MigrationChecks :=
  if (restartInFlightReason rackPods target).isSome then (true, checks)
  else if isReadinessGateEnabled cluster then ((anyPodGateUnsatisfied cluster rackPods).isSome, checks)
  else match migration with
    | .error _ =>
      let (checks, hatchOpen) := recordMigrationCheckFailure checks cluster rackID now
      (!hatchOpen, checks)
    | .ok migrating => (migrating, clearMigrationCheckFailures checks cluster rackID)

theorem restartInFlightReason_of_not_blocked {checks : MigrationChecks} {cluster : Cluster} {rackID : Int}
    {rackPods : List Pod} {target : RackRestartTarget} {migration : Except String Bool} {now : Time}
    (h : (isBatchBlocked checks cluster rackID rackPods target migration now).1 = false) :
    restartInFlightReason rackPods target = none := by
  unfold isBatchBlocked at h
  split at h
  · cases h
  · rename_i hr
    simpa using hr

end Acko
