/-
The two-phase dynamic config update (`tryDynamicConfigUpdateBatch`): validate on every pod, then
apply pod by pod; where a pod fails, take back what was applied on it and then, last pod first, on
every pod before it.
-/
import AckoProofs.Kube.World

namespace Acko

/-! ## The environment of an update -/

/-- What an info command comes back with: an answer, or an error (also for a timeout or an answer
that misses the command). -/
inductive Reply
  | failed
  | answer (text : String)
  deriving DecidableEq, Repr

def Reply.isOk (r : Reply) : Bool := r = .answer "ok"

/-- Everything an update learns from outside, by call site, pod and index of the change: the nodes
the client knows (by host), whether the context has expired, the nodes' replies, and whether the
patches of the pod's annotation and status succeed. -/
structure DynEnv where
  nodes : List (Option String)
  validateExpired : String → Bool
  probeReply : String → Reply
  applyExpired : String → Bool
  commandExpired : String → Nat → Bool
  applyReply : String → Nat → Reply
  rollbackReply : String → Nat → Reply
  stampOk : String → Bool
  statusOk : String → Bool

def DynEnv.calm (hosts : List String) : DynEnv :=
  ⟨hosts.map some, fun _ => false, fun _ => .answer "ok", fun _ => false, fun _ _ => false, fun _ _ => .answer "ok",
    fun _ _ => .answer "ok", fun _ => true, fun _ => true⟩

/-! ## Applying -/

/-- A change applied on a node, with the command that takes it back. -/
structure AppliedChange where
  change : Change
  rollback : Option SetConfig

/-- A pod with its node and the changes applied there. -/
structure PodDynamicUpdate where
  podName : String
  host : String
  applied : List AppliedChange

/-- The changes applied on a node from index `i` on, and whether that is all of them. -/
def applyDynamicConfigOnPod (env : DynEnv) (pod : String) : Nat → List Change → List AppliedChange × Bool
  | _, [] => ([], true)
  | i, change :: rest =>
    if env.commandExpired pod i then ([], false) else
    match buildSetConfigCommand change with
    | .error _ => ([], false)
    | .ok _ =>
      if (env.applyReply pod i).isOk then
        let (applied, ok) := applyDynamicConfigOnPod env pod (i + 1) rest
        (⟨change, buildRollbackCommand change⟩ :: applied, ok)
      else ([], false)

/-- The acknowledged commands of the changes applied on a node. -/
def applyEffects (host : String) (applied : List AppliedChange) : List Effect :=
  applied.map fun ac => .setConfig host ⟨ac.change.param, ac.change.newValue.fmtV⟩

/-! ## Rolling back -/

structure RollbackResult where
  successCount : Nat
  failedCount : Nat
  failedPods : List String

def RollbackResult.HasFailures (r : RollbackResult) : Bool := 0 < r.failedCount

/-- The rollback of one pod, in the order of the given list of changes and their indices. -/
def rollbackLoop (env : DynEnv) (pod host : String) : List (AppliedChange × Nat) → RollbackResult × List Effect
  | [] => (⟨0, 0, []⟩, [])
  | (ac, i) :: rest =>
    let (r, effects) := rollbackLoop env pod host rest
    match ac.rollback with
    | none => ({ r with failedCount := r.failedCount + 1 }, effects)
    | some cmd =>
      if (env.rollbackReply pod i).isOk then
        ({ r with successCount := r.successCount + 1 }, .setConfig host cmd :: effects)
      else ({ r with failedCount := r.failedCount + 1 }, effects)

variable (env : DynEnv)

/-- Last change first. -/
def rollbackDynamicChangesWithResult (u : PodDynamicUpdate) : RollbackResult × List Effect :=
  rollbackLoop env u.podName u.host u.applied.zipIdx.reverse

/-- The rollback of a list of pods in the order given; a pod fails where one of its changes does. -/
def rollbackPods (env : DynEnv) : List PodDynamicUpdate → RollbackResult × List Effect
  | [] => (⟨0, 0, []⟩, [])
  | u :: rest =>
    let (podResult, podEffects) := rollbackDynamicChangesWithResult env u
    let (r, effects) := rollbackPods env rest
    (if podResult.HasFailures then ⟨r.successCount, r.failedCount + 1, u.podName :: r.failedPods⟩
     else { r with successCount := r.successCount + 1 }, podEffects ++ effects)

/-- Last pod first. -/
def rollbackDynamicChangesBatch (updates : List PodDynamicUpdate) : RollbackResult × List Effect :=
  rollbackPods env updates.reverse

/-! ## The two phases -/

/-- The outcome of an update. `stopped` is the pod on which the apply phase stopped with what had
been applied there, which the source only logs. -/
structure DynOutcome where
  allOk : Bool
  updates : List PodDynamicUpdate
  rollback : Option RollbackResult
  stopped : Option PodDynamicUpdate
  effects : List Effect

def DynOutcome.notTried : DynOutcome := ⟨false, [], none, none, []⟩

/-- The annotation and the status written for an updated pod, as far as the patches succeed. -/
def markEffects (desiredHash pod : String) : List Effect :=
  (if desiredHash ≠ "" ∧ env.stampOk pod then [.updatePodConfigHash pod desiredHash] else []) ++
    (if env.statusOk pod then [.dynamicConfigStatus pod "Applied"] else [])

/-- Phase 2 on the remaining targets, with the pods updated so far. -/
def applyPhase (env : DynEnv) (desiredHash : String) (changes : List Change) :
    List PodDynamicUpdate → List (String × String) → DynOutcome
  | done, [] => ⟨true, done, none, none, []⟩
  | done, (pod, host) :: rest =>
    if env.applyExpired pod then
      let (rb, undo) := rollbackDynamicChangesBatch env done
      ⟨false, [], some rb, none, undo⟩
    else
      let (applied, ok) := applyDynamicConfigOnPod env pod 0 changes
      let u : PodDynamicUpdate := ⟨pod, host, applied⟩
      if !ok then
        -- the result of the failed pod's own rollback is not kept
        let (_, undoPod) := rollbackDynamicChangesWithResult env u
        let (rb, undo) := rollbackDynamicChangesBatch env done
        ⟨false, [], some rb, some u, applyEffects host applied ++ (undoPod ++ undo)⟩
      else
        let r := applyPhase env desiredHash changes (done ++ [u]) rest
        { r with effects := applyEffects host applied ++ (markEffects env desiredHash pod ++ r.effects) }

/-- The node of a pod: the one whose host is the pod's IP. -/
def findNodeForPod (pod : Pod) : Option String :=
  if pod.podIP = "" then none
  else if env.nodes.any (· = some pod.podIP) then some pod.podIP else none

/-- The pods with their nodes; `none` where one of them has none. -/
def resolveTargets (env : DynEnv) : List Pod → Option (List (String × String))
  | [] => some []
  | pod :: rest => do
    let host ← findNodeForPod env pod
    let targets ← resolveTargets env rest
    some ((pod.name, host) :: targets)

/-- In time, well formed, and the node answers. -/
def validateDynamicConfigOnPod (changes : List Change) (pod : String) : Bool :=
  !env.validateExpired pod && validateDynamicChanges changes && env.probeReply pod ≠ .failed

variable (cluster : Cluster)

/-- Only if enabled and every change is dynamic. -/
def tryDynamicConfigUpdateBatch (pods : List Pod) (oldConfig newConfig : Config) (desiredHash : String) : DynOutcome :=
  if cluster.spec.enableDynamicConfigUpdate ≠ some true then .notTried else
  let diff := Diff oldConfig newConfig
  if !diff.HasChanges then .notTried else
  if diff.HasStaticChanges then .notTried else
  match resolveTargets env pods with
  | none => .notTried
  | some targets =>
    if !targets.all (fun t => validateDynamicConfigOnPod env diff.dynamic t.1) then .notTried
    else applyPhase env desiredHash diff.dynamic [] targets

/-! ## Specifications -/

/-- The changes applied on a pod are an initial piece of the update, each with the command that
takes it back; all of them where the pod succeeded. -/
theorem applyDynamicConfigOnPod_spec (pod : String) : ∀ (changes : List Change) (i : Nat), ∃ rest,
      (applyDynamicConfigOnPod env pod i changes).1.map (·.change) ++ rest = changes ∧
      ((applyDynamicConfigOnPod env pod i changes).2 = true → rest = []) ∧
      ∀ ac ∈ (applyDynamicConfigOnPod env pod i changes).1, ac.rollback = buildRollbackCommand ac.change := by
  intro changes
  induction changes with
  | nil => intro i; exact ⟨[], by simp [applyDynamicConfigOnPod]⟩
  | cons c changes ih =>
    intro i
    have stop : ∃ rest, (([] : List AppliedChange), false).1.map (·.change) ++ rest = c :: changes ∧
        ((([] : List AppliedChange), false).2 = true → rest = []) ∧
        ∀ ac ∈ (([] : List AppliedChange), false).1, ac.rollback = buildRollbackCommand ac.change :=
      ⟨c :: changes, by simp⟩
    unfold applyDynamicConfigOnPod
    split
    · exact stop
    · split
      · exact stop
      · split
        · obtain ⟨rest, h1, h2, h3⟩ := ih (i + 1)
          refine ⟨rest, by simpa using h1, h2, ?_⟩
          intro ac hac
          rcases List.mem_cons.1 hac with rfl | hac
          · rfl
          · exact h3 ac hac
        · exact stop

/-- The command that took back the change at an index, where the node acknowledged it. -/
def ackedRollback (pod : String) (e : AppliedChange × Nat) : Option SetConfig :=
  e.1.rollback.filter fun _ => (env.rollbackReply pod e.2).isOk

theorem rollbackLoop_cons (pod host : String) (e : AppliedChange × Nat) (l : List (AppliedChange × Nat)) :
    rollbackLoop env pod host (e :: l) =
      match ackedRollback env pod e with
      | some cmd => ({ (rollbackLoop env pod host l).1 with
          successCount := (rollbackLoop env pod host l).1.successCount + 1 },
          .setConfig host cmd :: (rollbackLoop env pod host l).2)
      | none => ({ (rollbackLoop env pod host l).1 with
          failedCount := (rollbackLoop env pod host l).1.failedCount + 1 }, (rollbackLoop env pod host l).2) := by
  obtain ⟨ac, i⟩ := e
  unfold ackedRollback
  rw [rollbackLoop]
  cases h : ac.rollback with
  | none => simp
  | some cmd => by_cases hr : (env.rollbackReply pod i).isOk <;> simp [hr, Option.filter]

/-- The commands a pod's rollback sends with effect are the acknowledged ones, and it has failures
exactly where a change is left without. -/
theorem rollbackLoop_spec (pod host : String) : ∀ (l : List (AppliedChange × Nat)),
    (rollbackLoop env pod host l).2 = (l.filterMap (ackedRollback env pod)).map (.setConfig host) ∧
    ((rollbackLoop env pod host l).1.HasFailures = false ↔ ∀ e ∈ l, (ackedRollback env pod e).isSome) := by
  intro l
  induction l with
  | nil => simp [rollbackLoop, RollbackResult.HasFailures]
  | cons e l ih =>
    rw [rollbackLoop_cons]
    simp only [RollbackResult.HasFailures] at ih ⊢
    cases h : ackedRollback env pod e with
    | none => simp [h, ih.1]
    | some cmd =>
      refine ⟨by simp [h, ih.1], ?_⟩
      simp only [List.forall_mem_cons, h, Option.isSome_some, true_and]
      exact ih.2

theorem rollbackPods_spec : ∀ (l : List PodDynamicUpdate),
    (rollbackPods env l).2 = (l.map fun u => (rollbackDynamicChangesWithResult env u).2).flatten ∧
    ((rollbackPods env l).1.HasFailures = false ↔
      ∀ u ∈ l, (rollbackDynamicChangesWithResult env u).1.HasFailures = false) := by
  intro l
  induction l with
  | nil => simp [rollbackPods, RollbackResult.HasFailures]
  | cons u l ih =>
    refine ⟨by simp [rollbackPods, ih.1], ?_⟩
    rw [List.forall_mem_cons, ← ih.2]
    simp only [rollbackPods]
    cases h : (rollbackDynamicChangesWithResult env u).1.HasFailures <;> simp [RollbackResult.HasFailures]

/-! ## The effects of an update -/

/-- The effects an update of these pods can have: acknowledged commands, and the desired hash and
the status of pods of the update. -/
def Effect.ofUpdate (desiredHash : String) (pods : List String) : Effect → Prop
  | .updatePodConfigHash pod hash => hash = desiredHash ∧ pod ∈ pods
  | .dynamicConfigStatus pod _ => pod ∈ pods
  | .setConfig _ _ => True
  | _ => False

variable {pods : List String}

theorem deletedPods_ofUpdate {desiredHash : String} {effects : List Effect}
    (h : ∀ e ∈ effects, e.ofUpdate desiredHash pods) : deletedPods effects = [] := by
  unfold deletedPods
  rw [List.filterMap_eq_nil_iff]
  intro e he
  have := h e he
  cases e with
  | delete _ _ => cases this
  | _ => rfl

theorem rollbackDynamicChangesWithResult_ofUpdate (u : PodDynamicUpdate) (hash : String)
    (pods : List String) : ∀ e ∈ (rollbackDynamicChangesWithResult env u).2, e.ofUpdate hash pods := by
  intro e he
  rw [rollbackDynamicChangesWithResult, (rollbackLoop_spec env u.podName u.host _).1] at he
  obtain ⟨cmd, _, rfl⟩ := List.mem_map.1 he
  trivial

theorem rollbackDynamicChangesBatch_ofUpdate (updates : List PodDynamicUpdate) (hash : String)
    (pods : List String) : ∀ e ∈ (rollbackDynamicChangesBatch env updates).2, e.ofUpdate hash pods := by
  intro e he
  rw [rollbackDynamicChangesBatch, (rollbackPods_spec env _).1] at he
  obtain ⟨l, hl, he⟩ := List.mem_flatten.1 he
  obtain ⟨u, _, rfl⟩ := List.mem_map.1 hl
  exact rollbackDynamicChangesWithResult_ofUpdate env u hash pods e he

theorem applyEffects_ofUpdate (host : String) (applied : List AppliedChange) (hash : String) (pods : List String) :
    ∀ e ∈ applyEffects host applied, e.ofUpdate hash pods := by
  intro e he
  obtain ⟨ac, _, rfl⟩ := List.mem_map.1 he
  trivial

theorem mem_markEffects {env : DynEnv} {hash pod : String} {e : Effect} : e ∈ markEffects env hash pod ↔
    e = .updatePodConfigHash pod hash ∧ hash ≠ "" ∧ env.stampOk pod = true ∨
    e = .dynamicConfigStatus pod "Applied" ∧ env.statusOk pod = true := by
  unfold markEffects
  rw [List.mem_append]
  refine or_congr ?_ ?_
  · split <;> simp_all
  · split <;> simp_all

theorem markEffects_ofUpdate (hash : String) {pod : String} (hp : pod ∈ pods) :
    ∀ e ∈ markEffects env hash pod, e.ofUpdate hash pods := by
  intro e he
  rcases mem_markEffects.1 he with ⟨rfl, _⟩ | ⟨rfl, _⟩
  · exact ⟨rfl, hp⟩
  · exact hp

/-! ## The apply phase in closed form -/

def DynEnv.takes (changes : List Change) (pod : String) : Bool :=
  !env.applyExpired pod && (applyDynamicConfigOnPod env pod 0 changes).2

def podUpdate (changes : List Change) (t : String × String) : PodDynamicUpdate :=
  ⟨t.1, t.2, (applyDynamicConfigOnPod env t.1 0 changes).1⟩

def completeEffects (hash : String) (changes : List Change) (t : String × String) : List Effect :=
  applyEffects t.2 (podUpdate env changes t).applied ++ markEffects env hash t.1

/-- The target at which the apply phase stops: nothing was tried there if the context had expired. -/
def stoppedUpdate (changes : List Change) (t : String × String) : Option PodDynamicUpdate :=
  if env.applyExpired t.1 then none else some (podUpdate env changes t)

def stopEffects (stopped : Option PodDynamicUpdate) : List Effect :=
  stopped.toList.flatMap fun u => applyEffects u.host u.applied ++ (rollbackDynamicChangesWithResult env u).2

theorem first_refusal {α : Type} (takes : α → Bool) (l : List α) : (∀ a ∈ l, takes a = true) ∨
    ∃ pre a post, l = pre ++ a :: post ∧ (∀ b ∈ pre, takes b = true) ∧ takes a = false := by
  induction l with
  | nil => exact Or.inl (by simp)
  | cons a rest ih =>
    cases ha : takes a with
    | false => exact Or.inr ⟨[], a, rest, rfl, by simp, ha⟩
    | true =>
      rcases ih with h | ⟨pre, b, post, rfl, hpre, hb⟩
      · exact Or.inl (List.forall_mem_cons.2 ⟨ha, h⟩)
      · exact Or.inr ⟨a :: pre, b, post, rfl, List.forall_mem_cons.2 ⟨ha, hpre⟩, hb⟩

theorem stopEffects_ofUpdate (stopped : Option PodDynamicUpdate) (hash : String)
    (pods : List String) : ∀ e ∈ stopEffects env stopped, e.ofUpdate hash pods := by
  intro e he
  obtain ⟨u, _, he⟩ := List.mem_flatMap.1 he
  rcases List.mem_append.1 he with he | he
  · exact applyEffects_ofUpdate _ _ hash pods e he
  · exact rollbackDynamicChangesWithResult_ofUpdate env u hash pods e he

section ApplyPhase

variable (env : DynEnv) (hash : String) (changes : List Change) {t : String × String}

theorem applyPhase_cons (ht : env.takes changes t.1 = true) (done : List PodDynamicUpdate)
    (rest : List (String × String)) :
    applyPhase env hash changes done (t :: rest) =
      { applyPhase env hash changes (done ++ [podUpdate env changes t]) rest with
        effects := completeEffects env hash changes t ++
          (applyPhase env hash changes (done ++ [podUpdate env changes t]) rest).effects } := by
  obtain ⟨hexp, hok⟩ := Bool.and_eq_true_iff.1 ht
  rw [Bool.not_eq_true'] at hexp
  rw [applyPhase, if_neg (by simp [hexp])]
  simp only [hok]
  simp [podUpdate, completeEffects]

theorem applyPhase_ok : ∀ (targets : List (String × String)) (done : List PodDynamicUpdate),
    (∀ t ∈ targets, env.takes changes t.1 = true) →
    applyPhase env hash changes done targets = ⟨true, done ++ targets.map (podUpdate env changes), none, none,
      targets.flatMap (completeEffects env hash changes)⟩
  | [], done, _ => by simp [applyPhase]
  | t :: rest, done, h => by
    rw [applyPhase_cons env hash changes (h t List.mem_cons_self),
      applyPhase_ok rest _ fun u hu => h u (List.mem_cons_of_mem _ hu)]
    simp

/-- Where a target does not, the targets before it have been updated and marked, and are rolled
back after it. The marks stay. -/
theorem applyPhase_stop (ht : env.takes changes t.1 = false) (post : List (String × String)) :
    ∀ (pre : List (String × String)) (done : List PodDynamicUpdate), (∀ t ∈ pre, env.takes changes t.1 = true) →
    applyPhase env hash changes done (pre ++ t :: post) = ⟨false, [],
      some (rollbackDynamicChangesBatch env (done ++ pre.map (podUpdate env changes))).1, stoppedUpdate env changes t,
      pre.flatMap (completeEffects env hash changes) ++ (stopEffects env (stoppedUpdate env changes t) ++
        (rollbackDynamicChangesBatch env (done ++ pre.map (podUpdate env changes))).2)⟩
  | [], done, _ => by
    rw [List.nil_append, applyPhase]
    unfold stoppedUpdate
    by_cases hexp : env.applyExpired t.1 = true
    · simp [hexp, stopEffects]
    · have hok : (applyDynamicConfigOnPod env t.1 0 changes).2 = false := by
        simpa [DynEnv.takes, hexp] using ht
      simp [hexp, hok, stopEffects, podUpdate]
  | u :: pre, done, h => by
    rw [List.cons_append, applyPhase_cons env hash changes (h u List.mem_cons_self),
      applyPhase_stop ht post pre _ fun v hv => h v (List.mem_cons_of_mem _ hv)]
    simp

theorem applyPhase_allOk (targets : List (String × String)) (done : List PodDynamicUpdate) :
    (applyPhase env hash changes done targets).allOk = true ↔ ∀ t ∈ targets, env.takes changes t.1 = true := by
  constructor
  · intro hok
    rcases first_refusal (fun t => env.takes changes t.1) targets with h | ⟨pre, t, post, rfl, hpre, ht⟩
    · exact h
    · rw [applyPhase_stop env hash changes ht post pre done hpre] at hok
      cases hok
  · intro h
    rw [applyPhase_ok env hash changes targets done h]

theorem completeEffects_ofUpdate (ht : t.1 ∈ pods) :
    ∀ e ∈ completeEffects env hash changes t, e.ofUpdate hash pods := by
  intro e he
  rcases List.mem_append.1 he with he | he
  · exact applyEffects_ofUpdate _ _ hash pods e he
  · exact markEffects_ofUpdate env hash ht e he

theorem applyPhase_ofUpdate (targets : List (String × String)) (done : List PodDynamicUpdate)
    (hp : ∀ t ∈ targets, t.1 ∈ pods) :
    ∀ e ∈ (applyPhase env hash changes done targets).effects, e.ofUpdate hash pods := by
  intro e he
  rcases first_refusal (fun t => env.takes changes t.1) targets with h | ⟨pre, t, post, rfl, hpre, ht⟩
  · rw [applyPhase_ok env hash changes targets done h] at he
    obtain ⟨t, ht, he⟩ := List.mem_flatMap.1 he
    exact completeEffects_ofUpdate env hash changes (hp t ht) e he
  · rw [applyPhase_stop env hash changes ht post pre done hpre] at he
    rcases List.mem_append.1 he with he | he
    · obtain ⟨t, ht, he⟩ := List.mem_flatMap.1 he
      exact completeEffects_ofUpdate env hash changes (hp t (List.mem_append_left _ ht)) e he
    · rcases List.mem_append.1 he with he | he
      · exact stopEffects_ofUpdate env _ hash pods e he
      · exact rollbackDynamicChangesBatch_ofUpdate env _ hash pods e he

theorem applyPhase_stamped (hh : hash ≠ "") (targets : List (String × String)) (done : List PodDynamicUpdate)
    (hok : (applyPhase env hash changes done targets).allOk = true) (ht : t ∈ targets)
    (hstamp : env.stampOk t.1 = true) :
    Effect.updatePodConfigHash t.1 hash ∈ (applyPhase env hash changes done targets).effects := by
  rw [applyPhase_ok env hash changes targets done ((applyPhase_allOk env hash changes targets done).1 hok)]
  refine List.mem_flatMap.2 ⟨t, ht, List.mem_append_right _ (List.mem_append_left _ ?_)⟩
  rw [if_pos ⟨hh, hstamp⟩]
  exact List.mem_singleton.2 rfl

end ApplyPhase

/-! ## The whole update -/

theorem findNodeForPod_eq {env : DynEnv} {pod : Pod} {host : String} (h : findNodeForPod env pod = some host) :
    host = pod.podIP := by
  unfold findNodeForPod at h
  split at h
  · cases h
  · split at h
    · cases h; rfl
    · cases h

theorem resolveTargets_eq (env : DynEnv) : ∀ (pods : List Pod), resolveTargets env pods =
    if pods.all fun p => (findNodeForPod env p).isSome then some (pods.map fun p => (p.name, p.podIP)) else none
  | [] => rfl
  | pod :: rest => by
    rw [resolveTargets, resolveTargets_eq env rest, List.all_cons]
    cases hn : findNodeForPod env pod with
    | none => simp
    | some host =>
      rw [findNodeForPod_eq hn]
      cases rest.all fun p => (findNodeForPod env p).isSome <;> rfl

/-- The update gets as far as its apply phase: it is enabled, there are changes and all of them are
dynamic, and every pod has a node and passes phase 1. -/
def reachesApply (pods : List Pod) (oldConfig newConfig : Config) : Bool :=
  cluster.spec.enableDynamicConfigUpdate = some true && (Diff oldConfig newConfig).HasChanges &&
    !(Diff oldConfig newConfig).HasStaticChanges && (pods.all fun p => (findNodeForPod env p).isSome) &&
    pods.all fun p => validateDynamicConfigOnPod env (Diff oldConfig newConfig).dynamic p.name

theorem reachesApply_eq_true {env : DynEnv} {cluster : Cluster} {pods : List Pod} {oldConfig newConfig : Config} :
    reachesApply env cluster pods oldConfig newConfig = true ↔
      cluster.spec.enableDynamicConfigUpdate = some true ∧ (Diff oldConfig newConfig).HasChanges = true ∧
      (Diff oldConfig newConfig).HasStaticChanges = false ∧ (∀ p ∈ pods, (findNodeForPod env p).isSome = true) ∧
      ∀ p ∈ pods, validateDynamicConfigOnPod env (Diff oldConfig newConfig).dynamic p.name = true := by
  simp [reachesApply, and_assoc]

theorem tryDynamicConfigUpdateBatch_eq (pods : List Pod) (oldConfig newConfig : Config) (hash : String) :
    tryDynamicConfigUpdateBatch env cluster pods oldConfig newConfig hash =
      if reachesApply env cluster pods oldConfig newConfig then
        applyPhase env hash (Diff oldConfig newConfig).dynamic [] (pods.map fun p => (p.name, p.podIP))
      else .notTried := by
  unfold tryDynamicConfigUpdateBatch reachesApply
  rw [resolveTargets_eq]
  by_cases hen : cluster.spec.enableDynamicConfigUpdate = some true
  · cases hch : (Diff oldConfig newConfig).HasChanges
    · simp [hch]
    · cases hst : (Diff oldConfig newConfig).HasStaticChanges
      · cases hn : pods.all fun p => (findNodeForPod env p).isSome
        · simp [hch, hst]
        · have hmap : (pods.map fun p => (p.name, p.podIP)).all
              (fun t => validateDynamicConfigOnPod env (Diff oldConfig newConfig).dynamic t.1) =
              pods.all fun p => validateDynamicConfigOnPod env (Diff oldConfig newConfig).dynamic p.name := by
            rw [List.all_map]
            rfl
          cases hv : pods.all fun p => validateDynamicConfigOnPod env (Diff oldConfig newConfig).dynamic p.name <;>
            simp only [hen, hch, hst, if_true, hmap, hv] <;> rfl
      · simp [hst]
  · simp [hen]

theorem tryDynamicConfigUpdateBatch_ofUpdate (pods : List Pod) (oldConfig newConfig : Config) (hash : String) :
    ∀ e ∈ (tryDynamicConfigUpdateBatch env cluster pods oldConfig newConfig hash).effects,
      e.ofUpdate hash (pods.map (·.name)) := by
  intro e he
  rw [tryDynamicConfigUpdateBatch_eq] at he
  split at he
  · refine applyPhase_ofUpdate env hash _ _ _ ?_ e he
    intro t ht
    obtain ⟨p, hp, rfl⟩ := List.mem_map.1 ht
    exact List.mem_map_of_mem hp
  · cases he

theorem tryDynamicConfigUpdateBatch_allOk (pods : List Pod) (oldConfig newConfig : Config) (hash : String) :
    (tryDynamicConfigUpdateBatch env cluster pods oldConfig newConfig hash).allOk = true ↔
      reachesApply env cluster pods oldConfig newConfig = true ∧
      ∀ p ∈ pods, env.takes (Diff oldConfig newConfig).dynamic p.name = true := by
  rw [tryDynamicConfigUpdateBatch_eq]
  split
  · rename_i h
    rw [applyPhase_allOk, List.forall_mem_map]
    exact (and_iff_right h).symm
  · rename_i h
    exact iff_of_false (by simp [DynOutcome.notTried]) fun hr => h hr.1

end Acko
