/-
The circuit breaker (`handleCircuitBreakerBackoff`, `resetFailedReconcileCount`): a pass that finds
the counter at its limit returns before it does any work, and the counter is reset only by a pass
that got through its work, or on the way out of a pause.
-/
import AckoProofs.Lib.Run
import AckoProofs.Reconcile.Cluster
import AckoProofs.Restart.Result

namespace Acko

open Shared (Triple Within get_quiet)

/-! ## Recovery -/

/-- Neither deleted nor paused by the user, with the counter at the limit. -/
structure ClusterObject.Tripped (o : ClusterObject) : Prop where
  alive : o.deleting = false
  unpaused : o.spec.paused ≠ some true
  count : maxFailedReconciles ≤ o.status.failedReconcileCount

/-- A new spec that does not pause the cluster. -/
def UserEdit.Correction : UserEdit → Prop
  | .spec s => s.paused ≠ some true
  | _ => False

/-- Every API and Aerospike call of a pass succeeds, whatever it answers. -/
structure ReconcileEnv.AllOk (env : ReconcileEnv) : Prop where
  template : ∀ err, env.template ≠ .failed err
  services : env.servicesError = none
  detect : env.detectError = none
  scale : env.scale.AllOk
  auxiliary : env.auxiliaryError = none
  operations : ∀ err, env.operations ≠ .error err
  restart : ∀ id, (env.restart id).AllOk
  acl : ∀ err, env.acl ≠ .error err
  pods : ∀ k err, env.status.pods k ≠ .error err

theorem ReconcileEnv.calm_allOk (hosts : List String) : (ReconcileEnv.calm hosts).AllOk where
  template _ h := nomatch h
  services := rfl
  detect := rfl
  scale := ScaleEnv.calm_allOk
  auxiliary := rfl
  operations _ h := nomatch h
  restart _ := RestartEnv.calm_allOk _ _
  acl _ h := nomatch h
  pods _ _ h := nomatch h

/-- The moves of a recovery: corrections of the spec, and passes whose calls all succeed. -/
def ReconcileStep.Recovery : ReconcileStep → Prop
  | .edit d => d.Correction
  | .reconcile env turns => env.AllOk ∧ ∀ t ∈ turns, t.fault = none ∧ ∀ d ∈ t.edits, d.Correction

/-- Some recovery brings the counter back to zero. -/
def Recoverable (w : OpWorld) : Prop :=
  ∃ l, (∀ a ∈ l, ReconcileStep.Recovery a) ∧ ∃ t, Lts.run ReconcileStep.step w l = some t ∧
    t.obj.status.failedReconcileCount = 0

/-! ## A tripped breaker stays tripped -/

/-- Tripped, and not on the way out of a pause. -/
def Stuck (o : ClusterObject) (_ : List OpEntry) : Prop := o.Tripped ∧ o.status.phase ≠ .paused

theorem Stuck.edits : Shared.KeptByEdits applyEdit UserEdit.Correction Stuck := by
  rintro o l (s | s | _) hd ⟨ht, hp⟩
  · exact ⟨⟨ht.alive, hd, ht.count⟩, hp⟩
  · cases hd
  · cases hd

variable (cluster : ClusterObject)

theorem handleCircuitBreakerBackoff_stuck :
    Shared.Keeps UserEdit.Correction Stuck (handleCircuitBreakerBackoff cluster) := by
  unfold handleCircuitBreakerBackoff
  simp only
  split
  · refine .bind (setPhase_keeps Stuck.edits ?_) fun _ => .pure
    rintro o l pending ⟨ht, _⟩
    exact ⟨⟨ht.alive, ht.unpaused, ht.count⟩, by simp⟩
  · exact .pure

theorem addFinalizer_stuck (copy : Shared.Copy ClusterObject) : Triple
    (fun w => Within UserEdit.Correction Stuck w ∧ w.obj = copy.val ∧ w.version = copy.version)
    (addFinalizer copy) fun _ => Within UserEdit.Correction Stuck := by
  refine .bind (Shared.put_triple (Q := fun _ => Within UserEdit.Correction Stuck) Stuck.edits.stable
    (fun _ _ hw => hw) ?_) ?_
  · rintro w ⟨⟨ht, hp⟩, hA⟩ hobj
    rw [hobj] at ht hp
    exact ⟨⟨⟨ht.alive, ht.unpaused, ht.count⟩, hp⟩, hA⟩
  · rintro ((_ | _) | _) <;> exact .pure fun _ hw => hw

/-- A pass that reads a stuck object has nothing but the finalizer and the backoff phase to write. -/
theorem reconcile_stuck (env : ReconcileEnv) : Shared.Keeps UserEdit.Correction Stuck (reconcile env) := by
  refine reconcile_keeps Stuck.edits (fun _ _ h => h) fun copy => ?_
  rintro w ⟨hw, hobj, hver⟩
  obtain ⟨ht, hp⟩ := hw.1
  rw [hobj] at ht hp
  unfold reconcileRead
  simp only [ht.alive, Bool.false_eq_true, if_false, if_neg ht.unpaused, if_neg hp]
  split
  · exact addFinalizer_stuck copy w ⟨hw, hobj, hver⟩
  · unfold reconcileActive
    rw [if_pos ht.count]
    exact handleCircuitBreakerBackoff_stuck _ w hw

theorem step_stuck {w t : OpWorld} {a : ReconcileStep} (ha : a.Recovery) (hw : Stuck w.obj w.history)
    (h : ReconcileStep.step w a = some t) : Stuck t.obj t.history := by
  cases a with
  | edit d =>
    cases h
    exact Stuck.edits.editAll [d] w (fun e he => by rw [List.mem_singleton.1 he]; exact ha) hw
  | reconcile env turns =>
    cases h
    exact (reconcile_stuck env { w with turns := turns } ⟨hw, fun u hu => (ha.2 u hu).2⟩).1

theorem run_stuck {l : List ReconcileStep} (hl : ∀ a ∈ l, a.Recovery) {w t : OpWorld} (hw : Stuck w.obj w.history)
    (h : Lts.run ReconcileStep.step w l = some t) : Stuck t.obj t.history :=
  Lts.run_invariant (I := fun w : OpWorld => Stuck w.obj w.history) (C := fun _ a => a.Recovery)
    (fun _ _ _ hw ha h => step_stuck ha hw h) hw (.of_forall fun a ha _ => hl a ha) h

/-! ## A pass that gets through resets the counter -/

/-- No edits or faults to come, and the counter at `n`. -/
structure Counting (n : Nat) (w : OpWorld) : Prop where
  quiet : w.turns = []
  count : w.obj.status.failedReconcileCount = n

section Reset

variable {n : Nat} {env : ReconcileEnv}

theorem setPhase_counting (phase : Phase) (reason : String) :
    Triple (Counting n) (setPhase cluster phase reason) fun r w =>
      r = (.done, cluster.withPhase phase reason) ∧ Counting n w := by
  refine Shared.Triple.bind (modifyWithRetry_quiet (Q := Counting n) (fun w hw => hw.quiet) (fun w hw _ => hw) ?_) ?_
  · intro w new events hw hf
    unfold phaseWrite at hf
    split at hf
    · cases hf
    · cases hf
      exact ⟨hw.quiet, hw.count⟩
  · intro r
    refine .assume ?_
    rintro ⟨o, rfl⟩
    exact .pure fun w hw => ⟨rfl, hw⟩

theorem setConfigDegraded_counting (failedPods : List String) :
    Triple (Counting n) (setConfigDegraded failedPods) fun _ => Counting n := by
  refine Shared.Triple.bind (Q := fun _ => Counting n) (get_quiet (fun w hw => hw.quiet) fun w hw => hw) ?_
  rintro (err | base)
  · exact .pure fun w hw => hw
  · refine Shared.Triple.bind (Q := fun _ => Counting n)
      (Shared.patch_quiet (fun w hw => hw.quiet) fun w hw => ⟨hw.quiet, hw.count⟩) fun _ => ?_
    exact .pure fun w hw => hw

theorem emit_counting (events : List PassEvent) :
    Triple (Counting n) (Shared.emit events) fun _ => Counting n :=
  .emit fun _ hw => ⟨hw.quiet, hw.count⟩

theorem replayEffects_counting (rackID : Int) : ∀ (effects : List Effect),
    Triple (Counting n) (replayEffects rackID effects) fun _ => Counting n
  | [] => .pure fun _ hw => hw
  | e :: rest => by
    have ih := replayEffects_counting rackID rest
    cases e with
    | setConfigDegraded failedPods => exact .bind (setConfigDegraded_counting failedPods) fun _ => ih
    | _ => exact .bind (emit_counting _) fun _ => ih

theorem reportMigration_counting (reason : String) (events : List ScaleEvent) :
    Triple (Counting n) (reportMigration cluster reason events) fun r w => r.1 = .done ∧ Counting n w := by
  unfold reportMigration
  split
  · refine (setPhase_counting cluster _ _).post ?_
    rintro r w ⟨rfl, hw⟩
    exact ⟨rfl, hw⟩
  · exact .pure fun _ hw => ⟨rfl, hw⟩

theorem announceScaling_counting :
    Triple (Counting n) (announceScaling env cluster) fun r w => r.1 = .done ∧ Counting n w := by
  have hset : ∀ phase reason, Triple (Counting n) (setPhase cluster phase reason) fun r w =>
      r.1 = .done ∧ Counting n w := by
    intro phase reason
    refine (setPhase_counting cluster phase reason).post ?_
    rintro r w ⟨rfl, hw⟩
    exact ⟨rfl, hw⟩
  unfold announceScaling
  split
  · exact hset _ _
  · exact hset _ _
  · exact .pure fun _ hw => ⟨rfl, hw⟩

theorem ScaleEnv.AllOk.phasesDone {env : ScaleEnv} (h : env.AllOk) : env.phasesDone.AllOk where
  sts name := ⟨(h.sts name).get, (h.sts name).owner, (h.sts name).create, (h.sts name).migration, rfl,
    (h.sts name).list, (h.sts name).relist, (h.sts name).patch, (h.sts name).delete, (h.sts name).cleanupList⟩
  start := h.start
  configMap := h.configMap
  list := h.list
  migration := h.migration
  phase := rfl

theorem reconcileRacksLoop_counting (h : env.AllOk) : ∀ (racks : List (Rack × Nat)) (cluster : ClusterObject),
    Triple (Counting n) (reconcileRacksLoop env racks cluster) fun r w =>
      (∃ deferred, r.1 = .ok deferred) ∧ Counting n w
  | [], _ => .pure fun _ hw => ⟨⟨_, rfl⟩, hw⟩
  | r :: rest, cluster => by
    have hrack : ∃ deferred, (reconcileRack env.scale.phasesDone cluster.toCluster env.pods env.hashesOf env.objs
        (getRacks cluster.toCluster) r).1 = .ok deferred := by
      unfold reconcileRack
      rw [h.scale.phasesDone.configMap]
      exact reconcileStatefulSet_succeeds (h.scale.phasesDone.sts _) ..
    unfold reconcileRacksLoop
    generalize reconcileRack env.scale.phasesDone cluster.toCluster env.pods env.hashesOf env.objs
      (getRacks cluster.toCluster) r = out at hrack
    obtain ⟨result, events⟩ := out
    obtain ⟨deferred, rfl⟩ : ∃ deferred, result = .ok deferred := hrack
    refine Shared.Triple.bind (emit_counting _) fun _ => .bind (reportMigration_counting _ _ _) ?_
    rintro ⟨reply, cluster⟩
    refine .assume ?_
    rintro rfl
    refine Shared.Triple.bind (reconcileRacksLoop_counting h rest cluster) ?_
    rintro ⟨result, cluster⟩
    refine .assume ?_
    rintro ⟨d, rfl⟩
    exact .pure fun w hw => ⟨⟨_, rfl⟩, hw⟩

theorem reconcileRemovedRacks_counting (h : env.AllOk) (cluster : ClusterObject) :
    Triple (Counting n) (reconcileRemovedRacks env cluster) fun r w =>
      (∃ deferred, r.1 = .ok deferred) ∧ Counting n w := by
  have hcleanup := cleanupRemovedRacks_succeeds h.scale.phasesDone cluster.toCluster env.pods env.objs env.checks
    (getRacks cluster.toCluster)
  unfold reconcileRemovedRacks
  generalize cleanupRemovedRacks env.scale.phasesDone cluster.toCluster env.pods env.objs env.checks
    (getRacks cluster.toCluster) = out at hcleanup
  obtain ⟨result, checks, events⟩ := out
  refine Shared.Triple.bind (reportMigration_counting _ _ _) ?_
  rintro ⟨reply, cluster⟩
  refine .assume ?_
  rintro rfl
  exact Shared.Triple.bind (emit_counting _) fun _ => .pure fun _ hw => ⟨hcleanup, hw⟩

theorem restartRacks_counting (h : env.AllOk) : ∀ (racks : List Rack) (checks : MigrationChecks)
    (cluster : ClusterObject), Triple (Counting n) (restartRacks env racks checks cluster) fun r w =>
      (∃ result, r.1 = .ok result) ∧ Counting n w
  | [], _, _ => .pure fun _ hw => ⟨⟨_, rfl⟩, hw⟩
  | rack :: rest, checks, cluster => by
    obtain ⟨restarted, hr⟩ := reconcileRollingRestart_succeeds (env.restart rack.id) checks cluster.toCluster rack.id
      (env.loopPods rack.id) (h.restart rack.id) (env.loopSts rack.id)
    change (env.restartPass checks cluster.toCluster rack).result = _ at hr
    unfold restartRacks
    simp only [hr]
    refine Shared.Triple.bind (replayEffects_counting _ _) fun _ => ?_
    cases restarted with
    | false => exact restartRacks_counting h rest _ _
    | true =>
      refine Shared.Triple.bind (setPhase_counting _ _ _) fun r => .assume ?_
      rintro rfl
      exact .pure fun w hw => ⟨⟨_, rfl⟩, hw⟩

theorem updateStatusAndPhase_counting (h : env.AllOk) (phase : Phase) (reason : String) :
    Triple (Counting n) (updateStatusAndPhase env.status phase reason) fun r w =>
      r = .ok () ∧ Counting n w := by
  have hpublish : ∀ pods (o : ClusterObject),
      (publishStatus phase reason pods env.status.now o).status.failedReconcileCount =
        o.status.failedReconcileCount := by
    intro pods o
    unfold publishStatus
    simp only
    split <;> rfl
  refine Shared.Triple.bind (Q := fun r w => Counting n w ∧ r = .ok ⟨w.obj, w.version⟩)
    (get_quiet (fun w hw => hw.quiet) fun w hw => ⟨hw, rfl⟩) ?_
  rintro (err | copy) w ⟨hw, hr⟩
  · cases hr
  · cases hr
    simp only
    cases hp : env.status.pods 0 with
    | error err => exact absurd hp (h.pods 0 err)
    | ok pods =>
      simp only
      split
      · exact ⟨rfl, hw⟩
      · refine Shared.retryOnConflict_first (P := fun v => v = w) (Q := fun r v => r = .ok () ∧ Counting n v) ?_ _ w rfl
        refine Shared.Triple.bind (Q := fun r v => r = .ok () ∧ Counting n v) (Shared.put_quiet ?_ ?_ ?_) ?_
        · rintro v rfl
          exact hw.quiet
        · rintro v rfl
          rfl
        · rintro v rfl
          exact ⟨rfl, hw.quiet, (hpublish _ _).trans hw.count⟩
        · intro r
          refine .assume ?_
          rintro rfl
          exact .pure fun v hv => ⟨by simp, rfl, hv⟩

theorem finalizeReconcile_counting (h : env.AllOk) : Triple (Counting n) (finalizeReconcile env) fun r w =>
    (∃ result, r = .ok result) ∧ Counting n w := by
  unfold finalizeReconcile
  refine Shared.Triple.bind (updateStatusAndPhase_counting h _ _) fun r => .assume ?_
  rintro rfl
  cases hacl : env.acl with
  | error err => exact absurd hacl (h.acl err)
  | ok synced =>
    refine Shared.Triple.bind (Q := fun _ => Counting n) (get_quiet (fun w hw => hw.quiet) fun w hw => hw) ?_
    rintro (err | copy)
    · exact .pure fun w hw => ⟨⟨_, rfl⟩, hw⟩
    · exact .pure fun w hw => ⟨⟨_, rfl⟩, hw⟩

theorem reconcileACLAndStatus_counting (h : env.AllOk) (cluster : ClusterObject) :
    Triple (Counting n) (reconcileACLAndStatus env cluster) fun r w =>
      (∃ result, r = .ok result) ∧ Counting n w := by
  have hacl : Triple (Counting n) (announceACL cluster) fun r w => r.1 = .done ∧ Counting n w := by
    unfold announceACL
    split
    · refine (setPhase_counting cluster _ _).post ?_
      rintro r w ⟨rfl, hw⟩
      exact ⟨rfl, hw⟩
    · exact .pure fun _ hw => ⟨rfl, hw⟩
  refine Shared.Triple.bind hacl ?_
  rintro ⟨reply, c⟩
  refine .assume ?_
  rintro rfl
  exact Shared.Triple.bind (emit_counting _) fun _ => finalizeReconcile_counting h

theorem reconcileResources_counting (h : env.AllOk) (checks : MigrationChecks) (cluster : ClusterObject) :
    Triple (Counting n) (reconcileResources env checks cluster) fun r w =>
      (∃ result, r = .ok result) ∧ Counting n w := by
  unfold reconcileResources
  refine Shared.Triple.bind (emit_counting _) fun _ => ?_
  rw [h.auxiliary]
  refine Shared.Triple.bind (emit_counting _) fun _ => ?_
  cases hop : env.operations with
  | error err => exact absurd hop (h.operations err)
  | ok active =>
    cases active with
    | true => exact .pure fun _ hw => ⟨⟨_, rfl⟩, hw⟩
    | false =>
      refine Shared.Triple.bind (emit_counting _) fun _ => .bind (restartRacks_counting h _ _ _) ?_
      rintro ⟨result, cluster⟩
      refine .assume ?_
      rintro ⟨r, rfl⟩
      cases r with
      | some r => exact .pure fun w hw => ⟨⟨_, rfl⟩, hw⟩
      | none => exact reconcileACLAndStatus_counting h cluster

theorem reconcileCluster_counting (h : env.AllOk) (cluster : ClusterObject) :
    Triple (Counting n) (reconcileCluster env cluster) fun r w =>
      (∃ result, r = .ok result) ∧ Counting n w := by
  unfold reconcileCluster
  rw [h.detect]
  refine Shared.Triple.bind (announceScaling_counting cluster) ?_
  rintro ⟨reply, cluster⟩
  refine .assume ?_
  rintro rfl
  refine Shared.Triple.bind (reconcileRacksLoop_counting h _ cluster) ?_
  rintro ⟨result, cluster⟩
  refine .assume ?_
  rintro ⟨deferred, rfl⟩
  cases deferred with
  | true => exact .pure fun w hw => ⟨⟨_, rfl⟩, hw⟩
  | false =>
    refine Shared.Triple.bind (reconcileRemovedRacks_counting h cluster) ?_
    rintro ⟨result, checks, cluster⟩
    refine .assume ?_
    rintro ⟨deferred, rfl⟩
    cases deferred with
    | true => exact .pure fun w hw => ⟨⟨_, rfl⟩, hw⟩
    | false => exact reconcileResources_counting h checks cluster

theorem resetFailedReconcileCount_counting :
    Triple (Counting n) resetFailedReconcileCount fun _ => Counting 0 := by
  refine Shared.modify_quiet (fun w hw => hw.quiet) (fun w hw hf => ⟨hw.quiet, ?_⟩) fun w new events hw hf =>
    ⟨hw.quiet, ?_⟩
  · unfold resetWrite at hf
    split at hf
    · rename_i h
      exact h.1
    · cases hf
  · unfold resetWrite at hf
    split at hf
    · cases hf
    · cases hf
      split <;> rfl

theorem reconcileSpec_resets (h : env.AllOk) (read : ObjectSpec) (cluster : ClusterObject) :
    Triple (Counting cluster.status.failedReconcileCount) (reconcileSpec env read cluster) fun _ =>
      Counting 0 := by
  have hprogress : Triple (Counting cluster.status.failedReconcileCount) (announceProgress cluster) fun r w =>
      (r.1 = .done ∧ r.2.status.failedReconcileCount = cluster.status.failedReconcileCount) ∧
        Counting cluster.status.failedReconcileCount w := by
    unfold announceProgress
    split
    · refine (setPhase_counting cluster _ _).post ?_
      rintro r w ⟨rfl, hw⟩
      exact ⟨⟨rfl, rfl⟩, hw⟩
    · exact .pure fun _ hw => ⟨⟨rfl, rfl⟩, hw⟩
  refine Shared.Triple.bind hprogress ?_
  rintro ⟨reply, announced⟩
  refine .assume ?_
  rintro ⟨rfl, hcount⟩
  refine Shared.Triple.bind (emit_counting _) fun _ => ?_
  rw [h.services]
  refine Shared.Triple.bind (emit_counting _) fun _ => .bind (reconcileCluster_counting h announced) fun r => .assume ?_
  rintro ⟨result, rfl⟩
  simp only [show announced.status.failedReconcileCount = cluster.status.failedReconcileCount from hcount]
  split
  · exact Shared.Triple.bind resetFailedReconcileCount_counting fun _ => .pure fun _ hw => hw
  · refine .pure fun w hw => ⟨hw.quiet, ?_⟩
    rw [hw.count]
    omega

/-- A pass below the limit whose calls all succeed, and which does not wait for its template, leaves
the counter at zero. -/
theorem reconcileActive_resets (h : env.AllOk) (htemplate : env.template ≠ .requeue) {cluster : ClusterObject}
    (hcount : cluster.status.failedReconcileCount < maxFailedReconciles)
    (hphase : cluster.status.phase ≠ .configDegraded) :
    Triple (Counting cluster.status.failedReconcileCount) (reconcileActive env cluster) fun _ => Counting 0 := by
  unfold reconcileActive
  rw [if_neg (by omega), if_neg hphase]
  split
  · exact reconcileSpec_resets h _ cluster
  · split
    · rename_i err herr
      exact absurd herr (h.template err)
    · rename_i hreq
      exact absurd hreq htemplate
    · rename_i apply _
      exact reconcileSpec_resets h _ (cluster.withTemplate apply)

theorem reconcile_quiet {w : OpWorld} {Q : ReconcileResult → OpWorld → Prop} (hquiet : w.turns = [])
    (hread : Triple (fun v : OpWorld => v.turns = [] ∧ v.obj = w.obj ∧ v.version = w.version)
      (reconcileRead env ⟨w.obj, w.version⟩) Q) : Q (reconcile env w).1 (reconcile env w).2 := by
  have hpass : Triple (fun v => v = w) (reconcile env) Q := by
    refine Shared.Triple.bind (Q := fun r v => r = .ok ⟨w.obj, w.version⟩ ∧ v = w) ?_ ?_
    · refine get_quiet ?_ ?_
      · rintro v rfl
        exact hquiet
      · rintro v rfl
        exact ⟨rfl, rfl⟩
    · intro r
      refine .assume ?_
      rintro rfl
      refine Shared.Triple.bind (.emit ?_) fun _ => hread
      rintro v rfl
      exact ⟨hquiet, rfl, rfl⟩
  exact hpass w rfl

theorem reconcile_addsFinalizer {w : OpWorld} (hquiet : w.turns = []) (halive : w.obj.deleting = false)
    (hfinalizer : w.obj.finalizer = false) : (reconcile env w).2.obj = { w.obj with finalizer := true } := by
  refine reconcile_quiet (Q := fun _ v => v.obj = { w.obj with finalizer := true }) hquiet ?_
  unfold reconcileRead
  dsimp only
  rw [if_neg (by simp [halive]), if_pos (by simp [hfinalizer])]
  refine Shared.Triple.bind (Q := fun _ v => v.obj = { w.obj with finalizer := true })
    (Shared.put_quiet (fun v hv => hv.1) (fun v hv => hv.2.2) fun v hv => rfl) ?_
  rintro ((_ | _) | _) <;> exact .pure fun _ hv => hv

theorem reconcile_resumed (h : env.AllOk) (htemplate : env.template ≠ .requeue) {w : OpWorld} (hquiet : w.turns = [])
    (halive : w.obj.deleting = false) (hfinalizer : w.obj.finalizer = true) (hpaused : w.obj.spec.paused ≠ some true)
    (hphase : w.obj.status.phase = .paused) : Counting 0 (reconcile env w).2 := by
  have hresume : Triple (fun v : OpWorld => v.turns = [] ∧ v.obj = w.obj ∧ v.version = w.version) handleResume
      fun r v => (∃ o, r = .ok o) ∧ Counting 0 v := by
    refine modifyWithRetry_quiet (fun v hv => hv.1) ?_ ?_
    · rintro v _ ⟨⟩
    · rintro v new events ⟨hv, hobj, _⟩ ⟨⟩
      refine ⟨hv, ?_⟩
      rw [hobj, hphase, if_pos (Or.inl rfl)]
      rfl
  refine reconcile_quiet (Q := fun _ => Counting 0) hquiet ?_
  unfold reconcileRead
  simp only [halive, hfinalizer, Bool.false_eq_true, if_false, Bool.not_true, if_neg hpaused, hphase, if_true]
  refine Shared.Triple.bind hresume fun r => .assume ?_
  rintro ⟨o, rfl⟩
  have hcount : w.obj.clearErrors.status.failedReconcileCount < maxFailedReconciles := show 0 < 10 by omega
  have hne : w.obj.clearErrors.status.phase ≠ .configDegraded := by
    rw [show w.obj.clearErrors.status.phase = .paused from hphase]
    simp
  exact reconcileActive_resets h htemplate hcount hne

end Reset

/-! ## When a tripped breaker recovers -/

theorem not_recoverable_of_stuck {w : OpWorld} (hw : Stuck w.obj w.history) : ¬Recoverable w := by
  rintro ⟨l, hl, t, ht, hcount⟩
  have hstuck := (run_stuck hl hw ht).1.count
  rw [hcount] at hstuck
  exact absurd hstuck (by decide)

theorem recovery_calm : (ReconcileStep.reconcile (.calm []) []).Recovery :=
  ⟨ReconcileEnv.calm_allOk _, fun _ ht => nomatch ht⟩

/-- From a tripped breaker some recovery brings the counter back to zero exactly where the cluster
is on the way out of a pause. -/
theorem recoverable_iff_paused {w : OpWorld} (hw : w.obj.Tripped) : Recoverable w ↔ w.obj.status.phase = .paused := by
  constructor
  · intro h
    by_contra hp
    exact not_recoverable_of_stuck ⟨hw, hp⟩ h
  · intro hp
    have hresumed : ∀ v : OpWorld, v.obj.deleting = false → v.obj.finalizer = true → v.obj.spec.paused ≠ some true →
        v.obj.status.phase = .paused →
        (reconcile (.calm []) { v with turns := [] }).2.obj.status.failedReconcileCount = 0 :=
      fun v ha hf hs hp => (reconcile_resumed (w := { v with turns := [] }) (ReconcileEnv.calm_allOk _)
        (fun h => nomatch h) rfl ha hf hs hp).count
    cases hf : w.obj.finalizer with
    | true =>
      refine ⟨[.reconcile (.calm []) []], ?_, _, rfl, hresumed w hw.alive hf hw.unpaused hp⟩
      intro a ha
      rw [List.mem_singleton.1 ha]
      exact recovery_calm
    | false =>
      -- the first pass only adds the finalizer
      have hfirst : (reconcile (.calm []) { w with turns := [] }).2.obj = { w.obj with finalizer := true } :=
        reconcile_addsFinalizer (w := { w with turns := [] }) rfl hw.alive hf
      refine ⟨[.reconcile (.calm []) [], .reconcile (.calm []) []], ?_, _, rfl, hresumed _ ?_ ?_ ?_ ?_⟩
      · intro a ha
        rcases List.mem_pair.1 ha with rfl | rfl <;> exact recovery_calm
      · exact (congrArg ClusterObject.deleting hfirst).trans hw.alive
      · exact congrArg ClusterObject.finalizer hfirst
      · rw [show _ = w.obj.spec.paused from congrArg (·.spec.paused) hfirst]
        exact hw.unpaused
      · exact (congrArg (·.status.phase) hfirst).trans hp

/-- A cluster paused by the user after the breaker had tripped, and resumed. -/
def resumedObject : ClusterObject :=
  let o := ClusterObject.fresh "db" "aerospike:8.1"
  { o with status := { o.status with phase := .paused, failedReconcileCount := 12 } }

theorem recoverable_resumedObject : resumedObject.Tripped ∧ Recoverable (.start resumedObject) := by
  have ht : resumedObject.Tripped := ⟨rfl, by decide, by decide⟩
  exact ⟨ht, (recoverable_iff_paused (w := .start resumedObject) ht).2 rfl⟩

/-- Ten passes that cannot reach the API server for the services trip the breaker for good. -/
theorem not_recoverable_after_outage : ∃ w,
    Lts.run ReconcileStep.step (.start (.fresh "db" "aerospike:8.1"))
      (List.replicate 10 (.reconcile { ReconcileEnv.calm [] with servicesError := some "connection refused" } [])) =
        some w ∧ w.obj.Tripped ∧ ¬Recoverable w := by
  have hrun : (Lts.run ReconcileStep.step (.start (.fresh "db" "aerospike:8.1"))
      (List.replicate 10 (.reconcile { ReconcileEnv.calm [] with servicesError := some "connection refused" } []))).map
        (fun w => (w.obj.deleting, w.obj.spec.paused, w.obj.status.failedReconcileCount, w.obj.status.phase)) =
      some (false, none, 10, .inProgress) := by decide +kernel
  obtain ⟨w, hw, hview⟩ := Option.map_eq_some_iff.1 hrun
  simp only [Prod.mk.injEq] at hview
  obtain ⟨halive, hpaused, hcount, hphase⟩ := hview
  have htripped : w.obj.Tripped := ⟨halive, by simp [hpaused], by rw [hcount]; decide⟩
  exact ⟨w, hw, htripped, not_recoverable_of_stuck ⟨htripped, by simp [hphase]⟩⟩

end Acko
