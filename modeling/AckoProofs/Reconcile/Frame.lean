/-
What a reconcile pass leaves alone: a property of the object and of the history that the edits of
users, the writes of a phase and the work on the cluster's resources keep is kept by every part of
the pass that makes no other write.
-/
import AckoProofs.Lib.Run
import AckoProofs.Reconcile.Cluster

namespace Acko

/-! ## What is kept -/

/-- `P` is kept by the edits `A`, by every write of a phase, and by work on the cluster's resources. -/
structure WorkKept (A : UserEdit → Prop) (P : ClusterObject → List OpEntry → Prop) : Prop where
  edits : Shared.KeptByEdits applyEdit A P
  phase : ∀ o l phase reason pending, P o l → P { o with status := { o.status with
    phase := phase, phaseReason := reason, pendingRestartPods := pending } } (l ++ [.event (.persisted phase)])
  work : ∀ o l e, e.touches = true → P o l → P o (l ++ [.event e])

section Scaling

variable {A : UserEdit → Prop} {P : ClusterObject → List OpEntry → Prop} {env : ReconcileEnv}

theorem WorkKept.works (h : WorkKept A P) {o : ClusterObject} : ∀ {events : List PassEvent} {l : List OpEntry},
    (∀ e ∈ events, e.touches = true) → P o l → P o (l ++ events.map .event)
  | [], l, _, hl => by simpa using hl
  | e :: events, l, he, hl => by
    have hrest := h.works (fun e he' => he e (List.mem_cons_of_mem _ he')) (h.work o l e (he e List.mem_cons_self) hl)
    simpa using hrest

theorem WorkKept.emit (h : WorkKept A P) {events : List PassEvent} (he : ∀ e ∈ events, e.touches = true) :
    Shared.Keeps A P (Shared.emit events) :=
  .emit fun _ _ hl => h.works he hl

theorem WorkKept.setPhase (h : WorkKept A P) (cluster : ClusterObject) (phase : Phase) (reason : String) :
    Shared.Triple (Shared.Within A P) (setPhase cluster phase reason) fun out w =>
      (out.2.toCluster = cluster.toCluster ∧ out.2.generation = cluster.generation) ∧ Shared.Within A P w := by
  unfold Acko.setPhase
  refine Shared.Triple.bind (modifyWithRetry_keeps h.edits ?_) ?_
  · intro o l new events ho hf
    unfold phaseWrite at hf
    split at hf
    · cases hf
    · cases hf
      exact h.phase o l _ _ _ ho
  · intro result
    rcases result with (_ | _) | _ <;> exact .pure fun w hw => ⟨⟨rfl, rfl⟩, hw⟩

theorem WorkKept.announceScaling (h : WorkKept A P) (cluster : ClusterObject) :
    Shared.Triple (Shared.Within A P) (announceScaling env cluster) fun out w =>
      out.2.toCluster = cluster.toCluster ∧ Shared.Within A P w := by
  unfold Acko.announceScaling
  split
  · exact (h.setPhase cluster _ _).post fun _ _ hw => ⟨hw.1.1, hw.2⟩
  · exact (h.setPhase cluster _ _).post fun _ _ hw => ⟨hw.1.1, hw.2⟩
  · exact .pure fun w hw => ⟨rfl, hw⟩

theorem WorkKept.reportMigration (h : WorkKept A P) (cluster : ClusterObject) (reason : String)
    (events : List ScaleEvent) :
    Shared.Triple (Shared.Within A P) (reportMigration cluster reason events) fun out w =>
      out.2.toCluster = cluster.toCluster ∧ Shared.Within A P w := by
  unfold Acko.reportMigration
  split
  · exact (h.setPhase cluster _ _).post fun _ _ hw => ⟨hw.1.1, hw.2⟩
  · exact .pure fun w hw => ⟨rfl, hw⟩

theorem WorkKept.scaleEvents (h : WorkKept A P) (events : List ScaleEvent) :
    Shared.Keeps A P (Shared.emit (events.map PassEvent.scale)) := by
  refine h.emit ?_
  intro e he
  obtain ⟨s, _, rfl⟩ := List.mem_map.1 he
  rfl

theorem WorkKept.reconcileRacksLoop (h : WorkKept A P) : ∀ (racks : List (Rack × Nat)) (cluster : ClusterObject),
    Shared.Triple (Shared.Within A P) (reconcileRacksLoop env racks cluster) fun out w =>
      out.2.toCluster = cluster.toCluster ∧ Shared.Within A P w
  | [], _ => .pure fun w hw => ⟨rfl, hw⟩
  | r :: rest, cluster => by
    unfold Acko.reconcileRacksLoop
    generalize reconcileRack env.scale.phasesDone cluster.toCluster env.pods env.hashesOf env.objs
      (getRacks cluster.toCluster) r = out
    obtain ⟨result, events⟩ := out
    refine Shared.Triple.bind (h.scaleEvents events) fun _ => .bind (h.reportMigration cluster _ events) ?_
    rintro ⟨reply, reported⟩
    refine .assume fun (hc : reported.toCluster = cluster.toCluster) => ?_
    cases reply with
    | failed err => exact .pure fun w hw => ⟨hc, hw⟩
    | _ =>
      cases result with
      | error err => exact .pure fun w hw => ⟨hc, hw⟩
      | ok deferred =>
        refine Shared.Triple.bind (h.reconcileRacksLoop rest reported) ?_
        rintro ⟨result, last⟩
        exact .pure fun w hw => ⟨hw.1.trans hc, hw.2⟩

theorem WorkKept.reconcileRemovedRacks (h : WorkKept A P) (cluster : ClusterObject) :
    Shared.Triple (Shared.Within A P) (reconcileRemovedRacks env cluster) fun out w =>
      out.2.2.toCluster = cluster.toCluster ∧ Shared.Within A P w := by
  unfold Acko.reconcileRemovedRacks
  generalize cleanupRemovedRacks env.scale.phasesDone cluster.toCluster env.pods env.objs env.checks
    (getRacks cluster.toCluster) = out
  obtain ⟨result, checks, events⟩ := out
  refine Shared.Triple.bind (h.reportMigration cluster _ events) ?_
  rintro ⟨reply, reported⟩
  refine .assume fun (hc : reported.toCluster = cluster.toCluster) => ?_
  cases reply with
  | failed err => exact Shared.Triple.bind (h.scaleEvents [.probe (.ok true)]) fun _ => .pure fun w hw => ⟨hc, hw⟩
  | _ => exact Shared.Triple.bind (h.scaleEvents events) fun _ => .pure fun w hw => ⟨hc, hw⟩

theorem WorkKept.reconcileCluster (h : WorkKept A P) {cluster : ClusterObject}
    {Q : Except String ReconcileResult → OpWorld → Prop} (hstop : ∀ r w, Shared.Within A P w → Q r w)
    (hresources : ∀ checks scaled, scaled.toCluster = cluster.toCluster →
      Shared.Triple (Shared.Within A P) (reconcileResources env checks scaled) Q) :
    Shared.Triple (Shared.Within A P) (reconcileCluster env cluster) Q := by
  have hpure : ∀ r, Shared.Triple (Shared.Within A P) (pure r) Q := fun r => .pure fun w hw => hstop r w hw
  unfold Acko.reconcileCluster
  cases env.detectError with
  | some err => exact hpure _
  | none =>
    refine Shared.Triple.bind (h.announceScaling cluster) ?_
    rintro ⟨reply, announced⟩
    refine .assume fun (ha : announced.toCluster = cluster.toCluster) => ?_
    cases reply with
    | failed err => exact hpure _
    | _ =>
      refine Shared.Triple.bind (h.reconcileRacksLoop _ announced) ?_
      rintro ⟨result, scaled⟩
      refine .assume fun (hs : scaled.toCluster = announced.toCluster) => ?_
      rcases result with err | ⟨_ | _⟩
      · exact hpure _
      · refine Shared.Triple.bind (h.reconcileRemovedRacks scaled) ?_
        rintro ⟨result, checks, cleaned⟩
        refine .assume fun (hr : cleaned.toCluster = scaled.toCluster) => ?_
        rcases result with err | ⟨_ | _⟩
        · exact hpure _
        · exact hresources checks cleaned (hr.trans (hs.trans ha))
        · exact hpure _
      · exact hpure _

end Scaling

/-! ## The rest of the pass -/

section Resources

variable {A : UserEdit → Prop} {P : ClusterObject → List OpEntry → Prop} {env : ReconcileEnv}

theorem WorkKept.emitOne (h : WorkKept A P) {e : PassEvent} (he : e.touches = true) :
    Shared.Keeps A P (Shared.emit [e]) := by
  refine h.emit ?_
  intro e' hmem
  rw [List.mem_singleton.1 hmem]
  exact he

theorem WorkKept.reconcileACLAndStatus (h : WorkKept A P)
    (hstatus : ∀ phase reason, Shared.Keeps A P (updateStatusAndPhase env.status phase reason))
    (cluster : ClusterObject) : Shared.Keeps A P (reconcileACLAndStatus env cluster) := by
  have hfinal : Shared.Keeps A P (finalizeReconcile env) := by
    refine Shared.Keeps.bind (hstatus _ _) ?_
    rintro ((_ | err) | _)
    · exact .pure
    · exact .pure
    · rcases env.acl with err | synced
      · exact .pure
      · refine .bind (.get h.edits) ?_
        rintro (err | copy) <;> exact .pure
  have hacl : Shared.Keeps A P (announceACL cluster) := by
    unfold announceACL
    split
    · exact (h.setPhase cluster _ _).post fun _ _ hw => hw.2
    · exact .pure
  refine Shared.Keeps.bind hacl ?_
  rintro ⟨reply, c⟩
  cases reply with
  | failed err => exact .pure
  | done => exact .bind (h.emitOne rfl) fun _ => hfinal
  | conflict => exact .bind (h.emitOne rfl) fun _ => hfinal

/-- What follows the scaling ends in `Q` where the rolling restart stops in it and the end of the pass
gets there from what the rolling restart leaves. -/
theorem WorkKept.reconcileResources (h : WorkKept A P) {cluster : ClusterObject} {checks : MigrationChecks}
    {Q : Except String ReconcileResult → OpWorld → Prop} (hstop : ∀ r w, Shared.Within A P w → Q r w)
    {R : Except String (Option ReconcileResult) × ClusterObject → OpWorld → Prop}
    (hrestart : Shared.Triple (Shared.Within A P) (restartRacks env (getRacks cluster.toCluster) checks cluster) R)
    (hfailed : ∀ err c w, R (.error err, c) w → Q (.error err) w)
    (hwaits : ∀ r c w, R (.ok (some r), c) w → Q (.ok r) w)
    (hidle : ∀ c, Shared.Triple (R (.ok none, c)) (Acko.reconcileACLAndStatus env c) Q) :
    Shared.Triple (Shared.Within A P) (reconcileResources env checks cluster) Q := by
  have hpure : ∀ r, Shared.Triple (Shared.Within A P) (pure r) Q := fun r => .pure fun w hw => hstop r w hw
  refine Shared.Triple.bind (h.emitOne rfl) fun _ => ?_
  cases env.auxiliaryError with
  | some err => exact hpure _
  | none =>
    refine Shared.Triple.bind (h.emitOne rfl) fun _ => ?_
    rcases env.operations with err | ⟨_ | _⟩
    · exact hpure _
    · refine Shared.Triple.bind (h.emitOne rfl) fun _ => .bind hrestart ?_
      rintro ⟨err | ⟨_ | result⟩, restarted⟩
      · exact .pure fun w hw => hfailed err restarted w hw
      · exact hidle restarted
      · exact .pure fun w hw => hwaits result restarted w hw
    · exact hpure _

end Resources

/-- `P` is kept by the degraded phase as well. -/
structure RestartKept (A : UserEdit → Prop) (P : ClusterObject → List OpEntry → Prop) : Prop extends WorkKept A P where
  degraded : ∀ o l base reason, P o l →
    P (degradedPatch base reason o) (l ++ (degradedEvents (degradedPatch base reason o)).map .event)

/-- The rolling restart has nothing to do on a rack. -/
def ReconcileEnv.Idle (env : ReconcileEnv) (cluster : Cluster) (rack : Rack) : Prop :=
  ∃ checks, (env.restartPass checks cluster rack).result = .ok false

section Restart

variable {A : UserEdit → Prop} {P : ClusterObject → List OpEntry → Prop} {env : ReconcileEnv}

theorem RestartKept.replayEffects (h : RestartKept A P) (rackID : Int) : ∀ (effects : List Effect),
    Shared.Keeps A P (replayEffects rackID effects)
  | [] => .pure
  | e :: rest => by
    have ih := h.replayEffects rackID rest
    cases e with
    | setConfigDegraded failedPods =>
      refine Shared.Keeps.bind (.bind (.get h.edits) ?_) fun _ => ih
      rintro (err | base)
      · exact .pure
      · exact .bind (.patch h.edits fun o l ho => h.degraded o l _ _ ho) fun _ => .pure
    | _ => exact .bind (h.emitOne rfl) fun _ => ih

theorem RestartKept.restartRacks (h : RestartKept A P) : ∀ (racks : List Rack) (checks : MigrationChecks)
    (cluster : ClusterObject), Shared.Triple (Shared.Within A P) (restartRacks env racks checks cluster) fun out w =>
      (out.1 = .ok none → ∀ rack ∈ racks, env.Idle cluster.toCluster rack) ∧ Shared.Within A P w
  | [], _, _ => .pure fun w hw => ⟨(fun _ _ hr => nomatch hr), hw⟩
  | rack :: rest, checks, cluster => by
    unfold Acko.restartRacks
    refine Shared.Triple.bind (h.replayEffects rack.id _) fun _ => ?_
    -- the pending pods change nothing for the racks that follow
    have hc := cluster.withPending_toCluster (env.restartPass checks cluster.toCluster rack).pending
    dsimp only
    generalize cluster.withPending (env.restartPass checks cluster.toCluster rack).pending = published at hc
    cases hr : (env.restartPass checks cluster.toCluster rack).result with
    | error err => exact .pure fun w hw => ⟨(fun h => nomatch h), hw⟩
    | ok restarted =>
      cases restarted with
      | false =>
        refine (h.restartRacks rest _ published).post ?_
        rintro out w ⟨hidle, hw⟩
        refine ⟨fun hout r hmem => ?_, hw⟩
        rcases List.mem_cons.1 hmem with rfl | hmem
        · exact ⟨checks, hr⟩
        · rw [← hc]
          exact hidle hout r hmem
      | true =>
        refine Shared.Triple.bind (h.setPhase published _ _) ?_
        rintro ⟨reply, last⟩
        cases reply <;> exact .pure fun w hw => ⟨(fun h => nomatch h), hw.2⟩

/-- A pass writes its final status only where every rack is idle, and everything else it does keeps
`P`. -/
theorem RestartKept.reconcileCluster (h : RestartKept A P) {cluster : ClusterObject}
    (hstatus : (∀ rack ∈ getRacks cluster.toCluster, env.Idle cluster.toCluster rack) →
      ∀ phase reason, Shared.Keeps A P (updateStatusAndPhase env.status phase reason)) :
    Shared.Keeps A P (reconcileCluster env cluster) := by
  refine h.toWorkKept.reconcileCluster (fun _ _ hw => hw) fun checks scaled hs => ?_
  refine h.toWorkKept.reconcileResources (fun _ _ hw => hw) (h.restartRacks _ checks scaled) (fun _ _ _ hw => hw.2)
    (fun _ _ _ hw => hw.2) fun restarted => .assume fun hidle => ?_
  rw [hs] at hidle
  exact h.toWorkKept.reconcileACLAndStatus (hstatus (hidle rfl)) restarted

end Restart

/-! ## A paused cluster -/

/-- The work on the cluster's resources in a history. -/
def workIn (l : List OpEntry) : List PassEvent := l.filterMap fun
  | .event e => if e.touches then some e else none
  | .edit _ => none

theorem workIn_event {l : List OpEntry} {e : PassEvent} (he : e.touches = false) :
    workIn (l ++ [.event e]) = workIn l := by
  simp [workIn, he]

def UserEdit.KeepsPaused : UserEdit → Prop
  | .spec s => s.paused = some true
  | .status _ => True
  | .delete => False

def ReconcileStep.KeepsPaused : ReconcileStep → Prop
  | .edit d => d.KeepsPaused
  | .reconcile _ turns => ∀ t ∈ turns, ∀ d ∈ t.edits, d.KeepsPaused

/-- Paused and not deleted, with the work `work` done. -/
def Resting (work : List PassEvent) (o : ClusterObject) (l : List OpEntry) : Prop :=
  o.spec.paused = some true ∧ o.deleting = false ∧ workIn l = work

variable {work : List PassEvent}

theorem Resting.edits : Shared.KeptByEdits applyEdit UserEdit.KeepsPaused (Resting work) := by
  rintro o l (s | s | _) hd ⟨hpaused, halive, hwork⟩
  · exact ⟨hd, halive, by simpa [workIn] using hwork⟩
  · exact ⟨hpaused, halive, by simpa [workIn] using hwork⟩
  · cases hd

/-- A pass over a paused object writes at most the finalizer or the phase. -/
theorem reconcile_resting (env : ReconcileEnv) : Shared.Keeps UserEdit.KeepsPaused (Resting work) (reconcile env) := by
  refine reconcile_keeps Resting.edits (fun o l h => ⟨h.1, h.2.1, (workIn_event rfl).trans h.2.2⟩) fun copy w hw => ?_
  obtain ⟨hpaused, halive, _⟩ := hw.1.1
  rw [hw.2.1] at hpaused halive
  unfold reconcileRead
  simp only [halive, hpaused, if_true, Bool.false_eq_true, if_false]
  split
  · unfold addFinalizer
    refine Shared.Keeps.bind (.put Resting.edits fun o l h => ?_) ?_ w hw.1
    · exact ⟨hpaused, halive, by simpa using h.2.2⟩
    · rintro ((_ | _) | _) <;> exact .pure
  · refine Shared.Keeps.bind (modifyWithRetry_keeps Resting.edits ?_) ?_ w hw.1
    · rintro o l new events h ⟨⟩
      exact ⟨h.1, h.2.1, (workIn_event rfl).trans h.2.2⟩
    · rintro (_ | _) <;> exact .pure

/-- While users keep a cluster paused and do not delete it, no pass works on its resources. -/
theorem paused_left_alone {w t : OpWorld} {l : List ReconcileStep} (hpaused : w.obj.spec.paused = some true)
    (halive : w.obj.deleting = false) (hl : ∀ a ∈ l, a.KeepsPaused) (h : Lts.run ReconcileStep.step w l = some t) :
    workIn t.history = workIn w.history := by
  refine (Lts.run_invariant (I := fun u : OpWorld => Resting (workIn w.history) u.obj u.history)
    (C := fun _ a => a.KeepsPaused) ?_ ⟨hpaused, halive, rfl⟩ (.of_forall fun a ha _ => hl a ha) h).2.2
  rintro u (d | ⟨env, turns⟩) _ hu ha ⟨⟩
  · exact Resting.edits.editAll [d] u (List.forall_mem_singleton.2 ha) hu
  · exact (reconcile_resting env { u with turns := turns } ⟨hu, ha⟩).1

theorem paused_left_alone_fresh :
    let o := ClusterObject.fresh "db" ""
    let w := OpWorld.start { o with finalizer := true, spec := { o.spec with paused := some true } }
    ∃ t, Lts.run ReconcileStep.step w [.reconcile (.calm []) []] = some t ∧ workIn t.history = [] := by
  intro o w
  obtain ⟨t, h⟩ : ∃ t, Lts.run ReconcileStep.step w [.reconcile (.calm []) []] = some t := ⟨_, rfl⟩
  exact ⟨t, h, paused_left_alone rfl rfl (by simp [ReconcileStep.KeepsPaused]) h⟩

end Acko
