/-
The degraded phase (`setConfigDegraded`): a pass that finds it does nothing. The pass that writes it
goes on, though: where it restarts a pod it announces the rolling restart over it, and a breaker at
its limit comes before the halt.
-/
import AckoProofs.Lib.Run
import AckoProofs.Reconcile.Frame
import AckoProofs.Restart.Result

namespace Acko

open Shared (snoc_split KeptByEdits Keeps Triple Within)

/-! ## Stickiness -/

/-- The user takes over: a pause, an edit of the status, or the deletion. -/
def UserEdit.intervenes : UserEdit → Bool
  | .spec s => s.paused = some true
  | .status _ => true
  | .delete => true

/-- The degraded phase was written with no user attending to the cluster, and none has intervened
since. -/
def Armed (l : List OpEntry) : Prop :=
  ∃ before after, l = before ++ .event (.degraded false) :: after ∧ ∀ d, .edit d ∈ after → d.intervenes = false

/-- And another pass has started since. -/
def Halted (l : List OpEntry) : Prop :=
  ∃ before after, l = before ++ .event (.degraded false) :: after ∧ (∀ d, .edit d ∈ after → d.intervenes = false) ∧
    .event .started ∈ after

/-- Until a user intervenes, the degraded phase stays, and the passes that follow do not touch the
cluster. -/
def Sticky (l : List OpEntry) : Prop :=
  ∀ before e after, l = before ++ .event e :: after →
    (Armed before → ∀ phase, e = .persisted phase → phase = .configDegraded) ∧ (Halted before → e.touches = false)

/-! ## Histories, entry by entry -/

variable {l : List OpEntry} {e : PassEvent} {o : ClusterObject}

theorem Armed.of_event (h : Armed (l ++ [.event e])) : e = .degraded false ∨ Armed l := by
  obtain ⟨before, after, hl, hafter⟩ := h
  rcases snoc_split hl with ⟨_, he, _⟩ | ⟨rest, rfl, hrest⟩
  · cases he
    exact Or.inl rfl
  · exact Or.inr ⟨before, rest, hrest, fun d hd => hafter d (List.mem_append_left _ hd)⟩

theorem Armed.of_edit {d : UserEdit} (h : Armed (l ++ [.edit d])) : d.intervenes = false ∧ Armed l := by
  obtain ⟨before, after, hl, hafter⟩ := h
  rcases snoc_split hl with ⟨_, he, _⟩ | ⟨rest, rfl, hrest⟩
  · cases he
  · exact ⟨hafter d (by simp), before, rest, hrest, fun d hd => hafter d (List.mem_append_left _ hd)⟩

theorem Halted.armed (h : Halted l) : Armed l := by
  obtain ⟨before, after, hl, hafter, _⟩ := h
  exact ⟨before, after, hl, hafter⟩

theorem Halted.of_entry {x : OpEntry} (h : Halted (l ++ [x])) (hx : x ≠ .event .started) : Halted l := by
  obtain ⟨before, after, hl, hafter, hstarted⟩ := h
  rcases snoc_split hl with ⟨_, _, rfl⟩ | ⟨rest, rfl, hrest⟩
  · cases hstarted
  · refine ⟨before, rest, hrest, fun d hd => hafter d (List.mem_append_left _ hd), ?_⟩
    rcases List.mem_append.1 hstarted with h | h
    · exact h
    · exact absurd (List.mem_singleton.1 h).symm hx

theorem Sticky.edit (h : Sticky l) (d : UserEdit) : Sticky (l ++ [.edit d]) := by
  intro before e after hl
  rcases snoc_split hl with ⟨_, he, _⟩ | ⟨rest, rfl, hrest⟩
  · cases he
  · exact h before e rest hrest

theorem Sticky.event (h : Sticky l) (hphase : Armed l → ∀ phase, e = .persisted phase → phase = .configDegraded)
    (htouch : Halted l → e.touches = false) : Sticky (l ++ [.event e]) := by
  intro before e' after hl
  rcases snoc_split hl with ⟨rfl, he, _⟩ | ⟨rest, rfl, hrest⟩
  · cases he
    exact ⟨hphase, htouch⟩
  · exact h before e' rest hrest

/-! ## What holds between the calls -/

/-- While the phase is to stay, the object has it, and no user has taken over. -/
structure Watched (o : ClusterObject) (l : List OpEntry) : Prop where
  sticky : Sticky l
  held : Armed l → o.status.phase = .configDegraded ∧ o.spec.paused ≠ some true ∧ o.deleting = false

/-- Nothing is to stay. -/
def Free (_ : ClusterObject) (l : List OpEntry) : Prop := Sticky l ∧ ¬Armed l

/-- What holds in the pass that writes the phase. -/
def Fresh (o : ClusterObject) (l : List OpEntry) : Prop := Watched o l ∧ ¬Halted l

theorem Free.fresh (h : Free o l) : Fresh o l :=
  ⟨⟨h.1, fun ha => absurd ha h.2⟩, fun hh => h.2 hh.armed⟩

theorem Free.event {o' : ClusterObject} (h : Free o l) (he : e ≠ .degraded false) : Free o' (l ++ [.event e]) := by
  refine ⟨h.1.event (fun ha => absurd ha h.2) (fun hh => absurd hh.armed h.2), ?_⟩
  intro ha
  exact ha.of_event.elim he h.2

theorem Watched.event (h : Watched o l) (he : ∀ phase, e ≠ .persisted phase) (hd : e ≠ .degraded false)
    (ht : Halted l → e.touches = false) : Watched o (l ++ [.event e]) := by
  refine ⟨h.sticky.event (fun _ phase hp => absurd hp (he phase)) ht, ?_⟩
  intro ha
  exact h.held (ha.of_event.resolve_left hd)

theorem Watched.edit (h : Watched o l) (d : UserEdit) : Watched (applyEdit o d) (l ++ [.edit d]) := by
  refine ⟨h.sticky.edit d, ?_⟩
  intro ha
  obtain ⟨hd, ha⟩ := ha.of_edit
  obtain ⟨hphase, hpaused, halive⟩ := h.held ha
  cases d with
  | spec s => exact ⟨hphase, of_decide_eq_false hd, halive⟩
  | status s => cases hd
  | delete => cases hd

theorem Watched.edits : KeptByEdits applyEdit (fun _ => True) Watched :=
  fun _ _ d _ h => h.edit d

theorem Fresh.edits : KeptByEdits applyEdit (fun _ => True) Fresh :=
  fun _ _ d _ h => ⟨h.1.edit d, fun hh => h.2 (hh.of_entry (by simp))⟩

theorem Free.edits : KeptByEdits applyEdit (fun _ => True) Free :=
  fun _ _ d _ h => ⟨h.1.edit d, fun ha => h.2 ha.of_edit.2⟩

theorem Free.workKept : WorkKept (fun _ => True) Free where
  edits := Free.edits
  phase _ _ _ _ _ h := h.event (by simp)
  work _ _ e he h := h.event (by rintro rfl; cases he)

/-! ## The rolling restart -/

/-- Either every command of a dynamic update is acknowledged, so that nothing is to be rolled back,
or no pod can be restarted. -/
def RestartEnv.NoOverwrite (env : RestartEnv) : Prop := env.dyn.Acknowledges ∨ env.NoRestart

section Restart

variable {env : ReconcileEnv}

theorem setConfigDegraded_fresh (failedPods : List String) :
    Keeps (fun _ => True) Fresh (setConfigDegraded failedPods) := by
  refine Shared.Keeps.bind (.get Fresh.edits) ?_
  rintro (err | base)
  · exact .pure
  · refine .bind (.patch Fresh.edits ?_) fun _ => .pure
    rintro o l ⟨hw, hh⟩
    generalize ho : degradedPatch base.val (degradedReason failedPods) o = o'
    have hspec : o'.spec = o.spec ∧ o'.deleting = o.deleting := by rw [← ho]; exact ⟨rfl, rfl⟩
    have hstay : o.status.phase = .configDegraded → o'.status.phase = .configDegraded := by
      intro h
      rw [← ho]
      show (if base.val.status.phase = .configDegraded then o.status.phase else .configDegraded) = _
      split
      · exact h
      · rfl
    -- the write of the phase
    have hpersisted : Fresh o' (l ++ [.event (.persisted o'.status.phase)]) := by
      refine ⟨⟨hw.sticky.event ?_ (fun _ => rfl), ?_⟩, fun h => hh (h.of_entry (by simp))⟩
      · rintro ha _ ⟨⟩
        exact hstay (hw.held ha).1
      · intro ha
        obtain ⟨hphase, hpaused, halive⟩ := hw.held (ha.of_event.resolve_left (by simp))
        exact ⟨hstay hphase, by rwa [hspec.1], by rwa [hspec.2]⟩
    unfold degradedEvents
    split
    · rename_i hphase
      rw [List.map_cons, List.map_singleton, List.append_cons]
      refine ⟨⟨hpersisted.1.sticky.event (by simp) (fun _ => rfl), ?_⟩, fun h => hpersisted.2 (h.of_entry (by simp))⟩
      intro ha
      rcases ha.of_event with hd | ha
      · simp only [PassEvent.degraded.injEq, Bool.or_eq_false_iff, decide_eq_false_iff_not] at hd
        exact ⟨hphase, hd.1, hd.2⟩
      · exact hpersisted.1.held ha
    · exact hpersisted

theorem replayEffects_fresh (rackID : Int) : ∀ (effects : List Effect),
    Keeps (fun _ => True) Fresh (replayEffects rackID effects)
  | [] => .pure
  | e :: rest => by
    have ih := replayEffects_fresh rackID rest
    have hemit : ∀ e, Keeps (fun _ => True) Fresh (Shared.emit [PassEvent.restart rackID e]) := by
      intro e
      refine .emit ?_
      rintro o l ⟨hw, hh⟩
      exact ⟨hw.event (by simp) (by simp) (fun h => absurd h hh), fun h => hh (h.of_entry (by simp))⟩
    cases e with
    | setConfigDegraded failedPods => exact .bind (setConfigDegraded_fresh failedPods) fun _ => ih
    | _ => exact .bind (hemit _) fun _ => ih

theorem replayEffects_free (rackID : Int) : ∀ (effects : List Effect),
    (∀ failedPods, .setConfigDegraded failedPods ∉ effects) →
    Keeps (fun _ => True) Free (replayEffects rackID effects)
  | [], _ => .pure
  | e :: rest, h => by
    have ih := replayEffects_free rackID rest fun f hf => h f (List.mem_cons_of_mem _ hf)
    cases e with
    | setConfigDegraded failedPods => exact absurd List.mem_cons_self (h failedPods)
    | _ => exact .bind (Free.workKept.emitOne rfl) fun _ => ih

theorem restartPass_degraded (h : ∀ id, (env.restart id).NoOverwrite) {checks : MigrationChecks} {cluster : Cluster}
    {rack : Rack} {failedPods : List String}
    (hd : .setConfigDegraded failedPods ∈ (env.restartPass checks cluster rack).effects) :
    ∃ err, (env.restartPass checks cluster rack).result = .error err := by
  unfold ReconcileEnv.restartPass at hd ⊢
  cases hsts : env.loopSts rack.id with
  | none =>
    rw [hsts] at hd
    unfold reconcileRollingRestart at hd
    split at hd <;> cases hd
  | some sts =>
    rw [hsts] at hd
    obtain ⟨hne, hok, hrollback, heq⟩ := reconcileRollingRestart_degraded _ _ _ _ _ _ hd
    rw [heq]
    rcases h rack.id with hack | hno
    · exact absurd (batchDynamicUpdate_acknowledged _ hack _ _ _ _) hrollback
    · exact runBatch_noRestart _ _ _ _ hno hne hok

theorem restartRacks_sticky (h : ∀ id, (env.restart id).NoOverwrite) : ∀ (racks : List Rack)
    (checks : MigrationChecks) (cluster : ClusterObject),
    Triple (Within (fun _ => True) Free) (restartRacks env racks checks cluster) fun out w =>
      Within (fun _ => True) Free w ∨
        ((∃ err, out.1 = .error err) ∧ Within (fun _ => True) Watched w)
  | [], _, _ => .pure fun w hw => Or.inl hw
  | rack :: rest, checks, cluster => by
    unfold restartRacks
    by_cases hd : ∃ failedPods, .setConfigDegraded failedPods ∈ (env.restartPass checks cluster.toCluster rack).effects
    · obtain ⟨failedPods, hd⟩ := hd
      obtain ⟨err, herr⟩ := restartPass_degraded h hd
      simp only [herr]
      refine Shared.Triple.bind (Shared.Triple.conseq (replayEffects_fresh rack.id _) (fun w hw => ⟨hw.1.fresh, hw.2⟩)
        fun _ _ hw => hw) fun _ => ?_
      exact .pure fun w hw => Or.inr ⟨⟨err, rfl⟩, hw.1.1, hw.2⟩
    · have hfree := replayEffects_free rack.id (env.restartPass checks cluster.toCluster rack).effects
        fun f hf => hd ⟨f, hf⟩
      refine Shared.Triple.bind hfree fun _ => ?_
      dsimp only
      generalize cluster.withPending (env.restartPass checks cluster.toCluster rack).pending = published
      rcases (env.restartPass checks cluster.toCluster rack).result with err | ⟨_ | _⟩
      · exact .pure fun w hw => Or.inl hw
      · exact restartRacks_sticky h rest _ published
      · refine Shared.Triple.bind (Free.workKept.setPhase published _ _) ?_
        rintro ⟨reply, last⟩
        cases reply <;> exact .pure fun w hw => Or.inl hw.2

end Restart

/-! ## The pass -/

section Pass

variable {env : ReconcileEnv}

theorem updateStatusAndPhase_free (status : StatusEnv) (phase : Phase) (reason : String) :
    Keeps (fun _ => True) Free (updateStatusAndPhase status phase reason) := by
  have hpersist : ∀ observed attempt,
      Keeps (fun _ => True) Free (persistStatus status phase reason observed attempt) := by
    rintro observed ⟨latest, k⟩
    refine Shared.Keeps.bind (.put Free.edits ?_) ?_
    · intro o l h
      have h1 : Free latest.val (l ++ [.event (.persisted phase)]) := h.event (by simp)
      have h2 : Free latest.val (l ++ [.event (.persisted phase)] ++ [.event (.recorded latest.val.status)]) :=
        h1.event (by simp)
      simpa using h2
    · rintro ((_ | err) | _)
      · refine .bind (.get Free.edits) ?_
        rintro (err | refetched)
        · exact .pure
        · simp only
          split <;> exact .pure
      · exact .pure
      · exact .pure
  refine Shared.Keeps.bind (.get Free.edits) ?_
  rintro (err | copy)
  · exact .pure
  · simp only
    split
    · exact .pure
    · split
      · exact .pure
      · exact .retryOnConflict (fun attempt => hpersist _ attempt) _ _

theorem reconcileCluster_sticky (h : ∀ id, (env.restart id).NoOverwrite) (cluster : ClusterObject) :
    Triple (Within (fun _ => True) Free) (reconcileCluster env cluster) fun r w =>
      Within (fun _ => True) Free w ∨ ((∃ err, r = .error err) ∧ Within (fun _ => True) Watched w) := by
  refine Free.workKept.reconcileCluster (fun _ _ hw => Or.inl hw) fun checks scaled _ => ?_
  refine Free.workKept.reconcileResources (fun _ _ hw => Or.inl hw) (restartRacks_sticky h _ checks scaled) ?_ ?_ ?_
  · rintro err c w (hw | ⟨_, hw⟩)
    · exact Or.inl hw
    · exact Or.inr ⟨⟨err, rfl⟩, hw⟩
  · rintro r c w (hw | ⟨⟨err, herr⟩, _⟩)
    · exact Or.inl hw
    · cases herr
  · intro c
    refine Shared.Triple.conseq (Free.workKept.reconcileACLAndStatus (updateStatusAndPhase_free env.status) c) ?_
      fun _ _ hw => Or.inl hw
    rintro w (hw | ⟨⟨err, herr⟩, _⟩)
    · exact hw
    · cases herr

theorem handleReconcileError_watched (permanent : Bool) (err : String) :
    Keeps (fun _ => True) Watched (handleReconcileError permanent err) := by
  refine Shared.Keeps.bind (.modify Watched.edits ?_) ?_
  · rintro o l new events h ⟨⟩
    refine ⟨h.sticky.event ?_ (fun _ => rfl), ?_⟩
    · rintro ha _ ⟨⟩
      exact (h.held ha).1
    · intro ha
      exact h.held (ha.of_event.resolve_left (by simp))
  · rintro (_ | _) <;> exact .pure

theorem Free.watched {w : OpWorld} (h : Within (fun _ => True) Free w) :
    Within (fun _ => True) Watched w := ⟨h.1.fresh.1, h.2⟩

theorem reconcileSpec_sticky (h : ∀ id, (env.restart id).NoOverwrite) (read : ObjectSpec) (cluster : ClusterObject) :
    Triple (Within (fun _ => True) Free) (reconcileSpec env read cluster) fun _ =>
      Within (fun _ => True) Watched := by
  have hfail : ∀ err, Triple (Within (fun _ => True) Free) (handleReconcileError env.permanent err)
      fun _ => Within (fun _ => True) Watched := fun err =>
    (handleReconcileError_watched env.permanent err).conseq (fun _ hw => Free.watched hw) fun _ _ hw => hw
  have hprogress : Keeps (fun _ => True) Free (announceProgress cluster) := by
    unfold announceProgress
    split
    · exact (Free.workKept.setPhase cluster _ _).post fun _ _ hw => hw.2
    · exact .pure
  refine Shared.Triple.bind hprogress ?_
  rintro ⟨reply, announced⟩
  cases reply with
  | conflict => exact .pure fun _ hw => Free.watched hw
  | failed err => exact hfail err
  | done =>
    refine Shared.Triple.bind (Free.workKept.emitOne rfl) fun _ => ?_
    cases env.servicesError with
    | some err => exact hfail err
    | none =>
      refine Shared.Triple.bind (Q := fun _ => Within (fun _ => True) Free)
        (.emit fun w hw => ⟨hw.1.event (by simp), hw.2⟩) fun _ => ?_
      refine Shared.Triple.bind (reconcileCluster_sticky h announced) ?_
      rintro (err | result)
      · refine (handleReconcileError_watched env.permanent err).conseq ?_ fun _ _ hw => hw
        rintro w (hw | ⟨_, hw⟩)
        · exact Free.watched hw
        · exact hw
      · have hok : ∀ w, (Within (fun _ => True) Free w ∨ ((∃ err : String, .ok result = Except.error err) ∧
            Within (fun _ => True) Watched w)) → Within (fun _ => True) Free w := by
          rintro w (hw | ⟨⟨err, herr⟩, _⟩)
          · exact hw
          · cases herr
        simp only
        split
        · refine Shared.Triple.bind (Shared.Triple.conseq (Shared.Keeps.modify (P := Free) Free.edits ?_) hok
            fun _ _ hw => hw) fun _ => .pure fun _ hw => Free.watched hw
          intro o l new events ho hf
          unfold resetWrite at hf
          split at hf
          · cases hf
          · cases hf
            exact ho.event (by simp)
        · exact .pure fun w hw => Free.watched (hok w hw)

theorem reconcileActive_sticky (h : ∀ id, (env.restart id).NoOverwrite) (cluster : ClusterObject) :
    Triple (Within (fun _ => True) Free) (reconcileActive env cluster) fun _ =>
      Within (fun _ => True) Watched := by
  unfold reconcileActive
  split
  · unfold handleCircuitBreakerBackoff
    simp only
    split
    · exact Shared.Triple.bind (Free.workKept.setPhase cluster _ _) fun _ => .pure fun _ hw => Free.watched hw.2
    · exact .pure fun _ hw => Free.watched hw
  · split
    · exact .pure fun _ hw => Free.watched hw
    · split
      · exact reconcileSpec_sticky h _ _
      · split
        · exact (handleReconcileError_watched _ _).conseq (fun _ hw => Free.watched hw) fun _ _ hw => hw
        · exact .pure fun _ hw => Free.watched hw
        · exact reconcileSpec_sticky h _ _

/-- What a pass may rely on when it reads: while the phase is to stay, the breaker is not at its
limit. -/
def Readable (o : ClusterObject) (l : List OpEntry) : Prop :=
  Watched o l ∧ (Armed l → o.status.failedReconcileCount < maxFailedReconciles)

theorem Readable.edits : KeptByEdits applyEdit (fun _ => True) Readable := by
  rintro o l d _ ⟨hw, hcount⟩
  refine ⟨hw.edit d, ?_⟩
  intro harmed
  obtain ⟨hd, ha⟩ := harmed.of_edit
  cases d with
  | spec s => exact hcount ha
  | status s => cases hd
  | delete => cases hd

theorem handleDeletion_free (cluster : ClusterObject) :
    Keeps (fun _ => True) Free (handleDeletion cluster) := by
  unfold handleDeletion
  split
  · exact .pure
  · refine Shared.Triple.bind (Free.workKept.setPhase cluster _ _) ?_
    rintro ⟨reply, deleting⟩
    have hfinal : Keeps (fun _ => True) Free finalizeDeletion := by
      refine .bind (Free.workKept.emitOne rfl) fun _ => .bind (.modify Free.edits ?_) ?_
      · rintro o l new events h ⟨⟩
        rw [List.map_nil, List.append_nil]
        exact h
      · rintro ((_ | _) | _) <;> exact .pure
    cases reply with
    | failed err => exact .pure fun _ hw => hw.2
    | done => exact hfinal.conseq (fun _ hw => hw.2) fun _ _ hw => hw
    | conflict => exact hfinal.conseq (fun _ hw => hw.2) fun _ _ hw => hw

theorem addFinalizer_watched (copy : Shared.Copy ClusterObject) :
    Triple (fun w => Within (fun _ => True) Watched w ∧ w.obj = copy.val ∧ w.version = copy.version)
      (addFinalizer copy) fun _ => Within (fun _ => True) Watched := by
  refine Shared.Triple.bind (Q := fun _ => Within (fun _ => True) Watched)
    (Shared.put_triple Watched.edits.stable (fun _ _ hw => hw) ?_) ?_
  · rintro v ⟨hv, hA⟩ hobj
    rw [hobj] at hv
    have hhistory : (v.write { copy.val with finalizer := true } []).history = v.history := List.append_nil _
    refine ⟨⟨?_, ?_⟩, hA⟩
    · rw [hhistory]
      exact hv.sticky
    · rw [hhistory]
      exact hv.held
  · rintro ((_ | _) | _) <;> exact .pure fun _ hw => hw

theorem reconcileRead_sticky (h : ∀ id, (env.restart id).NoOverwrite) (copy : Shared.Copy ClusterObject) :
    Triple (fun w => Within (fun _ => True) Readable w ∧ w.obj = copy.val ∧ w.version = copy.version)
      (reconcileRead env copy) fun _ => Within (fun _ => True) Watched := by
  rintro w ⟨⟨⟨hwatched, hcount⟩, hA⟩, hobj, hver⟩
  -- what the object as read says about the history
  have hheld := hwatched.held
  rw [hobj] at hheld hcount
  have hfree : ¬Armed w.history → Within (fun _ => True) Free w := fun ha => ⟨⟨hwatched.sticky, ha⟩, hA⟩
  unfold reconcileRead
  split
  · rename_i hdel
    refine Free.watched (handleDeletion_free copy.val w (hfree fun ha => ?_))
    rw [(hheld ha).2.2] at hdel
    cases hdel
  · split
    · exact addFinalizer_watched copy w ⟨⟨hwatched, hA⟩, hobj, hver⟩
    · split
      · rename_i hpaused
        have hf := hfree fun ha => (hheld ha).2.1 hpaused
        refine Free.watched (Shared.Keeps.bind (modifyWithRetry_keeps Free.edits ?_) ?_ w hf)
        · rintro o l new events ho ⟨⟩
          exact ho.event (by simp)
        · rintro (_ | _) <;> exact .pure
      · split
        · rename_i hphase
          have hf := hfree fun ha => by
            have := (hheld ha).1
            rw [hphase] at this
            cases this
          have hresume : Keeps (fun _ => True) Free handleResume := by
            refine modifyWithRetry_keeps Free.edits ?_
            rintro o l new events ho ⟨⟩
            exact ho.event (by simp)
          refine Shared.Triple.bind (R := fun _ => Within (fun _ => True) Watched) hresume ?_ w hf
          rintro (_ | _)
          · exact .pure fun _ hw => Free.watched hw
          · exact reconcileActive_sticky h _
        · by_cases ha : Armed w.history
          · -- the halt
            unfold reconcileActive
            rw [if_neg (by have := hcount ha; omega), if_pos (hheld ha).1]
            exact ⟨hwatched, hA⟩
          · exact reconcileActive_sticky h _ w (hfree ha)

end Pass

/-! ## Runs -/

/-- In every pass no restart follows a rollback, and no pass begins with the degraded phase and a
breaker at its limit. -/
def ReconcileStep.Sparing (w : OpWorld) : ReconcileStep → Prop
  | .edit _ => True
  | .reconcile env _ => (∀ id, (env.restart id).NoOverwrite) ∧
      (w.obj.status.phase = .configDegraded → w.obj.status.failedReconcileCount < maxFailedReconciles)

theorem reconcile_sticky {env : ReconcileEnv} (h : ∀ id, (env.restart id).NoOverwrite) :
    Triple (Within (fun _ => True) Readable) (reconcile env) fun _ =>
      Within (fun _ => True) Watched := by
  refine Shared.Triple.bind (Q := fun r w => Within (fun _ => True) Readable w ∧
      ∀ copy, r = .ok copy → w.obj = copy.val ∧ w.version = copy.version) ?_ ?_
  · refine Shared.get_triple Readable.edits.stable (fun w err hw => ⟨hw, ?_⟩) (fun w hw => ⟨hw, ?_⟩)
    · rintro _ ⟨⟩
    · rintro _ ⟨⟩
      exact ⟨rfl, rfl⟩
  · rintro (err | copy)
    · exact .pure fun w hw => ⟨hw.1.1.1, hw.1.2⟩
    · refine Shared.Triple.bind (.emit fun w hw => ?_) fun _ => reconcileRead_sticky h copy
      obtain ⟨⟨⟨hwatched, hcount⟩, hA⟩, hcopy⟩ := hw
      refine ⟨⟨⟨hwatched.event (by simp) (by simp) (fun _ => rfl), ?_⟩, hA⟩, hcopy copy rfl⟩
      intro ha
      exact hcount (ha.of_event.resolve_left (by simp))

theorem step_watched {w t : OpWorld} {a : ReconcileStep} (hw : Watched w.obj w.history) (ha : a.Sparing w)
    (h : ReconcileStep.step w a = some t) : Watched t.obj t.history := by
  cases a with
  | edit d =>
    cases h
    exact Watched.edits.editAll [d] w (fun _ _ => trivial) hw
  | reconcile env turns =>
    cases h
    have hread : Readable w.obj w.history := ⟨hw, fun harmed => ha.2 (hw.held harmed).1⟩
    exact (reconcile_sticky ha.1 { w with turns := turns } ⟨hread, fun _ _ _ _ => trivial⟩).1

/-- In every run whose steps are sparing, the degraded phase stays until a user intervenes, and the
passes after the one that wrote it touch nothing. -/
theorem degraded_sticky {o : ClusterObject} {l : List ReconcileStep} {t : OpWorld}
    (hl : Lts.Along ReconcileStep.step (fun w a => a.Sparing w) (.start o) l)
    (h : Lts.run ReconcileStep.step (.start o) l = some t) : Sticky t.history := by
  have hstart : Watched (OpWorld.start o).obj (OpWorld.start o).history := by
    constructor
    · intro before e after hnil
      cases before <;> cases hnil
    · rintro ⟨before, after, hnil, _⟩
      cases before <;> cases hnil
  exact (Lts.run_invariant (I := fun w : OpWorld => Watched w.obj w.history)
    (fun _ _ _ hw ha h => step_watched hw ha h) hstart hl h).sticky

/-! ## A degraded phase that is overwritten -/

/-- Whether the phase is to stay, entry by entry. -/
def armedAfter (armed : Bool) : OpEntry → Bool
  | .event (.degraded false) => true
  | .event _ => armed
  | .edit d => armed && !d.intervenes

theorem armed_of_armedAfter (h : l.foldl armedAfter false = true) : Armed l := by
  induction l using List.reverseRecOn with
  | nil => cases h
  | append_singleton l x ih =>
    have hsnoc : Armed l → (∀ d, x = .edit d → d.intervenes = false) → Armed (l ++ [x]) := by
      rintro ⟨before, after, rfl, hafter⟩ hx
      refine ⟨before, after ++ [x], by simp, ?_⟩
      intro d hd
      rcases List.mem_append.1 hd with hd | hd
      · exact hafter d hd
      · exact hx d (List.mem_singleton.1 hd).symm
    rw [List.foldl_append, List.foldl_cons, List.foldl_nil] at h
    unfold armedAfter at h
    split at h
    · exact ⟨l, [], rfl, fun d hd => nomatch hd⟩
    · exact hsnoc (ih h) (by simp)
    · rw [Bool.and_eq_true, Bool.not_eq_true'] at h
      refine hsnoc (ih h.1) ?_
      rintro d ⟨⟩
      exact h.2

/-- The entry at an index writes this phase. -/
def persistsAt (l : List OpEntry) (k : Nat) (phase : Phase) : Bool :=
  match l[k]? with
  | some (.event (.persisted p)) => p = phase
  | _ => false

theorem Sticky.persistsAt (h : Sticky l) {k : Nat} {phase : Phase} (hk : persistsAt l k phase = true)
    (ha : (l.take k).foldl armedAfter false = true) : phase = .configDegraded := by
  unfold Acko.persistsAt at hk
  split at hk
  · rename_i p hp
    obtain ⟨hlt, hp⟩ := List.getElem?_eq_some_iff.1 hp
    rw [← of_decide_eq_true hk]
    refine (h (l.take k) (.persisted p) (l.drop (k + 1)) ?_).1 (armed_of_armedAfter ha) p rfl
    rw [← hp, List.getElem_cons_drop, List.take_append_drop]
  · cases hk

/-- Two pods, updated together. -/
def pairObject : ClusterObject :=
  let o := ClusterObject.fresh "db" "ce:8"
  { o with
    spec := { o.spec with spec := { o.spec.spec with
      size := 2
      aerospikeConfig := some [("service", .map [("proto-fd-max", .leaf (.int 20000))])]
      rollingUpdateBatchSize := some 2
      enableDynamicConfigUpdate := some true } }
    status := { o.status with
      aerospikeConfig := some [("service", .map [("proto-fd-max", .leaf (.int 15000))])] } }

def pairPods : List Pod :=
  [.serving "db-0-0" "ce:8" "10.0.0.1" ⟨"old", "", ""⟩, .serving "db-0-1" "ce:8" "10.0.0.2" ⟨"old", "", ""⟩]

/-- The second pod to be updated refuses the command, and the first one the rollback. -/
def refusedUpdate (deleteReply : DeleteReply) : RestartEnv :=
  { RestartEnv.calm false ["10.0.0.1", "10.0.0.2"] with
    deleteReply := fun _ => deleteReply
    dyn := { DynEnv.calm ["10.0.0.1", "10.0.0.2"] with
      applyReply := fun pod _ => if pod = "db-0-0" then .answer "ERROR" else .answer "ok"
      rollbackReply := fun _ _ => .answer "ERROR" } }

def pairPass (restart : RestartEnv) : ReconcileEnv :=
  let sts : StatefulSet := ⟨"db-0", some 2, ⟨"new", "", ""⟩, .parallel⟩
  { ReconcileEnv.calm [] with
    hashesOf := fun _ _ => sts.hashes
    objs := [⟨sts, false⟩]
    pods := fun _ => pairPods
    restart := fun _ => restart
    loopSts := fun _ => some sts
    loopPods := fun _ => pairPods
    status := ⟨fun _ => .ok pairPods, 0, false⟩ }

/-- The pass that writes the degraded phase restarts the pods and announces the rolling restart. -/
theorem degraded_overwritten : ∃ w,
    ReconcileStep.step (.start pairObject) (.reconcile (pairPass (refusedUpdate .deleted)) []) = some w ∧
      ¬Sticky w.history := by
  refine ⟨_, rfl, fun h => ?_⟩
  have hphase : Phase.rollingRestart = .configDegraded :=
    h.persistsAt (k := 14) (by decide +kernel) (by decide +kernel)
  cases hphase

theorem degraded_sticky_undeleted : ∃ w,
    Lts.run ReconcileStep.step (.start pairObject)
      (List.replicate 2 (.reconcile (pairPass (refusedUpdate (.failed "forbidden"))) [])) = some w ∧
    Armed w.history ∧ Sticky w.history := by
  have hspare : (refusedUpdate (.failed "forbidden")).NoOverwrite :=
    Or.inr ⟨fun _ => ⟨_, rfl⟩, fun h => nomatch h⟩
  have hl : Lts.Along ReconcileStep.step (fun w a => a.Sparing w) (.start pairObject)
      (List.replicate 2 (.reconcile (pairPass (refusedUpdate (.failed "forbidden"))) [])) := by
    refine .cons rfl ⟨fun _ => hspare, ?_⟩ (.cons rfl ⟨fun _ => hspare, ?_⟩ trivial)
    · intro h
      cases h
    · intro _
      decide +kernel
  exact ⟨_, rfl, armed_of_armedAfter (by decide +kernel), degraded_sticky hl rfl⟩

end Acko
