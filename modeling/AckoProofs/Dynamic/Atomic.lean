/-
How far the two-phase update is atomic. An update that fails and whose rollback reports no failure
leaves every node with the parameters it had, but for what it could not take back on the pod on
which it stopped: the rollback of that pod is best-effort, and its result is not reported.
-/
import AckoProofs.Dynamic.TwoPhase
import AckoProofs.Lib.Writes

namespace Acko

/-! ## Commands as writes -/

/-- The write of an acknowledged command: the parameter of a node and its new text. -/
def Effect.write : Effect → Option ((String × Param) × Option String)
  | .setConfig host cmd => some ((host, cmd.param), some cmd.value)
  | _ => none

def writesOf (effects : List Effect) : List ((String × Param) × Option String) := effects.filterMap Effect.write

theorem writesOf_append (l m : List Effect) : writesOf (l ++ m) = writesOf l ++ writesOf m := List.filterMap_append

theorem runtimesAfter_eq : ∀ (effects : List Effect) (rt : Runtimes) (host : String) (param : Param),
    runtimesAfter rt effects host param = Writes.apply (fun k => rt k.1 k.2) (writesOf effects) (host, param)
  | [], rt, host, param => rfl
  | e :: l, rt, host, param => by
    show runtimesAfter (e.onRuntimes rt) l host param = _
    rw [runtimesAfter_eq l]
    cases e with
    | setConfig h cmd =>
      show Writes.apply _ (writesOf l) _ =
        Writes.apply (Function.update _ (h, cmd.param) (some cmd.value)) (writesOf l) _
      congr 1
      funext ⟨h', p'⟩
      simp only [Effect.onRuntimes, Function.update_apply, Prod.mk.injEq]
      by_cases hh : h' = h
      · subst hh
        by_cases hp : p' = cmd.param <;> simp [hp]
      · simp [hh]
    | _ => rfl

def PodDynamicUpdate.writes (u : PodDynamicUpdate) : List ((String × Param) × Option String) :=
  u.applied.map fun ac => ((u.host, ac.change.param), some ac.change.newValue.fmtV)

def PodDynamicUpdate.undoWrites (env : DynEnv) (u : PodDynamicUpdate) : List ((String × Param) × Option String) :=
  (u.applied.zipIdx.reverse.filterMap (ackedRollback env u.podName)).map
    fun cmd => ((u.host, cmd.param), some cmd.value)

theorem writesOf_applyEffects (u : PodDynamicUpdate) : writesOf (applyEffects u.host u.applied) = u.writes := by
  unfold writesOf applyEffects PodDynamicUpdate.writes
  rw [List.filterMap_map, ← List.filterMap_eq_map]
  rfl

theorem writesOf_markEffects (env : DynEnv) (hash pod : String) : writesOf (markEffects env hash pod) = [] := by
  unfold writesOf
  rw [List.filterMap_eq_nil_iff]
  intro e he
  rcases mem_markEffects.1 he with ⟨rfl, _⟩ | ⟨rfl, _⟩ <;> rfl

theorem writesOf_rollback (env : DynEnv) (u : PodDynamicUpdate) :
    writesOf (rollbackDynamicChangesWithResult env u).2 = u.undoWrites env := by
  rw [rollbackDynamicChangesWithResult, (rollbackLoop_spec env u.podName u.host _).1]
  unfold writesOf PodDynamicUpdate.undoWrites
  rw [List.filterMap_map, ← List.filterMap_eq_map]
  rfl

theorem writesOf_rollbackBatch (env : DynEnv) (updates : List PodDynamicUpdate) :
    writesOf (rollbackDynamicChangesBatch env updates).2 = updates.reverse.flatMap (·.undoWrites env) := by
  rw [rollbackDynamicChangesBatch, (rollbackPods_spec env _).1]
  generalize updates.reverse = l
  induction l with
  | nil => rfl
  | cons u l ih =>
    rw [List.map_cons, List.flatten_cons, writesOf_append, writesOf_rollback, ih, List.flatMap_cons]

/-! ## The trace of a failed update -/

/-- The update of a pod is part of an update with these changes and targets: its node is a target,
and each applied change is one of the changes, with the command that takes it back. -/
structure PodDynamicUpdate.Of (changes : List Change) (hosts : List String) (u : PodDynamicUpdate) : Prop where
  host : u.host ∈ hosts
  change : ∀ ac ∈ u.applied, ac.change ∈ changes
  rollback : ∀ ac ∈ u.applied, ac.rollback = buildRollbackCommand ac.change

variable {t : String × String} {hosts : List String} {changes : List Change}

theorem podUpdate_of (env : DynEnv) (changes : List Change) (h : t.2 ∈ hosts) :
    (podUpdate env changes t).Of changes hosts := by
  obtain ⟨rest, happ, _, hrb⟩ := applyDynamicConfigOnPod_spec env t.1 changes 0
  refine ⟨h, ?_, hrb⟩
  intro ac hac
  have : ac.change ∈ (applyDynamicConfigOnPod env t.1 0 changes).1.map (·.change) ++ rest :=
    List.mem_append_left _ (List.mem_map_of_mem hac)
  rw [happ] at this
  exact this

theorem writesOf_completeEffects (env : DynEnv) (hash : String) (changes : List Change)
    (targets : List (String × String)) : writesOf (targets.flatMap (completeEffects env hash changes)) =
      (targets.map (podUpdate env changes)).flatMap (·.writes) := by
  induction targets with
  | nil => rfl
  | cons t rest ih =>
    rw [List.flatMap_cons, writesOf_append, ih, completeEffects, writesOf_append, writesOf_markEffects,
      List.append_nil, List.map_cons, List.flatMap_cons, ← writesOf_applyEffects]
    rfl

/-- A target that takes the update has taken every change, in order. -/
theorem writes_of_takes (env : DynEnv) (h : env.takes changes t.1 = true) :
    (podUpdate env changes t).writes = changes.map fun c => ((t.2, c.param), some c.newValue.fmtV) := by
  obtain ⟨rest, happ, hrest, _⟩ := applyDynamicConfigOnPod_spec env t.1 changes 0
  rw [hrest (Bool.and_eq_true_iff.1 h).2, List.append_nil] at happ
  conv_rhs => rw [← happ, List.map_map]
  rfl

theorem exists_last {α : Type} {P : α → Prop} [DecidablePred P] : ∀ {l : List α}, (∃ x ∈ l, P x) →
    ∃ front x back, l = front ++ x :: back ∧ P x ∧ ∀ y ∈ back, ¬ P y
  | [], ⟨x, hx, _⟩ => by cases hx
  | x :: l, h => by
    by_cases hl : ∃ y ∈ l, P y
    · obtain ⟨front, y, back, rfl, hy, hback⟩ := exists_last hl
      exact ⟨x :: front, y, back, rfl, hy, hback⟩
    · rw [List.exists_mem_cons_iff] at h
      exact ⟨[], x, l, rfl, h.resolve_right hl, fun y hy hP => hl ⟨y, hy, hP⟩⟩

section Applied

variable (env : DynEnv) (hash : String) {targets : List (String × String)}
  (htakes : ∀ t ∈ targets, env.takes changes t.1 = true) (rt : Runtimes)

include htakes

theorem writesOf_applyPhase : writesOf (applyPhase env hash changes [] targets).effects =
    targets.flatMap fun t => changes.map fun c => ((t.2, c.param), some c.newValue.fmtV) := by
  rw [applyPhase_ok env hash changes targets [] htakes, writesOf_completeEffects, List.flatMap_map]
  exact List.flatMap_congr fun t ht => writes_of_takes env (htakes t ht)

/-- A parameter gets the value of its last change. -/
theorem applyPhase_changed (ht : t ∈ targets) {front back : List Change} {c : Change}
    (hchanges : changes = front ++ c :: back) (hlast : c.param ∉ back.map (·.param)) :
    runtimesAfter rt (applyPhase env hash changes [] targets).effects t.2 c.param = some c.newValue.fmtV := by
  -- the last target at this address
  obtain ⟨before, u, after, htargets, hu, hafter⟩ :=
      exists_last (P := fun u : String × String => u.2 = t.2) ⟨t, ht, rfl⟩
  rw [runtimesAfter_eq, writesOf_applyPhase env hash htakes, htargets, List.flatMap_append, List.flatMap_cons, hu,
    hchanges,
    List.map_append, List.map_cons, List.append_assoc, ← List.append_assoc, List.cons_append]
  refine Writes.apply_last _ fun hmem => ?_
  obtain ⟨⟨k, v⟩, hw, hk⟩ := List.mem_map.1 hmem
  rcases List.mem_append.1 hw with hw | hw
  · obtain ⟨d, hd, heq⟩ := List.mem_map.1 hw
    cases hk
    exact hlast (List.mem_map.2 ⟨d, hd, congrArg (fun w => w.1.2) heq⟩)
  · obtain ⟨s, hs, hw⟩ := List.mem_flatMap.1 hw
    obtain ⟨d, -, heq⟩ := List.mem_map.1 hw
    cases hk
    exact hafter s hs (congrArg (fun w => w.1.1) heq)

theorem applyPhase_kept (t : String × String) {param : Param} (hparam : param ∉ changes.map (·.param)) :
    runtimesAfter rt (applyPhase env hash changes [] targets).effects t.2 param = rt t.2 param := by
  rw [runtimesAfter_eq, writesOf_applyPhase env hash htakes]
  refine Writes.apply_of_not_mem fun hmem => ?_
  obtain ⟨⟨k, v⟩, hw, hk⟩ := List.mem_map.1 hmem
  obtain ⟨s, -, hw⟩ := List.mem_flatMap.1 hw
  obtain ⟨c, hc, heq⟩ := List.mem_map.1 hw
  cases hk
  exact hparam (List.mem_map.2 ⟨c, hc, congrArg (fun w => w.1.2) heq⟩)

end Applied

/-- A failed apply phase: some pods were completed, perhaps one was stopped halfway; then the
stopped pod and all completed ones were rolled back. -/
structure FailedTrace (env : DynEnv) (changes : List Change) (hosts : List String) (out : DynOutcome)
    (completed : List PodDynamicUpdate) : Prop where
  completed_of : ∀ u ∈ completed, u.Of changes hosts
  stopped_of : ∀ u ∈ out.stopped, u.Of changes hosts
  rollback : out.rollback = some (rollbackDynamicChangesBatch env completed).1
  writes : writesOf out.effects = (completed ++ out.stopped.toList).flatMap (·.writes) ++
    (out.stopped.toList.flatMap (·.undoWrites env) ++ completed.reverse.flatMap (·.undoWrites env))

theorem writesOf_stopEffects (env : DynEnv) (stopped : Option PodDynamicUpdate) : writesOf (stopEffects env stopped) =
    stopped.toList.flatMap (·.writes) ++ stopped.toList.flatMap (·.undoWrites env) := by
  cases stopped with
  | none => rfl
  | some u => simp [stopEffects, writesOf_append, writesOf_applyEffects, writesOf_rollback]

theorem applyPhase_failed (env : DynEnv) (hash : String) (changes : List Change) {pre post : List (String × String)}
    (hhosts : ∀ u ∈ pre ++ t :: post, u.2 ∈ hosts) (hpre : ∀ u ∈ pre, env.takes changes u.1 = true)
    (ht : env.takes changes t.1 = false) :
    FailedTrace env changes hosts (applyPhase env hash changes [] (pre ++ t :: post))
      (pre.map (podUpdate env changes)) := by
  rw [applyPhase_stop env hash changes ht post pre [] hpre]
  refine ⟨?_, ?_, rfl, ?_⟩
  · intro u hu
    obtain ⟨v, hv, rfl⟩ := List.mem_map.1 hu
    exact podUpdate_of env changes (hhosts v (List.mem_append_left _ hv))
  · intro u hu
    simp only [stoppedUpdate] at hu
    split at hu
    · cases hu
    · cases hu
      exact podUpdate_of env changes (hhosts t (by simp))
  · simp only [writesOf_append, writesOf_completeEffects, writesOf_stopEffects, writesOf_rollbackBatch,
      List.nil_append, List.flatMap_append, List.append_assoc]

/-! ## Atomicity -/

/-- The text of a change's old value; none where there was no value. -/
def Change.oldText (change : Change) : Option String :=
  if change.oldValue.isNil then none else some change.oldValue.fmtV

theorem PodDynamicUpdate.Of.undoWrites {env : DynEnv} {u : PodDynamicUpdate} (hu : u.Of changes hosts)
    {k : String × Param} {v : Option String} (h : (k, v) ∈ u.undoWrites env) :
    ∃ c ∈ changes, k = (u.host, c.param) ∧ v = c.oldText := by
  obtain ⟨cmd, hcmd, hkv⟩ := List.mem_map.1 h
  obtain ⟨⟨ac, i⟩, he, hack⟩ := List.mem_filterMap.1 hcmd
  have hac : ac ∈ u.applied := (List.mem_zipIdx (List.mem_reverse.1 he)).2.2 ▸ List.getElem_mem _
  obtain ⟨hrb, _⟩ := Option.filter_eq_some_iff.1 hack
  rw [hu.rollback ac hac] at hrb
  obtain ⟨hnil, rfl⟩ := buildRollbackCommand_some hrb
  cases hkv
  exact ⟨ac.change, hu.change ac hac, rfl, by simp [Change.oldText, hnil]⟩

theorem PodDynamicUpdate.Of.mem_undoWrites {env : DynEnv} {u : PodDynamicUpdate} (hu : u.Of changes hosts)
    {e : AppliedChange × Nat} (he : e ∈ u.applied.zipIdx) (hack : (ackedRollback env u.podName e).isSome) :
    (u.host, e.1.change.param) ∈ (u.undoWrites env).map Prod.fst := by
  obtain ⟨cmd, hcmd⟩ := Option.isSome_iff_exists.1 hack
  have hac : e.1 ∈ u.applied := (List.mem_zipIdx he).2.2 ▸ List.getElem_mem _
  obtain ⟨hrb, _⟩ := Option.filter_eq_some_iff.1 hcmd
  rw [hu.rollback e.1 hac] at hrb
  have hparam : cmd.param = e.1.change.param := by rw [(buildRollbackCommand_some hrb).2]
  rw [← hparam]
  refine List.mem_map.2 ⟨((u.host, cmd.param), some cmd.value), List.mem_map.2 ⟨cmd, ?_, rfl⟩, rfl⟩
  exact List.mem_filterMap.2 ⟨e, List.mem_reverse.2 he, hcmd⟩

/-- The pod on which an update stopped keeps a change that it could not take back: the parameter
was set there, and no rollback of it was acknowledged. -/
def DynOutcome.LeftOver (env : DynEnv) (out : DynOutcome) (host : String) (param : Param) : Prop :=
  ∃ u ∈ out.stopped, u.host = host ∧ ∃ e ∈ u.applied.zipIdx, e.1.change.param = param ∧
    ackedRollback env u.podName e = none

theorem FailedTrace.restores {env : DynEnv} {out : DynOutcome} {completed : List PodDynamicUpdate}
    (h : FailedTrace env changes hosts out completed) {rt : Runtimes}
    (hrt : ∀ host ∈ hosts, ∀ c ∈ changes, rt host c.param = c.oldText)
    (hrb : ∀ rb ∈ out.rollback, rb.HasFailures = false) {host : String} {param : Param}
    (hleft : ¬ out.LeftOver env host param) : runtimesAfter rt out.effects host param = rt host param := by
  rw [runtimesAfter_eq, h.writes]
  refine Writes.apply_restored (s := fun k : String × Param => rt k.1 k.2) ?_ ?_
  · -- whatever is written back is the old text, which is what the node had
    have hold : ∀ u : PodDynamicUpdate, u.Of changes hosts → ∀ v, ((host, param), v) ∈ u.undoWrites env →
        v = rt host param := by
      intro u hu v hv
      obtain ⟨c, hc, hk, rfl⟩ := hu.undoWrites hv
      cases hk
      exact (hrt _ hu.host c hc).symm
    intro v hv
    rcases List.mem_append.1 hv with hv | hv
    · obtain ⟨u, hu, hv⟩ := List.mem_flatMap.1 hv
      exact hold u (h.stopped_of u (Option.mem_toList.1 hu)) v hv
    · obtain ⟨u, hu, hv⟩ := List.mem_flatMap.1 hv
      exact hold u (h.completed_of u (by simpa using hu)) v hv
  · -- and everything that was set is written back, unless it is left over
    intro hk
    obtain ⟨⟨k, v⟩, hkv, hfst⟩ := List.mem_map.1 hk
    cases hfst
    obtain ⟨u, hu, hkv⟩ := List.mem_flatMap.1 hkv
    obtain ⟨ac, hac, hkv⟩ := List.mem_map.1 hkv
    cases hkv
    obtain ⟨e, he, rfl⟩ : ∃ e ∈ u.applied.zipIdx, e.1 = ac := by
      rw [← List.zipIdx_map_fst 0 u.applied] at hac
      exact List.mem_map.1 hac
    rw [List.map_append, List.mem_append]
    rcases List.mem_append.1 hu with hu | hu
    · have hfail := hrb _ h.rollback
      rw [rollbackDynamicChangesBatch, (rollbackPods_spec env _).2] at hfail
      have hpod := hfail u (by simpa using hu)
      rw [rollbackDynamicChangesWithResult, (rollbackLoop_spec env u.podName u.host _).2] at hpod
      have hmem := (h.completed_of u hu).mem_undoWrites he (hpod e (List.mem_reverse.2 he))
      refine Or.inr ?_
      rw [List.map_flatMap]
      exact List.mem_flatMap.2 ⟨u, by simpa using hu, hmem⟩
    · have hu := Option.mem_toList.1 hu
      have hack : (ackedRollback env u.podName e).isSome := by
        by_contra hn
        exact hleft ⟨u, hu, rfl, e, he, rfl, by simpa using hn⟩
      have hmem := (h.stopped_of u hu).mem_undoWrites he hack
      refine Or.inl ?_
      rw [List.map_flatMap]
      exact List.mem_flatMap.2 ⟨u, Option.mem_toList.2 hu, hmem⟩

/-- Atomicity of the two-phase update: where it fails and its rollback, if it made one, reports no
failure, every parameter of every node is what it was before, except for a parameter set on the
pod on which the apply phase stopped whose own best-effort rollback was not acknowledged. -/
theorem failed_update_restores (env : DynEnv) (cluster : Cluster) (pods : List Pod) (oldConfig newConfig : Config)
    (hash : String) (rt : Runtimes)
    (hrt : ∀ p ∈ pods, ∀ c ∈ (Diff oldConfig newConfig).dynamic, rt p.podIP c.param = c.oldText)
    (hfail : (tryDynamicConfigUpdateBatch env cluster pods oldConfig newConfig hash).allOk = false)
    (hrb : ∀ rb ∈ (tryDynamicConfigUpdateBatch env cluster pods oldConfig newConfig hash).rollback,
      rb.HasFailures = false) (host : String) (param : Param) :
    runtimesAfter rt (tryDynamicConfigUpdateBatch env cluster pods oldConfig newConfig hash).effects host param =
        rt host param ∨
      (tryDynamicConfigUpdateBatch env cluster pods oldConfig newConfig hash).LeftOver env host param := by
  rw [tryDynamicConfigUpdateBatch_eq] at hfail hrb ⊢
  split at hfail
  · rename_i hreach
    rw [if_pos hreach] at hrb ⊢
    rcases first_refusal (fun t => env.takes (Diff oldConfig newConfig).dynamic t.1)
      (pods.map fun p => (p.name, p.podIP)) with h | ⟨pre, t, post, htargets, hpre, ht⟩
    · rw [(applyPhase_allOk ..).2 h] at hfail
      cases hfail
    · have hhosts : ∀ u ∈ pods.map (fun p => (p.name, p.podIP)), u.2 ∈ pods.map (·.podIP) := by
        intro u hu
        obtain ⟨p, hp, rfl⟩ := List.mem_map.1 hu
        exact List.mem_map_of_mem hp
      rw [htargets] at hhosts hrb ⊢
      rw [or_iff_not_imp_right]
      intro hleft
      refine (applyPhase_failed env hash _ hhosts hpre ht).restores ?_ hrb hleft
      intro host hh c hc
      obtain ⟨p, hp, rfl⟩ := List.mem_map.1 hh
      exact hrt p hp c hc
  · rename_i hreach
    rw [if_neg hreach]
    exact Or.inl rfl

/-! ## A change that is left over -/

def twoParamsOld : Config :=
  [("service", .map [("proto-fd-max", .leaf (.int 15000)), ("migrate-threads", .leaf (.int 1))])]

def twoParamsNew : Config :=
  [("service", .map [("proto-fd-max", .leaf (.int 20000)), ("migrate-threads", .leaf (.int 2))])]

def twoParamsRuntime : Runtimes := fun _ param =>
  if param.key = "proto-fd-max" then some "15000" else if param.key = "migrate-threads" then some "1" else none

def updatingCluster : Cluster :=
  { Cluster.bare "db" "ce:8" with
    spec := { (Cluster.bare "db" "ce:8").spec with enableDynamicConfigUpdate := some true } }

def updatingPods : List Pod := [Pod.serving "db-0-0" "ce:8" "10.0.0.1" ⟨"c1", "", ""⟩]

def refusingEnv : DynEnv :=
  { DynEnv.calm ["10.0.0.1"] with
    applyReply := fun _ i => if i = 0 then .answer "ok" else .answer "ERROR"
    rollbackReply := fun _ _ => .answer "ERROR" }

/-- An update that fails, with a rollback that reports no failure, and leaves the node with another
value than before. -/
theorem failed_update_leaves_change :
    let out := tryDynamicConfigUpdateBatch refusingEnv updatingCluster updatingPods twoParamsOld twoParamsNew "c2"
    (∀ p ∈ updatingPods, ∀ c ∈ (Diff twoParamsOld twoParamsNew).dynamic,
      twoParamsRuntime p.podIP c.param = c.oldText) ∧
    out.allOk = false ∧ (∀ rb ∈ out.rollback, rb.HasFailures = false) ∧
    runtimesAfter twoParamsRuntime out.effects "10.0.0.1" ⟨.context "service", "proto-fd-max"⟩ = some "20000" ∧
    twoParamsRuntime "10.0.0.1" ⟨.context "service", "proto-fd-max"⟩ = some "15000" := by
  refine ⟨by decide, by decide, by decide, by decide, by decide⟩

def recoveringEnv : DynEnv :=
  { DynEnv.calm ["10.0.0.1"] with applyReply := fun _ i => if i = 0 then .answer "ok" else .failed }

theorem failed_update_restores_recovering :
    let out := tryDynamicConfigUpdateBatch recoveringEnv updatingCluster updatingPods twoParamsOld twoParamsNew "c2"
    out.allOk = false ∧ ∀ host param, runtimesAfter twoParamsRuntime out.effects host param =
      twoParamsRuntime host param ∨ out.LeftOver recoveringEnv host param := by
  refine ⟨by decide, failed_update_restores recoveringEnv updatingCluster updatingPods twoParamsOld twoParamsNew "c2"
    twoParamsRuntime ?_ ?_ ?_⟩
  · decide
  · decide
  · decide

end Acko
