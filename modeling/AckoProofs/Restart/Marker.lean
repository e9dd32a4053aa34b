/-
The markers a batch leaves behind: the config-hash annotation and the status "Applied". The apply
phase writes them pod by pod, before it knows how the batch ends, and nothing takes them back. So
a pod that survives an aborted update, because its delete was refused or because it was restarted
warm, can carry the marker of changes its server does not run with.
-/
import AckoProofs.Dynamic.Atomic
import AckoProofs.Restart.Batch

namespace Acko

def RunsWith (changes : List Change) (rt : Runtime) : Prop := ∀ c ∈ changes, rt c.param = some c.newValue.fmtV

instance (changes : List Change) (rt : Runtime) : Decidable (RunsWith changes rt) := by
  unfold RunsWith; infer_instance

/-- The text of the value that a change asks for; none where it removes the parameter. -/
def Change.newText (change : Change) : Option String :=
  if change.newValue.isNil then none else some change.newValue.fmtV

/-- A call of `restartPodBatch` with a config edit. -/
structure BatchUpdate where
  env : RestartEnv
  cluster : Cluster
  sts : StatefulSet
  podsToRestart : List Pod
  batchSize : Int
  oldConfig : Config
  newConfig : Config

namespace BatchUpdate

variable (b : BatchUpdate)

def outcome : BatchOutcome :=
  restartPodBatch b.env b.cluster b.podsToRestart b.sts b.batchSize (some b.oldConfig) (some b.newConfig)

def effects : List Effect := b.outcome.effects

def pods : List Pod := b.podsToRestart.take b.batchSize.toNat

/-- The changes that the two-phase update sends, and those that only a restart brings about. -/
def dynamicChanges : List Change := (Diff b.oldConfig b.newConfig).dynamic
def staticChanges : List Change := (Diff b.oldConfig b.newConfig).static

/-- The server runs with all changes of the update; what a static change removes is not set. -/
def RunsUpdate (rt : Runtime) : Prop :=
  RunsWith b.dynamicChanges rt ∧ ∀ c ∈ b.staticChanges, rt c.param = c.newText

def desiredHash : String := b.sts.hashes.config

/-! ## What the markers should mean -/

/-- The call did not delete the pod, and it still exists. -/
def survives (p : Pod) : Prop := p.name ∉ deletedPods b.effects ∧ b.env.deleteReply p.name ≠ .notFound

/-- The pod carries the desired hash, or has been reported as updated. -/
def carriesMarker (p : Pod) : Prop :=
  (podAfter p b.effects).hashes.config = b.desiredHash ∨ .dynamicConfigStatus p.name "Applied" ∈ b.effects

/-- Every surviving pod that carries a marker runs with the changes of the update. -/
def NoStaleMarker {κ : Type} (params : κ → Runtime) (servers : Servers κ) : Prop :=
  ∀ p ∈ b.pods, b.survives p → b.carriesMarker p →
    b.RunsUpdate (serversAfter params servers b.effects p.podIP).runtime

/-! ## How the call goes, from its inputs -/

/-- The two-phase update gets as far as its apply phase. -/
def reaches : Bool := b.env.clientOk && reachesApply b.env.dyn b.cluster b.pods b.oldConfig b.newConfig

def takes (p : Pod) : Bool := b.env.dyn.takes b.dynamicChanges p.name

def goesThrough : Prop := b.reaches = true ∧ ∀ p ∈ b.pods, b.takes p = true

/-- The pods the apply phase completes: those before the first one that does not take the update. -/
def completed : List Pod := if b.reaches then b.pods.takeWhile b.takes else []

/-- The pod on which the apply phase stops, unless the context has expired by then. -/
def stopped : Option Pod :=
  if b.reaches then (b.pods.dropWhile b.takes).head?.filter (fun p => !b.env.dyn.applyExpired p.name) else none

def reached : List Pod := b.completed ++ b.stopped.toList

def appliedOn (p : Pod) : List AppliedChange :=
  if p ∈ b.reached then (applyDynamicConfigOnPod b.env.dyn p.name 0 b.dynamicChanges).1 else []

/-- The change was set on the node of the pod, and the node took it back. -/
def takenBack (p : Pod) (c : Change) : Prop :=
  ∃ e ∈ (b.appliedOn p).zipIdx, e.1.change.param = c.param ∧ (ackedRollback b.env.dyn p.name e).isSome

/-- The pod has a marker when the two-phase update is over: it had the hash before, or the apply
phase completed it and a patch went through. -/
def marked (p : Pod) : Prop :=
  p.hashes.config = b.desiredHash ∨
    p ∈ b.completed ∧ (b.desiredHash ≠ "" ∧ b.env.dyn.stampOk p.name = true ∨ b.env.dyn.statusOk p.name = true)

def warm (p : Pod) : Bool := shouldWarmRestart b.env b.cluster p b.sts && b.env.signalOk p.name

/-- What keeps the marker of a pod that is restarted true: a warm restart of a pod with a marker
loads a file with the changes; where the delete of a pod with a marker is refused, every dynamic change was
set on its node and not taken back, or its value was there before, and so was every static one's. -/
structure PodSafe {κ : Type} (params : κ → Runtime) (servers : Servers κ) (p : Pod) : Prop where
  warm : b.warm p = true → b.marked p ∨ b.env.warmStampOk p.name = true →
    b.RunsUpdate (params (servers p.podIP).conf)
  refused : b.warm p = false → (∃ reason, b.env.deleteReply p.name = .failed reason) → b.marked p →
    (∀ c ∈ b.dynamicChanges, (b.takenBack p c → c.oldText = some c.newValue.fmtV) ∧
      ((∀ ac ∈ b.appliedOn p, ac.change.param ≠ c.param) →
        (servers p.podIP).runtime c.param = some c.newValue.fmtV)) ∧
    ∀ c ∈ b.staticChanges, (servers p.podIP).runtime c.param = c.newText

/-- The pods of a batch are told apart by their names, and Ready pods and pods with a node by
their IPs; an update sends no parameter twice. -/
structure Distinct : Prop where
  names : (b.pods.map (·.name)).Nodup
  ips : ∀ p ∈ b.pods, ∀ q ∈ b.pods, p.podIP = q.podIP → p.podIP ≠ "" → p = q
  ready : ∀ p ∈ b.pods, isPodReady p = true → p.podIP ≠ ""
  params : (b.dynamicChanges.map (·.param)).Nodup

/-! ## The trace of an aborted update -/

def update : DynOutcome :=
  batchDynamicUpdate b.env b.cluster b.pods b.desiredHash (some b.oldConfig) (some b.newConfig)

def podUpdate (p : Pod) : PodDynamicUpdate := Acko.podUpdate b.env.dyn b.dynamicChanges (p.name, p.podIP)

theorem update_eq : b.update = if b.reaches then
    applyPhase b.env.dyn b.desiredHash b.dynamicChanges [] (b.pods.map fun p => (p.name, p.podIP)) else .notTried := by
  unfold update batchDynamicUpdate reaches
  simp only
  cases b.env.clientOk
  · rfl
  · rw [if_pos rfl, tryDynamicConfigUpdateBatch_eq]
    rfl

theorem update_allOk : b.update.allOk = true ↔ b.goesThrough := by
  rw [update_eq, goesThrough]
  cases b.reaches
  · simp [DynOutcome.notTried]
  · rw [if_pos rfl, applyPhase_allOk, List.forall_mem_map]
    simp [takes]

theorem effects_eq : b.effects = if b.update.allOk then b.update.effects else
    b.update.effects ++ degradedEffects b.update.rollback ++
      b.pods.flatMap fun p => (restartPod b.env b.cluster b.sts p).2 := by
  rw [← restartPods_effects]
  exact restartPodBatch_effects b.env b.cluster b.sts b.podsToRestart b.batchSize _ _

/-- An update that does not go through completes some pods and marks them, may stop halfway on the
next one, and rolls back: that one first. -/
theorem update_aborted (h : ¬ b.goesThrough) : b.update.effects =
    b.completed.flatMap (fun p => completeEffects b.env.dyn b.desiredHash b.dynamicChanges (p.name, p.podIP)) ++
      (stopEffects b.env.dyn (b.stopped.map b.podUpdate) ++
        (rollbackDynamicChangesBatch b.env.dyn (b.completed.map b.podUpdate)).2) := by
  rw [update_eq]
  unfold completed stopped
  cases hr : b.reaches with
  | false => rfl
  | true =>
    simp only [if_true]
    rcases first_refusal b.takes b.pods with hall | ⟨pre, q, post, hpods, hpre, hq⟩
    · exact absurd ⟨hr, hall⟩ h
    · have hcomp : b.pods.takeWhile b.takes = pre := by
        rw [hpods, List.takeWhile_append_of_pos hpre, List.takeWhile_cons_of_neg (by simp [hq]), List.append_nil]
      have hstop : (b.pods.dropWhile b.takes).head? = some q := by
        rw [hpods, List.dropWhile_append_of_pos hpre, List.dropWhile_cons_of_neg (by simp [hq])]
        rfl
      have hupdate : stoppedUpdate b.env.dyn b.dynamicChanges (q.name, q.podIP) =
          ((some q).filter fun p => !b.env.dyn.applyExpired p.name).map b.podUpdate := by
        unfold stoppedUpdate
        cases hexp : b.env.dyn.applyExpired q.name <;> simp [hexp, podUpdate]
      have hq' : b.env.dyn.takes b.dynamicChanges (q.name, q.podIP).1 = false := hq
      rw [hcomp, hstop, hpods, List.map_append, List.map_cons,
        applyPhase_stop b.env.dyn b.desiredHash b.dynamicChanges hq',
        hupdate]
      · simp only [List.flatMap_map, List.map_map, List.nil_append]
        rfl
      · intro t ht
        obtain ⟨p, hp, rfl⟩ := List.mem_map.1 ht
        exact hpre p hp

variable {b} {p : Pod}

theorem Distinct.eq_of_name (hd : b.Distinct) {q : Pod} (hp : p ∈ b.pods) (hq : q ∈ b.pods) (h : p.name = q.name) :
    p = q :=
  List.inj_on_of_nodup_map hd.names hp hq h

theorem completed_subset (h : p ∈ b.completed) : p ∈ b.pods := by
  unfold completed at h
  split at h
  · exact (List.takeWhile_sublist _).subset h
  · cases h

theorem reached_subset (h : p ∈ b.reached) : p ∈ b.pods := by
  rcases List.mem_append.1 h with h | h
  · exact completed_subset h
  · rw [Option.mem_toList, stopped] at h
    split at h
    · exact (List.dropWhile_sublist _).subset (List.mem_of_head? (Option.mem_filter_iff.1 h).1)
    · cases h

theorem restartPod_eq (p : Pod) : (restartPod b.env b.cluster b.sts p).2 =
    if b.warm p then if b.env.warmStampOk p.name then
        [.signal p.name p.podIP, .updatePodConfigHash p.name b.desiredHash] else [.signal p.name p.podIP]
    else (coldRestartPod b.env p).2 := by
  unfold restartPod warm
  cases shouldWarmRestart b.env b.cluster p b.sts
  · rfl
  · cases b.env.signalOk p.name
    · rfl
    · cases b.env.warmStampOk p.name <;> rfl

theorem effects_aborted (h : ¬ b.goesThrough) : b.effects = b.update.effects ++ degradedEffects b.update.rollback ++
    b.pods.flatMap fun p => (restartPod b.env b.cluster b.sts p).2 := by
  rw [effects_eq, if_neg (fun hok => h (b.update_allOk.1 hok))]

variable {e : Effect}

theorem restartPod_about (h : e ∈ (restartPod b.env b.cluster b.sts p).2) : e.about = some p.name := by
  rcases restartPod_effects b.env b.cluster b.sts p with hr | hr | hr | hr <;> rw [hr] at h
  · cases h
  · rw [List.mem_singleton.1 h]; rfl
  · rcases List.mem_pair.1 h with rfl | rfl <;> rfl
  · rw [List.mem_singleton.1 h]; rfl

/-! ## Survivors and their markers -/

theorem mem_coldRestartPod {env : RestartEnv} : e ∈ (coldRestartPod env p).2 ↔
    e = .delete p.name env.now ∧ env.deleteReply p.name = .deleted := by
  unfold coldRestartPod
  cases env.deleteReply p.name <;> simp

theorem mem_restartPod : e ∈ (restartPod b.env b.cluster b.sts p).2 ↔
    b.warm p = true ∧ (e = .signal p.name p.podIP ∨
      e = .updatePodConfigHash p.name b.desiredHash ∧ b.env.warmStampOk p.name = true) ∨
    b.warm p = false ∧ e = .delete p.name b.env.now ∧ b.env.deleteReply p.name = .deleted := by
  rw [restartPod_eq]
  cases b.warm p with
  | true => cases b.env.warmStampOk p.name <;> simp
  | false => simp [mem_coldRestartPod]

section Aborted

variable (hd : b.Distinct) (h : ¬ b.goesThrough) (hp : p ∈ b.pods)

include hd h hp

theorem mem_effects (he : e.about = some p.name) : e ∈ b.effects ↔
    p ∈ b.completed ∧ e ∈ markEffects b.env.dyn b.desiredHash p.name ∨
    e ∈ (restartPod b.env b.cluster b.sts p).2 := by
  have hcmd : ¬ e.ofUpdate b.desiredHash [] := by
    intro h
    cases e with
    | updatePodConfigHash _ _ => cases h.2
    | dynamicConfigStatus _ _ => cases h
    | setConfig _ _ => cases he
    | _ => exact h
  have happ : ∀ host applied, e ∉ applyEffects host applied := fun host applied hm =>
    hcmd (applyEffects_ofUpdate host applied b.desiredHash [] e hm)
  have hstop : ∀ u, e ∉ stopEffects b.env.dyn u := fun u hm =>
    hcmd (stopEffects_ofUpdate b.env.dyn u b.desiredHash [] e hm)
  have hundos : ∀ l, e ∉ (rollbackDynamicChangesBatch b.env.dyn l).2 := fun l hm =>
    hcmd (rollbackDynamicChangesBatch_ofUpdate b.env.dyn l b.desiredHash [] e hm)
  have hdeg : e ∉ degradedEffects b.update.rollback := by
    rcases degradedEffects_cases b.update.rollback with hd | ⟨pods, hd⟩ <;> rw [hd]
    · simp
    · intro hm
      rw [List.mem_singleton.1 hm] at he
      cases he
  rw [effects_aborted h, update_aborted b h]
  simp only [completeEffects, List.mem_append, List.mem_flatMap, happ, hstop, hundos, hdeg, false_or, or_false]
  refine or_congr ⟨?_, fun hm => ⟨p, hm⟩⟩ ⟨?_, fun hm => ⟨p, hp, hm⟩⟩
  · rintro ⟨q, hq, hm⟩
    have hn : q.name = p.name := by
      rcases mem_markEffects.1 hm with ⟨rfl, _⟩ | ⟨rfl, _⟩ <;> exact Option.some.inj he
    rw [← hd.eq_of_name (completed_subset hq) hp hn]
    exact ⟨hq, hm⟩
  · rintro ⟨q, hq, hm⟩
    have hn : q.name = p.name := Option.some.inj ((restartPod_about hm).symm.trans he)
    rwa [← hd.eq_of_name hq hp hn]

theorem mem_deletedPods_effects :
    p.name ∈ deletedPods b.effects ↔ b.warm p = false ∧ b.env.deleteReply p.name = .deleted := by
  have hdel : ∀ now, .delete p.name now ∈ b.effects ↔ now = b.env.now ∧ b.warm p = false ∧
      b.env.deleteReply p.name = .deleted := by
    intro now
    rw [mem_effects hd h hp rfl, mem_markEffects, mem_restartPod]
    simp [and_left_comm]
  rw [mem_deletedPods]
  simp only [hdel, exists_eq_left]

theorem carriesMarker_iff :
    b.carriesMarker p ↔ b.marked p ∨ b.warm p = true ∧ b.env.warmStampOk p.name = true := by
  have hstamp : .updatePodConfigHash p.name b.desiredHash ∈ b.effects ↔
      p ∈ b.completed ∧ b.desiredHash ≠ "" ∧ b.env.dyn.stampOk p.name = true ∨
      b.warm p = true ∧ b.env.warmStampOk p.name = true := by
    rw [mem_effects hd h hp rfl, mem_markEffects, mem_restartPod]
    simp
  have hstatus : .dynamicConfigStatus p.name "Applied" ∈ b.effects ↔
      p ∈ b.completed ∧ b.env.dyn.statusOk p.name = true := by
    rw [mem_effects hd h hp rfl, mem_markEffects, mem_restartPod]
    simp
  have honly : ∀ g, .updatePodConfigHash p.name g ∈ b.effects → g = b.desiredHash := by
    intro g hg
    exact (restartPodBatch_within _ _ _ _ _ _ _ _ hg).1
  rw [carriesMarker, podAfter_config_eq honly, hstamp, hstatus, marked, and_or_left]
  constructor
  · rintro ((hh | hm | hw) | hs)
    · exact Or.inl (Or.inl hh)
    · exact Or.inl (Or.inr (Or.inl hm))
    · exact Or.inr hw
    · exact Or.inl (Or.inr (Or.inr hs))
  · rintro ((hh | hm | hs) | hw)
    · exact Or.inl (Or.inl hh)
    · exact Or.inl (Or.inr (Or.inl hm))
    · exact Or.inr hs
    · exact Or.inl (Or.inr (Or.inr hw))

end Aborted

/-! ## What the servers of survivors run with -/

theorem writesOf_update (h : ¬ b.goesThrough) : ∃ undone : List Pod, (∀ p, p ∈ undone ↔ p ∈ b.reached) ∧
    writesOf b.update.effects = b.reached.flatMap (fun p => (b.podUpdate p).writes) ++
      undone.flatMap fun p => (b.podUpdate p).undoWrites b.env.dyn := by
  refine ⟨b.stopped.toList ++ b.completed.reverse, ?_, ?_⟩
  · intro p
    simp [reached, or_comm]
  · have hcomp := writesOf_completeEffects b.env.dyn b.desiredHash b.dynamicChanges
      (b.completed.map fun p => (p.name, p.podIP))
    rw [List.flatMap_map, List.map_map] at hcomp
    rw [update_aborted b h, writesOf_append, writesOf_append, hcomp, writesOf_stopEffects, writesOf_rollbackBatch,
      reached, Option.toList_map, List.flatMap_map, List.flatMap_map, ← List.map_reverse, List.flatMap_map,
      List.flatMap_map, List.flatMap_append, List.flatMap_append]
    simp only [List.append_assoc]
    rfl

theorem Distinct.eq_of_ip (hd : b.Distinct) {q : Pod} (hp : p ∈ b.pods) (hq : q ∈ b.reached) (h : q.podIP = p.podIP) :
    q = p := by
  have hr : b.reaches = true := by
    by_contra hr
    simp [reached, completed, stopped, hr] at hq
  have hq := reached_subset hq
  have hnode := (reachesApply_eq_true.1 (Bool.and_eq_true_iff.1 hr).2).2.2.2.1 q hq
  have hip : q.podIP ≠ "" := by
    intro hip
    simp [findNodeForPod, hip] at hnode
  exact hd.ips q hq p hp h hip

theorem Distinct.eq_of_param (hd : b.Distinct) {c d : Change} (hc : c ∈ b.dynamicChanges) (hd' : d ∈ b.dynamicChanges)
    (h : c.param = d.param) : c = d :=
  List.inj_on_of_nodup_map hd.params hc hd' h

theorem podUpdate_applied (hp : p ∈ b.reached) : (b.podUpdate p).applied = b.appliedOn p := by
  rw [appliedOn, if_pos hp]
  rfl

theorem reached_of_appliedOn {ac : AppliedChange} (h : ac ∈ b.appliedOn p) : p ∈ b.reached := by
  unfold appliedOn at h
  split at h
  · assumption
  · cases h

theorem podUpdate_of (p : Pod) : (b.podUpdate p).Of b.dynamicChanges [p.podIP] :=
  Acko.podUpdate_of b.env.dyn b.dynamicChanges (List.mem_singleton.2 rfl)

variable {c : Change}

theorem mem_writes (hd : b.Distinct) (hp : p ∈ b.pods) (hc : c ∈ b.dynamicChanges) {v : Option String}
    (hv : ((p.podIP, c.param), v) ∈ b.reached.flatMap fun q => (b.podUpdate q).writes) :
    v = some c.newValue.fmtV ∧ ∃ ac ∈ b.appliedOn p, ac.change.param = c.param := by
  obtain ⟨q, hq, hv⟩ := List.mem_flatMap.1 hv
  obtain ⟨ac, hac, hkv⟩ := List.mem_map.1 hv
  obtain ⟨⟨hip, hparam⟩, rfl⟩ : ((b.podUpdate q).host = p.podIP ∧ ac.change.param = c.param) ∧
      some ac.change.newValue.fmtV = v := by simpa using hkv
  obtain rfl := hd.eq_of_ip hp hq hip
  have heq := hd.eq_of_param ((podUpdate_of q).change ac hac) hc hparam
  rw [podUpdate_applied hq] at hac
  exact ⟨by rw [heq], ac, hac, hparam⟩

theorem mem_undoWrites (hd : b.Distinct) {undone : List Pod} (hu : ∀ p, p ∈ undone ↔ p ∈ b.reached) (hp : p ∈ b.pods)
    (hc : c ∈ b.dynamicChanges) {v : Option String}
    (hv : ((p.podIP, c.param), v) ∈ undone.flatMap fun q => (b.podUpdate q).undoWrites b.env.dyn) :
    v = c.oldText ∧ b.takenBack p c := by
  obtain ⟨q, hq, hv⟩ := List.mem_flatMap.1 hv
  have hq := (hu q).1 hq
  obtain ⟨d, hd', hk, hv'⟩ := (podUpdate_of q).undoWrites hv
  obtain ⟨hip, hparam⟩ : p.podIP = q.podIP ∧ c.param = d.param := Prod.mk.inj hk
  obtain rfl := hd.eq_of_ip hp hq hip.symm
  obtain rfl := hd.eq_of_param hc hd' hparam
  refine ⟨hv', ?_⟩
  obtain ⟨cmd, hcmd, hkv⟩ := List.mem_map.1 hv
  obtain ⟨e, he, hack⟩ := List.mem_filterMap.1 hcmd
  have he := List.mem_reverse.1 he
  have hac : e.1 ∈ (b.podUpdate q).applied := (List.mem_zipIdx he).2.2 ▸ List.getElem_mem _
  obtain ⟨hrb, _⟩ := Option.filter_eq_some_iff.1 hack
  rw [(podUpdate_of q).rollback e.1 hac] at hrb
  have hcmd : cmd.param = e.1.change.param := by rw [(buildRollbackCommand_some hrb).2]
  have hparam : cmd.param = c.param := by
    have := congrArg (fun w => w.1.2) hkv
    exact this
  rw [podUpdate_applied hq] at he
  exact ⟨e, he, hcmd.symm.trans hparam, by rw [show ackedRollback b.env.dyn q.name e = some cmd from hack]; rfl⟩

/-- The value of a changed parameter when the update has been aborted: the old one if the change was
taken back, the new one if it was set and not taken back, and otherwise the one it was. -/
theorem runtimesAfter_update (hd : b.Distinct) (h : ¬ b.goesThrough) (hp : p ∈ b.pods) (hc : c ∈ b.dynamicChanges)
    (rt : Runtimes) :
    (b.takenBack p c → runtimesAfter rt b.update.effects p.podIP c.param = c.oldText) ∧
    (¬ b.takenBack p c → (∃ ac ∈ b.appliedOn p, ac.change.param = c.param) →
      runtimesAfter rt b.update.effects p.podIP c.param = some c.newValue.fmtV) ∧
    ((∀ ac ∈ b.appliedOn p, ac.change.param ≠ c.param) →
      runtimesAfter rt b.update.effects p.podIP c.param = rt p.podIP c.param) := by
  obtain ⟨undone, hu, hw⟩ := writesOf_update h
  have hset : (p.podIP, c.param) ∈ (b.reached.flatMap fun q => (b.podUpdate q).writes).map Prod.fst ↔
      ∃ ac ∈ b.appliedOn p, ac.change.param = c.param := by
    constructor
    · intro hk
      obtain ⟨⟨k, v⟩, hv, rfl⟩ := List.mem_map.1 hk
      exact (mem_writes hd hp hc hv).2
    · rintro ⟨ac, hac, hparam⟩
      have hr := reached_of_appliedOn hac
      rw [← podUpdate_applied hr] at hac
      rw [← hparam, List.map_flatMap]
      exact List.mem_flatMap.2 ⟨p, hr, List.mem_map.2 ⟨_, List.mem_map_of_mem hac, rfl⟩⟩
  have hback : (p.podIP, c.param) ∈ (undone.flatMap fun q => (b.podUpdate q).undoWrites b.env.dyn).map Prod.fst ↔
      b.takenBack p c := by
    constructor
    · intro hk
      obtain ⟨⟨k, v⟩, hv, rfl⟩ := List.mem_map.1 hk
      exact (mem_undoWrites hd hu hp hc hv).2
    · rintro ⟨e, he, hparam, hack⟩
      have hr := reached_of_appliedOn ((List.mem_zipIdx he).2.2 ▸ List.getElem_mem _ : e.1 ∈ b.appliedOn p)
      rw [← podUpdate_applied hr] at he
      rw [← hparam, List.map_flatMap]
      exact List.mem_flatMap.2 ⟨p, (hu p).2 hr, (podUpdate_of p).mem_undoWrites he hack⟩
  have hback_set : b.takenBack p c → ∃ ac ∈ b.appliedOn p, ac.change.param = c.param := by
    rintro ⟨e, he, hparam, _⟩
    exact ⟨e.1, (List.mem_zipIdx he).2.2 ▸ List.getElem_mem _, hparam⟩
  rw [runtimesAfter_eq, hw, Writes.apply_two (fun x hx => (mem_writes hd hp hc hx).1)
    fun x hx => (mem_undoWrites hd hu hp hc hx).1]
  refine ⟨?_, ?_, ?_⟩
  · intro hb
    rw [if_pos (hback.2 hb)]
  · intro hb hs
    rw [if_neg (fun hk => hb (hback.1 hk)), if_pos (hset.2 hs)]
  · intro hn
    have hs : ¬ ∃ ac ∈ b.appliedOn p, ac.change.param = c.param := by
      rintro ⟨ac, hac, hparam⟩
      exact hn ac hac hparam
    rw [if_neg (fun hk => hs (hback_set (hback.1 hk))), if_neg (fun hk => hs (hset.1 hk))]

section Servers

variable {κ : Type} (params : κ → Runtime) (servers : Servers κ)

theorem runtime_warm (h : ¬ b.goesThrough) {p : Pod} (hp : p ∈ b.pods) (hw : b.warm p = true) :
    (serversAfter params servers b.effects p.podIP).runtime = params (servers p.podIP).conf := by
  have hcmd : ∀ cmd, .setConfig p.podIP cmd ∉ b.pods.flatMap fun q => (restartPod b.env b.cluster b.sts q).2 := by
    intro cmd hm
    obtain ⟨q, _, hm⟩ := List.mem_flatMap.1 hm
    cases restartPod_about hm
  have hsig : ∃ pod, .signal pod p.podIP ∈ b.pods.flatMap fun q => (restartPod b.env b.cluster b.sts q).2 := by
    refine ⟨p.name, List.mem_flatMap.2 ⟨p, hp, ?_⟩⟩
    rw [restartPod_eq, hw]
    cases b.env.warmStampOk p.name <;> exact List.mem_cons_self
  rw [effects_aborted h, serversAfter_append, serversAfter_signalled params _ _ hcmd hsig, serversAfter_conf]

/-- An update with a static change is not tried. -/
theorem staticChanges_of_reaches (h : b.reaches = true) : b.staticChanges = [] := by
  have hstatic := (reachesApply_eq_true.1 (Bool.and_eq_true_iff.1 h).2).2.2.1
  rw [DiffResult.HasStaticChanges, Bool.not_eq_false', List.isEmpty_iff] at hstatic
  exact hstatic

theorem runtimesAfter_static (hc : c ∈ b.staticChanges) (rt : Runtimes) :
    runtimesAfter rt b.update.effects = rt := by
  have hr : b.reaches = false := by
    rw [← Bool.not_eq_true]
    intro hr
    rw [staticChanges_of_reaches hr] at hc
    cases hc
  rw [update_eq, hr]
  rfl

theorem runsUpdate_goesThrough (hd : b.Distinct) (h : b.goesThrough) {p : Pod} (hp : p ∈ b.pods) :
    b.RunsUpdate (serversAfter params servers b.effects p.podIP).runtime := by
  have hok : b.update.allOk = true := b.update_allOk.2 h
  have hsig : ∀ pod host, .signal pod host ∉ b.update.effects := fun pod host hm =>
    batchDynamicUpdate_ofUpdate _ _ _ _ _ _ _ hm
  have htakes : ∀ t ∈ b.pods.map fun p => (p.name, p.podIP), b.env.dyn.takes b.dynamicChanges t.1 = true :=
    List.forall_mem_map.2 h.2
  refine ⟨fun c hc => ?_, fun c hc => by rw [staticChanges_of_reaches h.1] at hc; cases hc⟩
  rw [effects_eq, if_pos hok, serversAfter_runtime params _ _ hsig, update_eq, if_pos h.1]
  obtain ⟨front, back, hchanges⟩ := List.append_of_mem hc
  have hparams := hd.params
  rw [hchanges, List.map_append, List.map_cons, List.nodup_append, List.nodup_cons] at hparams
  exact applyPhase_changed b.env.dyn b.desiredHash htakes _
    (List.mem_map_of_mem (f := fun p : Pod => (p.name, p.podIP)) hp) hchanges hparams.2.1.1

variable (hd : b.Distinct) (h : ¬ b.goesThrough) (hp : p ∈ b.pods)

include hd h hp

theorem runtime_refused (hw : b.warm p = false) :
    (serversAfter params servers b.effects p.podIP).runtime =
      runtimesAfter (fun host => (servers host).runtime) b.update.effects p.podIP := by
  have hrest : ∀ e ∈ b.pods.flatMap fun q => (restartPod b.env b.cluster b.sts q).2, e.server ≠ some p.podIP := by
    intro e he hs
    obtain ⟨q, hq, he⟩ := List.mem_flatMap.1 he
    -- only a signal to the same IP could concern this server, and that would be its own pod's
    rw [restartPod_eq] at he
    split at he
    · rename_i hwq
      have hready : isPodReady q = true := by
        simp only [warm, shouldWarmRestart, Bool.and_eq_true] at hwq
        exact hwq.1.1.1.2
      have hip : q.podIP = p.podIP := by
        split at he
        · rcases List.mem_pair.1 he with rfl | rfl
          · exact Option.some.inj hs
          · cases hs
        · rw [List.mem_singleton.1 he] at hs
          exact Option.some.inj hs
      rw [hd.ips q hq p hp hip (hd.ready q hq hready), hw] at hwq
      cases hwq
    · obtain ⟨rfl, _⟩ := mem_coldRestartPod.1 he
      cases hs
  have hdeg : ∀ e ∈ degradedEffects b.update.rollback, e.server ≠ some p.podIP := by
    intro e he
    rcases degradedEffects_cases b.update.rollback with hd | ⟨pods, hd⟩ <;> rw [hd] at he
    · cases he
    · rw [List.mem_singleton.1 he]
      simp [Effect.server]
  have hsig : ∀ pod host, .signal pod host ∉ b.update.effects := fun pod host hm =>
    batchDynamicUpdate_ofUpdate _ _ _ _ _ _ _ hm
  rw [effects_aborted h, serversAfter_append, serversAfter_append, serversAfter_frame params _ _ hrest,
    serversAfter_frame params _ _ hdeg, serversAfter_runtime params _ _ hsig]

theorem runsUpdate_refused (hw : b.warm p = false) :
    b.RunsUpdate (serversAfter params servers b.effects p.podIP).runtime ↔
      (∀ c ∈ b.dynamicChanges, (b.takenBack p c → c.oldText = some c.newValue.fmtV) ∧
        ((∀ ac ∈ b.appliedOn p, ac.change.param ≠ c.param) →
          (servers p.podIP).runtime c.param = some c.newValue.fmtV)) ∧
      ∀ c ∈ b.staticChanges, (servers p.podIP).runtime c.param = c.newText := by
  rw [RunsUpdate, RunsWith, runtime_refused params servers hd h hp hw]
  refine and_congr (forall₂_congr fun c hc => ?_) (forall₂_congr fun c hc => by rw [runtimesAfter_static hc])
  obtain ⟨hback, hset, hnot⟩ := runtimesAfter_update hd h hp hc fun host => (servers host).runtime
  constructor
  · intro hrt
    exact ⟨fun hb => (hback hb).symm.trans hrt, fun hn => (hnot hn).symm.trans hrt⟩
  · rintro ⟨hold, hwas⟩
    by_cases hb : b.takenBack p c
    · exact (hback hb).trans (hold hb)
    · by_cases hs : ∃ ac ∈ b.appliedOn p, ac.change.param = c.param
      · exact hset hb hs
      · have hn : ∀ ac ∈ b.appliedOn p, ac.change.param ≠ c.param := fun ac hac hparam => hs ⟨ac, hac, hparam⟩
        exact (hnot hn).trans (hwas hn)

theorem podSafe_iff (hex : b.env.deleteReply p.name ≠ .notFound) : b.PodSafe params servers p ↔
      (p.name ∉ deletedPods b.effects → b.carriesMarker p →
        b.RunsUpdate (serversAfter params servers b.effects p.podIP).runtime) := by
  rw [BatchUpdate.mem_deletedPods_effects hd h hp, carriesMarker_iff hd h hp]
  cases hw : b.warm p with
  | true =>
    rw [runtime_warm params servers h hp hw]
    constructor
    · intro hs _ hm
      exact hs.warm hw (hm.imp_right And.right)
    · intro hr
      refine ⟨fun _ hm => hr (by simp) (hm.imp_right fun hst => ⟨rfl, hst⟩), ?_⟩
      intro hw'
      rw [hw] at hw'
      cases hw'
  | false =>
    rw [runsUpdate_refused params servers hd h hp hw]
    constructor
    · intro hs hdel hm
      refine hs.refused hw ?_ (hm.resolve_right (by simp))
      -- not deleted, and not gone before: the delete was refused
      cases hr : b.env.deleteReply p.name with
      | deleted => exact absurd ⟨rfl, hr⟩ hdel
      | notFound => exact absurd hr hex
      | failed reason => exact ⟨reason, rfl⟩
    · intro hr
      refine ⟨?_, ?_⟩
      · intro hw'
        rw [hw] at hw'
        cases hw'
      · rintro _ ⟨reason, hf⟩ hm
        exact hr (by simp [hf]) (Or.inl hm)

end Servers

end BatchUpdate

/-- Markers are true exactly where the update goes through, or every pod that is restarted without
being deleted keeps its marker true. -/
theorem no_stale_marker_iff {κ : Type} (params : κ → Runtime) (servers : Servers κ) (b : BatchUpdate)
    (hd : b.Distinct) : b.NoStaleMarker params servers ↔
      b.goesThrough ∨ ∀ p ∈ b.pods, b.env.deleteReply p.name ≠ .notFound → b.PodSafe params servers p := by
  by_cases hg : b.goesThrough
  · refine iff_of_true ?_ (Or.inl hg)
    intro p hp _ _
    exact BatchUpdate.runsUpdate_goesThrough params servers hd hg hp
  · rw [or_iff_right hg]
    constructor
    · intro h p hp hex
      rw [BatchUpdate.podSafe_iff params servers hd hg hp hex]
      intro hdel
      exact h p hp ⟨hdel, hex⟩
    · rintro h p hp ⟨hdel, hex⟩
      exact (BatchUpdate.podSafe_iff params servers hd hg hp hex).1 (h p hp hex) hdel

/-! ## A marker that stays behind -/

/-- A batch of two pods and an edit of two parameters, which the node of the second pod refuses. -/
def abortedBatch (deleteReply : String → DeleteReply) : BatchUpdate where
  env := { RestartEnv.calm false ["10.0.0.1", "10.0.0.2"] with
    deleteReply := deleteReply
    dyn := { DynEnv.calm ["10.0.0.1", "10.0.0.2"] with
      applyReply := fun pod _ => if pod = "db-0-1" then .answer "ok" else .answer "ERROR" } }
  cluster := updatingCluster
  sts := ⟨"db-0", some 2, ⟨"c2", "", ""⟩, .parallel⟩
  podsToRestart := [Pod.serving "db-0-1" "ce:8" "10.0.0.2" ⟨"c1", "", ""⟩,
    Pod.serving "db-0-0" "ce:8" "10.0.0.1" ⟨"c1", "", ""⟩]
  batchSize := 2
  oldConfig := twoParamsOld
  newConfig := twoParamsNew

theorem abortedBatch_distinct : (abortedBatch fun _ => .deleted).Distinct where
  names := by decide
  ips := by decide
  ready := by decide
  params := by decide

def twoParamsServers : Servers Unit := fun host => ⟨(), (), twoParamsRuntime host⟩

/-- The update is taken back on the first pod, whose delete is then refused: it goes on with the old
value, and carries the hash of the new config and the status "Applied". -/
theorem aborted_update_keeps_marker :
    let b := abortedBatch fun _ => .failed "connection refused"
    let params : Unit → Runtime := fun _ => twoParamsRuntime ""
    let p := Pod.serving "db-0-1" "ce:8" "10.0.0.2" ⟨"c1", "", ""⟩
    ¬ b.NoStaleMarker params twoParamsServers ∧
    p ∈ b.pods ∧ b.survives p ∧ (podAfter p b.effects).hashes.config = "c2" ∧
    .dynamicConfigStatus "db-0-1" "Applied" ∈ b.effects ∧
    (serversAfter params twoParamsServers b.effects "10.0.0.2").runtime ⟨.context "service", "proto-fd-max"⟩ =
      some "15000" := by
  intro b params p
  have hp : p ∈ b.pods := by decide
  have hs : b.survives p := by
    refine ⟨by decide, ?_⟩
    intro h
    cases h
  have hm : (podAfter p b.effects).hashes.config = "c2" := by decide
  refine ⟨?_, hp, hs, hm, by decide, by decide⟩
  intro h
  have : ¬ RunsWith b.dynamicChanges (serversAfter params twoParamsServers b.effects p.podIP).runtime := by decide
  exact this (h p hp hs (Or.inl hm)).1

/-- The same abort with deletes that go through leaves no marker behind. -/
theorem no_stale_marker_deleted :
    let b := abortedBatch fun _ => .deleted
    ¬ b.goesThrough ∧ b.NoStaleMarker (fun _ => twoParamsRuntime "") twoParamsServers := by
  intro b
  refine ⟨?_, (no_stale_marker_iff _ _ b abortedBatch_distinct).2 (Or.inr ?_)⟩
  · rintro ⟨_, h⟩
    have : ¬ ∀ p ∈ b.pods, b.takes p = true := by decide
    exact this h
  · intro p hp _
    have hw : b.warm p = false := by
      have : ∀ q ∈ b.pods, b.warm q = false := by decide
      exact this p hp
    refine ⟨?_, ?_⟩
    · intro h
      rw [hw] at h
      cases h
    · rintro _ ⟨reason, h⟩
      cases h

end Acko
