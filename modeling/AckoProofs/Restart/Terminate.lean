/-
How long a rolling restart takes. Every round (one pass, after which the deleted pods come back
with the template's hashes) removes a mismatch between a pod and the template, unless it takes one
of two paths that repair nothing: a warm restart of pods that only differ in their storage hash,
and a dynamic update of pods whose config hash is right already.
-/
import AckoProofs.Lib.Run
import AckoProofs.Restart.Pass
import Mathlib.Algebra.GroupWithZero.Nat
import Mathlib.Algebra.Order.BigOperators.Group.List

namespace Acko

/-! ## Rounds -/

/-- One round: what the pass finds outside, and the pods it leaves to the next one. -/
structure Round where
  env : RestartEnv
  checks : MigrationChecks
  cluster : Cluster
  next : List Pod

section Rounds

variable (rackID : Int) (sts : StatefulSet)

/-- The hashes a pod has after a round: the template's, where it was deleted and came back. -/
def hashesAfter (effects : List Effect) (p : Pod) : Hashes :=
  if p.name ∈ deletedPods effects then sts.hashes else (podAfter p effects).hashes

def Round.effects (r : Round) (pods : List Pod) : List Effect :=
  (reconcileRollingRestart r.env r.checks r.cluster rackID (some sts) pods).effects

/-- The next pods are the same pods with the hashes the round leaves them, the recreated ones
Ready; anything else about a pod may change in between. -/
def roundStep (pods : List Pod) (r : Round) : Option (List Pod) :=
  if r.next.map (fun p => (p.name, p.hashes)) =
      pods.map (fun p => (p.name, hashesAfter sts (r.effects rackID sts pods) p)) ∧
      ∀ p ∈ r.next, p.name ∈ deletedPods (r.effects rackID sts pods) → isPodReady p = true then
    some r.next
  else none

/-- Nothing holds the round back: its calls succeed, its gate is open, and no stale pod is
skipped. -/
structure Round.Unhindered (pods : List Pod) (r : Round) : Prop where
  calls : r.env.AllOk
  open_gate : (passGate r.env r.checks r.cluster rackID sts pods).1 = false
  selects : (passSelection r.env r.cluster sts pods).pods = (listRackPods pods).filter (·.stale sts.hashes)

/-- The stale pods that are first in line. -/
def nextBatch (cluster : Cluster) (pods : List Pod) : List Pod :=
  ((listRackPods pods).filter (·.stale sts.hashes)).take
    (getRollingUpdateBatchSize cluster (statefulSetReplicas sts)).toNat

/-- Two configs that differ in dynamic parameters only, all of which make commands. -/
def dynamicEdit (oldConfig newConfig : Option Config) : Bool :=
  match oldConfig, newConfig with
  | some oldConfig, some newConfig =>
    let diff := Diff oldConfig newConfig
    diff.HasChanges && !diff.HasStaticChanges && validateDynamicChanges diff.dynamic
  | _, _ => false

/-- A dynamic update is in order: it is enabled, the config edit is dynamic, a pod of the rack has
another config hash than the template, and every pod first in line has a node. -/
def Round.dynamicInOrder (r : Round) (pods : List Pod) : Bool :=
  r.cluster.spec.enableDynamicConfigUpdate = some true &&
    dynamicEdit r.cluster.status.aerospikeConfig r.cluster.spec.aerospikeConfig &&
    pods.any (fun p => p.hashes.config ≠ sts.hashes.config) &&
    (nextBatch sts r.cluster pods).all fun p => (findNodeForPod r.env.dyn p).isSome

/-- Among the pods first in line there is one the round can bring closer to the template: one whose
config hash differs, or, where no dynamic update is in order, one that cannot be restarted warm. -/
def Round.Repairs (pods : List Pod) (r : Round) : Prop :=
  nextBatch sts r.cluster pods ≠ [] → ∃ p ∈ nextBatch sts r.cluster pods, p.hashes.config ≠ sts.hashes.config ∨
    (r.dynamicInOrder sts pods = false ∧ shouldWarmRestart r.env r.cluster p sts = false)

end Rounds

/-! ## The measure -/

/-- How many of the three hashes differ from the template's. -/
def Hashes.mismatches (desired h : Hashes) : Nat :=
  (if h.config ≠ desired.config then 1 else 0) +
  (if desired.podSpec ≠ "" ∧ h.podSpec ≠ desired.podSpec then 1 else 0) +
  (if desired.storage ≠ "" ∧ h.storage ≠ "" ∧ h.storage ≠ desired.storage then 1 else 0)

def mismatchCount (desired : Hashes) (pods : List Pod) : Nat := (pods.map fun p => desired.mismatches p.hashes).sum

variable {desired : Hashes}

variable {p : Pod}

theorem stale_eq_false_iff_mismatches : p.stale desired = false ↔ desired.mismatches p.hashes = 0 := by
  rw [stale_eq_false]
  simp only [Hashes.mismatches, podSpecMismatch, storageMismatch]
  simp [and_assoc]

theorem mismatches_self (desired : Hashes) : desired.mismatches desired = 0 := by
  simp [Hashes.mismatches]

theorem mismatches_le_three (desired h : Hashes) : desired.mismatches h ≤ 3 := by
  unfold Hashes.mismatches
  split <;> split <;> split <;> omega

theorem mismatches_le {h h' : Hashes} (hp : h'.podSpec = h.podSpec)
    (hc : h'.config = h.config ∨ h'.config = desired.config)
    (hs : h'.storage = h.storage ∨ h'.storage = desired.storage) :
    desired.mismatches h' ≤ desired.mismatches h ∧
      (h'.config = desired.config → h.config ≠ desired.config → desired.mismatches h' < desired.mismatches h) := by
  have hstorage : (if desired.storage ≠ "" ∧ h'.storage ≠ "" ∧ h'.storage ≠ desired.storage then 1 else 0) ≤
      (if desired.storage ≠ "" ∧ h.storage ≠ "" ∧ h.storage ≠ desired.storage then 1 else 0) := by
    rcases hs with hs | hs <;> rw [hs]
    simp
  have hconfig : (if h'.config ≠ desired.config then 1 else 0) ≤ (if h.config ≠ desired.config then 1 else 0) := by
    rcases hc with hc | hc <;> rw [hc]
    simp
  unfold Hashes.mismatches
  rw [hp]
  refine ⟨by omega, ?_⟩
  intro h1 h2
  rw [if_neg (by simpa using h1), if_pos h2]
  omega

variable {effects : List Effect}

theorem podAfter_hashes (h : ∀ e ∈ effects, e.withinPass desired) (p : Pod) :
    (podAfter p effects).hashes.podSpec = p.hashes.podSpec ∧
    ((podAfter p effects).hashes.config = p.hashes.config ∨ (podAfter p effects).hashes.config = desired.config) ∧
    ((podAfter p effects).hashes.storage = p.hashes.storage ∨
      (podAfter p effects).hashes.storage = desired.storage) := by
  refine podAfter_induct (P := fun q => q.hashes.podSpec = p.hashes.podSpec ∧
    (q.hashes.config = p.hashes.config ∨ q.hashes.config = desired.config) ∧
    (q.hashes.storage = p.hashes.storage ∨ q.hashes.storage = desired.storage)) ⟨rfl, Or.inl rfl, Or.inl rfl⟩ ?_
  intro e he q hq
  have hw := h e he
  cases e with
  | adoptStorageHash pod hash =>
    simp only [Effect.onPod]
    split
    · cases hw
      exact ⟨hq.1, hq.2.1, Or.inr rfl⟩
    · exact hq
  | updatePodConfigHash pod hash =>
    simp only [Effect.onPod]
    split
    · cases hw
      exact ⟨hq.1, Or.inr rfl, hq.2.2⟩
    · exact hq
  | delete pod now =>
    simp only [Effect.onPod]
    split <;> exact hq
  | _ => exact hq

theorem podAfter_stamped {hash : String} :
    ∀ {effects : List Effect} {q : Pod}, (∀ e ∈ effects, e.withinPass desired) → q.name = p.name →
      .updatePodConfigHash p.name hash ∈ effects → (podAfter q effects).hashes.config = desired.config
  | [], _, _, _, hm => by cases hm
  | e :: l, q, h, hname, hm => by
    have hl : ∀ f ∈ l, f.withinPass desired := fun f hf => h f (List.mem_cons_of_mem _ hf)
    rw [podAfter_cons]
    rcases List.mem_cons.1 hm with rfl | hm
    · have hw : hash = desired.config := h _ List.mem_cons_self
      have hq : (Effect.onPod q (.updatePodConfigHash p.name hash)).hashes.config = desired.config := by
        simp [Effect.onPod, hname, hw]
      rcases (podAfter_hashes hl (Effect.onPod q (.updatePodConfigHash p.name hash))).2.1 with h1 | h1
      · rw [h1, hq]
      · exact h1
    · exact podAfter_stamped hl (by rw [onPod_name, hname]) hm

section Measure

variable {rackID : Int} {sts : StatefulSet} {pods : List Pod} {r : Round}

theorem hashesAfter_le (h : ∀ e ∈ effects, e.withinPass sts.hashes) (p : Pod) :
    sts.hashes.mismatches (hashesAfter sts effects p) ≤ sts.hashes.mismatches p.hashes := by
  unfold hashesAfter
  split
  · rw [mismatches_self]; exact Nat.zero_le _
  · obtain ⟨h1, h2, h3⟩ := podAfter_hashes h p
    exact (mismatches_le h1 h2 h3).1

/-- A stamped pod whose config hash differed, and a deleted pod that was stale, lose a mismatch. -/
theorem hashesAfter_lt (h : ∀ e ∈ effects, e.withinPass sts.hashes)
    (hp : (p.hashes.config ≠ sts.hashes.config ∧ ∃ hash, .updatePodConfigHash p.name hash ∈ effects) ∨
      (p.stale sts.hashes = true ∧ p.name ∈ deletedPods effects)) :
    sts.hashes.mismatches (hashesAfter sts effects p) < sts.hashes.mismatches p.hashes := by
  by_cases hd : p.name ∈ deletedPods effects
  · have hpos : sts.hashes.mismatches p.hashes ≠ 0 := by
      intro h0
      have hs := stale_eq_false_iff_mismatches.2 h0
      rcases hp with ⟨hc, _⟩ | ⟨hst, _⟩
      · exact hc (stale_eq_false.1 hs).1
      · rw [hs] at hst; cases hst
    rw [hashesAfter, if_pos hd, mismatches_self]
    omega
  · rcases hp with ⟨hc, hash, hm⟩ | ⟨_, hd'⟩
    · obtain ⟨h1, h2, h3⟩ := podAfter_hashes h p
      rw [hashesAfter, if_neg hd]
      exact (mismatches_le h1 h2 h3).2 (podAfter_stamped h rfl hm) hc
    · exact absurd hd' hd

theorem mismatchCount_roundStep {t : List Pod} (h : roundStep rackID sts pods r = some t) :
    mismatchCount sts.hashes t =
      (pods.map fun p => sts.hashes.mismatches (hashesAfter sts (r.effects rackID sts pods) p)).sum := by
  unfold roundStep at h
  split at h
  · rename_i hc
    cases h
    have := congrArg (List.map fun x : String × Hashes => sts.hashes.mismatches x.2) hc.1
    simp only [List.map_map, Function.comp_def] at this
    rw [mismatchCount, this]
  · cases h

theorem Round.Unhindered.effects_eq (hu : r.Unhindered rackID sts pods) (hc : sts.hashes.config ≠ "")
    (hsel : (passSelection r.env r.cluster sts pods).pods ≠ []) :
    r.effects rackID sts pods =
      (runBatch r.env (passGate r.env r.checks r.cluster rackID sts pods).2 r.cluster sts
        (passSelection r.env r.cluster sts pods)).effects := by
  rw [Round.effects, reconcileRollingRestart_open _ _ _ _ _ _ hu.calls.get hu.calls.list hc hsel hu.open_gate]

theorem restartPod_allOk {env : RestartEnv} (h : env.AllOk) (cluster : Cluster) (p : Pod) :
    (restartPod env cluster sts p).2 = if shouldWarmRestart env cluster p sts then
      [.signal p.name p.podIP, .updatePodConfigHash p.name sts.hashes.config] else [.delete p.name env.now] := by
  unfold restartPod coldRestartPod
  rw [h.signal, h.stamp, h.delete]
  cases shouldWarmRestart env cluster p sts <;> rfl

theorem Round.Unhindered.dynamicInOrder (hu : r.Unhindered rackID sts pods)
    (hne : nextBatch sts r.cluster pods ≠ [])
    (hok : ((passSelection r.env r.cluster sts pods).update r.env r.cluster sts).allOk = true) :
    r.dynamicInOrder sts pods = true := by
  have hbatch : (passSelection r.env r.cluster sts pods).batch r.cluster sts = nextBatch sts r.cluster pods := by
    rw [Selection.batch, hu.selects, nextBatch]
  unfold Selection.update batchDynamicUpdate at hok
  rw [hbatch] at hok
  cases hcc : (passSelection r.env r.cluster sts pods).configChanged with
  | false =>
    simp only [hcc] at hok
    cases hok
  | true =>
    simp only [hcc, if_true] at hok
    split at hok
    · rename_i oldConfig newConfig hold hnew
      split at hok
      · obtain ⟨hreach, _⟩ := (tryDynamicConfigUpdateBatch_allOk _ _ _ _ _ _).1 hok
        obtain ⟨hen, hch, hst, hnodes, hvalid⟩ := reachesApply_eq_true.1 hreach
        have hval : validateDynamicChanges (Diff oldConfig newConfig).dynamic = true := by
          obtain ⟨p, hp⟩ := List.exists_mem_of_ne_nil _ hne
          have hp := hvalid p hp
          simp only [validateDynamicConfigOnPod, Bool.and_eq_true] at hp
          exact hp.1.2
        have hany : pods.any (fun p => p.hashes.config ≠ sts.hashes.config) = true := by
          obtain ⟨p, hp, hcfg⟩ := selectPodsToRestart_configChanged _ _ hcc
          exact List.any_eq_true.2 ⟨p, mem_listRackPods.1 hp, by simpa using hcfg⟩
        simp only [Round.dynamicInOrder, Bool.and_eq_true, decide_eq_true_eq]
        refine ⟨⟨⟨hen, ?_⟩, hany⟩, List.all_eq_true.2 hnodes⟩
        rw [hold, hnew]
        simp [dynamicEdit, hch, hst, hval]
      · cases hok
    · cases hok

/-- A pod of the batch is stamped with the template's config hash, or deleted; it is deleted where
the update did not succeed and it cannot be restarted warm. -/
theorem Round.Unhindered.touches (hu : r.Unhindered rackID sts pods) (hc : sts.hashes.config ≠ "")
    (hsel : (passSelection r.env r.cluster sts pods).pods ≠ [])
    (hp : p ∈ (passSelection r.env r.cluster sts pods).batch r.cluster sts) :
    ((∃ hash, .updatePodConfigHash p.name hash ∈ r.effects rackID sts pods) ∨
      p.name ∈ deletedPods (r.effects rackID sts pods)) ∧
    (((passSelection r.env r.cluster sts pods).update r.env r.cluster sts).allOk = false →
      shouldWarmRestart r.env r.cluster p sts = false → p.name ∈ deletedPods (r.effects rackID sts pods)) := by
  rw [hu.effects_eq hc hsel, runBatch_effects]
  cases hok : ((passSelection r.env r.cluster sts pods).update r.env r.cluster sts).allOk with
  | true =>
    rw [if_pos rfl]
    have hst := batchDynamicUpdate_stamped r.env r.cluster hc hok hp (hu.calls.dyn.stamp p.name)
    refine ⟨Or.inl ⟨_, List.mem_append_right _ hst⟩, ?_⟩
    intro h
    cases h
  | false =>
    rw [if_neg (by simp)]
    have hmem : ∀ e ∈ (restartPod r.env r.cluster sts p).2, e ∈ (restartPods r.env r.cluster sts
        ((passSelection r.env r.cluster sts pods).batch r.cluster sts)).2.2 := by
      intro e he
      rw [restartPods_effects]
      exact List.mem_flatMap.2 ⟨p, hp, he⟩
    rw [restartPod_allOk hu.calls] at hmem
    cases hw : shouldWarmRestart r.env r.cluster p sts with
    | true =>
      rw [hw, if_pos rfl] at hmem
      refine ⟨Or.inl ⟨sts.hashes.config, List.mem_append_right _ (List.mem_append_right _ (hmem _ ?_))⟩, ?_⟩
      · exact List.mem_cons_of_mem _ (List.mem_singleton.2 rfl)
      · intro _ h
        cases h
    | false =>
      rw [hw, if_neg (by simp)] at hmem
      have hdel : p.name ∈ deletedPods ((passSelection r.env r.cluster sts pods).effects ++
          (((passSelection r.env r.cluster sts pods).update r.env r.cluster sts).effects ++
            degradedEffects ((passSelection r.env r.cluster sts pods).update r.env r.cluster sts).rollback ++
            (restartPods r.env r.cluster sts ((passSelection r.env r.cluster sts pods).batch r.cluster sts)).2.2)) :=
        mem_deletedPods.2 ⟨_, List.mem_append_right _ (List.mem_append_right _ (hmem _ (List.mem_singleton.2 rfl)))⟩
      exact ⟨Or.inr hdel, fun _ _ => hdel⟩

/-- A round that is not held back and repairs a pod lowers the number of mismatches, as long as
there is one. -/
theorem mismatchCount_lt (hc : sts.hashes.config ≠ "") (hu : r.Unhindered rackID sts pods)
    (hr : r.Repairs sts pods) {t : List Pod} (h : roundStep rackID sts pods r = some t) :
    mismatchCount sts.hashes t ≤ mismatchCount sts.hashes pods - 1 := by
  have hwithin : ∀ e ∈ r.effects rackID sts pods, e.withinPass sts.hashes :=
    reconcileRollingRestart_withinPass r.env r.checks r.cluster rackID sts pods
  have hle : mismatchCount sts.hashes t ≤ mismatchCount sts.hashes pods := by
    rw [mismatchCount_roundStep h]
    exact List.sum_le_sum fun p _ => hashesAfter_le hwithin p
  by_cases hsel : (passSelection r.env r.cluster sts pods).pods = []
  · -- nothing is stale, so nothing can be lost
    have hzero : mismatchCount sts.hashes pods = 0 := by
      rw [mismatchCount, List.sum_eq_zero_iff]
      intro x hx
      obtain ⟨p, hp, rfl⟩ := List.mem_map.1 hx
      rw [hu.selects, List.filter_eq_nil_iff] at hsel
      exact stale_eq_false_iff_mismatches.1 (Bool.eq_false_iff.2 (hsel p (mem_listRackPods.2 hp)))
    omega
  · have hbatch : (passSelection r.env r.cluster sts pods).batch r.cluster sts = nextBatch sts r.cluster pods := by
      rw [Selection.batch, hu.selects, nextBatch]
    have hne : nextBatch sts r.cluster pods ≠ [] := by
      rw [← hbatch]
      exact Selection.batch_ne_nil hsel
    obtain ⟨p, hp, hrep⟩ := hr hne
    rw [← hbatch] at hp
    obtain ⟨htouch, hcold⟩ := hu.touches hc hsel hp
    have hmem := ((List.take_sublist _ _).trans (selectPodsToRestart_pods _ _)).subset hp
    obtain ⟨hpods, hstale⟩ := List.mem_filter.1 hmem
    have hlt : mismatchCount sts.hashes t < mismatchCount sts.hashes pods := by
      rw [mismatchCount_roundStep h]
      refine List.sum_lt_sum _ _ (fun p _ => hashesAfter_le hwithin p) ⟨p, mem_listRackPods.1 hpods, ?_⟩
      apply hashesAfter_lt hwithin
      have hdynamic := hu.dynamicInOrder hne
      rcases hrep with hcfg | ⟨hdyn, hwarm⟩
      · rcases htouch with hst | hdel
        · exact Or.inl ⟨hcfg, hst⟩
        · exact Or.inr ⟨hstale, hdel⟩
      · refine Or.inr ⟨hstale, hcold (Bool.eq_false_iff.2 fun hok => ?_) hwarm⟩
        rw [hdynamic hok] at hdyn
        cases hdyn
    omega

theorem mismatchCount_le (desired : Hashes) (pods : List Pod) : mismatchCount desired pods ≤ 3 * pods.length := by
  unfold mismatchCount
  induction pods with
  | nil => exact le_refl _
  | cons p rest ih =>
    have := mismatches_le_three desired p.hashes
    rw [List.map_cons, List.sum_cons, List.length_cons]
    omega

/-- A rolling restart terminates when every round is unhindered and repairs a pod: after three
rounds for each pod of the rack none is stale. -/
theorem rolling_restart_terminates (hc : sts.hashes.config ≠ "") {rounds : List Round} {t : List Pod}
    (hrun : Lts.run (roundStep rackID sts) pods rounds = some t)
    (hrounds : Lts.Along (roundStep rackID sts)
      (fun pods r => r.Unhindered rackID sts pods ∧ r.Repairs sts pods) pods rounds)
    (hlen : 3 * pods.length ≤ rounds.length) : ∀ p ∈ t, p.stale sts.hashes = false := by
  have hm := Lts.run_measure (m := mismatchCount sts.hashes) (p := fun _ => true)
    (fun _ _ _ hr hs => mismatchCount_lt hc hr.1 hr.2 hs) hrounds hrun
  rw [List.countP_true] at hm
  have hzero : mismatchCount sts.hashes t = 0 := by
    have := mismatchCount_le sts.hashes pods
    omega
  intro p hp
  rw [mismatchCount, List.sum_eq_zero_iff] at hzero
  exact stale_eq_false_iff_mismatches.2 (hzero _ (List.mem_map_of_mem hp))

end Measure

/-! ## Rounds that repair nothing -/

def storageEdit : StatefulSet := ⟨"db-0", some 1, ⟨"c", "s", "v2"⟩, .parallel⟩

/-- The pod is Ready, and only its storage hash differs. -/
def storageStale : List Pod := [Pod.serving "db-0-0" "ce:8" "10.0.0.1" ⟨"c", "s", "v1"⟩]

/-- The exec API is there, so the pod is signalled; its hashes stay as they are. -/
def warmRound : Round := ⟨.calm true [], [], .bare "db" "ce:8", storageStale⟩

/-- Two pods after an edit of the config and of the pod spec. -/
def mixedEdit : StatefulSet := ⟨"db-0", some 2, ⟨"c2", "s2", ""⟩, .parallel⟩

/-- The pod with the higher ordinal has the new config, the other one the new pod spec. -/
def mixedStale : List Pod :=
  [Pod.serving "db-0-0" "ce:8" "10.0.0.1" ⟨"c1", "s2", ""⟩, Pod.serving "db-0-1" "ce:8" "10.0.0.2" ⟨"c2", "s1", ""⟩]

def dynamicCluster : Cluster :=
  ⟨"db", "uid",
    ⟨2, "ce:8", some [("service", .map [("proto-fd-max", .leaf (.int 20000))])], none, none, some true, none, none⟩,
    ⟨some [("service", .map [("proto-fd-max", .leaf (.int 15000))])], []⟩⟩

/-- The batch is the pod with the higher ordinal: the update is applied to it once more. -/
def mixedRound : Round := ⟨.calm true ["10.0.0.1", "10.0.0.2"], [], dynamicCluster, mixedStale⟩

/-- Two racks that stay stale for any number of unhindered rounds: one pod with an old storage hash
that is restarted warm each time, and two pods of which the one in the batch only has an old
pod-spec hash while the other one keeps the dynamic update going. -/
theorem rolling_restart_livelock :
    ((∀ k, Lts.run (roundStep 0 storageEdit) storageStale (List.replicate k warmRound) = some storageStale) ∧
      warmRound.Unhindered 0 storageEdit storageStale ∧ ∃ p ∈ storageStale, p.stale storageEdit.hashes = true) ∧
    ((∀ k, Lts.run (roundStep 0 mixedEdit) mixedStale (List.replicate k mixedRound) = some mixedStale) ∧
      mixedRound.Unhindered 0 mixedEdit mixedStale ∧ ∀ p ∈ mixedStale, p.stale mixedEdit.hashes = true) := by
  refine ⟨⟨Lts.run_replicate (by decide), ⟨RestartEnv.calm_allOk _ _, rfl, rfl⟩, by decide⟩,
    ⟨Lts.run_replicate (by decide), ⟨RestartEnv.calm_allOk _ _, rfl, rfl⟩, by decide⟩⟩

/-- Without the exec API the same pod is deleted and comes back with the new storage. -/
def coldRound : Round :=
  ⟨.calm false [], [], .bare "db" "ce:8", [Pod.serving "db-0-0" "ce:8" "10.0.0.9" ⟨"c", "s", "v2"⟩]⟩

theorem rolling_restart_terminates_cold :
    ∃ t, Lts.run (roundStep 0 storageEdit) storageStale [coldRound, coldRound, coldRound] = some t ∧
      ∀ p ∈ t, p.stale storageEdit.hashes = false := by
  have hopen : ∀ pods, pods = storageStale ∨ pods = coldRound.next →
      coldRound.Unhindered 0 storageEdit pods ∧ coldRound.Repairs storageEdit pods := by
    rintro pods (rfl | rfl)
    · exact ⟨⟨RestartEnv.calm_allOk _ _, rfl, rfl⟩, fun _ => ⟨_, List.mem_singleton.2 rfl, Or.inr ⟨rfl, rfl⟩⟩⟩
    · exact ⟨⟨RestartEnv.calm_allOk _ _, rfl, rfl⟩, fun h => absurd rfl h⟩
  have hfirst : roundStep 0 storageEdit storageStale coldRound = some coldRound.next := by decide
  have hagain : roundStep 0 storageEdit coldRound.next coldRound = some coldRound.next := by decide
  have hrun : Lts.run (roundStep 0 storageEdit) storageStale [coldRound, coldRound, coldRound] =
      some coldRound.next := by
    simp only [Lts.run_cons]
    exact ⟨_, hfirst, _, hagain, _, hagain, rfl⟩
  refine ⟨_, hrun, rolling_restart_terminates (by decide) hrun ?_ (by decide)⟩
  refine .cons hfirst (hopen _ (Or.inl rfl)) (.cons hagain (hopen _ (Or.inr rfl)) ?_)
  exact .cons hagain (hopen _ (Or.inr rfl)) trivial

end Acko
