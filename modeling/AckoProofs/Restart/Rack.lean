/-
A rack under rolling restart: passes of the operator, whose calls take effect one by one,
interleaved with what Kubernetes does to the pods. The state records which deleted pods are not
back yet, and the main result bounds their number by the batch size in every run.
-/
import AckoProofs.Lib.Run
import AckoProofs.Restart.Pass

namespace Acko

/-! ## The system -/

/-- A rack with its StatefulSet, both fixed during a run, and the batch size of its restarts. -/
structure RackSetup where
  rackID : Int
  sts : StatefulSet
  size : Nat
  batchSize : Nat
  replicas_eq : sts.replicas = some (size : Int)

variable (rack : RackSetup)

def RackSetup.podNames : List String := (List.range rack.size).map (podName rack.sts.name)

/-- The state of a rack: its pods, the effects of the current pass that are still to come, and the
pods the operator has deleted whose replacement has not become Ready yet. -/
structure RackState where
  pods : List Pod
  todo : List Effect
  down : List String

/-- What Kubernetes does: a terminating pod disappears, a missing ordinal is recreated, the status
of a pod changes. -/
inductive KubeStep
  | disappear (name : String)
  | recreate (ordinal : Nat) (pod : Pod)
  | report (name : String) (phase : PodPhase) (conditions : List PodCondition)

/-- A pod of that name is there, is not on its way out, and is Ready. -/
def isBack (pods : List Pod) (name : String) : Bool :=
  pods.any fun p => p.name = name && p.deletionTimestamp.isNone && isPodReady p

def RackState.settle (s : RackState) : RackState := { s with down := s.down.filter fun n => !isBack s.pods n }

def Pod.reporting (name : String) (phase : PodPhase) (conditions : List PodCondition) (p : Pod) : Pod :=
  if p.name = name then { p with phase, conditions } else p

def RackState.kube (s : RackState) : KubeStep → Option RackState
  | .disappear name =>
    if s.pods.any fun p => p.name = name && p.deletionTimestamp.isSome then
      some { s with pods := s.pods.filter (·.name ≠ name) }
    else none
  | .recreate ordinal pod =>
    if ordinal < rack.size ∧ pod.name = podName rack.sts.name ordinal ∧ pod.name ∉ s.pods.map (·.name) ∧
        pod.hashes = rack.sts.hashes ∧ pod.deletionTimestamp = none then
      some (RackState.settle { s with pods := pod :: s.pods })
    else none
  | .report name phase conditions =>
    some (RackState.settle { s with pods := s.pods.map (Pod.reporting name phase conditions) })

/-- The moves of a rack: the operator lists the pods and decides (`begin`), its next call takes
effect (`emit`), or Kubernetes moves. -/
inductive RackStep
  | begin (env : RestartEnv) (checks : MigrationChecks) (cluster : Cluster)
  | emit
  | kube (k : KubeStep)

def RackState.pass (s : RackState) (env : RestartEnv) (checks : MigrationChecks) (cluster : Cluster) : PassOutcome :=
  reconcileRollingRestart env checks cluster rack.rackID (some rack.sts) s.pods

def RackState.emit (s : RackState) : Option RackState :=
  match s.todo with
  | [] => none
  | e :: l => some { s with pods := podsAfter s.pods [e], todo := l, down := s.down ++ deletedPods [e] }

/-- A pass begins when the one before has made all its calls. The cluster object and what the
operator remembers of failed migration checks may have changed since, but not the batch size. -/
def RackState.step (s : RackState) : RackStep → Option RackState
  | .begin env checks cluster =>
    if s.todo = [] ∧ getRollingUpdateBatchSize cluster rack.size = rack.batchSize then
      some { s with todo := (s.pass rack env checks cluster).effects }
    else none
  | .emit => s.emit
  | .kube k => s.kube rack k

/-- Where a run starts: all pods of the StatefulSet exist, none terminates, each one that is not
stale is Ready, and the operator has nothing under way. -/
structure RackState.Start (rack : RackSetup) (s : RackState) : Prop where
  names : (s.pods.map (·.name)).Perm rack.podNames
  alive : ∀ p ∈ s.pods, p.deletionTimestamp = none
  ready : ∀ p ∈ s.pods, p.stale rack.sts.hashes = false → isPodReady p = true
  todo : s.todo = []
  down : s.down = []

/-! ## The invariant -/

/-- A deleted pod that is not back: it terminates, or is missing, or its replacement is up without
being Ready. -/
def RackSetup.Out (pods : List Pod) (name : String) : Prop :=
  name ∈ rack.podNames ∧ ∀ p ∈ pods, p.name = name →
    p.deletionTimestamp.isSome ∨ (p.stale rack.sts.hashes = false ∧ isPodReady p = false)

/-- The pods are pods of the StatefulSet, and every pod counted as down shows one of the three
signals. -/
structure RackState.Inv (rack : RackSetup) (s : RackState) : Prop where
  nodup : (s.pods.map (·.name)).Nodup
  names : ∀ p ∈ s.pods, p.name ∈ rack.podNames
  out : ∀ n ∈ s.down, rack.Out s.pods n
  within : ∀ e ∈ s.todo, e.withinPass rack.sts.hashes
  planned : ∀ n ∈ deletedPods s.todo, n ∈ rack.podNames

/-- What is down or about to be: no name twice, and at most a batch. -/
structure RackState.Bounded (rack : RackSetup) (s : RackState) : Prop where
  nodup : (s.down ++ deletedPods s.todo).Nodup
  length : (s.down ++ deletedPods s.todo).length ≤ rack.batchSize

theorem RackSetup.podNames_nodup : rack.podNames.Nodup :=
  List.nodup_range.map (podName_injective _)

theorem RackSetup.length_podNames : rack.podNames.length = rack.size := by
  simp [RackSetup.podNames]

variable {rack : RackSetup} {s t : RackState}

theorem RackState.Start.inv (h : s.Start rack) : s.Inv rack where
  nodup := h.names.nodup_iff.2 rack.podNames_nodup
  names p hp := h.names.mem_iff.1 (List.mem_map_of_mem hp)
  out n hn := by rw [h.down] at hn; cases hn
  within e he := by rw [h.todo] at he; cases he
  planned n hn := by rw [h.todo] at hn; cases hn

theorem RackState.Start.bounded (h : s.Start rack) : s.Bounded rack := by
  constructor <;> rw [h.todo, h.down]
  · exact List.nodup_nil
  · exact Nat.zero_le _

theorem RackState.Inv.exists_pod (hi : s.Inv rack) (hall : rack.size ≤ s.pods.length) {n : String}
    (hn : n ∈ rack.podNames) : n ∈ s.pods.map (·.name) := by
  by_contra hp
  have hnd : (n :: s.pods.map (·.name)).Nodup := List.nodup_cons.2 ⟨hp, hi.nodup⟩
  have hsub : n :: s.pods.map (·.name) ⊆ rack.podNames := by
    intro m hm
    rcases List.mem_cons.1 hm with rfl | hm
    · exact hn
    · obtain ⟨p, hp, rfl⟩ := List.mem_map.1 hm
      exact hi.names p hp
  have hle := (List.subperm_of_subset hnd hsub).length_le
  rw [List.length_cons, List.length_map, rack.length_podNames] at hle
  omega

/-- A rack whose pods all exist, with none terminating and every restarted one Ready, has no pod
down. -/
theorem RackState.Inv.down_eq_nil (hi : s.Inv rack)
    (hready : ∀ p ∈ s.pods, p.deletionTimestamp = none ∧ (p.stale rack.sts.hashes = false → isPodReady p = true))
    (hall : rack.size ≤ s.pods.length) : s.down = [] := by
  rw [List.eq_nil_iff_forall_not_mem]
  intro n hn
  obtain ⟨hmem, hout⟩ := hi.out n hn
  obtain ⟨p, hpods, rfl⟩ := List.mem_map.1 (hi.exists_pod hall hmem)
  obtain ⟨halive, hrdy⟩ := hready p hpods
  rcases hout p hpods rfl with hterm | ⟨hs, hr⟩
  · rw [halive] at hterm; cases hterm
  · rw [hrdy hs] at hr; cases hr

/-! ## Steps keep the invariant -/

variable {e : Effect} {p : Pod}

theorem stale_onPod {desired : Hashes} (he : e.withinPass desired) (hs : p.stale desired = false) :
    (e.onPod p).stale desired = false := by
  obtain ⟨hc, hp, hst⟩ := stale_eq_false.1 hs
  cases e with
  | adoptStorageHash pod hash =>
    simp only [Effect.onPod]
    split
    · cases he
      exact stale_eq_false.2 ⟨hc, hp, by simp [storageMismatch]⟩
    · exact hs
  | updatePodConfigHash pod hash =>
    simp only [Effect.onPod]
    split
    · cases he
      exact stale_eq_false.2 ⟨rfl, hp, hst⟩
    · exact hs
  | delete pod now =>
    simp only [Effect.onPod]
    split
    · exact stale_eq_false.2 ⟨hc, hp, hst⟩
    · exact hs
  | _ => exact hs

@[simp] theorem isPodReady_onPod (e : Effect) (p : Pod) : isPodReady (e.onPod p) = isPodReady p := by
  cases e <;> simp only [Effect.onPod] <;> split <;> rfl

theorem deletionTimestamp_onPod (h : p.deletionTimestamp.isSome) :
    (e.onPod p).deletionTimestamp.isSome := by
  cases e <;> simp only [Effect.onPod] <;> (try split) <;> first | exact h | rfl

theorem RackSetup.Out.onPod {pods : List Pod} {n : String} (h : rack.Out pods n) (he : e.withinPass rack.sts.hashes) :
    rack.Out (podsAfter pods [e]) n := by
  refine ⟨h.1, ?_⟩
  intro q hq hn
  obtain ⟨p, hp, rfl⟩ := List.mem_map.1 hq
  simp only [podAfter_cons, podAfter_nil, onPod_name] at hn ⊢
  rcases h.2 p hp hn with hterm | ⟨hs, hr⟩
  · exact Or.inl (deletionTimestamp_onPod hterm)
  · exact Or.inr ⟨stale_onPod he hs, by rw [isPodReady_onPod, hr]⟩

theorem RackState.pass_deleted_mem (hi : s.Inv rack) (env : RestartEnv) (checks : MigrationChecks) (cluster : Cluster) :
    ∀ n ∈ deletedPods (s.pass rack env checks cluster).effects, n ∈ rack.podNames := by
  intro n hn
  have hn := (reconcileRollingRestart_deleted env checks cluster rack.rackID rack.sts s.pods).subset hn
  obtain ⟨p, hp, rfl⟩ := List.mem_map.1 hn
  have hp := (reconcileRollingRestart_batch env checks cluster rack.rackID rack.sts s.pods).1.subset hp
  exact hi.names p (mem_listRackPods.1 (List.mem_filter.1 hp).1)

theorem RackState.begin_inv (hi : s.Inv rack) (env : RestartEnv) (checks : MigrationChecks) (cluster : Cluster) :
    RackState.Inv rack { s with todo := (s.pass rack env checks cluster).effects } where
  nodup := hi.nodup
  names := hi.names
  out := hi.out
  within := reconcileRollingRestart_withinPass env checks cluster rack.rackID rack.sts s.pods
  planned := RackState.pass_deleted_mem hi env checks cluster

theorem deletedPods_onPod (h : p.name ∈ deletedPods [e]) :
    (e.onPod p).deletionTimestamp.isSome := by
  cases e with
  | delete pod now =>
    rw [show deletedPods [Effect.delete pod now] = [pod] from rfl, List.mem_singleton] at h
    simp [Effect.onPod, h]
  | _ => cases h

theorem RackState.emit_inv (hi : s.Inv rack) (h : s.emit = some t) : t.Inv rack := by
  unfold RackState.emit at h
  split at h
  · cases h
  · rename_i e l htodo
    cases h
    have he : e.withinPass rack.sts.hashes := hi.within e (by rw [htodo]; exact List.mem_cons_self)
    have hsplit : deletedPods s.todo = deletedPods [e] ++ deletedPods l := by
      rw [htodo, ← deletedPods_append]; rfl
    constructor
    · show (List.map _ (podsAfter s.pods [e])).Nodup
      rw [podsAfter_names]
      exact hi.nodup
    · intro q hq
      obtain ⟨p, hp, rfl⟩ := List.mem_map.1 hq
      rw [podAfter_name]
      exact hi.names p hp
    · intro n hn
      rcases List.mem_append.1 hn with hn | hn
      · exact (hi.out n hn).onPod he
      · -- the pod just deleted: it terminates
        refine ⟨hi.planned n (by rw [hsplit]; exact List.mem_append_left _ hn), ?_⟩
        intro q hq hname
        obtain ⟨p, hp, rfl⟩ := List.mem_map.1 hq
        simp only [podAfter_cons, podAfter_nil, onPod_name] at hname ⊢
        exact Or.inl (deletedPods_onPod (by rw [hname]; exact hn))
    · intro f hf
      exact hi.within f (by rw [htodo]; exact List.mem_cons_of_mem _ hf)
    · intro n hn
      exact hi.planned n (by rw [hsplit]; exact List.mem_append_right _ hn)

theorem reporting_name (name : String) (phase : PodPhase) (conditions : List PodCondition) (p : Pod) :
    (p.reporting name phase conditions).name = p.name := by
  unfold Pod.reporting
  split <;> rfl

theorem reporting_deletionTimestamp (name : String) (phase : PodPhase) (conditions : List PodCondition) (p : Pod) :
    (p.reporting name phase conditions).deletionTimestamp = p.deletionTimestamp := by
  unfold Pod.reporting
  split <;> rfl

theorem reporting_stale (name : String) (phase : PodPhase) (conditions : List PodCondition) (p : Pod)
    (desired : Hashes) : (p.reporting name phase conditions).stale desired = p.stale desired := by
  unfold Pod.reporting
  split <;> rfl

theorem not_ready_of_not_isBack {pods : List Pod} (h : isBack pods p.name = false) (hp : p ∈ pods) :
    p.deletionTimestamp.isSome ∨ isPodReady p = false := by
  simp only [isBack, List.any_eq_false, Bool.and_eq_true, decide_eq_true_eq, not_and] at h
  cases hd : p.deletionTimestamp with
  | some d => exact Or.inl rfl
  | none => exact Or.inr (Bool.eq_false_iff.2 (h p hp ⟨rfl, by rw [hd]; rfl⟩))

theorem RackState.kube_inv (hi : s.Inv rack) {k : KubeStep} (h : s.kube rack k = some t) : t.Inv rack := by
  cases k with
  | disappear name =>
    simp only [RackState.kube] at h
    split at h
    · cases h
      refine ⟨hi.nodup.sublist (List.filter_sublist.map _), ?_, ?_, hi.within, hi.planned⟩
      · intro p hp
        exact hi.names p (List.mem_filter.1 hp).1
      · intro n hn
        exact ⟨(hi.out n hn).1, fun p hp => (hi.out n hn).2 p (List.mem_filter.1 hp).1⟩
    · cases h
  | recreate ordinal pod =>
    simp only [RackState.kube] at h
    split at h
    · rename_i hc
      obtain ⟨hord, hname, hnew, hhash, halive⟩ := hc
      cases h
      refine ⟨List.nodup_cons.2 ⟨hnew, hi.nodup⟩, ?_, ?_, hi.within, hi.planned⟩
      · intro p hp
        rcases List.mem_cons.1 hp with rfl | hp
        · rw [hname]
          exact List.mem_map_of_mem (List.mem_range.2 hord)
        · exact hi.names p hp
      · intro n hn
        obtain ⟨hn, hback⟩ := List.mem_filter.1 hn
        have hback : isBack (pod :: s.pods) n = false := by simpa using hback
        refine ⟨(hi.out n hn).1, ?_⟩
        intro p hp hpn
        rcases List.mem_cons.1 hp with rfl | hp'
        · -- the replacement itself: it has the template's hashes, and is still listed
          subst hpn
          rcases not_ready_of_not_isBack hback hp with hterm | hr
          · exact Or.inl hterm
          · exact Or.inr ⟨stale_of_hashes_eq hhash, hr⟩
        · exact (hi.out n hn).2 p hp' hpn
    · cases h
  | report name phase conditions =>
    cases h
    refine ⟨?_, ?_, ?_, hi.within, hi.planned⟩
    · show (List.map _ (List.map _ s.pods)).Nodup
      rw [List.map_map]
      simpa [Function.comp_def, reporting_name] using hi.nodup
    · intro q hq
      obtain ⟨p, hp, rfl⟩ := List.mem_map.1 hq
      rw [reporting_name]
      exact hi.names p hp
    · intro n hn
      obtain ⟨hn, hback⟩ := List.mem_filter.1 hn
      have hback : isBack (s.pods.map (Pod.reporting name phase conditions)) n = false := by simpa using hback
      refine ⟨(hi.out n hn).1, ?_⟩
      intro q hq hqn
      have hready : q.deletionTimestamp.isSome ∨ isPodReady q = false := by
        subst hqn
        exact not_ready_of_not_isBack hback hq
      obtain ⟨p, hp, rfl⟩ := List.mem_map.1 hq
      rw [reporting_name] at hqn
      rcases hready with hterm | hr
      · exact Or.inl hterm
      · rcases (hi.out n hn).2 p hp hqn with hterm | ⟨hs, _⟩
        · exact Or.inl (by rw [reporting_deletionTimestamp]; exact hterm)
        · exact Or.inr ⟨by rw [reporting_stale]; exact hs, hr⟩

theorem RackState.step_inv {a : RackStep} (hi : s.Inv rack) (h : s.step rack a = some t) : t.Inv rack := by
  cases a with
  | begin env checks cluster =>
    simp only [RackState.step] at h
    split at h
    · cases h; exact RackState.begin_inv hi env checks cluster
    · cases h
  | emit => exact RackState.emit_inv hi h
  | kube k => exact RackState.kube_inv hi h

/-! ## The bound -/

theorem RackState.pass_down_eq_nil (hp : rack.sts.podManagementPolicy = .parallel) (hi : s.Inv rack)
    {env : RestartEnv} {checks : MigrationChecks} {cluster : Cluster}
    (h : (s.pass rack env checks cluster).batch ≠ []) : s.down = [] := by
  obtain ⟨hc, hr⟩ := restartInFlightReason_of_batch env checks cluster rack.rackID rack.sts s.pods h
  obtain ⟨hready, hall⟩ := (restartInFlightReason_eq_none hc).1 hr
  refine hi.down_eq_nil (fun p hp => hready p (mem_listRackPods.2 hp)) ?_
  by_cases hsize : rack.size = 0
  · omega
  · have hreplicas : statefulSetReplicas rack.sts = rack.size := by simp [statefulSetReplicas, rack.replicas_eq]
    simp only [hreplicas, hp, length_listRackPods] at hall
    have := hall (by omega) (by decide)
    omega

theorem RackState.begin_bounded (hp : rack.sts.podManagementPolicy = .parallel) (hi : s.Inv rack)
    (hb : s.Bounded rack) (htodo : s.todo = []) {env : RestartEnv} {checks : MigrationChecks} {cluster : Cluster}
    (hsize : getRollingUpdateBatchSize cluster rack.size = rack.batchSize) :
    (s.down ++ deletedPods (s.pass rack env checks cluster).effects).Nodup ∧
      (s.down ++ deletedPods (s.pass rack env checks cluster).effects).length ≤ rack.batchSize := by
  have hdel := reconcileRollingRestart_deleted env checks cluster rack.rackID rack.sts s.pods
  obtain ⟨hsub, hlen⟩ := reconcileRollingRestart_batch env checks cluster rack.rackID rack.sts s.pods
  by_cases hbatch : (s.pass rack env checks cluster).batch = []
  · have hnone : deletedPods (s.pass rack env checks cluster).effects = [] := by
      unfold RackState.pass at hbatch ⊢
      rw [hbatch] at hdel
      exact List.sublist_nil.1 hdel
    have hnd := hb.nodup
    have hln := hb.length
    rw [htodo, deletedPods_nil] at hnd hln
    rw [hnone]
    exact ⟨hnd, hln⟩
  · rw [RackState.pass_down_eq_nil hp hi hbatch, List.nil_append]
    constructor
    · have hnames : ((listRackPods s.pods).map (·.name)).Nodup :=
        (((List.perm_insertionSort _ s.pods).map _).nodup_iff).2 hi.nodup
      exact (hnames.sublist ((hsub.trans List.filter_sublist).map _)).sublist hdel
    · have hreplicas : statefulSetReplicas rack.sts = rack.size := by simp [statefulSetReplicas, rack.replicas_eq]
      have hle := hdel.length_le
      rw [List.length_map] at hle
      rw [hreplicas, hsize, Int.toNat_natCast] at hlen
      exact le_trans hle hlen

theorem RackState.step_bounded (hp : rack.sts.podManagementPolicy = .parallel) {a : RackStep} (hi : s.Inv rack)
    (hb : s.Bounded rack) (h : s.step rack a = some t) : t.Bounded rack := by
  -- replacements that become Ready only shorten the list
  have settled : ∀ u : RackState, u.Bounded rack → u.settle.Bounded rack := by
    intro u hu
    have hsub : (u.settle.down ++ deletedPods u.todo).Sublist (u.down ++ deletedPods u.todo) :=
      List.filter_sublist.append (List.Sublist.refl _)
    exact ⟨hu.nodup.sublist hsub, le_trans hsub.length_le hu.length⟩
  cases a with
  | begin env checks cluster =>
    simp only [RackState.step] at h
    split at h
    · rename_i hc
      cases h
      obtain ⟨hnd, hlen⟩ := RackState.begin_bounded hp hi hb hc.1 hc.2
      exact ⟨hnd, hlen⟩
    · cases h
  | emit =>
    simp only [RackState.step, RackState.emit] at h
    split at h
    · cases h
    · rename_i e l htodo
      cases h
      have hsplit : s.down ++ deletedPods s.todo = (s.down ++ deletedPods [e]) ++ deletedPods l := by
        rw [htodo, List.append_assoc, ← deletedPods_append]; rfl
      exact ⟨by rw [← hsplit]; exact hb.nodup, by rw [← hsplit]; exact hb.length⟩
  | kube k =>
    cases k with
    | disappear name =>
      simp only [RackState.step, RackState.kube] at h
      split at h
      · cases h; exact ⟨hb.nodup, hb.length⟩
      · cases h
    | recreate ordinal pod =>
      simp only [RackState.step, RackState.kube] at h
      split at h
      · cases h; exact settled _ ⟨hb.nodup, hb.length⟩
      · cases h
    | report name phase conditions =>
      cases h
      exact settled _ ⟨hb.nodup, hb.length⟩

/-- The restart bound of a rack: in every run from a start state, and at every moment between two
calls, at most a batch of the pods the operator deleted is not back and Ready. -/
theorem rolling_restart_bound {rack : RackSetup} (hp : rack.sts.podManagementPolicy = .parallel) {s t : RackState}
    (hs : s.Start rack) {l : List RackStep} (h : Lts.run (RackState.step rack) s l = some t) :
    t.down.Nodup ∧ t.down.length ≤ rack.batchSize := by
  have hinv : t.Inv rack ∧ t.Bounded rack :=
    Lts.run_invariant' (I := fun u : RackState => u.Inv rack ∧ u.Bounded rack)
      (fun u a v hu hv => ⟨RackState.step_inv hu.1 hv, RackState.step_bounded hp hu.1 hu.2 hv⟩)
      ⟨hs.inv, hs.bounded⟩ h
  have hsub : t.down.Sublist (t.down ++ deletedPods t.todo) := List.sublist_append_left _ _
  exact ⟨hinv.2.nodup.sublist hsub, le_trans hsub.length_le hinv.2.length⟩

def RackState.twoStale : RackState :=
  ⟨[Pod.serving "db-0-0" "ce:8" "10.0.0.1" ⟨"old", "", ""⟩,
    Pod.serving "db-0-1" "ce:8" "10.0.0.2" ⟨"old", "", ""⟩], [], []⟩

def RackSetup.two : RackSetup := ⟨0, ⟨"db-0", some 2, ⟨"new", "", ""⟩, .parallel⟩, 2, 1, rfl⟩

/-- A pass deletes the last pod, the pod is gone, and the next pass has to wait. -/
def RackStep.firstDelete : List RackStep :=
  [.begin (.calm false []) [] (.bare "db" "ce:8"), .emit, .kube (.disappear "db-0-1"),
    .begin (.calm false []) [] (.bare "db" "ce:8")]

theorem rolling_restart_bound_two :
    ∃ t, Lts.run (RackState.step .two) .twoStale RackStep.firstDelete = some t ∧ t.down = ["db-0-1"] ∧ t.todo = [] ∧
      t.down.Nodup ∧ t.down.length ≤ 1 := by
  have hstart : RackState.Start .two .twoStale := ⟨by decide, by decide, by decide, rfl, rfl⟩
  obtain ⟨t, ht, hdown, htodo⟩ : ∃ t, Lts.run (RackState.step .two) .twoStale RackStep.firstDelete = some t ∧
      t.down = ["db-0-1"] ∧ t.todo = [] := ⟨_, rfl, rfl, rfl⟩
  exact ⟨t, ht, hdown, htodo, rolling_restart_bound rfl hstart ht⟩

end Acko
