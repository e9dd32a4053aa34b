/-
Safety and progress of scale-downs over whole runs: a count is lowered only after a probe without
migrations and with a Ready pod for every ordinal that stays, never below the desired size, and
passes that are not held back reach the size in as many batches as there are pods too many. A
StatefulSet is deleted only without replicas.
-/
import AckoProofs.Scale.Handled
import Mathlib.Data.List.Perm.Subperm

namespace Acko

/-! ## Ready pods by ordinal -/

/-- The pods listed for a rack are pods of its StatefulSet, each once. -/
structure PodsOf (n : String) (rackPods : List Pod) : Prop where
  named : ∀ p ∈ rackPods, ∃ k : Nat, k < 2 ^ 31 ∧ p.name = podName n k
  distinct : (rackPods.map (·.name)).Nodup

theorem ready_each {n : String} {rackPods : List Pod} (h : PodsOf n rackPods) {count : Int}
    (hready : count ≤ readyCount rackPods count) {k : Nat} (hk : (k : Int) < count) :
    ∃ p ∈ rackPods, p.name = podName n k ∧ isPodReady p = true := by
  unfold readyCount at hready
  generalize hf : (fun p : Pod => podOrdinal p.name < count && isPodReady p) = test at hready
  -- the names of the Ready pods that stay are among `count` names, and there are `count` of them
  have hdistinct : ((rackPods.filter test).map (·.name)).Nodup := h.distinct.sublist ((List.filter_sublist ..).map _)
  have hsub : (rackPods.filter test).map (·.name) ⊆ (List.range count.toNat).map (podName n) := by
    intro name hname
    obtain ⟨p, hp, rfl⟩ := List.mem_map.1 hname
    obtain ⟨hp, htest⟩ := List.mem_filter.1 hp
    obtain ⟨i, hi, hpn⟩ := h.named p hp
    rw [← hf] at htest
    simp only [Bool.and_eq_true, decide_eq_true_eq] at htest
    rw [hpn, podOrdinal_podName n (by omega)] at htest
    exact List.mem_map.2 ⟨i, List.mem_range.2 (by omega), hpn.symm⟩
  have hperm := (List.subperm_of_subset hdistinct hsub).perm_of_length_le (by
    rw [List.length_map, List.length_map, List.length_range]
    omega)
  have hmem : podName n k ∈ (rackPods.filter test).map (·.name) :=
    hperm.mem_iff.2 (List.mem_map.2 ⟨k, List.mem_range.2 (by omega), rfl⟩)
  obtain ⟨p, hp, hpn⟩ := List.mem_map.1 hmem
  obtain ⟨hp, htest⟩ := List.mem_filter.1 hp
  rw [← hf] at htest
  simp only [Bool.and_eq_true] at htest
  exact ⟨p, hp, hpn, htest.2⟩

/-! ## Deletes -/

variable {s : ScaleState} {hashesOf : Cluster → Rack → Hashes}

theorem pass_deletes {env : ScaleEnv} {n : String} (he : .delete n ∈ (s.pass hashesOf env).2.2) :
    ∃ obj ∈ s.objs, obj.sts.name = n ∧ statefulSetReplicas obj.sts ≤ 0 := by
  rcases mem_pass he with ⟨r, _, he, _⟩ | ⟨answer, hanswer⟩ | ⟨r, hr, blocked, he, _⟩
  · -- the racks of the spec are not deleted
    rcases mem_reconcileRack he with ⟨_, h⟩ | ⟨_, h⟩ | ⟨_, _, h⟩ <;> cases h
  · cases hanswer
  · rcases mem_teardownEvents he with ⟨h, _⟩ | ⟨hn, h⟩
    · cases h
    · rw [h] at he
      rcases deleteRemovedRack_events he with ⟨hdel, hdeleting⟩ | hdel | hdel <;> cases hdel
      refine ⟨r.1, mem_removedRacks hr, rfl, not_lt.1 fun hpos => ?_⟩
      rw [needsDrain_eq_true.2 ⟨hdeleting, hpos⟩] at hn
      cases hn

/-! ## Passes that are not held back -/

/-- The drain of a removed rack goes on: the StatefulSet is not being deleted, its rack is known by
its name, nothing migrates, enough pods are Ready and the calls of the teardown succeed. -/
structure DrainOpen (s : ScaleState) (env : ScaleEnv) (obj : StatefulSetObject) : Prop where
  kept : obj.deleting = false
  listed : env.listError = none
  quiet : env.migration = .ok false
  relisted : (env.sts obj.sts.name).relistError = none
  ready : ∃ id, (obj, id) ∈ removedRacks s.cluster (getRacks s.cluster) s.objs ∧
    scaleDownTarget s.cluster (statefulSetReplicas obj.sts) 0 ≤
      readyCount (s.pods id) (scaleDownTarget s.cluster (statefulSetReplicas obj.sts) 0)
  calls : ∃ deferred, (teardownRacks env s.cluster s.pods false
    (removedRacks s.cluster (getRacks s.cluster) s.objs)).1 = .ok deferred

/-- A pass that is not deferred before it has handled the StatefulSet of a name: nothing fails and
no rack of the spec is held back; nor is the name's own, where it is a removed one. -/
structure Undeferred (hashesOf : Cluster → Rack → Hashes) (n : String) (s : ScaleState) (env : ScaleEnv) : Prop where
  started : env.stopEarly = none
  racks : (reconcileRacks env s.cluster s.pods hashesOf s.objs (getRacks s.cluster)).1 = .ok false
  drain : n ∉ (getRacks s.cluster).map (fun rack => statefulSetName s.cluster.name rack.id) →
    ∀ obj ∈ s.objs, obj.sts.name = n → 0 < statefulSetReplicas obj.sts → DrainOpen s env obj

theorem teardownRack_open {env : StsEnv} {cluster : Cluster} {obj : StatefulSetObject} {rackID : Int}
    {rackPods : List Pod} {deferred : Bool} (hn : obj.needsDrain = true) (hrelist : env.relistError = none)
    (hready : scaleDownTarget cluster (statefulSetReplicas obj.sts) 0 ≤
      readyCount rackPods (scaleDownTarget cluster (statefulSetReplicas obj.sts) 0))
    (hok : (teardownRack env false cluster obj rackID rackPods).1 = .ok deferred) :
    (teardownRack env false cluster obj rackID rackPods).2 =
      [.drain obj.sts.name (statefulSetReplicas obj.sts)
        (scaleDownTarget cluster (statefulSetReplicas obj.sts) 0)] := by
  have hpos := (needsDrain_eq_true.1 hn).2
  unfold scaleDownTarget at hready ⊢
  rw [Int.sub_zero] at hready ⊢
  unfold teardownRack drainRemovedRack checkScaleDownReadiness at hok ⊢
  rw [if_pos hn, if_neg (by simp)] at hok ⊢
  simp only [if_neg (show ¬ statefulSetReplicas obj.sts ≤ 0 by omega)] at hok ⊢
  cases hl : env.listError with
  | some err => rw [hl] at hok; cases hok
  | none =>
    rw [hl] at hok
    simp only [hrelist, decide_eq_false (show ¬ readyCount rackPods _ < _ from not_lt.2 hready)] at hok ⊢
    cases hp : env.patchError with
    | some err => rw [hp] at hok; cases hok
    | none => rfl

theorem drain_mem {env : ScaleEnv} {obj : StatefulSetObject} (h : DrainOpen s env obj)
    (hpos : 0 < statefulSetReplicas obj.sts) :
    .drain obj.sts.name (statefulSetReplicas obj.sts) (scaleDownTarget s.cluster (statefulSetReplicas obj.sts) 0) ∈
      (cleanupRemovedRacks env s.cluster s.pods s.objs s.checks (getRacks s.cluster)).2.2 := by
  have hn := needsDrain_eq_true.2 ⟨h.kept, hpos⟩
  obtain ⟨id, hr, hready⟩ := h.ready
  obtain ⟨deferred, hok⟩ := h.calls
  obtain ⟨visited, _, hev, hall⟩ :=
    teardownRacks_events env s.cluster s.pods false (removedRacks s.cluster (getRacks s.cluster) s.objs)
  obtain ⟨d, hd, _⟩ := eachRack_ok hok _ hr
  rw [cleanupRemovedRacks_open _ h.listed h.quiet (List.any_eq_true.2 ⟨_, hr, hn⟩), hev, hall]
  · refine List.mem_cons_of_mem _ (List.mem_flatMap.2 ⟨_, hr, ?_⟩)
    rw [teardownEvents, teardownRack_open hn h.relisted hready hd]
    exact List.mem_singleton.2 rfl
  · intro err herr
    rw [herr] at hok
    cases hok

theorem pass_acts {n : String} {env : ScaleEnv} (hd : DistinctRacks s.cluster) (h : Undeferred hashesOf n s env)
    (hnil : (s.pass hashesOf env).2.2.filter (·.about n) = []) :
    foundReplicas (findStatefulSet s.objs n) ≤ desiredReplicas s.cluster n := by
  rw [ScaleState.pass, reconcileScaling_goesOn _ h.started h.racks, List.filter_append, List.append_eq_nil_iff] at hnil
  by_cases hn : n ∈ (getRacks s.cluster).map fun rack => statefulSetName s.cluster.name rack.id
  · obtain ⟨rack, hrack, rfl⟩ := List.mem_map.1 hn
    rw [← List.zipIdx_map_fst 0 (getRacks s.cluster)] at hrack
    obtain ⟨r, hr, rfl⟩ := List.mem_map.1 hrack
    rw [desiredReplicas_current hd hr]
    obtain ⟨d, hok, hdeferred⟩ := eachRack_ok h.racks r hr
    have hpiece : (reconcileRack env s.cluster s.pods hashesOf s.objs (getRacks s.cluster) r).2.filter
        (·.about (statefulSetName s.cluster.name r.1.id)) = [] := by
      rcases @reconcileRacks_about env s.cluster s.pods hashesOf s.objs (getRacks s.cluster) hd r hr with
        hsame | ⟨_, err, herr⟩
      · rw [← hsame]
        exact hnil.1
      · rw [h.racks] at herr
        cases herr
    have hok : (reconcileRack env s.cluster s.pods hashesOf s.objs (getRacks s.cluster) r).1 = .ok false := by
      cases d with
      | false => exact hok
      | true => cases hdeferred rfl
    rcases reconcileRack_cases env s.cluster s.pods s.objs (getRacks s.cluster) hashesOf r with
      ⟨_, hdone⟩ | ⟨_, hout⟩ | ⟨sts, _, ⟨_, hout⟩ | ⟨_, hno, _⟩ | ⟨_, _, hout⟩⟩
    · obtain ⟨sts, hf, hsize⟩ := hdone hok
      rw [hf, ← hsize]
      exact le_refl _
    · rw [hout] at hpiece
      simp [ScaleEvent.about, buildStatefulSet] at hpiece
    · rw [hout] at hpiece
      simp [ScaleEvent.about] at hpiece
    · exact absurd hok hno
    · rw [hout] at hpiece
      simp [ScaleEvent.about] at hpiece
  · rw [desiredReplicas_removed hn]
    cases hf : findStatefulSet s.objs n with
    | none => exact le_refl _
    | some sts =>
      obtain ⟨obj, hobj, rfl⟩ := Option.map_eq_some_iff.1 hf
      have hname : obj.sts.name = n := by simpa using List.find?_some hobj
      by_contra hpos
      have hpos : 0 < statefulSetReplicas obj.sts := not_le.1 hpos
      have hopen := h.drain hn obj (List.mem_of_find?_eq_some hobj) hname hpos
      have hmem := List.filter_eq_nil_iff.1 hnil.2 _ (drain_mem hopen hpos)
      simp [ScaleEvent.about, hname] at hmem

/-! ## Runs -/

/-- What admission and the API server see to, and the pods listed for a rack being those of its
StatefulSet. -/
structure ScaleState.Listed (s : ScaleState) : Prop where
  racks : DistinctRacks s.cluster
  pods : ∀ n id, s.ListedUnder n id → PodsOf n (s.pods id)
  counts : ∀ obj ∈ s.objs, 0 ≤ statefulSetReplicas obj.sts

/-- A pass lowers a count only after a probe without migrations, not below the desired size and
with a Ready pod for each ordinal that stays, and deletes only what has no replicas. -/
structure PassSafe (hashesOf : Cluster → Rack → Hashes) (s : ScaleState) (env : ScaleEnv) : Prop where
  lowers : ∀ n sts sts', findStatefulSet s.objs n = some sts →
    findStatefulSet (objectsAfter s.objs (s.pass hashesOf env).2.2) n = some sts' →
    statefulSetReplicas sts' < statefulSetReplicas sts →
    .probe (.ok false) ∈ (s.pass hashesOf env).2.2 ∧ desiredReplicas s.cluster n ≤ statefulSetReplicas sts' ∧
      ∃ id, s.ListedUnder n id ∧ ∀ k : Nat, (k : Int) < statefulSetReplicas sts' →
        ∃ p ∈ s.pods id, p.name = podName n k ∧ isPodReady p = true
  deletes : ∀ n, .delete n ∈ (s.pass hashesOf env).2.2 →
    ∃ obj ∈ s.objs, obj.sts.name = n ∧ (obj.sts.replicas = none ∨ obj.sts.replicas = some 0)

theorem passSafe (hs : s.Listed) (hnames : (s.objs.map (·.sts.name)).Nodup) (hashesOf : Cluster → Rack → Hashes)
    (env : ScaleEnv) : PassSafe hashesOf s env := by
  constructor
  · intro n sts sts' hf hf' hlt
    obtain ⟨⟨e, he, hl⟩, hbatch⟩ := pass_lowered hs.racks hnames hf hf' hlt
    obtain ⟨hprobe, _, _, id, hid, hready⟩ := pass_lowers hs.racks he hl
    exact ⟨hprobe, hbatch.above, id, hid, fun k hk => ready_each (hs.pods n id hid) hready hk⟩
  · intro n he
    obtain ⟨obj, hobj, hname, hle⟩ := pass_deletes he
    have hzero : statefulSetReplicas obj.sts = 0 := le_antisymm hle (hs.counts obj hobj)
    refine ⟨obj, hobj, hname, ?_⟩
    cases hr : obj.sts.replicas with
    | none => exact Or.inl rfl
    | some count =>
      rw [statefulSetReplicas, hr, Option.getD_some] at hzero
      exact Or.inr (congrArg some hzero)

def ScaleStep.isPass : ScaleStep → Bool
  | .pass _ => true
  | _ => false

/-- The moves of a run towards one size of a StatefulSet: passes that are not deferred, and moves of
others that leave its count alone. -/
def ScaleStep.Clear (hashesOf : Cluster → Rack → Hashes) (n : String) (target : Int) (s : ScaleState) : ScaleStep → Prop
  | .pass env => desiredReplicas s.cluster n = target ∧ Undeferred hashesOf n s env
  | .edit _ => True
  | .kube objs _ => foundReplicas (findStatefulSet objs n) = foundReplicas (findStatefulSet s.objs n)

section Runs

variable {hashesOf : Cluster → Rack → Hashes}

def excess (n : String) (target : Int) (s : ScaleState) : Nat :=
  (foundReplicas (findStatefulSet s.objs n) - target).toNat

variable {n : String} {target : Int} {s t : ScaleState} {a : ScaleStep}

theorem countP_lowersOf (n : String) (events : List ScaleEvent) :
    events.countP (·.lowersOf n) = (events.filter (·.about n)).countP (·.lowersOf n) := by
  rw [List.countP_filter]
  refine List.countP_congr fun e _ => ?_
  constructor
  · intro h
    simp only [h, lowersOf_about h, Bool.and_self]
  · intro h
    exact (Bool.and_eq_true_iff.1 h).1

/-- One move towards a size: the lowerings it makes are paid for by the excess, the count stays
above the size, and a pass takes at least one off. -/
theorem step_excess (hd : DistinctRacks s.cluster) (hnames : (s.objs.map (·.sts.name)).Nodup)
    (hc : a.Clear hashesOf n target s) (h : s.step hashesOf a = some t) :
    t.log.countP (·.lowersOf n) + excess n target t ≤ s.log.countP (·.lowersOf n) + excess n target s ∧
    (target ≤ foundReplicas (findStatefulSet s.objs n) → target ≤ foundReplicas (findStatefulSet t.objs n)) ∧
    excess n target t ≤ excess n target s - (if a.isPass then 1 else 0) := by
  cases a with
  | pass env =>
    obtain ⟨rfl, hu⟩ := hc
    have heffect := (pass_handled hd hnames hashesOf env n).effect
    have hacts := pass_acts hd hu
    obtain ⟨_, hobjs, hlog⟩ := step_pass h
    rw [← findStatefulSet_objectsAfter, ← countP_lowersOf, ← hobjs] at heffect
    simp only [excess, hlog, List.countP_append, ScaleStep.isPass, if_true]
    rcases heffect with ⟨hcount, ⟨hafter, hidle⟩ | ⟨hafter, _⟩⟩ | ⟨hcount, hbefore, hafter, _⟩
    · -- nothing is lowered, so nothing was too large
      have hle : foundReplicas (findStatefulSet s.objs n) ≤ desiredReplicas s.cluster n := by
        rcases hidle with hnil | hle
        · exact hacts hnil
        · exact hle
      rw [hcount, hafter]
      omega
    · rw [hcount, hafter]
      omega
    · obtain ⟨hlower, habove, _⟩ := batchStep_scaleDownTarget s.cluster hbefore
      rw [hcount, hafter]
      omega
  | edit cluster => cases h; exact ⟨le_refl _, id, le_refl _⟩
  | kube objs pods =>
    simp only [ScaleState.step] at h
    split at h
    · cases h
      simp only [ScaleStep.Clear] at hc
      simp only [excess, hc, ScaleStep.isPass]
      exact ⟨le_refl _, id, le_refl _⟩
    · cases h

end Runs

/-- Scale-down is safe in every run, and reaches the desired size in runs that are not deferred. -/
theorem scale_down_safe_and_live (hashesOf : Cluster → Rack → Hashes) {s t : ScaleState} {l : List ScaleStep}
    (hnames : (s.objs.map (·.sts.name)).Nodup) (hlog : s.log = [])
    (hlisted : Lts.Along (ScaleState.step hashesOf) (fun s _ => s.Listed) s l)
    (hrun : Lts.run (ScaleState.step hashesOf) s l = some t) :
    Lts.Along (ScaleState.step hashesOf) (fun s a => ∀ env, a = .pass env → PassSafe hashesOf s env) s l ∧
    ∀ n target, target ≤ foundReplicas (findStatefulSet s.objs n) →
      Lts.Along (ScaleState.step hashesOf) (fun s a => a.Clear hashesOf n target s) s l →
      t.log.countP (·.lowersOf n) ≤ foundReplicas (findStatefulSet s.objs n) - target ∧
      (foundReplicas (findStatefulSet s.objs n) - target ≤ l.countP ScaleStep.isPass →
        foundReplicas (findStatefulSet t.objs n) = target) := by
  constructor
  · exact Lts.Along.of_invariant (fun _ _ _ hi _ h => step_names hi h)
      (fun _ _ hi hs env _ => passSafe hs hi hashesOf env) hnames hlisted
  · intro n target hle hclear
    have hmoves : Lts.Along (ScaleState.step hashesOf)
        (fun s a => DistinctRacks s.cluster ∧ (s.objs.map (·.sts.name)).Nodup ∧ a.Clear hashesOf n target s) s l :=
      Lts.Along.of_invariant (fun _ _ _ hi _ h => step_names hi h) (fun _ _ hi hs => ⟨hs.1.racks, hi, hs.2⟩) hnames
        (hlisted.and hclear)
    obtain ⟨hcount, habove⟩ : t.log.countP (·.lowersOf n) + excess n target t ≤ excess n target s ∧
        target ≤ foundReplicas (findStatefulSet t.objs n) := by
      refine Lts.run_invariant (I := fun u => u.log.countP (·.lowersOf n) + excess n target u ≤ excess n target s ∧
        target ≤ foundReplicas (findStatefulSet u.objs n)) ?_ ⟨?_, hle⟩ hmoves hrun
      · rintro u a v ⟨hcount, habove⟩ ⟨hd, hnd, hc⟩ hstep
        obtain ⟨hpaid, hkept, _⟩ := step_excess hd hnd hc hstep
        exact ⟨le_trans hpaid hcount, hkept habove⟩
      · rw [hlog, List.countP_nil, Nat.zero_add]
    have hmeasure := Lts.run_measure (m := excess n target) (p := ScaleStep.isPass)
      (fun _ _ _ hc h => (step_excess hc.1 hc.2.1 hc.2.2 h).2.2) hmoves hrun
    unfold excess at hcount hmeasure
    constructor
    · omega
    · intro hlong
      omega

/-! ## A smaller rack and a removed one -/

/-- A cluster of one node in rack 1, which scales down one pod at a time. -/
def shrinkingCluster : Cluster :=
  { Cluster.bare "db" "ce:8" with
    spec := { (Cluster.bare "db" "ce:8").spec with rackConfig := some ⟨[⟨1, none⟩], some (.int 1), none, none⟩ } }

def shrinkingHashes (_ : Cluster) (_ : Rack) : Hashes := ⟨"c", "s", "v"⟩

def shrinkingPods (rackID : Int) : List Pod :=
  if rackID = 1 then
    [Pod.serving "db-1-0" "ce:8" "10.0.0.1" ⟨"c", "s", "v"⟩, Pod.serving "db-1-1" "ce:8" "10.0.0.2" ⟨"c", "s", "v"⟩,
      Pod.serving "db-1-2" "ce:8" "10.0.0.3" ⟨"c", "s", "v"⟩]
  else if rackID = 2 then [Pod.serving "db-2-0" "ce:8" "10.0.0.4" ⟨"c", "s", "v"⟩]
  else []

/-- Rack 1 has two pods too many, and rack 2 has left the spec with one. -/
def shrinkingState : ScaleState :=
  ⟨shrinkingCluster, [⟨⟨"db-1", some 3, ⟨"c", "s", "v"⟩, .parallel⟩, false⟩,
    ⟨⟨"db-2", some 1, ⟨"c", "s", "v"⟩, .parallel⟩, false⟩], shrinkingPods, [], []⟩

theorem shrinkingPods_one : PodsOf "db-1" (shrinkingPods 1) where
  named := by
    intro p hp
    simp only [shrinkingPods, if_true, List.mem_cons, List.not_mem_nil, or_false] at hp
    rcases hp with rfl | rfl | rfl
    · exact ⟨0, by decide, by decide⟩
    · exact ⟨1, by decide, by decide⟩
    · exact ⟨2, by decide, by decide⟩
  distinct := by decide

theorem shrinkingPods_two : PodsOf "db-2" (shrinkingPods 2) where
  named := by
    intro p hp
    have hp : p = Pod.serving "db-2-0" "ce:8" "10.0.0.4" ⟨"c", "s", "v"⟩ := List.mem_singleton.1 hp
    subst hp
    exact ⟨0, by decide, by decide⟩
  distinct := by decide

theorem shrinking_listed (hcluster : s.cluster = shrinkingCluster) (hpods : s.pods = shrinkingPods)
    (hremoved : (removedRacks s.cluster (getRacks s.cluster) s.objs).map (fun r => (r.1.sts.name, r.2)) = [("db-2", 2)])
    (hcounts : ∀ obj ∈ s.objs, 0 ≤ statefulSetReplicas obj.sts) : s.Listed := by
  refine ⟨by rw [hcluster]; decide, ?_, hcounts⟩
  rw [hpods]
  rintro n id (⟨rack, hrack, rfl, rfl⟩ | ⟨r, hr, rfl, rfl⟩)
  · rw [hcluster] at hrack ⊢
    have hrack : rack = ⟨1, none⟩ := List.mem_singleton.1 hrack
    subst hrack
    exact shrinkingPods_one
  · have hr := List.mem_map_of_mem (f := fun r : StatefulSetObject × Int => (r.1.sts.name, r.2)) hr
    rw [hremoved, List.mem_singleton, Prod.mk.injEq] at hr
    rw [hr.1, hr.2]
    exact shrinkingPods_two

theorem scale_down_safe_and_live_shrinking : ∃ t,
    Lts.run (ScaleState.step shrinkingHashes) shrinkingState [.pass .calm, .pass .calm] = some t ∧
    t.log = [.probe (.ok false), .patch "db-1" 3 2 ⟨"c", "s", "v"⟩, .probe (.ok false), .drain "db-2" 1 0,
      .probe (.ok false), .patch "db-1" 2 1 ⟨"c", "s", "v"⟩, .delete "db-2"] ∧
    PassSafe shrinkingHashes shrinkingState .calm ∧
    foundReplicas (findStatefulSet t.objs "db-1") = 1 ∧ foundReplicas (findStatefulSet t.objs "db-2") = 0 := by
  obtain ⟨u, hu, huc, hup, huo⟩ : ∃ u, shrinkingState.step shrinkingHashes (.pass .calm) = some u ∧
      u.cluster = shrinkingCluster ∧ u.pods = shrinkingPods ∧
      u.objs = [⟨⟨"db-1", some 2, ⟨"c", "s", "v"⟩, .parallel⟩, false⟩,
        ⟨⟨"db-2", some 0, ⟨"c", "s", "v"⟩, .parallel⟩, false⟩] :=
    ⟨_, rfl, rfl, rfl, by decide⟩
  obtain ⟨t, ht, hlog⟩ : ∃ t,
      Lts.run (ScaleState.step shrinkingHashes) shrinkingState [.pass .calm, .pass .calm] = some t ∧
      t.log = [.probe (.ok false), .patch "db-1" 3 2 ⟨"c", "s", "v"⟩, .probe (.ok false), .drain "db-2" 1 0,
        .probe (.ok false), .patch "db-1" 2 1 ⟨"c", "s", "v"⟩, .delete "db-2"] :=
    ⟨_, rfl, by decide⟩
  have hlisted : Lts.Along (ScaleState.step shrinkingHashes) (fun s _ => s.Listed) shrinkingState
      [.pass .calm, .pass .calm] := by
    refine .cons hu (shrinking_listed rfl rfl (by decide) (by decide)) ⟨?_, fun _ _ => trivial⟩
    refine shrinking_listed huc hup ?_ ?_
    · rw [huc, huo]; decide
    · rw [huo]; decide
  obtain ⟨hsafe, hlive⟩ := scale_down_safe_and_live shrinkingHashes (by decide) rfl hlisted ht
  have hracks : (reconcileRacks .calm u.cluster u.pods shrinkingHashes u.objs (getRacks u.cluster)).1 = .ok false := by
    rw [huc, hup, huo]; decide
  refine ⟨t, ht, hlog, hsafe.1 _ rfl, (hlive "db-1" 1 (by decide) ?_).2 (by decide),
    (hlive "db-2" 0 (by decide) ?_).2 (by decide)⟩
  · refine .cons hu ⟨by decide, rfl, by decide, fun h => absurd (by decide) h⟩
      ⟨⟨?_, rfl, hracks, ?_⟩, fun _ _ => trivial⟩
    · rw [huc]; decide
    · intro h
      rw [huc] at h
      exact absurd (by decide) h
  · refine .cons hu ⟨by decide, rfl, by decide, ?_⟩ ⟨⟨?_, rfl, hracks, ?_⟩, fun _ _ => trivial⟩
    · intro _ obj hobj hname _
      have hobj : obj = ⟨⟨"db-2", some 1, ⟨"c", "s", "v"⟩, .parallel⟩, false⟩ := by
        rcases List.mem_cons.1 hobj with rfl | hobj
        · exact absurd hname (by decide)
        · exact List.mem_singleton.1 hobj
      subst hobj
      exact ⟨rfl, rfl, rfl, rfl, ⟨2, by decide, by decide⟩, ⟨true, by decide⟩⟩
    · rw [huc]; decide
    · intro _ obj hobj hname hpos
      rw [huo] at hobj
      rcases List.mem_cons.1 hobj with rfl | hobj
      · exact absurd hname (by decide)
      · rw [List.mem_singleton.1 hobj] at hpos
        exact absurd hpos (by decide)

end Acko
