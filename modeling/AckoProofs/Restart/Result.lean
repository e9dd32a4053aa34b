/-
What a rolling-restart pass reports to the reconcile loop: it has nothing to do exactly when it
selects no pod, every pod of a batch counts as restarted or as failed, and a batch that leaves the
cluster degraded goes on to restart its pods one by one.
-/
import AckoProofs.Restart.Pass

namespace Acko

/-! ## Conditions on the environment -/

/-- No restart goes through: every delete fails, and no signal is delivered and stamped. -/
structure RestartEnv.NoRestart (env : RestartEnv) : Prop where
  delete : ∀ pod, ∃ err, env.deleteReply pod = .failed err
  signal : env.restConfig = true → ∀ pod, env.signalOk pod = true → env.warmStampOk pod = false

/-- Every node acknowledges every command of a dynamic update in time. -/
structure DynEnv.Acknowledges (env : DynEnv) : Prop where
  apply : ∀ pod, env.applyExpired pod = false
  command : ∀ pod i, env.commandExpired pod i = false
  reply : ∀ pod i, (env.applyReply pod i).isOk = true

/-! ## The batch -/

section Batch

variable (env : RestartEnv) (cluster : Cluster) (sts : StatefulSet)

theorem restartPods_eq : ∀ (pods : List Pod),
    (restartPods env cluster sts pods).1 = (pods.filter fun pod => (restartPod env cluster sts pod).1).length ∧
    (restartPods env cluster sts pods).2.1 =
      (pods.filter fun pod => !(restartPod env cluster sts pod).1).map (·.name)
  | [] => ⟨rfl, rfl⟩
  | pod :: rest => by
    obtain ⟨hcount, hfailed⟩ := restartPods_eq rest
    simp only [restartPods, hcount, hfailed, List.filter_cons]
    cases (restartPod env cluster sts pod).1 <;> exact ⟨rfl, rfl⟩

theorem restartPods_count (pods : List Pod) :
    (restartPods env cluster sts pods).1 + (restartPods env cluster sts pods).2.1.length = pods.length := by
  obtain ⟨hcount, hfailed⟩ := restartPods_eq env cluster sts pods
  rw [hcount, hfailed, List.length_map]
  exact (List.length_eq_length_filter_add _).symm

theorem restartPods_restarted {ok : Bool} {pods : List Pod}
    (h : ∀ pod ∈ pods, (restartPod env cluster sts pod).1 = ok) :
    (restartPods env cluster sts pods).1 = if ok then pods.length else 0 := by
  rw [(restartPods_eq env cluster sts pods).1, List.filter_congr h]
  cases ok <;> simp

variable {env}

theorem restartPod_noRestart (h : env.NoRestart) (pod : Pod) : (restartPod env cluster sts pod).1 = false := by
  have hcold : (coldRestartPod env pod).1 = false := by
    obtain ⟨err, herr⟩ := h.delete pod.name
    rw [coldRestartPod, herr]
  unfold restartPod
  split
  · exact hcold
  · rename_i hw
    split
    · exact hcold
    · rename_i hs
      simp only [shouldWarmRestart, Bool.not_eq_true', Bool.not_eq_false, Bool.and_eq_true] at hw hs
      rw [h.signal hw.1.1.1 pod.name hs]
      rfl

theorem restartPod_succeeds (h : env.AllOk) (pod : Pod) : (restartPod env cluster sts pod).1 = true := by
  unfold restartPod coldRestartPod
  rw [h.signal, h.stamp, h.delete]
  cases shouldWarmRestart env cluster pod sts <;> rfl

theorem applyDynamicConfigOnPod_acknowledged {env : DynEnv} (h : env.Acknowledges) (pod : String) :
    ∀ {changes : List Change} (i : Nat), validateDynamicChanges changes = true →
      (applyDynamicConfigOnPod env pod i changes).2 = true
  | [], _, _ => rfl
  | change :: rest, i, hv => by
    unfold validateDynamicChanges at hv
    rw [List.all_cons, Bool.and_eq_true] at hv
    have ih := applyDynamicConfigOnPod_acknowledged h pod (i + 1) hv.2
    rw [applyDynamicConfigOnPod, h.command, h.reply]
    cases hb : buildSetConfigCommand change with
    | error err => rw [hb] at hv; cases hv.1
    | ok cmd => simpa using ih

theorem batchDynamicUpdate_acknowledged (h : env.dyn.Acknowledges) (batchPods : List Pod) (hash : String)
    (oldConfig newConfig : Option Config) :
    (batchDynamicUpdate env cluster batchPods hash oldConfig newConfig).rollback = none := by
  unfold batchDynamicUpdate
  split
  · split
    · rw [tryDynamicConfigUpdateBatch_eq]
      split
      · rename_i oldConfig newConfig _ hreach
        obtain ⟨_, _, _, _, hvalid⟩ := reachesApply_eq_true.1 hreach
        rw [applyPhase_ok]
        intro t ht
        obtain ⟨p, hp, rfl⟩ := List.mem_map.1 ht
        have hp := hvalid p hp
        simp only [validateDynamicConfigOnPod, Bool.and_eq_true] at hp
        rw [DynEnv.takes, h.apply, applyDynamicConfigOnPod_acknowledged h p.name 0 hp.1.2]
        rfl
      · rfl
    · rfl
  · rfl

end Batch

/-! ## The pass -/

section Pass

variable (env : RestartEnv) (checks : MigrationChecks) (cluster : Cluster) (rackID : Int) (sts : StatefulSet)
  (pods : List Pod)

/-- What a batch counts: none of its pods as failed where the update of the batch succeeded, and
otherwise what the single restarts come to. -/
theorem restartPodBatch_count (podsToRestart : List Pod) (batchSize : Int) (oldConfig newConfig : Option Config) :
    let batch := podsToRestart.take batchSize.toNat
    let b := restartPodBatch env cluster podsToRestart sts batchSize oldConfig newConfig
    b.restarted + b.failedPods.length = batch.length ∧
    if (batchDynamicUpdate env cluster batch sts.hashes.config oldConfig newConfig).allOk then b.failedPods = []
    else b.restarted = (restartPods env cluster sts batch).1 := by
  intro batch b
  have hcount := restartPods_count env cluster sts batch
  unfold b restartPodBatch
  split
  · rename_i hok
    rw [if_pos hok]
    exact ⟨rfl, rfl⟩
  · rename_i hok
    rw [if_neg hok]
    exact ⟨hcount, rfl⟩

theorem runBatch_result (sel : Selection) : ∃ restarted failed, restarted + failed = (sel.batch cluster sts).length ∧
    (if (sel.update env cluster sts).allOk then failed = 0
      else restarted = (restartPods env cluster sts (sel.batch cluster sts)).1) ∧
    ((restarted = 0 ∧ 0 < failed ∧ ∃ err, (runBatch env checks cluster sts sel).result = .error err) ∨
      ((0 < restarted ∨ failed = 0) ∧ (runBatch env checks cluster sts sel).result = .ok (0 < restarted))) := by
  obtain ⟨hsum, hall⟩ := restartPodBatch_count env cluster sts sel.pods
    (getRollingUpdateBatchSize cluster (statefulSetReplicas sts))
    (if sel.configChanged then cluster.status.aerospikeConfig else none)
    (if sel.configChanged then cluster.spec.aerospikeConfig else none)
  generalize hb : restartPodBatch env cluster sel.pods sts
    (getRollingUpdateBatchSize cluster (statefulSetReplicas sts))
    (if sel.configChanged then cluster.status.aerospikeConfig else none)
    (if sel.configChanged then cluster.spec.aerospikeConfig else none) = b at hsum hall
  refine ⟨b.restarted, b.failedPods.length, hsum, ?_, ?_⟩
  · change (if (sel.update env cluster sts).allOk then b.failedPods = [] else _) at hall
    cases hok : (sel.update env cluster sts).allOk with
    | true =>
      rw [hok, if_pos rfl] at hall
      rw [if_pos rfl, hall]
      rfl
    | false =>
      rw [hok] at hall
      exact hall
  · simp only [runBatch, hb]
    split
    · rename_i h
      exact Or.inl ⟨h.2, h.1, _, rfl⟩
    · exact Or.inr ⟨by omega, rfl⟩

theorem runBatch_ne_ok_false {sel : Selection} (h : sel.pods ≠ []) :
    (runBatch env checks cluster sts sel).result ≠ .ok false := by
  have hlen : 0 < (sel.batch cluster sts).length := List.length_pos_iff.2 (Selection.batch_ne_nil h)
  obtain ⟨restarted, failed, hsum, _, ⟨_, _, err, hr⟩ | ⟨hpos, hr⟩⟩ := runBatch_result env checks cluster sts sel
  · rw [hr]
    simp
  · have hpos : 0 < restarted := by omega
    rw [hr]
    simp [hpos]

theorem runBatch_noRestart (h : env.NoRestart) {sel : Selection} (hne : sel.pods ≠ [])
    (hok : (sel.update env cluster sts).allOk = false) :
    ∃ err, (runBatch env checks cluster sts sel).result = .error err := by
  have hlen : 0 < (sel.batch cluster sts).length := List.length_pos_iff.2 (Selection.batch_ne_nil hne)
  have hnone := restartPods_restarted env cluster sts fun pod (_ : pod ∈ sel.batch cluster sts) =>
    restartPod_noRestart cluster sts h pod
  obtain ⟨restarted, failed, hsum, hall, ⟨_, _, herr⟩ | ⟨hpos, _⟩⟩ := runBatch_result env checks cluster sts sel
  · exact herr
  · rw [hok] at hall
    simp only [Bool.false_eq_true, if_false] at hall hnone
    omega

theorem runBatch_succeeds (h : env.AllOk) (sel : Selection) :
    ∃ restarted, (runBatch env checks cluster sts sel).result = .ok restarted := by
  have heach := restartPods_restarted env cluster sts fun pod (_ : pod ∈ sel.batch cluster sts) =>
    restartPod_succeeds cluster sts h pod
  obtain ⟨restarted, failed, hsum, hall, ⟨_, hpos, _⟩ | ⟨_, hr⟩⟩ := runBatch_result env checks cluster sts sel
  · exfalso
    rw [if_pos rfl] at heach
    split at hall <;> omega
  · exact ⟨_, hr⟩

theorem reconcileRollingRestart_idle (hc : sts.hashes.config ≠ "") :
    (reconcileRollingRestart env checks cluster rackID (some sts) pods).result = .ok false ↔
      env.getError = none ∧ env.listError = none ∧ (passSelection env cluster sts pods).pods = [] := by
  unfold reconcileRollingRestart
  cases env.getError with
  | some err => simp
  | none =>
    simp only [if_neg hc]
    cases env.listError with
    | some err => simp
    | none =>
      change (if (passSelection env cluster sts pods).pods.isEmpty then _ else
        if (passGate env checks cluster rackID sts pods).1 then _ else _ : PassOutcome).result = _ ↔ _
      split
      · rename_i hsel
        simpa using hsel
      · rename_i hsel
        have hne : (passSelection env cluster sts pods).pods ≠ [] := by simpa using hsel
        refine iff_of_false ?_ fun h => hne h.2.2
        split
        · simp
        · exact runBatch_ne_ok_false env _ cluster sts hne

theorem reconcileRollingRestart_succeeds (h : env.AllOk) (sts : Option StatefulSet) :
    ∃ restarted, (reconcileRollingRestart env checks cluster rackID sts pods).result = .ok restarted := by
  unfold reconcileRollingRestart
  rw [h.get, h.list]
  cases sts with
  | none => exact ⟨_, rfl⟩
  | some sts =>
    simp only
    split
    · exact ⟨_, rfl⟩
    · split
      · exact ⟨_, rfl⟩
      · split
        · exact ⟨_, rfl⟩
        · exact runBatch_succeeds env _ cluster _ h _

theorem reconcileRollingRestart_degraded {failedPods : List String}
    (h : .setConfigDegraded failedPods ∈ (reconcileRollingRestart env checks cluster rackID (some sts) pods).effects) :
    (passSelection env cluster sts pods).pods ≠ [] ∧
    ((passSelection env cluster sts pods).update env cluster sts).allOk = false ∧
    ((passSelection env cluster sts pods).update env cluster sts).rollback ≠ none ∧
    reconcileRollingRestart env checks cluster rackID (some sts) pods =
      runBatch env (passGate env checks cluster rackID sts pods).2 cluster sts
        (passSelection env cluster sts pods) := by
  have hsel : .setConfigDegraded failedPods ∉ (passSelection env cluster sts pods).effects := by
    intro he
    obtain ⟨p, _, _, hp⟩ := selectPodsToRestart_effects _ _ _ he
    cases hp
  have hupdate : .setConfigDegraded failedPods ∉
      ((passSelection env cluster sts pods).update env cluster sts).effects :=
    fun he => batchDynamicUpdate_ofUpdate env cluster _ _ _ _ _ he
  have hsingle : ∀ batch, .setConfigDegraded failedPods ∉ (restartPods env cluster sts batch).2.2 := by
    intro batch he
    rw [restartPods_effects] at he
    obtain ⟨pod, _, he⟩ := List.mem_flatMap.1 he
    rcases restartPod_effects env cluster sts pod with h | h | h | h <;> rw [h] at he <;> simp at he
  rcases reconcileRollingRestart_cases env checks cluster rackID sts pods with ⟨_, he⟩ | ⟨_, _, he⟩ | ⟨_, hne, _, he⟩
  · rw [he] at h
    cases h
  · rw [he] at h
    exact absurd h hsel
  · rw [he, runBatch_effects] at h
    have h := (List.mem_append.1 h).resolve_left hsel
    split at h
    · exact absurd h hupdate
    · rename_i hok
      refine ⟨hne, by simpa using hok, ?_, he⟩
      intro hnone
      have h := ((List.mem_append.1 h).resolve_right (hsingle _))
      have h := (List.mem_append.1 h).resolve_left hupdate
      rw [hnone] at h
      cases h

end Pass

/-! ## Pending pods -/

/-- A pod of the batch counts as restarted: by the update of the whole batch, or on its own. -/
def restartedInBatch (env : RestartEnv) (cluster : Cluster) (sts : StatefulSet) (batch : List Pod)
    (oldConfig newConfig : Option Config) (pod : Pod) : Bool :=
  (batchDynamicUpdate env cluster batch sts.hashes.config oldConfig newConfig).allOk ||
    (restartPod env cluster sts pod).1

/-- The pods a pass leaves pending. -/
def BatchOutcome.remaining (b : BatchOutcome) (pendingNames : List String) : List String :=
  if 0 < b.failedPods.length ∨ 0 < b.restarted then
    filterUnrestarted pendingNames b.failedPods b.restarted b.batchPods
  else pendingNames

/-- The event a pass records when it leaves no pod pending. -/
def BatchOutcome.completionEvent (b : BatchOutcome) (rackID : Int) (podsToRestart : List Pod) : Option String :=
  if (b.remaining (podsToRestart.map (·.name))).length = 0 ∧ 0 < b.restarted then
    some ("Rolling restart completed for rack " ++ toString rackID ++ ": all " ++ toString podsToRestart.length ++
      " pods restarted")
  else none

section Pending

variable (env : RestartEnv) (cluster : Cluster) (sts : StatefulSet) (podsToRestart : List Pod) (batchSize : Int)
  (oldConfig newConfig : Option Config)

theorem restartPodBatch_eq :
    let batch := podsToRestart.take batchSize.toNat
    let ok := restartedInBatch env cluster sts batch oldConfig newConfig
    let b := restartPodBatch env cluster podsToRestart sts batchSize oldConfig newConfig
    b.restarted = (batch.filter ok).length ∧ b.failedPods = (batch.filter fun pod => !ok pod).map (·.name) := by
  intro batch ok b
  by_cases hok : (batchDynamicUpdate env cluster batch sts.hashes.config oldConfig newConfig).allOk = true
  · have hall : ok = fun _ => true := by
      funext pod
      show (_ || _) = true
      rw [hok, Bool.true_or]
    rw [show b = ⟨batch.length, [], batch, _⟩ from if_pos hok, hall]
    simp
  · have hown : ok = fun pod => (restartPod env cluster sts pod).1 := by
      funext pod
      show (_ || _) = _
      rw [Bool.eq_false_iff.2 hok, Bool.false_or]
    rw [show b = _ from if_neg hok, hown]
    exact restartPods_eq env cluster sts batch

/-- The search stops once it has found as many pods as were counted, which is when it has found all of them. -/
theorem mem_restartedSet {failedPods : List String} {restarted : Nat} {name : String} :
    ∀ {pods : List Pod} {names : List String}, (pods.map (·.name)).Nodup → (∀ pod ∈ pods, pod.name ∉ names) →
    restarted = names.length + (pods.filter fun pod => pod.name ∉ failedPods).length →
    (name ∈ restartedSet failedPods restarted names pods ↔
      name ∈ names ∨ ∃ pod ∈ pods, pod.name ∉ failedPods ∧ pod.name = name)
  | [], names, _, _, _ => by simp [restartedSet]
  | pod :: rest, names, hnodup, hfresh, hcount => by
    rw [List.map_cons, List.nodup_cons] at hnodup
    have hrest : ∀ p ∈ rest, p.name ∉ names := fun p hp => hfresh p (List.mem_cons_of_mem _ hp)
    have hgo : ∀ {found : List String}, (∀ p ∈ rest, p.name ∉ found) →
        restarted = found.length + (rest.filter fun pod => pod.name ∉ failedPods).length →
        (name ∈ (if restarted ≤ found.length then found else restartedSet failedPods restarted found rest) ↔
          name ∈ found ∨ ∃ pod ∈ rest, pod.name ∉ failedPods ∧ pod.name = name) := by
      intro found hfound hleft
      split
      · have hnone : (rest.filter fun pod => pod.name ∉ failedPods) = [] := List.eq_nil_of_length_eq_zero (by omega)
        refine ⟨Or.inl, fun h => h.resolve_right ?_⟩
        rintro ⟨p, hp, hok, -⟩
        exact (List.filter_eq_nil_iff.1 hnone p hp) (decide_eq_true hok)
      · exact mem_restartedSet hnodup.2 hfound hleft
    unfold restartedSet
    by_cases hfailed : pod.name ∈ failedPods
    · rw [List.filter_cons_of_neg (by simpa using hfailed)] at hcount
      simp only [if_pos hfailed]
      rw [hgo hrest hcount]
      simp [hfailed]
    · rw [List.filter_cons_of_pos (by simpa using hfailed), List.length_cons] at hcount
      simp only [if_neg hfailed, List.insert_of_not_mem (hfresh pod List.mem_cons_self)]
      rw [hgo ?_ (by rw [List.length_cons]; omega)]
      · simp only [List.mem_cons, exists_eq_or_imp, hfailed, not_false_eq_true, true_and]
        rw [or_assoc, or_left_comm, @eq_comm _ pod.name name]
      · intro p hp hmem
        rcases List.mem_cons.1 hmem with hsame | hmem
        · exact hnodup.1 (hsame ▸ List.mem_map_of_mem hp)
        · exact hrest p hp hmem

variable {podsToRestart}

theorem filterUnrestarted_append {batch later : List Pod} (hnames : ((batch ++ later).map (·.name)).Nodup)
    (ok : Pod → Bool) :
    filterUnrestarted ((batch ++ later).map (·.name)) ((batch.filter fun pod => !ok pod).map (·.name))
      (batch.filter ok).length batch = (batch.filter (fun pod => !ok pod) ++ later).map (·.name) := by
  rw [List.map_append, List.nodup_append] at hnames
  obtain ⟨hbatch, -, hapart⟩ := hnames
  have hname : ∀ (p : Pod → Bool), ∀ pod ∈ batch, (pod.name ∈ (batch.filter p).map (·.name) ↔ p pod = true) := by
    intro p pod hpod
    refine ⟨fun hmem => ?_, fun hp => List.mem_map_of_mem (List.mem_filter.2 ⟨hpod, hp⟩)⟩
    obtain ⟨other, hother, hsame⟩ := List.mem_map.1 hmem
    obtain ⟨hother, hp⟩ := List.mem_filter.1 hother
    rwa [List.inj_on_of_nodup_map hbatch hother hpod hsame] at hp
  have hok : ∀ pod ∈ batch, decide (pod.name ∉ (batch.filter fun pod => !ok pod).map (·.name)) = ok pod := by
    intro pod hpod
    simp only [hname _ pod hpod, Bool.not_eq_true', Bool.not_eq_false, Bool.decide_eq_true]
  have hset : ∀ name, name ∈ restartedSet ((batch.filter fun pod => !ok pod).map (·.name)) (batch.filter ok).length []
      batch ↔ name ∈ (batch.filter ok).map (·.name) := by
    intro name
    rw [mem_restartedSet hbatch (fun _ _ => List.not_mem_nil) (by rw [List.filter_congr hok]; simp),
      ← List.filter_congr hok]
    simp [and_assoc]
  unfold filterUnrestarted
  simp only [hset]
  rw [List.filter_map, List.filter_append, List.map_append, List.map_append]
  congr 2
  · refine List.filter_congr fun pod hpod => ?_
    simp only [Function.comp, hname _ pod hpod, Bool.not_eq_true, Bool.decide_eq_false]
  · refine List.filter_eq_self.2 fun pod hpod => decide_eq_true fun hmem => ?_
    exact hapart _ (List.filter_sublist.map _ |>.subset hmem) _ (List.mem_map_of_mem hpod) rfl

/-- What a pass leaves pending is what it selected, in order, less the pods of the batch that were restarted; so it
reports the end only when all of them were. -/
theorem pending_restart_accounting (hnames : (podsToRestart.map (·.name)).Nodup) (rackID : Int) :
    let batch := podsToRestart.take batchSize.toNat
    let ok := restartedInBatch env cluster sts batch oldConfig newConfig
    let b := restartPodBatch env cluster podsToRestart sts batchSize oldConfig newConfig
    filterUnrestarted (podsToRestart.map (·.name)) b.failedPods b.restarted b.batchPods =
      (batch.filter (fun pod => !ok pod) ++ podsToRestart.drop batchSize.toNat).map (·.name) ∧
    ∀ event, b.completionEvent rackID podsToRestart = some event →
      ∀ pod ∈ podsToRestart, pod ∈ batch ∧ ok pod = true := by
  intro batch ok b
  obtain ⟨hcount, hnotok⟩ : b.restarted = (batch.filter ok).length ∧
      b.failedPods = (batch.filter fun pod => !ok pod).map (·.name) := restartPodBatch_eq ..
  have hbatch : b.batchPods = batch := restartPodBatch_batchPods ..
  have hremaining : filterUnrestarted (podsToRestart.map (·.name)) b.failedPods b.restarted b.batchPods =
      (batch.filter (fun pod => !ok pod) ++ podsToRestart.drop batchSize.toNat).map (·.name) := by
    have hsplit := List.take_append_drop batchSize.toNat podsToRestart
    have happend := filterUnrestarted_append (hsplit.symm ▸ hnames) ok
    rw [hsplit, ← hcount, ← hnotok] at happend
    rwa [hbatch]
  refine ⟨hremaining, fun event hevent pod hpod => ?_⟩
  unfold BatchOutcome.completionEvent at hevent
  split at hevent
  · rename_i hdone
    rw [BatchOutcome.remaining, if_pos (Or.inr hdone.2), hremaining] at hdone
    obtain ⟨hfailed, hdrop⟩ :=
      List.append_eq_nil_iff.1 (List.map_eq_nil_iff.1 (List.eq_nil_of_length_eq_zero hdone.1))
    have hmem : pod ∈ batch := by
      rw [← List.take_append_drop batchSize.toNat podsToRestart, hdrop, List.append_nil] at hpod
      exact hpod
    exact ⟨hmem, by simpa using List.filter_eq_nil_iff.1 hfailed pod hmem⟩
  · cases hevent

theorem pending_restart_accounting_pair :
    let pods := ["db-0-0", "db-0-1"].map fun name => Pod.serving name "ce:8" "10.0.0.1" ⟨"old", "", ""⟩
    let b := restartPodBatch (.calm false []) (.bare "db" "ce:8") pods ⟨"db-0", some 2, ⟨"new", "", ""⟩, .parallel⟩ 1
      none none
    filterUnrestarted (pods.map (·.name)) b.failedPods b.restarted b.batchPods = ["db-0-1"] :=
  (pending_restart_accounting (.calm false []) (.bare "db" "ce:8") ⟨"db-0", some 2, ⟨"new", "", ""⟩, .parallel⟩ 1 none
    none (by decide) 0).1

end Pending

end Acko
