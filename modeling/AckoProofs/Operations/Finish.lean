/-
When an operation comes to its end. From a state in which it is in progress, and with all pods of the
StatefulSets Ready at every pass, it ends unless a pod that it has restarted has left the cluster while
another is still outstanding: the restarted pod is then waited for for ever.
-/
import AckoProofs.Operations.Book
import Mathlib.Data.Finset.Card

namespace Acko

/-! ## Healthy passes -/

/-- The names of the pods that the StatefulSets keep. -/
def ordinalNames (sets : List StatefulSet) : List String :=
  sets.flatMap fun sts => (List.range (statefulSetReplicas sts).toNat).map (podName sts.name)

/-- The pod of every ordinal is there and Ready, no migration is reported, and all calls succeed. A pod
is Ready only once its readiness gates are satisfied. -/
structure OperationPass.Healthy (sets : List StatefulSet) (a : OperationPass) : Prop where
  nodup : (a.pods.map (·.name)).Nodup
  exist : ∀ n ∈ ordinalNames sets, n ∈ a.pods.map (·.name)
  ready : ∀ p ∈ a.pods, p.name ∈ ordinalNames sets → p.deletionTimestamp = none ∧ isPodReady p = true
  gates : ∀ p ∈ a.pods, isPodReady p = true → isPodReadinessGateSatisfied a.cluster p = true
  migration : a.env.restart.migration = .ok false
  calls : a.env.restart.AllOk
  exec : a.env.restart.restConfig = true
  persist : a.env.persist = .done

/-- No pod is there but those of the StatefulSets. -/
def OperationPass.NoStrays (sets : List StatefulSet) (a : OperationPass) : Prop :=
  ∀ p ∈ a.pods, p.name ∈ ordinalNames sets

section Finish

variable (op : OperationSpec) (sets : List StatefulSet)

/-- The name of a pod that the operation is about. -/
def IsTarget (n : String) : Prop := n ∈ ordinalNames sets ∧ (op.podList ≠ [] → n ∈ op.podList)

instance (n : String) : Decidable (IsTarget op sets n) :=
  inferInstanceAs (Decidable (n ∈ ordinalNames sets ∧ (op.podList ≠ [] → n ∈ op.podList)))

/-- The targets that are outstanding. -/
def OperationState.remaining (s : OperationState) : Finset String :=
  (ordinalNames sets).toFinset.filter fun n => IsTarget op sets n ∧ n ∉ s.completed op ∧ n ∉ s.failed op

def OperationState.afterPasses (s : OperationState) (passes : Nat → OperationPass) : Nat → OperationState
  | 0 => s
  | k + 1 => (s.afterPasses passes k).after op (passes k)

def OperationState.Ended (s : OperationState) : Prop := s.InPhase op .completed ∨ s.InPhase op .error

variable {op sets}

section Pass

variable {s : OperationState} {a : OperationPass}

theorem settled_of_inProgress (hs : s.InPhase op .inProgress) : operationSettled op s.status = false := by
  obtain ⟨st, hst, _, hphase⟩ := hs
  rw [hst]
  simp [operationSettled, hphase]

theorem pass_of_inProgress (hs : s.InPhase op .inProgress) (ha : a.Healthy sets)
    (hmatch : op.podList = [] ∨ a.targets op ≠ []) :
    s.pass op a =
      if (operationGate a.env s.checks a.cluster op s.status (a.targets op)).1 then
        .idle true none s.status (operationGate a.env s.checks a.cluster op s.status (a.targets op)).2
      else runOperation a.env a.cluster op s.status (a.targets op)
        (operationGate a.env s.checks a.cluster op s.status (a.targets op)).2 := by
  have hnot : (!op.podList.isEmpty && (filterPodsByNames a.pods op.podList).isEmpty) = false := by
    rcases hmatch with h | h
    · simp [h]
    · have h : filterPodsByNames a.pods op.podList ≠ [] := h
      simp [h]
  unfold OperationState.pass reconcileOperations
  simp only [settled_of_inProgress hs, ha.calls.list, hnot]
  rfl

section Gate

variable (ha : a.Healthy sets) (hstray : a.NoStrays sets)

include ha hstray

theorem mem_targets_iff {n : String} : n ∈ (a.targets op).map (·.name) ↔ IsTarget op sets n := by
  unfold OperationPass.targets
  rw [mem_names_filterPodsByNames]
  constructor
  · rintro ⟨hmem, hnames⟩
    obtain ⟨p, hp, rfl⟩ := List.mem_map.1 hmem
    exact ⟨hstray p hp, hnames⟩
  · rintro ⟨hmem, hnames⟩
    exact ⟨ha.exist n hmem, hnames⟩

theorem isBatchBlocked_healthy (checks : MigrationChecks) :
    (isBatchBlocked checks a.cluster onDemandOperationRackID (a.targets op) .zero a.env.restart.migration
      a.env.restart.now).1 = false := by
  have hmem : ∀ p ∈ a.targets op, p ∈ a.pods := fun p hp => (mem_filterPodsByNames hp).1
  have hready : ∀ p ∈ a.targets op, p.deletionTimestamp = none ∧ isPodReady p = true := fun p hp =>
    ha.ready p (hmem p hp) (hstray p (hmem p hp))
  have hflight : ∀ pods : List Pod, (∀ p ∈ pods, p.deletionTimestamp = none) →
      podInFlight RackRestartTarget.zero.hashes pods = none := by
    intro pods
    induction pods with
    | nil => intro _; rfl
    | cons p rest ih =>
      intro h
      unfold podInFlight
      rw [h p List.mem_cons_self, ih fun q hq => h q (List.mem_cons_of_mem _ hq)]
      rfl
  -- the zero target asks for no pods, so a missing one is not counted
  have hreason : restartInFlightReason (a.targets op) .zero = none := by
    unfold restartInFlightReason
    rw [hflight _ fun p hp => (hready p hp).1]
    rfl
  unfold isBatchBlocked
  rw [hreason, ha.migration]
  simp only [Option.isSome_none, Bool.false_eq_true, if_false]
  split
  · have hfind : (a.targets op).find? (gateUnsatisfied a.cluster) = none := by
      rw [List.find?_eq_none]
      intro p hp
      simp [gateUnsatisfied, ha.gates p (hmem p hp) (hready p hp).2]
    simp [anyPodGateUnsatisfied, hfind]
  · rfl

theorem gate_open (hpresent : ∀ n ∈ s.completed op, IsTarget op sets n) :
    (operationGate a.env s.checks a.cluster op s.status (a.targets op)).1 = false := by
  have hreason : operationRestartInFlightReason (a.targets op) (priorProgress op s.status).completed = none := by
    rw [operationRestartInFlightReason_eq_none]
    intro n hn
    rw [podRestartInFlight_eq_none]
    obtain ⟨pod, hpod⟩ := podNamed_isSome ((mem_targets_iff ha hstray).2 (hpresent n hn))
    have hmem := (mem_filterPodsByNames (podNamed_eq_some hpod).1).1
    obtain ⟨halive, hready⟩ := ha.ready pod hmem (hstray pod hmem)
    exact ⟨pod, hpod, halive, hready⟩
  unfold operationGate operationBatchBlocked
  split
  · rfl
  · rw [hreason]
    exact isBatchBlocked_healthy ha hstray s.checks

theorem any_outstanding_iff {completed failed : List String} :
    (a.targets op).any (outstanding completed failed) = true ↔
      ∃ n, IsTarget op sets n ∧ n ∉ completed ∧ n ∉ failed := by
  rw [List.any_eq_true]
  constructor
  · rintro ⟨p, hp, hout⟩
    rw [outstanding_eq_true, List.mem_append, not_or] at hout
    exact ⟨p.name, (mem_targets_iff ha hstray).1 (List.mem_map_of_mem hp), hout⟩
  · rintro ⟨n, htarget, hout⟩
    obtain ⟨p, hp, rfl⟩ := List.mem_map.1 ((mem_targets_iff ha hstray).2 htarget)
    refine ⟨p, hp, ?_⟩
    rw [outstanding_eq_true, List.mem_append, not_or]
    exact hout

/-- A restarted pod that is no target is waited for, while another one is outstanding. -/
theorem gate_closed {gone next : String} (hgone : gone ∈ s.completed op) (hno : ¬ IsTarget op sets gone)
    (hnext : IsTarget op sets next) (hout : next ∉ s.completed op ∧ next ∉ s.failed op) :
    (operationGate a.env s.checks a.cluster op s.status (a.targets op)).1 = true := by
  have hany : (a.targets op).any (outstanding (priorProgress op s.status).completed
      (priorProgress op s.status).failed) = true := (any_outstanding_iff ha hstray).2 ⟨next, hnext, hout⟩
  have hreason : operationRestartInFlightReason (a.targets op) (priorProgress op s.status).completed ≠ none := by
    intro hnone
    rw [operationRestartInFlightReason_eq_none] at hnone
    obtain ⟨pod, hpod, _⟩ := podRestartInFlight_eq_none.1 (hnone gone hgone)
    obtain ⟨hmem, rfl⟩ := podNamed_eq_some hpod
    exact hno ((mem_targets_iff ha hstray).1 (List.mem_map_of_mem hmem))
  unfold operationGate operationBatchBlocked
  rw [hany]
  simp [Option.isSome_iff_ne_none, hreason]

theorem gate_resolved (h : ∀ n, IsTarget op sets n → n ∈ s.completed op ∨ n ∈ s.failed op) :
    (operationGate a.env s.checks a.cluster op s.status (a.targets op)).1 = false := by
  have hany : (a.targets op).any (outstanding (priorProgress op s.status).completed
      (priorProgress op s.status).failed) = false := by
    rw [← Bool.not_eq_true, any_outstanding_iff ha hstray]
    rintro ⟨n, htarget, hcn, hfn⟩
    rcases h n htarget with hres | hres
    · exact hcn hres
    · exact hfn hres
  unfold operationGate operationBatchBlocked
  rw [hany]
  rfl

end Gate

theorem mem_remaining {n : String} :
    n ∈ s.remaining op sets ↔ IsTarget op sets n ∧ n ∉ s.completed op ∧ n ∉ s.failed op := by
  unfold OperationState.remaining
  rw [Finset.mem_filter, List.mem_toFinset]
  exact ⟨fun h => h.2, fun h => ⟨h.1.1, h⟩⟩

theorem after_status (hs : s.InPhase op .inProgress) (ha : a.Healthy sets)
    (hmatch : op.podList = [] ∨ a.targets op ≠ [])
    (hgate : (operationGate a.env s.checks a.cluster op s.status (a.targets op)).1 = false) :
    (s.after op a).status = some (passStatus a.env a.cluster op s.status (a.targets op)).1 := by
  have hpass := pass_of_inProgress hs ha hmatch
  rw [hgate] at hpass
  unfold OperationState.after
  rw [hpass]
  exact (runOperation_status ..).trans (if_pos ha.persist)

theorem ended_of_resolved
    (hstatus : (s.after op a).status = some (passStatus a.env a.cluster op s.status (a.targets op)).1)
    (hdone : (a.targets op).any (outstanding (passProgress a.env a.cluster op s.status (a.targets op)).completed
      (passProgress a.env a.cluster op s.status (a.targets op)).failed) = false) : (s.after op a).Ended op := by
  unfold passStatus finalizeOperationPhase at hstatus
  rw [hdone] at hstatus
  simp only [Bool.false_eq_true, if_false] at hstatus
  by_cases hfailed : (passProgress a.env a.cluster op s.status (a.targets op)).failed.isEmpty = true
  · rw [if_pos hfailed] at hstatus
    exact Or.inl ⟨_, hstatus, rfl, rfl⟩
  · rw [if_neg hfailed] at hstatus
    exact Or.inr ⟨_, hstatus, rfl, rfl⟩

theorem mem_remaining_after
    (hstatus : (s.after op a).status = some (passStatus a.env a.cluster op s.status (a.targets op)).1) {n : String} :
    n ∈ (s.after op a).remaining op sets ↔
      n ∈ s.remaining op sets ∧ n ∉ (passBatch a.cluster op s.status (a.targets op)).map (·.name) := by
  have hresolved : (n ∈ (s.after op a).completed op ∨ n ∈ (s.after op a).failed op) ↔
      n ∈ s.completed op ∨ n ∈ s.failed op ∨ n ∈ (passBatch a.cluster op s.status (a.targets op)).map (·.name) := by
    rw [completed_after hstatus, failed_after hstatus]
    exact Progress.mem_after
  rw [mem_remaining, mem_remaining, ← not_or, ← not_or, hresolved, ← or_assoc, not_or, and_assoc]

/-- A pass that leaves a target outstanding has a batch: a full one, or one with the rest of the targets. -/
theorem exists_mem_passBatch
    (hdone : (a.targets op).any (outstanding (passProgress a.env a.cluster op s.status (a.targets op)).completed
      (passProgress a.env a.cluster op s.status (a.targets op)).failed) = true) :
    ∃ p, p ∈ passBatch a.cluster op s.status (a.targets op) := by
  rcases (passBatch_spec a.cluster op s.status (a.targets op)).rest with hlen | hall
  · have hsize := one_le_getRollingUpdateBatchSize a.cluster (a.targets op).length
    exact List.exists_mem_of_length_pos (by omega)
  · obtain ⟨p, hp, hout⟩ := List.any_eq_true.1 hdone
    rw [outstanding_eq_true, List.mem_append] at hout
    refine absurd (Progress.mem_after.2 ?_) hout
    rcases hall p hp with h | h
    · rcases List.mem_append.1 h with h | h
      · exact Or.inl h
      · exact Or.inr (Or.inl h)
    · exact Or.inr (Or.inr h)

/-- A healthy pass whose gate is open ends the operation, or leaves it in progress with fewer targets
outstanding; it restarts targets only. -/
theorem advance (hs : s.InPhase op .inProgress) (ha : a.Healthy sets) (hstray : a.NoStrays sets)
    (hmatch : op.podList = [] ∨ a.targets op ≠ [])
    (hgate : (operationGate a.env s.checks a.cluster op s.status (a.targets op)).1 = false) :
    (s.after op a).Ended op ∨
      ((s.after op a).InPhase op .inProgress ∧ ((s.after op a).remaining op sets).card < (s.remaining op sets).card ∧
        ∀ n ∈ (s.after op a).completed op, n ∈ s.completed op ∨ IsTarget op sets n) := by
  have hstatus := after_status hs ha hmatch hgate
  cases hdone : (a.targets op).any (outstanding (passProgress a.env a.cluster op s.status (a.targets op)).completed
      (passProgress a.env a.cluster op s.status (a.targets op)).failed) with
  | false => exact Or.inl (ended_of_resolved hstatus hdone)
  | true =>
    have hb := passBatch_spec a.cluster op s.status (a.targets op)
    have hbatch : ∀ p ∈ passBatch a.cluster op s.status (a.targets op), IsTarget op sets p.name := fun p hp =>
      (mem_targets_iff ha hstray).1 (List.mem_map_of_mem (hb.sublist.subset hp))
    refine Or.inr ⟨⟨_, hstatus, ?_, ?_⟩, ?_, ?_⟩
    · simp [passStatus, finalizeOperationPhase, hdone]
    · simp [passStatus, finalizeOperationPhase, hdone]
    · -- a pod of the batch is outstanding no more
      obtain ⟨first, hfirst⟩ := exists_mem_passBatch hdone
      have hfresh := hb.fresh first hfirst
      rw [List.mem_append, not_or] at hfresh
      refine Finset.card_lt_card ((Finset.ssubset_iff_of_subset ?_).2 ⟨first.name, ?_, ?_⟩)
      · exact fun n hn => ((mem_remaining_after hstatus).1 hn).1
      · exact mem_remaining.2 ⟨hbatch first hfirst, hfresh⟩
      · exact fun h => ((mem_remaining_after hstatus).1 h).2 (List.mem_map_of_mem hfirst)
    · intro n hn
      rw [completed_after hstatus] at hn
      rcases List.mem_append.1 hn with hn | hn
      · exact Or.inl hn
      · obtain ⟨p, hp, rfl⟩ := List.mem_map.1 hn
        exact Or.inr (hbatch p (List.mem_filter.1 hp).1)

theorem ended_of_unmatched (hs : s.InPhase op .inProgress) (ha : a.Healthy sets) (hnames : op.podList ≠ [])
    (hnone : a.targets op = []) : (s.after op a).Ended op := by
  have hnone : filterPodsByNames a.pods op.podList = [] := hnone
  refine Or.inr ⟨⟨op.id, op.kind, .error, [], []⟩, ?_, rfl, rfl⟩
  unfold OperationState.after OperationState.pass reconcileOperations
  simp only [settled_of_inProgress hs, ha.calls.list, hnone]
  simp [hnames, unmatchedOutcome, ha.persist, OperationOutcome.idle]

end Pass

/-! ## Sequences of passes -/

variable {s : OperationState} {passes : Nat → OperationPass}

theorem afterPasses_succ (s : OperationState) (passes : Nat → OperationPass) : ∀ k,
    s.afterPasses op passes (k + 1) = (s.after op (passes 0)).afterPasses op (fun i => passes (i + 1)) k
  | 0 => rfl
  | k + 1 => by
    show (s.afterPasses op passes (k + 1)).after op (passes (k + 1)) = _
    rw [afterPasses_succ s passes k]
    rfl

/-- While every restarted pod is a target, the number of outstanding targets goes down to the end. -/
theorem ends_of_present : ∀ (m : Nat) {s : OperationState} {passes : Nat → OperationPass}, s.InPhase op .inProgress →
    (s.remaining op sets).card < m → (∀ n ∈ s.completed op, IsTarget op sets n) → (∀ k, (passes k).Healthy sets) →
    (∀ k, (passes k).NoStrays sets) → ∃ k, (s.afterPasses op passes k).Ended op := by
  intro m
  induction m with
  | zero =>
    intro s passes _ hcard
    exact absurd hcard (Nat.not_lt_zero _)
  | succ m ih =>
    intro s passes hs hcard hpresent ha hstray
    by_cases hmatch : op.podList = [] ∨ (passes 0).targets op ≠ []
    · rcases advance hs (ha 0) (hstray 0) hmatch (gate_open (ha 0) (hstray 0) hpresent) with h | ⟨hphase, hlt, hnew⟩
      · exact ⟨1, h⟩
      · -- what the pass has restarted are targets too
        have hstill : ∀ n ∈ (s.after op (passes 0)).completed op, IsTarget op sets n := by
          intro n hn
          rcases hnew n hn with h | h
          · exact hpresent n h
          · exact h
        obtain ⟨k, hk⟩ := ih hphase (by omega) hstill (fun k => ha (k + 1)) fun k => hstray (k + 1)
        refine ⟨k + 1, ?_⟩
        rw [afterPasses_succ]
        exact hk
    · rw [not_or, not_not] at hmatch
      exact ⟨1, ended_of_unmatched hs (ha 0) hmatch.1 hmatch.2⟩

/-- While a target is outstanding and a restarted pod is none, nothing changes. -/
theorem stuck_of_gone (hs : s.InPhase op .inProgress) (ha : ∀ k, (passes k).Healthy sets)
    (hstray : ∀ k, (passes k).NoStrays sets) {gone next : String} (hgone : gone ∈ s.completed op)
    (hno : ¬ IsTarget op sets gone) (hnext : IsTarget op sets next)
    (hout : next ∉ s.completed op ∧ next ∉ s.failed op) : ∀ k, (s.afterPasses op passes k).status = s.status
  | 0 => rfl
  | k + 1 => by
    have ih := stuck_of_gone hs ha hstray hgone hno hnext hout k
    have hc : (s.afterPasses op passes k).completed op = s.completed op := by
      unfold OperationState.completed
      rw [ih]
    have hf : (s.afterPasses op passes k).failed op = s.failed op := by
      unfold OperationState.failed
      rw [ih]
    have hphase : (s.afterPasses op passes k).InPhase op .inProgress := by
      unfold OperationState.InPhase
      rw [ih]
      exact hs
    have htargets : (passes k).targets op ≠ [] := by
      have hmem := (mem_targets_iff (ha k) (hstray k)).2 hnext
      intro hnil
      rw [hnil] at hmem
      cases hmem
    -- the gate waits for a pod that no StatefulSet brings back
    have hgate := gate_closed (ha k) (hstray k) (hc ▸ hgone) hno hnext ⟨hc ▸ hout.1, hf ▸ hout.2⟩
    show ((s.afterPasses op passes k).pass op (passes k)).status = s.status
    rw [pass_of_inProgress hphase (ha k) (Or.inr htargets), hgate]
    exact ih

theorem not_ended_of_inProgress (h : s.InPhase op .inProgress) : ¬ s.Ended op := by
  obtain ⟨st, hst, _, hphase⟩ := h
  rintro (⟨st', hst', _, hphase'⟩ | ⟨st', hst', _, hphase'⟩)
  all_goals
    rw [hst] at hst'
    cases hst'
    rw [hphase] at hphase'
    cases hphase'

/-- An operation in progress comes to its end, with all pods of the StatefulSets Ready at every pass,
just if no target is outstanding or every pod that it has restarted is still one of its targets. -/
theorem operation_ends_iff (hs : s.InPhase op .inProgress) (ha : ∀ k, (passes k).Healthy sets)
    (hstray : ∀ k, (passes k).NoStrays sets) :
    (∃ k, (s.afterPasses op passes k).Ended op) ↔
      (∀ n, IsTarget op sets n → n ∈ s.completed op ∨ n ∈ s.failed op) ∨
        ∀ n ∈ s.completed op, IsTarget op sets n := by
  constructor
  · rintro ⟨k, hk⟩
    by_contra hno
    rw [not_or] at hno
    obtain ⟨hopen, hpresent⟩ := hno
    push Not at hopen hpresent
    obtain ⟨next, hnext, hout⟩ := hopen
    obtain ⟨gone, hgone, hgoneNo⟩ := hpresent
    have hstatus := stuck_of_gone hs ha hstray hgone hgoneNo hnext hout k
    refine not_ended_of_inProgress ?_ hk
    unfold OperationState.InPhase
    rw [hstatus]
    exact hs
  · rintro (hresolved | hpresent)
    · refine ⟨1, ?_⟩
      by_cases hmatch : op.podList = [] ∨ (passes 0).targets op ≠ []
      · rcases advance hs (ha 0) (hstray 0) hmatch (gate_resolved (ha 0) (hstray 0) hresolved) with h | ⟨_, hlt, _⟩
        · exact h
        · have hempty : s.remaining op sets = ∅ := by
            rw [Finset.eq_empty_iff_forall_notMem]
            intro n hn
            obtain ⟨ht, hc, hf⟩ := mem_remaining.1 hn
            rcases hresolved n ht with h | h
            · exact hc h
            · exact hf h
          rw [hempty] at hlt
          exact absurd hlt (by simp)
      · rw [not_or, not_not] at hmatch
        exact ended_of_unmatched hs (ha 0) hmatch.1 hmatch.2
    · exact ends_of_present _ hs (Nat.lt_succ_self _) hpresent ha hstray

end Finish

/-! ## A rack that is removed -/

def servingRacks : List Pod :=
  [Pod.serving "db-1-0" "ce:8" "10.0.0.1" ⟨"h", "", ""⟩, Pod.serving "db-2-0" "ce:8" "10.0.0.2" ⟨"h", "", ""⟩]

def rackSet (id : Int) : StatefulSet := ⟨statefulSetName "db" id, some 1, ⟨"h", "", ""⟩, .parallel⟩

theorem calm_healthy {sets : List StatefulSet} {pods : List Pod}
    (hnames : pods.map (·.name) = ordinalNames sets) (hnodup : (ordinalNames sets).Nodup)
    (hready : ∀ p ∈ pods, p.deletionTimestamp = none ∧ isPodReady p = true) :
    (OperationPass.calm pods).Healthy sets ∧ (OperationPass.calm pods).NoStrays sets := by
  have hpods : (OperationPass.calm pods).pods = pods := rfl
  refine ⟨⟨?_, ?_, ?_, ?_, rfl, RestartEnv.calm_allOk true [], rfl, rfl⟩, ?_⟩
  · rw [hpods, hnames]
    exact hnodup
  · rw [hpods, hnames]
    exact fun _ h => h
  · exact fun p hp _ => hready p hp
  · exact fun p _ _ => rfl
  · intro p hp
    rw [← hnames]
    exact List.mem_map_of_mem hp

theorem restart_in_progress : ∃ s, Lts.run (operationStep restartAll) .fresh [.calm servingRacks] = some s ∧
    s.InPhase restartAll .inProgress ∧ s.completed restartAll = ["db-1-0"] ∧ s.failed restartAll = [] :=
  ⟨_, rfl, ⟨_, rfl, rfl, by decide +kernel⟩, by decide +kernel, by decide +kernel⟩

/-- With both racks there the operation ends. -/
theorem operation_ends_two : ∃ s, Lts.run (operationStep restartAll) .fresh [.calm servingRacks] = some s ∧
    s.InPhase restartAll .inProgress ∧
    ∃ k, (s.afterPasses restartAll (fun _ => .calm servingRacks) k).Ended restartAll := by
  obtain ⟨s, hrun, hphase, hcompleted, _⟩ := restart_in_progress
  obtain ⟨hhealthy, hstray⟩ := @calm_healthy [rackSet 1, rackSet 2] servingRacks (by decide) (by decide) (by decide)
  refine ⟨s, hrun, hphase, (operation_ends_iff hphase (fun _ => hhealthy) fun _ => hstray).2 (Or.inr ?_)⟩
  rw [hcompleted]
  decide

/-- The rack whose pod has been restarted is removed, and the operation waits for that pod for ever. -/
theorem removed_rack_stalls : ∃ s, Lts.run (operationStep restartAll) .fresh [.calm servingRacks] = some s ∧
    s.InPhase restartAll .inProgress ∧ (∀ p ∈ servingRacks.drop 1, isPodReady p = true) ∧
    (OperationPass.calm (servingRacks.drop 1)).Healthy [rackSet 2] ∧
    ∀ k, ¬ (s.afterPasses restartAll (fun _ => .calm (servingRacks.drop 1)) k).Ended restartAll := by
  obtain ⟨s, hrun, hphase, hcompleted, hfailed⟩ := restart_in_progress
  obtain ⟨hhealthy, hstray⟩ := @calm_healthy [rackSet 2] (servingRacks.drop 1) (by decide) (by decide) (by decide)
  refine ⟨s, hrun, hphase, by decide, hhealthy, fun k => not_ended_of_inProgress ?_⟩
  have hgone : "db-1-0" ∈ s.completed restartAll := by
    rw [hcompleted]
    decide
  have hout : "db-2-0" ∉ s.completed restartAll ∧ "db-2-0" ∉ s.failed restartAll := by
    rw [hcompleted, hfailed]
    decide
  have hstatus := @stuck_of_gone restartAll [rackSet 2] s (fun _ => .calm (servingRacks.drop 1)) hphase
    (fun _ => hhealthy) (fun _ => hstray) "db-1-0" "db-2-0" hgone (by decide) (by decide) hout k
  unfold OperationState.InPhase
  rw [hstatus]
  exact hphase

end Acko
