/-
The books an operation keeps over its passes: which pods it has restarted and which restarts failed, in
runs with arbitrary pods, replies and failures. One invariant ties the two lists to the attempts made;
what a completed operation has done is read off the pass that completed it.
-/
import AckoProofs.Lib.Run
import AckoProofs.Operations.Pass
import Mathlib.Data.List.Nodup

namespace Acko

/-! ## A batch and its record -/

section Record

variable (env : OperationEnv) (cluster : Cluster) (op : OperationSpec) (status : Option OperationRecord)
  (targets : List Pod) (checks : MigrationChecks)

def passBatch : List Pod :=
  operationBatch (getRollingUpdateBatchSize cluster targets.length).toNat
    ((priorProgress op status).completed ++ (priorProgress op status).failed) targets

def passProgress : Progress := (priorProgress op status).after env.restart op.kind (passBatch cluster op status targets)

def passStatus : OperationRecord × Bool :=
  finalizeOperationPhase ⟨op.id, op.kind, .inProgress, (passProgress env cluster op status targets).completed,
    (passProgress env cluster op status targets).failed⟩ targets

theorem priorProgress_attempted : (priorProgress op status).attempted = [] := by
  unfold priorProgress
  split
  · split <;> rfl
  · rfl

theorem priorProgress_effects : (priorProgress op status).effects = [] := by
  unfold priorProgress
  split
  · split <;> rfl
  · rfl

theorem passBatch_spec : BatchOf (getRollingUpdateBatchSize cluster targets.length).toNat
    ((priorProgress op status).completed ++ (priorProgress op status).failed) targets
    (passBatch cluster op status targets) := operationBatch_spec _ _ _

theorem operate_prior : operate env.restart op.kind (getRollingUpdateBatchSize cluster targets.length)
    (priorProgress op status) targets = passProgress env cluster op status targets := by
  rw [operate_eq, priorProgress_attempted]
  simp [passProgress, passBatch]

theorem runOperation_attempted : (runOperation env cluster op status targets checks).attempted =
    (passBatch cluster op status targets).map (·.name) := by
  have hattempted : (passProgress env cluster op status targets).attempted =
      (passBatch cluster op status targets).map (·.name) := by
    simp [passProgress, Progress.after, priorProgress_attempted]
  unfold runOperation
  rw [operate_prior, ← hattempted]
  cases env.persist <;> rfl

theorem runOperation_effects : (runOperation env cluster op status targets checks).effects =
    (passBatch cluster op status targets).flatMap fun p => (operationRestart env.restart op.kind p).2 := by
  have heffects : (passProgress env cluster op status targets).effects =
      (passBatch cluster op status targets).flatMap fun p => (operationRestart env.restart op.kind p).2 := by
    simp [passProgress, Progress.after, priorProgress_effects]
  unfold runOperation
  rw [operate_prior, ← heffects]
  cases env.persist <;> rfl

theorem runOperation_status : (runOperation env cluster op status targets checks).status =
    if env.persist = .done then some (passStatus env cluster op status targets).1 else status := by
  unfold runOperation
  rw [operate_prior]
  cases env.persist <;> rfl

end Record

section After

variable {env : RestartEnv} {kind : OperationKind} {g : Progress} {pods batch : List Pod} {limit : Nat}

theorem Progress.mem_after {n : String} :
    (n ∈ (g.after env kind batch).completed ∨ n ∈ (g.after env kind batch).failed) ↔
      n ∈ g.completed ∨ n ∈ g.failed ∨ n ∈ batch.map (·.name) := by
  have hsplit : n ∈ batch.map (·.name) ↔
      n ∈ (batch.filter fun p => (operationRestart env kind p).1).map (·.name) ∨
      n ∈ (batch.filter fun p => !(operationRestart env kind p).1).map (·.name) := by
    simp only [List.mem_map, List.mem_filter, Bool.not_eq_true']
    constructor
    · rintro ⟨p, hp, hn⟩
      cases hok : (operationRestart env kind p).1 with
      | true => exact Or.inl ⟨p, ⟨hp, hok⟩, hn⟩
      | false => exact Or.inr ⟨p, ⟨hp, hok⟩, hn⟩
    · rintro (⟨p, ⟨hp, _⟩, hn⟩ | ⟨p, ⟨hp, _⟩, hn⟩) <;> exact ⟨p, hp, hn⟩
  unfold Progress.after
  rw [hsplit, List.mem_append, List.mem_append]
  tauto

theorem BatchOf.part_not_mem (hb : BatchOf limit (g.completed ++ g.failed) pods batch) {q : Pod → Bool} {n : String}
    (hn : n ∈ (batch.filter q).map (·.name)) : n ∉ g.completed ∧ n ∉ g.failed := by
  obtain ⟨p, hp, rfl⟩ := List.mem_map.1 hn
  have hfresh := hb.fresh p (List.mem_filter.1 hp).1
  rw [List.mem_append, not_or] at hfresh
  exact hfresh

theorem BatchOf.part_nodup (hb : BatchOf limit (g.completed ++ g.failed) pods batch) {q : Pod → Bool} :
    ((batch.filter q).map (·.name)).Nodup := hb.nodup.sublist (List.filter_sublist.map _)

theorem Progress.after_lists (hb : BatchOf limit (g.completed ++ g.failed) pods batch) (hc : g.completed.Nodup)
    (hf : g.failed.Nodup) (hd : g.completed.Disjoint g.failed) :
    (g.after env kind batch).completed.Nodup ∧ (g.after env kind batch).failed.Nodup ∧
      (g.after env kind batch).completed.Disjoint (g.after env kind batch).failed := by
  refine ⟨List.Nodup.append hc hb.part_nodup ?_, List.Nodup.append hf hb.part_nodup ?_, ?_⟩
  · intro n hold hnew
    exact (hb.part_not_mem hnew).1 hold
  · intro n hold hnew
    exact (hb.part_not_mem hnew).2 hold
  · intro n hcompleted hfailed
    rcases List.mem_append.1 hcompleted with h1 | h1 <;> rcases List.mem_append.1 hfailed with h2 | h2
    · exact hd h1 h2
    · exact (hb.part_not_mem h2).1 h1
    · exact (hb.part_not_mem h1).2 h2
    · -- both parts of one batch: a pod of that name succeeded and failed
      obtain ⟨p, hp, rfl⟩ := List.mem_map.1 h1
      obtain ⟨p', hp', hname⟩ := List.mem_map.1 h2
      obtain ⟨hp, hok⟩ := List.mem_filter.1 hp
      obtain ⟨hp', hbad⟩ := List.mem_filter.1 hp'
      rw [List.inj_on_of_nodup_map hb.nodup hp' hp hname, hok] at hbad
      cases hbad

end After

/-! ## Runs -/

/-- What an operation has on record, the pods its passes have attempted, and the pods that were there
when it was first processed. -/
structure OperationState where
  status : Option OperationRecord
  checks : MigrationChecks
  attempted : List String
  first : Option (List String)

/-- A pass: the replies of its calls, the cluster it reads, and the pods that exist. -/
structure OperationPass where
  env : OperationEnv
  cluster : Cluster
  pods : List Pod

section System

variable (op : OperationSpec)

def OperationPass.targets (a : OperationPass) : List Pod := filterPodsByNames a.pods op.podList

def OperationPass.batchSize (a : OperationPass) : Int := getRollingUpdateBatchSize a.cluster (a.targets op).length

def OperationState.pass (s : OperationState) (a : OperationPass) : OperationOutcome :=
  reconcileOperations a.env s.checks a.cluster [op] s.status a.pods

def OperationState.after (s : OperationState) (a : OperationPass) : OperationState where
  status := (s.pass op a).status
  checks := (s.pass op a).checks
  attempted := s.attempted ++ (s.pass op a).attempted
  first := s.first <|> if a.env.restart.listError.isNone then some (a.pods.map (·.name)) else none

def operationStep (s : OperationState) (a : OperationPass) : Option OperationState := some (s.after op a)

def OperationState.completed (s : OperationState) : List String := (priorProgress op s.status).completed

def OperationState.failed (s : OperationState) : List String := (priorProgress op s.status).failed

def OperationState.InPhase (s : OperationState) (phase : Phase) : Prop :=
  ∃ st, s.status = some st ∧ st.id = op.id ∧ st.phase = phase

/-- Nothing is on record for the operation. -/
structure OperationState.Start (s : OperationState) : Prop where
  status : ∀ st, s.status = some st → st.id ≠ op.id
  attempted : s.attempted = []

/-- The status of a pass is written, and a pass that lists the pods finds a target. -/
structure OperationPass.Regular (a : OperationPass) : Prop where
  persist : a.env.persist = .done
  found : a.env.restart.listError = none → a.targets op ≠ []

/-- The lists are free of duplicates and disjoint, and hold just the pods attempted, each once. -/
structure OperationState.Inv (s : OperationState) : Prop where
  completed : (s.completed op).Nodup
  failed : (s.failed op).Nodup
  disjoint : (s.completed op).Disjoint (s.failed op)
  attempted : s.attempted.Nodup
  resolved : ∀ n, n ∈ s.attempted ↔ n ∈ s.completed op ∨ n ∈ s.failed op

/-- What holds of a pass made in a state. -/
structure Bookkeeping (s : OperationState) (a : OperationPass) : Prop where
  completed : ((s.after op a).completed op).Nodup
  failed : ((s.after op a).failed op).Nodup
  disjoint : ((s.after op a).completed op).Disjoint ((s.after op a).failed op)
  completedGrow : s.completed op <+: (s.after op a).completed op
  failedGrow : s.failed op <+: (s.after op a).failed op
  once : (s.after op a).attempted.Nodup
  batch : ((s.pass op a).attempted.length : Int) ≤ a.batchSize op
  gate : (s.pass op a).attempted ≠ [] → ∀ n ∈ s.completed op, ∃ pod ∈ a.targets op, pod.name = n ∧
    pod.deletionTimestamp = none ∧ isPodReady pod = true
  finished : ¬ s.InPhase op .completed → (s.after op a).InPhase op .completed →
    (s.after op a).failed op = [] ∧ ∀ pod ∈ a.targets op, pod.name ∈ (s.after op a).completed op

variable {op} {s : OperationState}

theorem OperationState.Start.inv (h : s.Start op) : s.Inv op := by
  have hprior : priorProgress op s.status = ⟨[], [], [], []⟩ := by
    unfold priorProgress
    split
    · rename_i st hst
      rw [if_neg (h.status st hst)]
    · rfl
  have hc : s.completed op = [] := by rw [OperationState.completed, hprior]
  have hf : s.failed op = [] := by rw [OperationState.failed, hprior]
  constructor
  · rw [hc]; exact List.nodup_nil
  · rw [hf]; exact List.nodup_nil
  · rw [hc]; exact List.disjoint_nil_left _
  · rw [h.attempted]; exact List.nodup_nil
  · simp [h.attempted, hc, hf]

theorem priorProgress_finalize {st : OperationRecord} {pods : List Pod} (h : st.id = op.id) :
    priorProgress op (some (finalizeOperationPhase st pods).1) = ⟨st.completedPods, st.failedPods, [], []⟩ := by
  unfold finalizeOperationPhase
  split <;> simp [priorProgress, h]

theorem phase_finalize {st : OperationRecord} {pods : List Pod} (hphase : st.phase = .inProgress)
    (h : (finalizeOperationPhase st pods).1.phase = .completed) :
    st.failedPods = [] ∧ ∀ pod ∈ pods, pod.name ∈ st.completedPods := by
  unfold finalizeOperationPhase at h
  split at h
  · rw [hphase] at h
    cases h
  · rename_i hout
    simp only at h
    split at h
    · rename_i hfailed
      have hfailed := List.isEmpty_iff.1 hfailed
      refine ⟨hfailed, fun pod hpod => ?_⟩
      have hres : outstanding st.completedPods st.failedPods pod = false := by
        rw [← Bool.not_eq_true]
        exact fun h => hout (List.any_eq_true.2 ⟨pod, hpod, h⟩)
      rw [outstanding_eq_false, hfailed, List.append_nil] at hres
      exact hres
    · cases h

/-- A pass leaves the record, or records that no named pod exists, or adds a batch that nothing
blocks to the lists, where the write goes through. -/
theorem OperationState.pass_cases (s : OperationState) (a : OperationPass) :
    ((s.pass op a).attempted = [] ∧ (s.pass op a).status = s.status) ∨
    (operationSettled op s.status = false ∧ a.env.restart.listError = none ∧ op.podList ≠ [] ∧ a.targets op = [] ∧
      (s.pass op a).attempted = [] ∧ (s.pass op a).status = some ⟨op.id, op.kind, .error, [], []⟩) ∨
    (operationSettled op s.status = false ∧ a.env.restart.listError = none ∧
      (operationGate a.env s.checks a.cluster op s.status (a.targets op)).1 = false ∧
      (s.pass op a).attempted = (passBatch a.cluster op s.status (a.targets op)).map (·.name) ∧
      (s.pass op a).status =
        if a.env.persist = .done then some (passStatus a.env a.cluster op s.status (a.targets op)).1
        else s.status) := by
  rcases reconcileOperations_cases a.env s.checks a.cluster op [] s.status a.pods with
    ⟨inProgress, error, checks, h⟩ | ⟨hsettled, hnames, hnone, hlist, _, h⟩ | ⟨hsettled, hlist, _, hgate, h⟩
  · refine Or.inl ?_
    unfold OperationState.pass
    rw [h]
    exact ⟨rfl, rfl⟩
  · refine Or.inr (Or.inl ⟨hsettled, hlist, hnames, hnone, ?_⟩)
    unfold OperationState.pass
    rw [h]
    exact ⟨rfl, rfl⟩
  · refine Or.inr (Or.inr ⟨hsettled, hlist, hgate, ?_⟩)
    unfold OperationState.pass
    rw [h]
    exact ⟨runOperation_attempted .., runOperation_status ..⟩

theorem priorProgress_passStatus (a : OperationPass) (status : Option OperationRecord) :
    (priorProgress op (some (passStatus a.env a.cluster op status (a.targets op)).1)).completed =
      (passProgress a.env a.cluster op status (a.targets op)).completed ∧
    (priorProgress op (some (passStatus a.env a.cluster op status (a.targets op)).1)).failed =
      (passProgress a.env a.cluster op status (a.targets op)).failed := by
  unfold passStatus
  rw [priorProgress_finalize rfl]
  exact ⟨rfl, rfl⟩

section After

variable {s : OperationState} {a : OperationPass}
  (hstatus : (s.after op a).status = some (passStatus a.env a.cluster op s.status (a.targets op)).1)

include hstatus

theorem completed_after :
    (s.after op a).completed op = (passProgress a.env a.cluster op s.status (a.targets op)).completed := by
  unfold OperationState.completed
  rw [hstatus, (@priorProgress_passStatus op a s.status).1]

theorem failed_after : (s.after op a).failed op = (passProgress a.env a.cluster op s.status (a.targets op)).failed := by
  unfold OperationState.failed
  rw [hstatus, (@priorProgress_passStatus op a s.status).2]

end After

theorem any_outstanding_of_attempted {cluster : Cluster} {record : Option OperationRecord} {targets : List Pod}
    (h : (passBatch cluster op record targets).map (·.name) ≠ []) :
    targets.any (outstanding (priorProgress op record).completed (priorProgress op record).failed) = true := by
  have hb := passBatch_spec cluster op record targets
  obtain ⟨p, hp⟩ := List.exists_mem_of_ne_nil _ fun hnil => h (congrArg (List.map _) hnil)
  refine List.any_eq_true.2 ⟨p, hb.sublist.subset hp, ?_⟩
  rw [outstanding_eq_true]
  exact hb.fresh p hp

theorem OperationState.Inv.idle {a : OperationPass} (hi : s.Inv op) (hattempted : (s.pass op a).attempted = [])
    (hstatus : (s.after op a).status = s.status) : (s.after op a).Inv op ∧ Bookkeeping op s a := by
  have hc : (s.after op a).completed op = s.completed op := by
    unfold OperationState.completed
    rw [hstatus]
  have hf : (s.after op a).failed op = s.failed op := by
    unfold OperationState.failed
    rw [hstatus]
  have ht : (s.after op a).attempted = s.attempted := by
    unfold OperationState.after
    rw [hattempted, List.append_nil]
  have hafter : (s.after op a).Inv op := by
    constructor
    · rw [hc]; exact hi.completed
    · rw [hf]; exact hi.failed
    · rw [hc, hf]; exact hi.disjoint
    · rw [ht]; exact hi.attempted
    · rw [ht, hc, hf]; exact hi.resolved
  refine ⟨hafter, hafter.completed, hafter.failed, hafter.disjoint, ?_, ?_, hafter.attempted, ?_, ?_, ?_⟩
  · rw [hc]
  · rw [hf]
  · have hsize := one_le_getRollingUpdateBatchSize a.cluster (a.targets op).length
    have hzero : ([] : List String).length = 0 := rfl
    rw [hattempted]
    unfold OperationPass.batchSize
    omega
  · intro h
    exact absurd hattempted h
  · rintro hbefore ⟨st, hst, hid, hphase⟩
    refine absurd ⟨st, ?_, hid, hphase⟩ hbefore
    rw [← hstatus]
    exact hst

theorem OperationState.Inv.batch {a : OperationPass} (hi : s.Inv op)
    (hgate : (operationGate a.env s.checks a.cluster op s.status (a.targets op)).1 = false)
    (hattempted : (s.pass op a).attempted = (passBatch a.cluster op s.status (a.targets op)).map (·.name))
    (hstatus : (s.after op a).status = some (passStatus a.env a.cluster op s.status (a.targets op)).1) :
    (s.after op a).Inv op ∧ Bookkeeping op s a := by
  have hb := passBatch_spec a.cluster op s.status (a.targets op)
  have hc := completed_after hstatus
  have hf := failed_after hstatus
  have ht : (s.after op a).attempted =
      s.attempted ++ (passBatch a.cluster op s.status (a.targets op)).map (·.name) := by
    unfold OperationState.after
    rw [hattempted]
  obtain ⟨hnc, hnf, hdis⟩ := @Progress.after_lists a.env.restart op.kind (priorProgress op s.status) _ _ _ hb
    hi.completed hi.failed hi.disjoint
  have hafter : (s.after op a).Inv op := by
    constructor
    · rw [hc]; exact hnc
    · rw [hf]; exact hnf
    · rw [hc, hf]; exact hdis
    · rw [ht]
      -- what was attempted before is resolved, and the batch is not
      refine List.Nodup.append hi.attempted hb.nodup ?_
      intro n hold hnew
      obtain ⟨p, hp, rfl⟩ := List.mem_map.1 hnew
      exact hb.fresh p hp (List.mem_append.2 ((hi.resolved _).1 hold))
    · intro n
      rw [ht, hc, hf, List.mem_append, hi.resolved n]
      unfold passProgress
      rw [Progress.mem_after]
      exact or_assoc
  refine ⟨hafter, hafter.completed, hafter.failed, hafter.disjoint, ?_, ?_, hafter.attempted, ?_, ?_, ?_⟩
  · rw [hc]
    exact List.prefix_append _ _
  · rw [hf]
    exact List.prefix_append _ _
  · have hsize := one_le_getRollingUpdateBatchSize a.cluster (a.targets op).length
    have hlen := hb.length
    rw [hattempted, List.length_map]
    unfold OperationPass.batchSize
    omega
  · intro hne n hn
    rw [hattempted] at hne
    obtain ⟨pod, hpod, halive, hready⟩ := back_of_not_blocked hgate (any_outstanding_of_attempted hne) n hn
    obtain ⟨hmem, hname⟩ := podNamed_eq_some hpod
    exact ⟨pod, hmem, hname, halive, hready⟩
  · rintro _ ⟨st, hst, _, hphase⟩
    have hst : (passStatus a.env a.cluster op s.status (a.targets op)).1 = st :=
      Option.some.inj (hstatus.symm.trans hst)
    rw [← hst] at hphase
    rw [hc, hf]
    exact phase_finalize rfl hphase

theorem OperationState.Inv.pass {a : OperationPass} (hi : s.Inv op) (ha : a.Regular op) :
    (s.after op a).Inv op ∧ Bookkeeping op s a := by
  rcases @OperationState.pass_cases op s a with
    ⟨hattempted, hstatus⟩ | ⟨_, hlist, _, hnone, _⟩ | ⟨_, _, hgate, hattempted, hstatus⟩
  · exact hi.idle hattempted hstatus
  · -- the record of an operation without a pod would replace the lists
    exact absurd hnone (ha.found hlist)
  · rw [if_pos ha.persist] at hstatus
    exact hi.batch hgate hattempted hstatus

/-- The books of an operation are in order in every run: each list is free of duplicates and only
grows, no pod is attempted twice, each pass keeps to the batch size and waits for the pods restarted
before, and the operation is completed only when it has restarted every target. -/
theorem operation_bookkeeping {s : OperationState} (hs : s.Start op) {l : List OperationPass}
    (hl : ∀ a ∈ l, a.Regular op) : Lts.Along (operationStep op) (Bookkeeping op) s l := by
  refine Lts.Along.of_invariant (C := fun _ a => a.Regular op) (I := fun s => s.Inv op) ?_ ?_ hs.inv
    (Lts.Along.of_forall fun a ha _ => hl a ha)
  · rintro s a t hi ha ⟨⟩
    exact (hi.pass ha).1
  · intro s a hi ha
    exact (hi.pass ha).2

end System

def OperationState.fresh : OperationState := ⟨none, [], [], none⟩

theorem OperationState.fresh_start (op : OperationSpec) : OperationState.fresh.Start op := by
  refine ⟨?_, rfl⟩
  intro st hst
  cases hst

/-- A pass whose calls all succeed, on a cluster that restarts pods one by one. -/
def OperationPass.calm (pods : List Pod) : OperationPass := ⟨⟨.calm true [], .done⟩, .bare "db" "ce:8", pods⟩

def twoServing : List Pod :=
  [Pod.serving "db-1-0" "ce:8" "10.0.0.1" ⟨"h", "", ""⟩, Pod.serving "db-1-1" "ce:8" "10.0.0.2" ⟨"h", "", ""⟩]

def restartAll : OperationSpec := ⟨.podRestart, "all", []⟩

theorem operation_bookkeeping_two :
    Lts.Along (operationStep restartAll) (Bookkeeping restartAll) .fresh [.calm twoServing, .calm twoServing] ∧
    ((Lts.run (operationStep restartAll) .fresh [.calm twoServing, .calm twoServing]).map (·.attempted)) =
      some ["db-1-0", "db-1-1"] := by
  refine ⟨operation_bookkeeping (OperationState.fresh_start restartAll) ?_, by decide +kernel⟩
  intro a ha
  have ha : a = .calm twoServing := by simpa using ha
  subst ha
  exact ⟨rfl, fun _ => by decide⟩

section Coverage

variable {op : OperationSpec}

/-! ## What a completed operation has done -/

/-- Each named pod has been restarted by the operation, or exists. -/
def OperationPass.Covered (op : OperationSpec) (s : OperationState) (a : OperationPass) : Prop :=
  ∀ n ∈ op.podList, n ∈ s.completed op ∨ n ∈ a.pods.map (·.name)

theorem OperationState.completes {s : OperationState} {a : OperationPass} (hbefore : ¬ s.InPhase op .completed)
    (hafter : (s.after op a).InPhase op .completed) :
    (s.completed op <+: (s.after op a).completed op) ∧ (∀ pod ∈ a.targets op, pod.name ∈ (s.after op a).completed op) ∧
      ∀ n ∈ (s.after op a).completed op, n ∈ s.completed op ∨ n ∈ a.pods.map (·.name) := by
  obtain ⟨st, hst, hid, hphase⟩ := hafter
  rcases @OperationState.pass_cases op s a with ⟨_, hstatus⟩ | ⟨_, _, _, _, _, hstatus⟩ | ⟨_, _, _, _, hstatus⟩
  · exact absurd ⟨st, hstatus.symm.trans hst, hid, hphase⟩ hbefore
  · have hst : _ = st := Option.some.inj (hstatus.symm.trans hst)
    rw [← hst] at hphase
    cases hphase
  · by_cases hpersist : a.env.persist = .done
    · rw [if_pos hpersist] at hstatus
      have hst : (passStatus a.env a.cluster op s.status (a.targets op)).1 = st :=
        Option.some.inj (hstatus.symm.trans hst)
      rw [← hst] at hphase
      have hc : (s.after op a).completed op = (passProgress a.env a.cluster op s.status (a.targets op)).completed := by
        unfold OperationState.completed OperationState.after
        rw [hstatus, (@priorProgress_passStatus op a s.status).1]
      rw [hc]
      refine ⟨List.prefix_append _ _, (phase_finalize rfl hphase).2, ?_⟩
      intro n hn
      rcases List.mem_append.1 hn with hn | hn
      · exact Or.inl hn
      · obtain ⟨p, hp, rfl⟩ := List.mem_map.1 hn
        have htarget := (passBatch_spec a.cluster op s.status (a.targets op)).sublist.subset (List.mem_filter.1 hp).1
        exact Or.inr (List.mem_map_of_mem (mem_filterPodsByNames htarget).1)
    · rw [if_neg hpersist] at hstatus
      exact absurd ⟨st, hstatus.symm.trans hst, hid, hphase⟩ hbefore

/-- A pass that completes the operation has covered all names just if each of them was restarted before
or exists. -/
theorem OperationState.completes_iff {s : OperationState} {a : OperationPass} (hbefore : ¬ s.InPhase op .completed)
    (hafter : (s.after op a).InPhase op .completed) :
    (∀ n ∈ op.podList, n ∈ (s.after op a).completed op) ↔ a.Covered op s := by
  obtain ⟨hgrow, htargets, hnew⟩ := OperationState.completes hbefore hafter
  constructor
  · intro h n hn
    exact hnew n (h n hn)
  · intro h n hn
    rcases h n hn with hdone | hexists
    · exact hgrow.subset hdone
    · have hname : n ∈ (a.targets op).map (·.name) :=
        mem_names_filterPodsByNames.2 ⟨hexists, fun _ => hn⟩
      obtain ⟨pod, hpod, rfl⟩ := List.mem_map.1 hname
      exact htargets pod hpod

theorem OperationState.after_completed {s : OperationState} {a : OperationPass} (h : s.InPhase op .completed) :
    (s.after op a).status = s.status := by
  obtain ⟨st, hst, hid, hphase⟩ := h
  have hsettled : operationSettled op s.status = true := by
    rw [hst]
    simp [operationSettled, hid, hphase]
  rcases @OperationState.pass_cases op s a with ⟨_, hstatus⟩ | ⟨hno, _⟩ | ⟨hno, _⟩
  · exact hstatus
  · rw [hsettled] at hno
    cases hno
  · rw [hsettled] at hno
    cases hno

/-- A completed operation has restarted every pod it names, in every run in which each name, at every
pass, has been restarted or is that of a pod. An operation on all pods has restarted, of the pods that
were there when it was first processed, those that are still there when it completes. -/
theorem completed_operation_covers {s : OperationState} (hs : s.Start op) {l : List OperationPass} :
    (Lts.Along (operationStep op) (fun s a => a.Covered op s) s l → ∀ t, Lts.run (operationStep op) s l = some t →
      t.InPhase op .completed → ∀ n ∈ op.podList, n ∈ t.completed op) ∧
    (op.podList = [] → Lts.Along (operationStep op) (fun s a => ¬ s.InPhase op .completed →
      (s.after op a).InPhase op .completed → ∀ names, (s.after op a).first = some names →
      ∀ n ∈ names, n ∈ a.pods.map (·.name) → n ∈ (s.after op a).completed op) s l) := by
  constructor
  · intro hcovered t hrun
    have hstart : s.InPhase op .completed → ∀ n ∈ op.podList, n ∈ s.completed op := by
      rintro ⟨st, hst, hid, _⟩
      exact absurd hid (hs.status st hst)
    refine Lts.run_invariant (I := fun s => s.InPhase op .completed → ∀ n ∈ op.podList, n ∈ s.completed op) ?_ hstart
      hcovered hrun
    rintro s a t hi hc ⟨⟩ hphase
    by_cases hbefore : s.InPhase op .completed
    · have hsame : (s.after op a).completed op = s.completed op := by
        unfold OperationState.completed
        rw [OperationState.after_completed hbefore]
      rw [hsame]
      exact hi hbefore
    · exact (OperationState.completes_iff hbefore hphase).2 hc
  · intro hall
    refine Lts.Along.of_invariant (C := fun _ _ => True) (I := fun _ => True) (fun _ _ _ _ _ _ => trivial) ?_ trivial
      (Lts.Along.of_forall fun _ _ _ => trivial)
    intro s a _ _ hbefore hafter names _ n _ hexists
    have hname : n ∈ (a.targets op).map (·.name) :=
      mem_names_filterPodsByNames.2 ⟨hexists, fun hne => absurd hall hne⟩
    obtain ⟨pod, hpod, rfl⟩ := List.mem_map.1 hname
    exact (OperationState.completes hbefore hafter).2.1 pod hpod

end Coverage

def restartOne : OperationSpec := ⟨.podRestart, "one", ["db-1-1"]⟩

instance (op : OperationSpec) (s : OperationState) (a : OperationPass) : Decidable (a.Covered op s) :=
  inferInstanceAs (Decidable (∀ n ∈ op.podList, n ∈ s.completed op ∨ n ∈ a.pods.map (·.name)))

theorem completed_operation_covers_one :
    ∃ t, Lts.run (operationStep restartOne) .fresh [.calm twoServing] = some t ∧ t.InPhase restartOne .completed ∧
      ∀ n ∈ restartOne.podList, n ∈ t.completed restartOne := by
  obtain ⟨t, hrun, hphase⟩ : ∃ t, Lts.run (operationStep restartOne) .fresh [.calm twoServing] = some t ∧
      t.InPhase restartOne .completed := ⟨_, rfl, _, rfl, rfl, by decide +kernel⟩
  have hcovered : Lts.Along (operationStep restartOne) (fun s a => a.Covered restartOne s) .fresh
      [.calm twoServing] := .cons rfl (by decide) trivial
  exact ⟨t, hrun, hphase, (completed_operation_covers (OperationState.fresh_start restartOne)).1 hcovered t hrun hphase⟩

/-- One name is that of no pod. -/
def restartMistyped : OperationSpec := ⟨.podRestart, "typo", ["db-1-1", "db-1-9"]⟩

theorem mistyped_operation_completes :
    ∃ t, Lts.run (operationStep restartMistyped) .fresh [.calm twoServing] = some t ∧
      t.InPhase restartMistyped .completed ∧ "db-1-9" ∈ restartMistyped.podList ∧
      t.completed restartMistyped = ["db-1-1"] :=
  ⟨_, rfl, ⟨_, rfl, rfl, by decide +kernel⟩, by decide, by decide +kernel⟩

end Acko
