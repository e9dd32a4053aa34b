/-
On-demand operations beside rolling restarts. A pass of `reconcileCluster` looks after the operation
first and visits the racks when the operation wants no other pass. The two keep different records of what
they have restarted, and neither looks at the other's.
-/
import AckoProofs.Operations.Book
import AckoProofs.Restart.Racks

namespace Acko

/-! ## The system -/

/-- The racks under rolling restart, the record of the operation, the calls of the operation that are
still to come, and the pods it has restarted that are not back and Ready yet. -/
structure OperatedState (n : Nat) where
  base : ClusterState n
  record : Option OperationRecord
  opTodo : List Effect
  opDown : List String

/-- The moves: a pass starts with the operations, the next rack is visited, a call of the rolling restart
or of the operation takes effect, or Kubernetes moves. -/
inductive OperatedStep (n : Nat)
  | start (cluster : Cluster) (operations : List OperationSpec) (env : OperationEnv) (listing : List Pod)
  | visit (env : RestartEnv)
  | emit (i : Fin n)
  | emitOp
  | kube (i : Fin n) (k : KubeStep)

def restartedPod : Effect → Option String
  | .delete pod _ => some pod
  | .signal pod _ => some pod
  | _ => none

section System

variable {n : Nat} (racks : Fin n → RackSetup)

def ClusterState.pods (s : ClusterState n) : List Pod := (List.finRange n).flatMap fun i => (s.rack i).pods

def OperatedState.operations (s : OperatedState n) (cluster : Cluster) (operations : List OperationSpec)
    (env : OperationEnv) (listing : List Pod) : OperationOutcome :=
  reconcileOperations env s.base.checks cluster operations s.record listing

variable (s : OperatedState n)

/-- The pass before is over: all its calls are made and no rack is left to visit. -/
def OperatedState.Between : Prop := s.base.Idle ∧ s.base.queue = [] ∧ s.opTodo = []

instance (s : OperatedState n) : Decidable s.Between :=
  inferInstanceAs (Decidable (s.base.Idle ∧ s.base.queue = [] ∧ s.opTodo = []))

/-- An effect on the pods of every rack. -/
def ClusterState.affect (s : ClusterState n) (e : Effect) : ClusterState n :=
  { s with rack := fun i => { s.rack i with pods := podsAfter (s.rack i).pods [e] } }

/-- Takes the pods that are back off the list. -/
def OperatedState.settle : OperatedState n :=
  { s with opDown := s.opDown.filter fun name => !isBack s.base.pods name }

def OperatedState.step (s : OperatedState n) : OperatedStep n → Option (OperatedState n)
  | .start cluster operations env listing =>
    if s.Between ∧ listing.Perm s.base.pods then
      let out := s.operations cluster operations env listing
      some { s with
        base := { s.base with
          cluster := cluster
          checks := out.checks
          queue := if out.inProgress || out.error.isSome then [] else List.finRange n }
        record := out.status
        opTodo := out.effects }
    else none
  | .visit env => if s.opTodo = [] then (s.base.visit racks env).map fun base => { s with base := base } else none
  | .emit i => (s.base.step racks (.emit i)).map fun base => { s with base := base }
  | .emitOp => match s.opTodo with
    | [] => none
    | e :: l => some { s with base := s.base.affect e, opTodo := l, opDown := s.opDown ++ (restartedPod e).toList }
  | .kube i k => (s.base.step racks (.kube i k)).map fun base => OperatedState.settle { s with base := base }

/-! ## Exclusion -/

/-- An operation that restarts pods finds every pod deleted by a rolling restart back and Ready; a rolling
restart that begins a batch finds every pod restarted by the operation so. -/
def OperatedState.Exclusive : OperatedStep n → Prop
  | .start cluster operations env listing => s.Between → listing.Perm s.base.pods →
    (s.operations cluster operations env listing).attempted ≠ [] → ∀ j, (s.base.rack j).down = []
  | .visit env => s.opTodo = [] → (s.base.beginsBatch racks (.visit env)).isSome →
    ∀ name ∈ s.opDown, isBack s.base.pods name = true
  | _ => True

/-- The operation has a target that it has not attempted. -/
def operationWaits (record : Option OperationRecord) (operations : List OperationSpec) (listing : List Pod) : Bool :=
  match operations with
  | [] => false
  | op :: _ => !operationSettled op record && (filterPodsByNames listing op.podList).any
      (outstanding (priorProgress op record).completed (priorProgress op record).failed)

/-- All pods of the rack exist, none terminates, and all are Ready. -/
structure RackState.Up (rack : RackSetup) (s : RackState) : Prop where
  all : rack.size ≤ s.pods.length
  alive : ∀ p ∈ s.pods, p.deletionTimestamp = none
  ready : ∀ p ∈ s.pods, isPodReady p = true

instance (rack : RackSetup) (s : RackState) : Decidable (s.Up rack) :=
  decidable_of_iff (rack.size ≤ s.pods.length ∧ (∀ p ∈ s.pods, p.deletionTimestamp = none) ∧
    ∀ p ∈ s.pods, isPodReady p = true) ⟨fun h => ⟨h.1, h.2.1, h.2.2⟩, fun h => ⟨h.all, h.alive, h.ready⟩⟩

/-- A pass starts with an operation that has an outstanding target only while every rack is quiet, and
visits a rack that has a stale pod only while every rack is up. -/
def OperatedState.Spaced : OperatedStep n → Prop
  | .start _ operations _ listing => operationWaits s.record operations listing = true →
    ∀ j, (s.base.rack j).Quiet (racks j)
  | .visit _ => ∀ i, s.base.queue.head? = some i → (∃ p ∈ (s.base.rack i).pods, p.stale (racks i).sts.hashes = true) →
    ∀ j, (s.base.rack j).Up (racks j)
  | _ => True

/-- The racks keep their invariant, and what the operation restarts are pods of the racks. -/
structure OperatedState.Inv (s : OperatedState n) : Prop where
  each : ∀ j, (s.base.rack j).Inv (racks j)
  planned : ∀ e ∈ s.opTodo, (∀ desired, e.withinPass desired) ∧
    ∀ name, restartedPod e = some name → ∃ j, name ∈ (racks j).podNames
  down : ∀ name ∈ s.opDown, ∃ j, name ∈ (racks j).podNames

/-- Where a run starts: at rest, with nothing restarted by the operation. -/
structure OperatedState.Start (s : OperatedState n) : Prop where
  each : ∀ j, (s.base.rack j).Start (racks j)
  opTodo : s.opTodo = []
  opDown : s.opDown = []

variable {racks}

theorem OperatedState.Start.inv {s : OperatedState n} (h : s.Start racks) : s.Inv racks := by
  refine ⟨fun j => (h.each j).inv, ?_, ?_⟩
  · intro e he
    rw [h.opTodo] at he
    cases he
  · intro name hname
    rw [h.opDown] at hname
    cases hname

theorem mem_pods {s : ClusterState n} {p : Pod} : p ∈ s.pods ↔ ∃ j, p ∈ (s.rack j).pods := by
  simp [ClusterState.pods]

/-! ## What an operation plans -/

theorem operationRestart_effects (env : RestartEnv) (kind : OperationKind) (pod : Pod) :
    ∀ e ∈ (operationRestart env kind pod).2, (∀ desired, e.withinPass desired) ∧
      ∀ name, restartedPod e = some name → name = pod.name := by
  intro e he
  cases kind with
  | warmRestart =>
    simp only [operationRestart, warmRestartPod] at he
    split at he
    · rw [List.mem_singleton] at he
      rw [he]
      exact ⟨fun _ => trivial, fun name h => (Option.some.inj h).symm⟩
    · cases he
  | podRestart =>
    simp only [operationRestart] at he
    rcases coldRestartPod_cases env pod with h | h
    · rw [h] at he
      cases he
    · rw [h, List.mem_singleton] at he
      rw [he]
      exact ⟨fun _ => trivial, fun name h => (Option.some.inj h).symm⟩

theorem reconcileOperations_plan (env : OperationEnv) (checks : MigrationChecks) (cluster : Cluster)
    (operations : List OperationSpec) (record : Option OperationRecord) (listing : List Pod) :
    (∀ e ∈ (reconcileOperations env checks cluster operations record listing).effects,
      (∀ desired, e.withinPass desired) ∧
      ∀ name, restartedPod e = some name → name ∈ listing.map (·.name)) ∧
    ((reconcileOperations env checks cluster operations record listing).attempted ≠ [] →
      operationWaits record operations listing = true) := by
  cases operations with
  | nil =>
    refine ⟨?_, fun h => absurd rfl h⟩
    intro e he
    cases he
  | cons op rest =>
    rcases reconcileOperations_cases env checks cluster op rest record listing with
      ⟨_, _, _, h⟩ | ⟨_, _, _, _, _, h⟩ | ⟨hsettled, _, _, _, h⟩
    · rw [h]
      refine ⟨?_, fun h => absurd rfl h⟩
      intro e he
      cases he
    · rw [h]
      refine ⟨?_, fun h => absurd rfl h⟩
      intro e he
      cases he
    · have hb := passBatch_spec cluster op record (filterPodsByNames listing op.podList)
      rw [h, runOperation_effects, runOperation_attempted]
      constructor
      · intro e he
        obtain ⟨p, hp, he⟩ := List.mem_flatMap.1 he
        obtain ⟨hwithin, hname⟩ := operationRestart_effects env.restart op.kind p e he
        refine ⟨hwithin, fun name hrestarted => ?_⟩
        rw [hname name hrestarted]
        exact List.mem_map_of_mem (mem_filterPodsByNames (hb.sublist.subset hp)).1
      · intro hne
        show (!operationSettled op record && _) = true
        rw [hsettled, any_outstanding_of_attempted hne]
        rfl

/-! ## Steps keep the invariant -/

theorem RackState.Inv.affect {rack : RackSetup} {s : RackState} (hi : s.Inv rack) {e : Effect}
    (he : e.withinPass rack.sts.hashes) : RackState.Inv rack { s with pods := podsAfter s.pods [e] } := by
  refine ⟨?_, ?_, fun name hname => (hi.out name hname).onPod he, hi.within, hi.planned⟩
  · show (List.map _ (podsAfter s.pods [e])).Nodup
    rw [podsAfter_names]
    exact hi.nodup
  · intro q hq
    obtain ⟨p, hp, rfl⟩ := List.mem_map.1 hq
    rw [podAfter_name]
    exact hi.names p hp

theorem OperatedState.step_inv {s t : OperatedState n} {a : OperatedStep n} (hi : s.Inv racks)
    (h : s.step racks a = some t) : t.Inv racks := by
  cases a with
  | start cluster operations env listing =>
    simp only [OperatedState.step] at h
    split at h
    · rename_i hc
      cases h
      refine ⟨hi.each, ?_, hi.down⟩
      intro e he
      obtain ⟨hwithin, hname⟩ :=
        (reconcileOperations_plan env s.base.checks cluster operations s.record listing).1 e he
      refine ⟨hwithin, fun name hrestarted => ?_⟩
      -- a listed pod is a pod of some rack
      obtain ⟨p, hp, rfl⟩ := List.mem_map.1 (hname name hrestarted)
      obtain ⟨j, hj⟩ := mem_pods.1 (hc.2.mem_iff.1 hp)
      exact ⟨j, (hi.each j).names p hj⟩
    · cases h
  | visit env =>
    simp only [OperatedState.step] at h
    split at h
    · obtain ⟨base, hbase, rfl⟩ := Option.map_eq_some_iff.1 h
      exact ⟨ClusterState.step_inv (a := .visit env) hi.each hbase, hi.planned, hi.down⟩
    · cases h
  | emit i =>
    obtain ⟨base, hbase, rfl⟩ := Option.map_eq_some_iff.1 h
    exact ⟨ClusterState.step_inv hi.each hbase, hi.planned, hi.down⟩
  | emitOp =>
    simp only [OperatedState.step] at h
    split at h
    · cases h
    · rename_i e l htodo
      cases h
      have he := hi.planned e (by rw [htodo]; exact List.mem_cons_self)
      -- the effect is applied in every rack: it changes the one that has the pod
      refine ⟨fun j => (hi.each j).affect (he.1 _), ?_, ?_⟩
      · intro f hf
        exact hi.planned f (by rw [htodo]; exact List.mem_cons_of_mem _ hf)
      · intro name hname
        rcases List.mem_append.1 hname with hname | hname
        · exact hi.down name hname
        · exact he.2 name (Option.mem_toList.1 hname)
  | kube i k =>
    obtain ⟨base, hbase, rfl⟩ := Option.map_eq_some_iff.1 h
    refine ⟨ClusterState.step_inv hi.each hbase, hi.planned, ?_⟩
    intro name hname
    exact hi.down name (List.mem_filter.1 hname).1

/-- Operations and rolling restarts exclude each other in every run in which an operation goes on only
while every rack is quiet, and a rack with a stale pod is visited only while every rack is up. -/
theorem operation_exclusion {s : OperatedState n} (hs : s.Start racks) {l : List (OperatedStep n)}
    (hspaced : Lts.Along (OperatedState.step racks) (OperatedState.Spaced racks) s l) :
    Lts.Along (OperatedState.step racks) (OperatedState.Exclusive racks) s l := by
  refine Lts.Along.of_invariant (I := fun u => u.Inv racks) (fun u a v hu _ hv => OperatedState.step_inv hu hv)
    ?_ hs.inv
    hspaced
  intro u a hu hc
  cases a with
  | start cluster operations env listing =>
    intro _ _ hattempted j
    have hwaits := (reconcileOperations_plan env u.base.checks cluster operations u.record listing).2 hattempted
    obtain ⟨hall, halive, hready⟩ := hc hwaits j
    exact (hu.each j).down_eq_nil (fun p hp => ⟨halive p hp, hready p hp⟩) hall
  | visit env =>
    intro _ hbegins name hname
    obtain ⟨i, hbegins⟩ := Option.isSome_iff_exists.1 hbegins
    obtain ⟨_, hhead, hstale⟩ := ClusterState.stale_of_beginsBatch racks hbegins
    obtain ⟨j, hj⟩ := hu.down name hname
    obtain ⟨hall, halive, hready⟩ := hc i hhead hstale j
    -- a rack with all its pods has the one that the operation has restarted
    obtain ⟨p, hp, rfl⟩ := List.mem_map.1 ((hu.each j).exists_pod hall hj)
    refine List.any_eq_true.2 ⟨p, mem_pods.2 ⟨j, hp⟩, ?_⟩
    simp [halive p hp, hready p hp]
  | emit i => trivial
  | emitOp => trivial
  | kube i k => trivial

end System

/-! ## Overlaps -/

def servingPair (first second : String) : OperatedState 2 where
  base :=
    { rack := fun i => ⟨[Pod.serving (podName (statefulSetName "db" (i.val + 1)) 0) "ce:8" ""
        ⟨if i.val = 0 then first else second, "", ""⟩], [], []⟩
      cluster := .bare "db" "ce:8"
      queue := []
      checks := [] }
  record := none
  opTodo := []
  opDown := []

theorem servingPair_start (first second : String) : (servingPair first second).Start twoRacks := by
  refine ⟨?_, rfl, rfl⟩
  intro i
  refine ⟨?_, ?_, ?_, rfl, rfl⟩
  · show [podName (statefulSetName "db" (i.val + 1)) 0].Perm (twoRacks i).podNames
    decide +revert
  · intro p hp
    rw [List.mem_singleton.1 hp]
    rfl
  · intro p hp _
    rw [List.mem_singleton.1 hp]
    rfl

def restartPodNamed (name : String) : OperationSpec := ⟨.podRestart, "one", [name]⟩

def calmOperation : OperationEnv := ⟨.calm false [], .done⟩

/-- The pass in which the operation deletes its last pod visits the racks. -/
def samePassSteps : List (OperatedStep 2) :=
  [.start (.bare "db" "ce:8") [restartPodNamed "db-1-0"] calmOperation (servingPair "new" "old").base.pods, .emitOp,
    .visit (.calm false [])]

def firstRack : Fin 2 := ⟨0, Nat.zero_lt_two⟩

/-- A rolling restart deletes the pod of the first rack, and the pod goes away. -/
def rollingSteps : List (OperatedStep 2) :=
  [.start (.bare "db" "ce:8") [] calmOperation (servingPair "old" "new").base.pods, .visit (.calm false []),
    .emit firstRack, .kube firstRack (.disappear "db-1-0")]

/-- A batch begins while the pod of the operation terminates; an operation restarts a pod while the pod of
the rolling restart is missing. -/
theorem operation_overlaps : (∀ first second, (servingPair first second).Start twoRacks) ∧
    (∃ s, Lts.run (OperatedState.step twoRacks) (servingPair "new" "old") samePassSteps = some s ∧
      s.opDown = ["db-1-0"] ∧ isBack s.base.pods "db-1-0" = false ∧
      ¬ s.Exclusive twoRacks (.visit (.calm false []))) ∧
    ∃ s listing, Lts.run (OperatedState.step twoRacks) (servingPair "old" "new") rollingSteps = some s ∧
      (s.base.rack 0).down = ["db-1-0"] ∧ (s.base.rack 0).pods = [] ∧
      ¬ s.Exclusive twoRacks (.start (.bare "db" "ce:8") [restartPodNamed "db-2-0"] calmOperation listing) := by
  refine ⟨servingPair_start, ?_, ?_⟩
  · obtain ⟨s, hrun, hdown, hback, htodo, hbegins⟩ : ∃ s, Lts.run (OperatedState.step twoRacks)
        (servingPair "new" "old") samePassSteps = some s ∧ s.opDown = ["db-1-0"] ∧
        isBack s.base.pods "db-1-0" = false ∧ s.opTodo = [] ∧
        (s.base.beginsBatch twoRacks (.visit (.calm false []))).isSome = true := ⟨_, rfl, rfl, rfl, rfl, rfl⟩
    refine ⟨s, hrun, hdown, hback, fun h => ?_⟩
    have := h htodo hbegins "db-1-0" (by rw [hdown]; exact List.mem_cons_self)
    rw [hback] at this
    cases this
  · obtain ⟨s, hrun, hdown, hpods, hbetween, hattempted⟩ : ∃ s, Lts.run (OperatedState.step twoRacks)
        (servingPair "old" "new") rollingSteps = some s ∧ (s.base.rack 0).down = ["db-1-0"] ∧
        (s.base.rack 0).pods = [] ∧ s.Between ∧
        (s.operations (.bare "db" "ce:8") [restartPodNamed "db-2-0"] calmOperation s.base.pods).attempted =
          ["db-2-0"] := ⟨_, rfl, rfl, rfl, by decide, by decide +kernel⟩
    refine ⟨s, s.base.pods, hrun, hdown, hpods, fun h => ?_⟩
    have := h hbetween (List.Perm.refl _) (by rw [hattempted]; simp) 0
    rw [hdown] at this
    cases this

/-- The same pass, with the pod of the operation back and Ready before the racks are visited. -/
def operationHandoverSteps : List (OperatedStep 2) :=
  [.start (.bare "db" "ce:8") [restartPodNamed "db-1-0"] calmOperation (servingPair "new" "old").base.pods, .emitOp,
    .kube firstRack (.disappear "db-1-0"),
    .kube firstRack (.recreate 0 (Pod.serving "db-1-0" "ce:8" "" ⟨"new", "", ""⟩)),
    .visit (.calm false []), .visit (.calm false [])]

instance (s : OperatedState 2) (a : OperatedStep 2) : Decidable (s.Spaced twoRacks a) :=
  match a with
  | .start _ operations _ listing => inferInstanceAs (Decidable
      (operationWaits s.record operations listing = true → ∀ j, (s.base.rack j).Quiet (twoRacks j)))
  | .visit _ => inferInstanceAs (Decidable (∀ i, s.base.queue.head? = some i →
      (∃ p ∈ (s.base.rack i).pods, p.stale (twoRacks i).sts.hashes = true) → ∀ j, (s.base.rack j).Up (twoRacks j)))
  | .emit _ => inferInstanceAs (Decidable True)
  | .emitOp => inferInstanceAs (Decidable True)
  | .kube _ _ => inferInstanceAs (Decidable True)

theorem operationHandoverSteps_spaced : Lts.Along (OperatedState.step twoRacks) (OperatedState.Spaced twoRacks)
    (servingPair "new" "old") operationHandoverSteps := by
  refine .cons rfl (by decide +kernel) (.cons rfl (by decide +kernel) (.cons rfl (by decide +kernel) ?_))
  refine .cons rfl (by decide +kernel) (.cons rfl (by decide +kernel) (.cons rfl (by decide +kernel) trivial))

theorem operation_exclusion_handover : (servingPair "new" "old").Start twoRacks ∧
    Lts.Along (OperatedState.step twoRacks) (OperatedState.Exclusive twoRacks) (servingPair "new" "old")
      operationHandoverSteps :=
  ⟨servingPair_start _ _, operation_exclusion (servingPair_start _ _) operationHandoverSteps_spaced⟩

end Acko
