/-
The rolling-restart loop over the racks of a cluster (`reconcileCluster`): the racks are visited in
order, each by one pass, and the loop stops at the first rack that restarts or waits. Each pass
looks at its own rack only, so a rack with nothing left to restart does not hold back the next
one, although its last pod may still be down.
-/
import AckoProofs.Restart.Rack
import Mathlib.Data.Fin.Basic

namespace Acko

/-! ## The system -/

/-- The state of a cluster with `n` racks: the racks, the cluster object of the current loop, the
racks the loop has still to visit, and the failure states of the migration check. -/
structure ClusterState (n : Nat) where
  rack : Fin n → RackState
  cluster : Cluster
  queue : List (Fin n)
  checks : MigrationChecks

/-- The moves of a cluster: a loop starts, the next rack is visited, the next call for a rack
takes effect, or Kubernetes moves a pod of a rack. -/
inductive ClusterStep (n : Nat)
  | start (cluster : Cluster)
  | visit (env : RestartEnv)
  | emit (i : Fin n)
  | kube (i : Fin n) (k : KubeStep)

section System

variable {n : Nat} (racks : Fin n → RackSetup)

def ClusterState.Idle (s : ClusterState n) : Prop := ∀ i, (s.rack i).todo = []

instance (s : ClusterState n) : Decidable s.Idle := inferInstanceAs (Decidable (∀ i, (s.rack i).todo = []))

def ClusterState.pass (s : ClusterState n) (i : Fin n) (env : RestartEnv) : PassOutcome :=
  (s.rack i).pass (racks i) env s.checks s.cluster

/-- The loop goes on to the next rack only after a pass that neither restarts, nor waits, nor
fails. -/
def goesOn (result : Except String Bool) : Bool :=
  match result with
  | .ok restarted => !restarted
  | .error _ => false

variable (s : ClusterState n)

def ClusterState.setRack (i : Fin n) (r : RackState) : ClusterState n :=
  { s with rack := Function.update s.rack i r }

def ClusterState.visit (env : RestartEnv) : Option (ClusterState n) :=
  match s.queue with
  | [] => none
  | i :: rest =>
    if s.Idle then
      let out := s.pass racks i env
      some { (s.setRack i { s.rack i with todo := out.effects }) with
        queue := if goesOn out.result then rest else []
        checks := out.checks }
    else none

def ClusterState.step : ClusterStep n → Option (ClusterState n)
  | .start cluster => if s.Idle ∧ s.queue = [] then some { s with cluster, queue := List.finRange n } else none
  | .visit env => s.visit racks env
  | .emit i => (s.rack i).emit.map (s.setRack i)
  | .kube i k => ((s.rack i).kube (racks i) k).map (s.setRack i)

def ClusterState.beginsBatch : ClusterStep n → Option (Fin n)
  | .visit env => match s.queue with
    | [] => none
    | i :: _ => if s.Idle ∧ (s.pass racks i env).batch ≠ [] then some i else none
  | _ => none

/-! ## Exclusion -/

/-- A move that begins a batch in a rack finds every pod deleted in another rack back and Ready. -/
def ClusterState.Exclusive (a : ClusterStep n) : Prop :=
  ∀ i, s.beginsBatch racks a = some i → ∀ j ≠ i, (s.rack j).down = []

/-- All pods of the rack exist, none terminates, and each one that is not stale is Ready. -/
structure RackState.Quiet (rack : RackSetup) (s : RackState) : Prop where
  all : rack.size ≤ s.pods.length
  alive : ∀ p ∈ s.pods, p.deletionTimestamp = none
  ready : ∀ p ∈ s.pods, p.stale rack.sts.hashes = false → isPodReady p = true

instance (rack : RackSetup) (s : RackState) : Decidable (s.Quiet rack) :=
  decidable_of_iff (rack.size ≤ s.pods.length ∧ (∀ p ∈ s.pods, p.deletionTimestamp = none) ∧
    ∀ p ∈ s.pods, p.stale rack.sts.hashes = false → isPodReady p = true)
    ⟨fun h => ⟨h.1, h.2.1, h.2.2⟩, fun h => ⟨h.all, h.alive, h.ready⟩⟩

/-- A visit of a rack that has a stale pod finds every other rack quiet. -/
def ClusterState.OthersQuiet : ClusterStep n → Prop
  | .visit _ => ∀ i, s.queue.head? = some i → (∃ p ∈ (s.rack i).pods, p.stale (racks i).sts.hashes = true) →
      ∀ j ≠ i, (s.rack j).Quiet (racks j)
  | _ => True

theorem ClusterState.stale_of_beginsBatch {s : ClusterState n} {a : ClusterStep n} {i : Fin n}
    (h : s.beginsBatch racks a = some i) :
    (∃ env, a = .visit env) ∧ s.queue.head? = some i ∧ ∃ p ∈ (s.rack i).pods, p.stale (racks i).sts.hashes = true := by
  cases a with
  | visit env =>
    simp only [ClusterState.beginsBatch] at h
    split at h
    · cases h
    · rename_i k rest hq
      split at h
      · rename_i hb
        cases h
        refine ⟨⟨env, rfl⟩, by rw [hq]; rfl, ?_⟩
        obtain ⟨p, hp⟩ := List.exists_mem_of_ne_nil _ hb.2
        have hp := (reconcileRollingRestart_batch env s.checks s.cluster (racks i).rackID (racks i).sts
          (s.rack i).pods).1.subset hp
        obtain ⟨hp, hstale⟩ := List.mem_filter.1 hp
        exact ⟨p, mem_listRackPods.1 hp, hstale⟩
      · cases h
  | _ => cases h

variable {racks}

theorem ClusterState.setRack_forall {P : Fin n → RackState → Prop} {s : ClusterState n} (h : ∀ j, P j (s.rack j))
    {i : Fin n} {r : RackState} (hr : P i r) : ∀ j, P j ((s.setRack i r).rack j) := by
  intro j
  by_cases hj : j = i
  · subst hj
    simpa [ClusterState.setRack] using hr
  · simpa [ClusterState.setRack, hj] using h j

theorem ClusterState.step_inv {s t : ClusterState n} {a : ClusterStep n} (hi : ∀ j, (s.rack j).Inv (racks j))
    (h : s.step racks a = some t) : ∀ j, (t.rack j).Inv (racks j) := by
  cases a with
  | start cluster =>
    simp only [ClusterState.step] at h
    split at h
    · cases h; exact hi
    · cases h
  | visit env =>
    simp only [ClusterState.step, ClusterState.visit] at h
    split at h
    · cases h
    · rename_i i rest _
      split at h
      · cases h
        exact ClusterState.setRack_forall (P := fun j r => r.Inv (racks j)) hi
          (RackState.begin_inv (hi i) env s.checks s.cluster)
      · cases h
  | emit i =>
    obtain ⟨r, hr, rfl⟩ := Option.map_eq_some_iff.1 h
    exact ClusterState.setRack_forall (P := fun j r => r.Inv (racks j)) hi (RackState.emit_inv (hi i) hr)
  | kube i k =>
    obtain ⟨r, hr, rfl⟩ := Option.map_eq_some_iff.1 h
    exact ClusterState.setRack_forall (P := fun j r => r.Inv (racks j)) hi (RackState.kube_inv (hi i) hr)

/-- Exclusion across racks holds in every run in which a rack with a stale pod is only visited
while every other rack is quiet, from any state that the racks can be in. -/
theorem cross_rack_exclusion {s : ClusterState n} (hs : ∀ i, (s.rack i).Inv (racks i)) {l : List (ClusterStep n)}
    (hquiet : Lts.Along (ClusterState.step racks) (ClusterState.OthersQuiet racks) s l) :
    Lts.Along (ClusterState.step racks) (ClusterState.Exclusive racks) s l := by
  refine Lts.Along.of_invariant (I := fun u => ∀ j, (u.rack j).Inv (racks j)) ?_ ?_ hs hquiet
  · intro u a v hu _ hv
    exact ClusterState.step_inv hu hv
  · intro u a hu hq i hi j hj
    obtain ⟨⟨env, rfl⟩, hhead, hstale⟩ := ClusterState.stale_of_beginsBatch racks hi
    obtain ⟨hall, halive, hready⟩ := hq i hhead hstale j hj
    exact (hu j).down_eq_nil (fun p hp => ⟨halive p hp, hready p hp⟩) hall

end System

/-! ## An overlap -/

def twoRacks (i : Fin 2) : RackSetup :=
  ⟨i.val + 1, ⟨statefulSetName "db" (i.val + 1), some 1, ⟨"new", "", ""⟩, .parallel⟩, 1, 1, rfl⟩

/-- Both pods are Ready on an old config. -/
def twoRacksStale : ClusterState 2 where
  rack i := ⟨[Pod.serving (podName (statefulSetName "db" (i.val + 1)) 0) "ce:8" "" ⟨"old", "", ""⟩], [], []⟩
  cluster := .bare "db" "ce:8"
  queue := []
  checks := []

theorem twoRacksStale_start : ∀ i, (twoRacksStale.rack i).Start (twoRacks i) := by
  intro i
  refine ⟨?_, ?_, ?_, rfl, rfl⟩
  · decide +revert
  · decide +revert
  · decide +revert

/-- The first loop deletes the pod of the first rack, and the pod goes away; the second loop finds
nothing to restart there and goes on to the second rack. -/
def overlapSteps : List (ClusterStep 2) :=
  [.start (.bare "db" "ce:8"), .visit (.calm false []), .emit 0, .kube 0 (.disappear "db-1-0"),
    .start (.bare "db" "ce:8"), .visit (.calm false [])]

/-- The second rack begins its batch while the only pod of the first rack is missing. -/
theorem cross_rack_overlap : (∀ i, (twoRacksStale.rack i).Start (twoRacks i)) ∧
    ∃ s, Lts.run (ClusterState.step twoRacks) twoRacksStale overlapSteps = some s ∧
      s.beginsBatch twoRacks (.visit (.calm false [])) = some 1 ∧
      (s.rack 0).pods = [] ∧ (s.rack 0).down = ["db-1-0"] ∧
      ¬ s.Exclusive twoRacks (.visit (.calm false [])) := by
  refine ⟨twoRacksStale_start, ?_⟩
  obtain ⟨s, hs, hb, hp, hd⟩ : ∃ s, Lts.run (ClusterState.step twoRacks) twoRacksStale overlapSteps = some s ∧
      s.beginsBatch twoRacks (.visit (.calm false [])) = some 1 ∧ (s.rack 0).pods = [] ∧
      (s.rack 0).down = ["db-1-0"] := ⟨_, rfl, rfl, rfl, rfl⟩
  refine ⟨s, hs, hb, hp, hd, ?_⟩
  intro h
  have := h 1 hb 0 (by decide)
  rw [hd] at this
  cases this

/-- The same two loops, with the pod of the first rack back and Ready before the second. -/
def handoverSteps : List (ClusterStep 2) :=
  [.start (.bare "db" "ce:8"), .visit (.calm false []), .emit 0, .kube 0 (.disappear "db-1-0"),
    .kube 0 (.recreate 0 (Pod.serving "db-1-0" "ce:8" "" ⟨"new", "", ""⟩)),
    .start (.bare "db" "ce:8"), .visit (.calm false []), .visit (.calm false [])]

instance (s : ClusterState 2) (a : ClusterStep 2) : Decidable (s.OthersQuiet twoRacks a) :=
  match a with
  | .visit _ => inferInstanceAs (Decidable (∀ i, s.queue.head? = some i →
      (∃ p ∈ (s.rack i).pods, p.stale (twoRacks i).sts.hashes = true) → ∀ j ≠ i, (s.rack j).Quiet (twoRacks j)))
  | .start _ => inferInstanceAs (Decidable True)
  | .emit _ => inferInstanceAs (Decidable True)
  | .kube _ _ => inferInstanceAs (Decidable True)

theorem handoverSteps_quiet :
    Lts.Along (ClusterState.step twoRacks) (ClusterState.OthersQuiet twoRacks) twoRacksStale handoverSteps := by
  refine .cons rfl (by decide) (.cons rfl (by decide) (.cons rfl (by decide) (.cons rfl (by decide) ?_)))
  refine .cons rfl (by decide) (.cons rfl (by decide) (.cons rfl (by decide) (.cons rfl (by decide) trivial)))

theorem cross_rack_exclusion_handover : (∀ i, (twoRacksStale.rack i).Start (twoRacks i)) ∧
    Lts.Along (ClusterState.step twoRacks) (ClusterState.Exclusive twoRacks) twoRacksStale handoverSteps :=
  ⟨twoRacksStale_start, cross_rack_exclusion (fun i => (twoRacksStale_start i).inv) handoverSteps_quiet⟩

end Acko
