/-
How often a rolling restart deletes a pod. A deleted pod comes back with the hashes of the template, and a pod with
these hashes is not selected.
-/
import AckoProofs.Restart.Rack

namespace Acko

/-- The pods whose deletion a move carries out. -/
def RackState.deletes (s : RackState) : RackStep → List String
  | .emit => deletedPods (s.todo.take 1)
  | _ => []

/-- The pods that are deleted in a run, in their order. -/
def RackSetup.deletions (rack : RackSetup) : RackState → List RackStep → List String
  | _, [] => []
  | s, a :: l => s.deletes a ++ match s.step rack a with
    | some t => rack.deletions t l
    | none => []

/-- A pod of that name would not be selected: it terminates or is up to date. -/
def RackSetup.Past (rack : RackSetup) (pods : List Pod) (name : String) : Prop :=
  ∀ p ∈ pods, p.name = name → p.deletionTimestamp.isSome ∨ p.stale rack.sts.hashes = false

variable {rack : RackSetup} {s t : RackState} {done : List String}

/-- What a pass deletes is stale, and nothing terminates while it does. -/
theorem RackState.pass_deleted_nodup (hi : s.Inv rack) (hdone : done.Nodup) (hpast : ∀ n ∈ done, rack.Past s.pods n)
    (env : RestartEnv) (checks : MigrationChecks) (cluster : Cluster) :
    (done ++ deletedPods (s.pass rack env checks cluster).effects).Nodup := by
  have hsub := (reconcileRollingRestart_batch env checks cluster rack.rackID rack.sts s.pods).1
  have hdeleted := reconcileRollingRestart_deleted env checks cluster rack.rackID rack.sts s.pods
  have hnames : ((listRackPods s.pods).map (·.name)).Nodup :=
    (((List.perm_insertionSort _ s.pods).map _).nodup_iff).2 hi.nodup
  refine List.nodup_append'.2 ⟨hdone, (hnames.sublist ((hsub.trans List.filter_sublist).map _)).sublist hdeleted, ?_⟩
  intro n hn hmem
  obtain ⟨p, hbatch, rfl⟩ := List.mem_map.1 (hdeleted.subset hmem)
  obtain ⟨hc, hr⟩ := restartInFlightReason_of_batch _ _ _ _ _ _ (List.ne_nil_of_mem hbatch)
  obtain ⟨hlisted, hstale⟩ := List.mem_filter.1 (hsub.subset hbatch)
  have halive := (((restartInFlightReason_eq_none hc).1 hr).1 p hlisted).1
  rcases hpast p.name hn p (mem_listRackPods.1 hlisted) rfl with hterm | hfresh
  · simp [halive] at hterm
  · simp [hfresh] at hstale

theorem RackSetup.Past.kube {n : String} (h : rack.Past s.pods n) {k : KubeStep} (hs : s.kube rack k = some t) :
    rack.Past t.pods n := by
  cases k with
  | disappear name =>
    simp only [RackState.kube] at hs
    split at hs
    · cases hs
      exact fun p hp => h p (List.mem_filter.1 hp).1
    · cases hs
  | recreate ordinal pod =>
    simp only [RackState.kube] at hs
    split at hs
    · rename_i hc
      cases hs
      intro p hp hname
      rcases List.mem_cons.1 hp with rfl | hp
      · exact Or.inr (stale_of_hashes_eq hc.2.2.2.1)
      · exact h p hp hname
    · cases hs
  | report name phase conditions =>
    cases hs
    intro q hq hname
    obtain ⟨p, hp, rfl⟩ := List.mem_map.1 hq
    rw [reporting_name] at hname
    rw [reporting_deletionTimestamp, reporting_stale]
    exact h p hp hname

theorem RackSetup.Past.onPod {n : String} {e : Effect} (he : e.withinPass rack.sts.hashes)
    (h : rack.Past s.pods n ∨ n ∈ deletedPods [e]) : rack.Past (podsAfter s.pods [e]) n := by
  intro q hq hname
  obtain ⟨p, hp, rfl⟩ := List.mem_map.1 hq
  simp only [podAfter_cons, podAfter_nil, onPod_name] at hname ⊢
  rcases h with h | hdeleted
  · rcases h p hp hname with hterm | hfresh
    · exact Or.inl (deletionTimestamp_onPod hterm)
    · exact Or.inr (stale_onPod he hfresh)
  · exact Or.inl (deletedPods_onPod (by rw [hname]; exact hdeleted))

/-- What was deleted and what is planned are distinct throughout. -/
theorem RackSetup.deletions_nodup : ∀ {l : List RackStep} {s t : RackState} {done : List String}, s.Inv rack →
    (done ++ deletedPods s.todo).Nodup → (∀ n ∈ done, rack.Past s.pods n) →
    Lts.run (RackState.step rack) s l = some t → (done ++ rack.deletions s l).Nodup
  | [], s, t, done, _, hnodup, _, _ => by
    rw [RackSetup.deletions, List.append_nil]
    exact hnodup.sublist (List.sublist_append_left _ _)
  | a :: l, s, t, done, hi, hnodup, hpast, h => by
    obtain ⟨u, hu, hrun⟩ := Lts.run_cons.1 h
    have hnext := RackState.step_inv hi hu
    rw [RackSetup.deletions, hu]
    cases a with
    | begin env checks cluster =>
      simp only [RackState.step] at hu
      split at hu
      · cases hu
        have hdone := hnodup.sublist (List.sublist_append_left done _)
        exact deletions_nodup hnext (RackState.pass_deleted_nodup hi hdone hpast env checks cluster) hpast hrun
      · cases hu
    | emit =>
      simp only [RackState.step, RackState.emit] at hu
      split at hu
      · cases hu
      · rename_i e rest htodo
        cases hu
        have he : e.withinPass rack.sts.hashes := hi.within e (by simp [htodo])
        have hdeletes : s.deletes .emit = deletedPods [e] := by rw [RackState.deletes, htodo]; rfl
        rw [hdeletes, ← List.append_assoc]
        refine deletions_nodup hnext ?_ (fun n hn => .onPod he ((List.mem_append.1 hn).imp_left (hpast n))) hrun
        rw [htodo, show e :: rest = [e] ++ rest from rfl, deletedPods_append, ← List.append_assoc] at hnodup
        exact hnodup
    | kube k =>
      have htodo : u.todo = s.todo := by
        cases k <;> simp only [RackState.step, RackState.kube] at hu <;> (try split at hu) <;> cases hu <;> rfl
      exact deletions_nodup hnext (htodo ▸ hnodup) (fun n hn => (hpast n hn).kube hu) hrun

/-- In every run under one template that begins with nothing under way, no pod is deleted twice, and none that is
up to date at the beginning. -/
theorem deleted_at_most_once (hi : s.Inv rack) (htodo : s.todo = [])
    {l : List RackStep} (h : Lts.run (RackState.step rack) s l = some t) :
    (rack.deletions s l).Nodup ∧ ∀ p ∈ s.pods, p.stale rack.sts.hashes = false → p.name ∉ rack.deletions s l := by
  refine ⟨@RackSetup.deletions_nodup rack l s t [] hi (by simp [htodo]) (by simp) h, fun p hp hfresh => ?_⟩
  have hpast : rack.Past s.pods p.name := fun q hq hname =>
    Or.inr (by rwa [List.inj_on_of_nodup_map hi.nodup hq hp hname])
  have hnodup := @RackSetup.deletions_nodup rack l s t [p.name] hi (by simp [htodo]) (by simpa using hpast) h
  exact (List.nodup_cons.1 hnodup).1

theorem deleted_at_most_once_two : RackSetup.two.deletions .twoStale RackStep.firstDelete = ["db-0-1"] ∧
    (RackSetup.two.deletions .twoStale RackStep.firstDelete).Nodup := by
  have hstart : RackState.Start .two .twoStale := ⟨by decide, by decide, by decide, rfl, rfl⟩
  obtain ⟨t, ht⟩ : ∃ t, Lts.run (RackState.step .two) .twoStale RackStep.firstDelete = some t := ⟨_, rfl⟩
  exact ⟨by decide +kernel, (deleted_at_most_once hstart.inv rfl ht).1⟩

end Acko
