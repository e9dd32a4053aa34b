/-
What the published `MigrationComplete` condition rests on. The writer sets it to a default before it asks
the nodes, and asks them only in a completed pass that connects; each status in the history is kept with
the nodes that were asked for it.
-/
import AckoProofs.Lib.Run
import AckoProofs.Status.Publish

namespace Acko.Publish

/-! ## Evidence -/

def lastQuery (history : List (Shared.Entry StatusEdit StatusEvent)) : Option (List (Option AeroNode)) :=
  history.foldl (fun query entry => match entry with
    | .edit _ => query
    | .event (.published asked) => asked) none

variable {history : List (Shared.Entry StatusEdit StatusEvent)}

theorem lastQuery_edit {d : StatusEdit} : lastQuery (history ++ [.edit d]) = lastQuery history := by
  unfold lastQuery
  rw [List.foldl_append]
  rfl

theorem lastQuery_published {query : Option (List (Option AeroNode))} :
    lastQuery (history ++ [.event (.published query)]) = query := by
  unfold lastQuery
  rw [List.foldl_append]
  rfl

variable (cluster : PublishedCluster)

/-- A status says that migration is complete only where every node has said so when asked. -/
def Justified (query : Option (List (Option AeroNode))) : Prop :=
  cluster.isTrue .migrationComplete = true →
    ∃ nodes, query = some nodes ∧ ∀ node, some node ∈ nodes → node.Settled

theorem isTrue_applyStatusEdit (d : StatusEdit) :
    (applyStatusEdit cluster d).isTrue .migrationComplete = cluster.isTrue .migrationComplete := by
  cases d with
  | spec s => exact isTrue_congr rfl
  | phase phase reason => exact isTrue_congr rfl
  | podStatus podName ps => exact isTrue_congr rfl
  | reconcileHealthy status reason message => exact isTrue_setCondition_of_ne (by decide)
  | dynamicConfigDegraded message => exact isTrue_setCondition_of_ne (by decide)

/-- What a status write has to see for its condition to be founded: a restart is reported as in
progress, or the pass has completed and reaches a node with a host; and then every node is recorded
under a host name of its own. -/
structure View.Sighted (view : View) (phase : Phase) (opts : StatusUpdateOpts) : Prop where
  heard : opts.restartInProgress = true ∨
    phase = .completed ∧ ∃ nodes, view.client = .ok nodes ∧ hostNames nodes ≠ []
  recorded : phase = .completed → ∀ nodes, view.client = .ok nodes →
    (∀ node, some node ∈ nodes → node.host ≠ none) ∧ (hostNames nodes).Nodup

section Evidence

variable {configHash : Option Config → String} {view : View} {phase : Phase} {reason : String}
  {opts : StatusUpdateOpts} {cluster latest : PublishedCluster} {readyCount : Int} {draft : Draft}

theorem isTrue_prepareStatus (h : prepareStatus configHash view phase reason opts cluster = .ok (latest, readyCount)) :
    latest.isTrue .migrationComplete = !opts.restartInProgress := by
  unfold prepareStatus at h
  split at h
  · cases h
  · cases h
    exact isTrue_setMigrationDefault

/-- A draft without a query has the default; one with a query has what the nodes said, if one was
recorded. -/
theorem finishStatus_cases (h : finishStatus view phase latest = some draft) :
    (draft.query = none ∧ (phase = .completed → ∀ nodes, view.client ≠ .ok nodes) ∧
      draft.cluster.isTrue .migrationComplete = latest.isTrue .migrationComplete) ∨
    ∃ nodes, phase = .completed ∧ view.client = .ok nodes ∧ draft.query = some nodes ∧
      ((hostNames nodes = [] ∧ draft.cluster.isTrue .migrationComplete = latest.isTrue .migrationComplete) ∨
        draft.cluster.isTrue .migrationComplete = !anyMigrating (nodes.foldl recordNode ([], 0)).1) := by
  unfold finishStatus at h
  split at h
  · rename_i hphase
    unfold enrichStatusWithAerospikeInfo at h
    cases hclient : view.client with
    | error err =>
      rw [hclient] at h
      cases h
      exact Or.inl ⟨rfl, by simp, isTrue_congr rfl⟩
    | ok nodes =>
      rw [hclient] at h
      simp only at h
      split at h
      · cases h
      · rename_i infos _
        cases h
        refine Or.inr ⟨nodes, hphase, rfl, rfl, ?_⟩
        rcases updateMigrationStatus_cases view.now nodes (withInfo infos (clusterSize nodes) (completed view latest))
          with ⟨heq, hnames⟩ | ⟨_, hcond⟩
        · refine Or.inl ⟨hnames, ?_⟩
          rw [heq]
          exact isTrue_congr rfl
        · exact Or.inr hcond
  · rename_i hphase
    cases h
    exact Or.inl ⟨rfl, fun hc => absurd hc hphase, rfl⟩

theorem finishStatus_justified (hsighted : view.Sighted phase opts)
    (hprepare : prepareStatus configHash view phase reason opts cluster = .ok (latest, readyCount))
    (hfinish : finishStatus view phase latest = some draft) : Justified draft.cluster draft.query := by
  have hlatest := isTrue_prepareStatus hprepare
  intro htrue
  rcases finishStatus_cases hfinish with ⟨_, hclient, hcond⟩ | ⟨nodes, hphase, hclient, hquery, hcond⟩
  · -- the default is published: it has to be `False`
    rw [hcond, hlatest, Bool.not_eq_true'] at htrue
    rcases hsighted.heard with hrestart | ⟨hphase, nodes, hok, _⟩
    · rw [hrestart] at htrue
      cases htrue
    · exact absurd hok (hclient hphase nodes)
  · obtain ⟨hhosts, hnodup⟩ := hsighted.recorded hphase nodes hclient
    rcases hcond with ⟨hnames, hcond⟩ | hcond
    · -- no node has a host, so the query leaves the default
      rw [hcond, hlatest, Bool.not_eq_true'] at htrue
      rcases hsighted.heard with hrestart | ⟨_, nodes', hok, hnonempty⟩
      · rw [hrestart] at htrue
        cases htrue
      · rw [hclient] at hok
        cases hok
        exact absurd hnames hnonempty
    · rw [hcond, Bool.not_eq_true', anyMigrating_counts hnodup] at htrue
      refine ⟨nodes, hquery, fun node hmem => htrue node (mem_hosted.2 ⟨hmem, ?_⟩)⟩
      exact Option.ne_none_iff_exists'.1 (hhosts node hmem)

end Evidence

/-! ## Runs -/

/-- The published condition is founded on the query of the last status written. -/
def Founded (history : List (Shared.Entry StatusEdit StatusEvent)) : Prop :=
  Justified cluster (lastQuery history)

theorem founded_keptByEdits : Shared.KeptByEdits applyStatusEdit (fun _ => True) Founded := by
  intro o l d _ h
  unfold Founded Justified at *
  rw [lastQuery_edit, isTrue_applyStatusEdit]
  exact h

section Runs

variable (configHash : Option Config → String)

/-- A move: a write of others, or a call of the status writer with what its attempts see and what
happens between its calls. -/
inductive StatusStep
  | edit (d : StatusEdit)
  | update (views : Nat → View) (phase : Phase) (reason : String) (opts : StatusUpdateOpts)
      (turns : List (Shared.Turn StatusEdit))

def statusStep (w : StatusWorld) : StatusStep → Option StatusWorld
  | .edit d => some (w.editAll applyStatusEdit [d])
  | .update views phase reason opts turns =>
    some (updateStatusAndPhase configHash views phase reason opts { w with turns := turns }).2

def StatusWorld.start : StatusWorld := ⟨cluster, 0, [], []⟩

/-- Every attempt of the move sees what it has to. -/
def StatusStep.Sighted : StatusStep → Prop
  | .edit _ => True
  | .update views phase _ opts _ => ∀ k, (views k).Sighted phase opts

variable {configHash} {views : Nat → View} {phase : Phase} {reason : String} {opts : StatusUpdateOpts}

section Keeps

variable {D : Draft → Prop} {P : PublishedCluster → List (Shared.Entry StatusEdit StatusEvent) → Prop}

/-- What an attempt of the writer keeps: the drafts it writes, and the one it computes after a conflict, are
as `D` says. -/
theorem persistStatus_keeps (hedits : Shared.KeptByEdits applyStatusEdit (fun _ => True) P)
    (hput : ∀ draft o l, D draft → P o l → P draft.cluster (l ++ [.event (.published draft.query)]))
    (hobserved : ∀ draft observed, D draft → D (withObserved draft observed))
    (hdraft : ∀ k cluster latest readyCount draft,
      prepareStatus configHash (views k) phase reason opts cluster = .ok (latest, readyCount) →
      finishStatus (views k) phase latest = some draft → D draft)
    (observed : Nat) (attempt : Attempt) :
    Shared.Triple (fun w => D attempt.draft ∧ Shared.Within (fun _ => True) P w)
      (persistStatus configHash views phase reason opts observed attempt)
      fun out w => Shared.Within (fun _ => True) P w ∧
        (out.1 = .error .conflict → D out.2.draft ∧ Shared.Within (fun _ => True) P w) := by
  refine .assume fun hD => ?_
  have hwrite : Shared.Keeps (fun _ => True) P (Shared.put applyStatusEdit attempt.version attempt.draft.cluster
      [.published attempt.draft.query]) := .put hedits fun o l h => hput attempt.draft o l hD h
  refine .bind hwrite ?_
  rintro (err | _)
  · cases err with
    | failed err => exact .pure fun w hw => ⟨hw, by simp⟩
    | conflict =>
      refine .bind (Shared.Keeps.get hedits) ?_
      rintro (err | refetched)
      · -- should the read answer with a conflict, the same draft is tried again
        exact .pure fun w hw => ⟨hw, fun _ => ⟨hD, hw⟩⟩
      · simp only
        split
        · exact .pure fun w hw => ⟨hw, by simp⟩
        · rename_i latest readyCount hprepare
          split
          · exact .pure fun w hw => ⟨hw, by simp⟩
          · rename_i draft hfinish
            have hnext := hobserved draft observed (hdraft _ _ _ _ _ hprepare hfinish)
            exact .pure fun w hw => ⟨hw, fun _ => ⟨hnext, hw⟩⟩
  · exact .pure fun w hw => ⟨hw, by simp⟩

theorem updateStatusAndPhase_keeps (hedits : Shared.KeptByEdits applyStatusEdit (fun _ => True) P)
    (hput : ∀ draft o l, D draft → P o l → P draft.cluster (l ++ [.event (.published draft.query)]))
    (hobserved : ∀ draft observed, D draft → D (withObserved draft observed))
    (hdraft : ∀ k cluster latest readyCount draft,
      prepareStatus configHash (views k) phase reason opts cluster = .ok (latest, readyCount) →
      finishStatus (views k) phase latest = some draft → D draft) :
    Shared.Keeps (fun _ => True) P (updateStatusAndPhase configHash views phase reason opts) := by
  refine .bind (Shared.Keeps.get hedits) ?_
  rintro (err | copy)
  · exact .pure
  · simp only
    split
    · exact .pure
    · rename_i latest readyCount hprepare
      split
      · exact .pure
      · split
        · exact .pure
        · rename_i draft hfinish
          have hfirst := hdraft 0 _ _ _ _ hprepare hfinish
          refine (Shared.retryOnConflict_triple (persistStatus_keeps hedits hput hobserved hdraft _) _ _).conseq ?_
            fun _ _ h => h
          exact fun w hw => ⟨hfirst, hw⟩

end Keeps

theorem updateStatusAndPhase_founded (hsighted : ∀ k, (views k).Sighted phase opts) :
    Shared.Keeps (fun _ => True) Founded (updateStatusAndPhase configHash views phase reason opts) := by
  refine updateStatusAndPhase_keeps (D := fun draft => Justified draft.cluster draft.query) founded_keptByEdits ?_
    ?_ ?_
  · intro draft o l hdraft _
    show Justified draft.cluster (lastQuery (l ++ [.event (.published draft.query)]))
    rw [lastQuery_published]
    exact hdraft
  · intro draft observed hdraft
    exact hdraft
  · intro k cluster latest readyCount draft hprepare hfinish
    exact finishStatus_justified (hsighted k) hprepare hfinish

theorem statusStep_founded {w w' : StatusWorld} {a : StatusStep} (hw : Founded w.obj w.history) (ha : a.Sighted)
    (hs : statusStep configHash w a = some w') : Founded w'.obj w'.history := by
  cases a with
  | edit d =>
    cases hs
    exact founded_keptByEdits.editAll [d] w (fun _ _ => trivial) hw
  | update views phase reason opts turns =>
    cases hs
    exact (updateStatusAndPhase_founded ha { w with turns := turns } ⟨hw, fun _ _ _ _ => trivial⟩).1

/-- Where every status write sees what it has to, a published `MigrationComplete` is founded on what
every node has said to the query of its write. -/
theorem migration_complete_founded {cluster : PublishedCluster} {l : List StatusStep} {w : StatusWorld}
    (hstart : cluster.isTrue .migrationComplete = false) (hl : ∀ a ∈ l, a.Sighted)
    (hrun : Lts.run (statusStep configHash) (StatusWorld.start cluster) l = some w) : Founded w.obj w.history := by
  have hfounded : Founded (StatusWorld.start cluster).obj (StatusWorld.start cluster).history := by
    intro h
    rw [show (StatusWorld.start cluster).obj = cluster from rfl, hstart] at h
    cases h
  refine Lts.run_invariant (I := fun w => Founded w.obj w.history) ?_ hfounded
    (Lts.Along.of_forall (C := fun _ a => StatusStep.Sighted a) fun a ha _ => hl a ha) hrun
  intro w a w' hw ha hs
  exact statusStep_founded hw ha hs

end Runs

def completedWith (client : Except String (List (Option AeroNode))) : StatusStep :=
  .update (fun _ => ⟨.ok [], 0, client⟩) .completed "" .plain []

def twoNodes (migrating : String) : List (Option AeroNode) :=
  [some (.counting "a" (some "10.0.0.1") "0"), some (.counting "b" (some "10.0.0.2") migrating)]

/-- A node still migrates in the first pass and no longer in the second. -/
def settledPass : List StatusStep := [completedWith (.ok (twoNodes "7")), completedWith (.ok (twoNodes "0"))]

theorem settled_pass_founded :
    ∃ w, Lts.run (statusStep fun _ => "") (StatusWorld.start (.fresh "c" "")) settledPass = some w ∧
      w.obj.isTrue .migrationComplete = true ∧ Founded w.obj w.history := by
  have hhosts : ∀ migrating node, some node ∈ twoNodes migrating → node.host ≠ none := by
    intro migrating node hnode
    simp only [twoNodes, List.mem_cons, List.not_mem_nil, or_false, Option.some.injEq] at hnode
    rcases hnode with rfl | rfl <;> simp [AeroNode.counting]
  have hsighted : ∀ migrating, (completedWith (.ok (twoNodes migrating))).Sighted := by
    intro migrating k
    refine ⟨Or.inr ⟨rfl, _, rfl, List.cons_ne_nil _ _⟩, ?_⟩
    rintro - nodes ⟨⟩
    exact ⟨hhosts migrating, show ["10.0.0.1", "10.0.0.2"].Nodup by decide⟩
  refine ⟨_, rfl, by decide +kernel, @migration_complete_founded (fun _ => "") (.fresh "c" "") settledPass _ rfl ?_ rfl⟩
  exact List.forall_mem_cons.2 ⟨hsighted "7", List.forall_mem_singleton.2 (hsighted "0")⟩

/-- The client does not connect, and the completed pass publishes the default. -/
theorem unasked_complete :
    ∃ w, Lts.run (statusStep fun _ => "") (StatusWorld.start (.fresh "c" "")) [completedWith (.error
        "connection refused")] = some w ∧
      w.obj.isTrue .migrationComplete = true ∧ lastQuery w.history = none ∧ ¬ Founded w.obj w.history := by
  have htrue : ((Lts.run (statusStep fun _ => "") (StatusWorld.start (.fresh "c" "")) [completedWith (.error
      "connection refused")]).map fun w => (w.obj.isTrue .migrationComplete, (lastQuery w.history).isNone)) =
      some (true, true) := by decide +kernel
  obtain ⟨w, hrun, hw⟩ := Option.map_eq_some_iff.1 htrue
  simp only [Prod.mk.injEq, Option.isNone_iff_eq_none] at hw
  refine ⟨w, hrun, hw.1, hw.2, fun h => ?_⟩
  obtain ⟨nodes, hquery, _⟩ := h hw.1
  rw [hw.2] at hquery
  cases hquery

end Acko.Publish
