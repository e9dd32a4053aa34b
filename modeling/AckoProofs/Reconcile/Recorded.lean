/-
What the status says was done (`updateStatusAndPhase`): the generation, the config and the spec that
are recorded at the end of a pass are those of the object as it is read then, which are the ones the
pass has worked on unless the spec was edited in between.
-/
import AckoProofs.Lib.Run
import AckoProofs.Reconcile.Frame

namespace Acko

open Shared (Keeps Copy Triple Within)

/-! ## Records -/

structure ObjectStatus.RecordsSpec (st : ObjectStatus) (generation : Nat) (spec : ObjectSpec) : Prop where
  observed : st.observedGeneration = generation
  config : st.aerospikeConfig = spec.spec.aerospikeConfig
  applied : st.phase = .completed → st.appliedSpec = some spec

def RecordsProcessed (l : List OpEntry) : Prop :=
  ∀ before st after, l = before ++ .event (.recorded st) :: after →
    ∃ generation spec, .event (.processed generation spec) ∈ before ∧ st.RecordsSpec generation spec

theorem RecordsProcessed.entry {l : List OpEntry} (h : RecordsProcessed l) {x : OpEntry}
    (hx : ∀ st, x ≠ .event (.recorded st)) : RecordsProcessed (l ++ [x]) := by
  intro before st after hl
  rcases Shared.snoc_split hl with ⟨_, he, _⟩ | ⟨rest, rfl, hrest⟩
  · exact absurd he.symm (hx st)
  · exact h before st rest hrest

theorem RecordsProcessed.recorded {l : List OpEntry} (h : RecordsProcessed l) {st : ObjectStatus} {generation : Nat}
    {spec : ObjectSpec} (hp : .event (.processed generation spec) ∈ l) (hst : st.RecordsSpec generation spec) :
    RecordsProcessed (l ++ [.event (.recorded st)]) := by
  intro before st' after hl
  rcases Shared.snoc_split hl with ⟨rfl, he, _⟩ | ⟨rest, rfl, hrest⟩
  · cases he
    exact ⟨generation, spec, hp, hst⟩
  · exact h before st' rest hrest

/-! ## What holds between the calls -/

/-- An edit of the status or a deletion. -/
def UserEdit.KeepsSpec (d : UserEdit) : Prop := ∀ s, d ≠ .spec s

/-- The object has the spec that the pass has read; `processed` says that the pass has got to it. -/
structure Reading (processed : Prop) (generation : Nat) (spec : ObjectSpec) (o : ClusterObject) (l : List OpEntry) :
    Prop where
  records : RecordsProcessed l
  sameGeneration : o.generation = generation
  sameSpec : o.spec = spec
  done : processed → .event (.processed generation spec) ∈ l

section Reading

variable {processed : Prop} {generation : Nat} {spec : ObjectSpec}

theorem Reading.write {o o' : ClusterObject} {l : List OpEntry} (h : Reading processed generation spec o l)
    {x : OpEntry} (hgen : o'.generation = o.generation) (hspec : o'.spec = o.spec)
    (hx : ∀ st, x ≠ .event (.recorded st)) : Reading processed generation spec o' (l ++ [x]) :=
  ⟨h.records.entry hx, hgen.trans h.sameGeneration, hspec.trans h.sameSpec, fun hp =>
    List.mem_append_left _ (h.done hp)⟩

theorem Reading.edits :
    Shared.KeptByEdits applyEdit UserEdit.KeepsSpec (Reading processed generation spec) := by
  rintro o l (s | s | _) hd h
  · exact absurd rfl (hd s)
  · exact h.write rfl rfl (by simp)
  · exact h.write rfl rfl (by simp)

theorem Reading.kept : RestartKept UserEdit.KeepsSpec (Reading processed generation spec) where
  edits := Reading.edits
  phase _ _ _ _ _ h := h.write rfl rfl (by simp)
  work _ _ e he h := by
    refine h.write rfl rfl ?_
    rintro st ⟨⟩
    cases he
  degraded o l base reason h := by
    unfold degradedEvents
    split
    · rw [List.map_cons, List.map_singleton, List.append_cons]
      have hphase := @Reading.write _ _ _ o (degradedPatch base reason o) l h
        (.event (.persisted (degradedPatch base reason o).status.phase)) rfl rfl (by simp)
      exact hphase.write rfl rfl (by simp)
    · exact h.write rfl rfl (by simp)

theorem Reading.modify {f : ClusterObject → Option (ClusterObject × List PassEvent)}
    (hf : ∀ o new events, f o = some (new, events) → new.generation = o.generation ∧ new.spec = o.spec ∧
      (events = [] ∨ ∃ phase, events = [.persisted phase])) :
    Keeps UserEdit.KeepsSpec (Reading processed generation spec) (Shared.modify applyEdit f) := by
  refine .modify Reading.edits ?_
  intro o l new events h hnew
  obtain ⟨hgen, hspec, rfl | ⟨phase, rfl⟩⟩ := hf o new events hnew
  · rw [List.map_nil, List.append_nil]
    exact ⟨h.records, hgen.trans h.sameGeneration, hspec.trans h.sameSpec, h.done⟩
  · exact h.write hgen hspec (by simp)

end Reading

/-! ## The status write -/

section Status

variable {generation : Nat} {spec : ObjectSpec}

/-- An object with the spec that the pass has processed, and a status that records it. -/
structure ClusterObject.Recording (o : ClusterObject) (generation : Nat) (spec : ObjectSpec) : Prop where
  sameGeneration : o.generation = generation
  sameSpec : o.spec = spec
  status : o.status.RecordsSpec generation spec

theorem publishStatus_recording {o : ClusterObject} (hgen : o.generation = generation) (hspec : o.spec = spec)
    (phase : Phase) (reason : String) (pods : List Pod) (now : Time) :
    (publishStatus phase reason pods now o).Recording generation spec := by
  subst hgen hspec
  unfold publishStatus
  simp only
  split
  · exact ⟨rfl, rfl, rfl, rfl, fun _ => rfl⟩
  · rename_i hphase
    exact ⟨rfl, rfl, rfl, rfl, fun h => absurd h hphase⟩

/-- Written by a pass that has processed the spec, a recording object keeps the records right. -/
theorem Reading.record {o new : ClusterObject} {l : List OpEntry} (h : Reading True generation spec o l)
    (hnew : new.Recording generation spec) (phase : Phase) :
    Reading True generation spec new (l ++ [.event (.persisted phase), .event (.recorded new.status)]) := by
  have hphase : Reading True generation spec new (l ++ [.event (.persisted phase)]) :=
    h.write (hnew.sameGeneration.trans h.sameGeneration.symm) (hnew.sameSpec.trans h.sameSpec.symm) (by simp)
  rw [List.append_cons]
  exact ⟨hphase.records.recorded (hphase.done trivial) hnew.status, hnew.sameGeneration, hnew.sameSpec,
    fun hp => List.mem_append_left _ (hphase.done hp)⟩

theorem persistStatus_recording (env : StatusEnv) (phase : Phase) (reason : String) {observed : Nat}
    (hobs : observed = generation) (attempt : Copy ClusterObject × Nat) :
    Triple (fun w => attempt.1.val.Recording generation spec ∧
        Within UserEdit.KeepsSpec (Reading True generation spec) w)
      (persistStatus env phase reason observed attempt) fun out w =>
        Within UserEdit.KeepsSpec (Reading True generation spec) w ∧
          (out.1 = .error .conflict → out.2.1.val.Recording generation spec ∧
            Within UserEdit.KeepsSpec (Reading True generation spec) w) := by
  obtain ⟨latest, k⟩ := attempt
  refine .assume fun hlatest => ?_
  refine Shared.Triple.bind (Shared.Keeps.put Reading.edits fun o l h => h.record hlatest phase) ?_
  rintro ((_ | err) | _)
  · -- the object as it is read after the conflict still has the spec
    refine Shared.Triple.bind (Shared.get_within Reading.edits) ?_
    rintro (err | refetched)
    · exact .pure fun w hw => ⟨hw.1, fun _ => ⟨hlatest, hw.1⟩⟩
    · simp only
      cases env.pods k with
      | error err => exact .pure fun w hw => ⟨hw.1, fun h => nomatch h⟩
      | ok pods =>
        refine .pure fun w hw => ⟨hw.1, fun _ => ⟨?_, hw.1⟩⟩
        obtain ⟨l, hl⟩ := hw.2 refetched rfl
        have hnext := publishStatus_recording hl.sameGeneration hl.sameSpec phase reason pods env.now
        exact ⟨hnext.sameGeneration, hnext.sameSpec, hobs, hnext.status.config, hnext.status.applied⟩
  · exact .pure fun w hw => ⟨hw, fun h => nomatch h⟩
  · exact .pure fun w hw => ⟨hw, fun h => nomatch h⟩

theorem updateStatusAndPhase_recording (env : StatusEnv) (phase : Phase) (reason : String) :
    Keeps UserEdit.KeepsSpec (Reading True generation spec) (updateStatusAndPhase env phase reason) := by
  refine Shared.Triple.bind (Shared.get_within Reading.edits) ?_
  rintro (err | copy)
  · exact .pure fun w hw => hw.1
  · simp only
    cases env.pods 0 with
    | error err => exact .pure fun w hw => hw.1
    | ok pods =>
      simp only
      split
      · exact .pure fun w hw => hw.1
      · intro w hw
        obtain ⟨l, hl⟩ := hw.2 copy rfl
        have hlatest := publishStatus_recording hl.sameGeneration hl.sameSpec phase reason pods env.now
        refine Shared.retryOnConflict_triple
          (J := fun (attempt : Copy ClusterObject × Nat) w => attempt.1.val.Recording generation spec ∧
            Within UserEdit.KeepsSpec (Reading True generation spec) w)
          (Q := fun _ => Within UserEdit.KeepsSpec (Reading True generation spec)) ?_ _
          (⟨publishStatus phase reason pods env.now copy.val, copy.version⟩, 1) w ⟨hlatest, hw.1⟩
        exact persistStatus_recording env phase reason hlatest.status.observed

end Status

/-! ## The pass -/

section Pass

variable {generation : Nat} {spec : ObjectSpec} {env : ReconcileEnv}

/-- A world between the calls of a pass, once the object has been read. -/
def Held (processed : Prop) (generation : Nat) (spec : ObjectSpec) : OpWorld → Prop :=
  Within UserEdit.KeepsSpec (Reading processed generation spec)

variable {processed : Prop}

theorem Held.records {w : OpWorld} (h : Held processed generation spec w) : RecordsProcessed w.history := h.1.records

theorem handleReconcileError_reading (permanent : Bool) (err : String) :
    Keeps UserEdit.KeepsSpec (Reading processed generation spec) (handleReconcileError permanent err) := by
  refine .bind (Reading.modify ?_) ?_
  · rintro o new events ⟨⟩
    exact ⟨rfl, rfl, Or.inr ⟨_, rfl⟩⟩
  · rintro (_ | _) <;> exact .pure

theorem modifyWithRetry_reading {f : ClusterObject → ClusterObject × List PassEvent}
    (hf : ∀ o, (f o).1.generation = o.generation ∧ (f o).1.spec = o.spec ∧ ∃ phase, (f o).2 = [.persisted phase]) :
    Keeps UserEdit.KeepsSpec (Reading processed generation spec) (modifyWithRetry fun o => some (f o)) := by
  refine .retryOnConflict (fun _ => .bind (Reading.modify ?_) fun _ => .pure) _ _
  rintro o new events hnew
  obtain ⟨hgen, hspec, hevents⟩ := hf o
  rw [Option.some.inj hnew] at hgen hspec hevents
  exact ⟨hgen, hspec, Or.inr hevents⟩

theorem reconcileSpec_records {cluster : ClusterObject} (hgen : cluster.generation = generation) :
    Triple (Held False generation spec) (reconcileSpec env spec cluster) fun _ w => RecordsProcessed w.history := by
  have hfail : ∀ {processed} err, Triple (Held processed generation spec)
      (handleReconcileError env.permanent err) fun _ w => RecordsProcessed w.history := fun err =>
    (handleReconcileError_reading env.permanent err).post fun _ _ hw => Held.records hw
  have hprogress : Triple (Held False generation spec) (announceProgress cluster) fun out w =>
      out.2.generation = generation ∧ Held False generation spec w := by
    unfold announceProgress
    split
    · exact (Reading.kept.setPhase cluster _ _).post fun _ _ hw => ⟨hw.1.2.trans hgen, hw.2⟩
    · exact .pure fun _ hw => ⟨hgen, hw⟩
  refine Shared.Triple.bind hprogress ?_
  rintro ⟨reply, announced⟩
  refine .assume fun (hgen : announced.generation = generation) => ?_
  cases reply with
  | conflict => exact .pure fun _ hw => hw.records
  | failed err => exact hfail err
  | done =>
    refine Shared.Triple.bind (Reading.kept.emitOne rfl) fun _ => ?_
    cases env.servicesError with
    | some err => exact hfail err
    | none =>
      -- from here on the spec counts as processed
      refine Shared.Triple.bind (Q := fun _ => Held True generation spec) (.emit fun w hw => ?_) fun _ => ?_
      · have hw1 : Reading False generation spec w.obj (w.history ++ [.event (.processed announced.generation spec)]) :=
          hw.1.write rfl rfl (by simp)
        refine ⟨⟨hw1.records, hw1.sameGeneration, hw1.sameSpec, fun _ => ?_⟩, hw.2⟩
        rw [hgen]
        exact List.mem_append_right _ (List.mem_singleton.2 rfl)
      · refine Shared.Triple.bind (Reading.kept.reconcileCluster fun _ => updateStatusAndPhase_recording env.status) ?_
        rintro (err | result)
        · exact hfail err
        · simp only
          split
          · refine Shared.Triple.bind (Reading.modify ?_) fun _ => .pure fun _ hw => Held.records hw
            intro o new events hf
            unfold resetWrite at hf
            split at hf
            · cases hf
            · cases hf
              refine ⟨?_, ?_, Or.inr ⟨_, rfl⟩⟩
              · split <;> rfl
              · split <;> rfl
          · exact .pure fun _ hw => Held.records hw

theorem reconcileActive_records {cluster : ClusterObject} (hgen : cluster.generation = generation)
    (hspec : cluster.spec = spec) :
    Triple (Held False generation spec) (reconcileActive env cluster) fun _ w => RecordsProcessed w.history := by
  subst hspec
  unfold reconcileActive
  split
  · unfold handleCircuitBreakerBackoff
    simp only
    split
    · exact Shared.Triple.bind (Reading.kept.setPhase cluster _ _) fun _ => .pure fun _ hw => Held.records hw.2
    · exact .pure fun _ hw => hw.records
  · split
    · exact .pure fun _ hw => hw.records
    · split
      · exact reconcileSpec_records hgen
      · split
        · exact (handleReconcileError_reading _ _).post fun _ _ hw => Held.records hw
        · exact .pure fun _ hw => hw.records
        · exact reconcileSpec_records hgen

theorem handleDeletion_records (cluster : ClusterObject) :
    Triple (Held processed generation spec) (handleDeletion cluster) fun _ w => RecordsProcessed w.history := by
  have hfinal : Keeps UserEdit.KeepsSpec (Reading processed generation spec) finalizeDeletion := by
    refine .bind (Reading.kept.emitOne rfl) fun _ => .bind (Reading.modify ?_) ?_
    · rintro o new events ⟨⟩
      exact ⟨rfl, rfl, Or.inl rfl⟩
    · rintro ((_ | _) | _) <;> exact .pure
  unfold handleDeletion
  split
  · exact .pure fun _ hw => hw.records
  · refine Shared.Triple.bind (Reading.kept.setPhase cluster _ _) ?_
    rintro ⟨reply, deleting⟩
    cases reply with
    | failed err => exact .pure fun _ hw => Held.records hw.2
    | done => exact hfinal.conseq (fun _ hw => hw.2) fun _ _ hw => Held.records hw
    | conflict => exact hfinal.conseq (fun _ hw => hw.2) fun _ _ hw => Held.records hw

theorem reconcileRead_records (copy : Copy ClusterObject) :
    Triple (Held False copy.val.generation copy.val.spec) (reconcileRead env copy) fun _ w =>
      RecordsProcessed w.history := by
  unfold reconcileRead
  simp only
  split
  · exact handleDeletion_records copy.val
  · split
    · refine Shared.Triple.bind (Shared.Keeps.put Reading.edits ?_) ?_
      · intro o l h
        rw [List.map_nil, List.append_nil]
        exact ⟨h.records, rfl, rfl, h.done⟩
      · rintro ((_ | _) | _) <;> exact .pure fun _ hw => Held.records hw
    · split
      · refine Shared.Triple.bind (modifyWithRetry_reading fun o => ⟨rfl, rfl, _, rfl⟩) ?_
        rintro (_ | _) <;> exact .pure fun _ hw => Held.records hw
      · split
        · refine Shared.Triple.bind (modifyWithRetry_reading fun o => ⟨?_, ?_, _, rfl⟩) ?_
          · simp only
            split <;> rfl
          · simp only
            split <;> rfl
          · rintro (_ | _)
            · exact .pure fun _ hw => Held.records hw
            · exact reconcileActive_records rfl rfl
        · exact reconcileActive_records rfl rfl

end Pass

/-! ## Runs -/

/-- In a pass the spec is edited, if at all, before the pass reads the object. -/
def ReconcileStep.ReadsLast : ReconcileStep → Prop
  | .edit _ => True
  | .reconcile _ turns => ∀ t ∈ turns.tail, ∀ d ∈ t.edits, d.KeepsSpec

theorem RecordsProcessed.edits :
    Shared.KeptByEdits applyEdit (fun _ => True) fun _ => RecordsProcessed := fun _ _ _ _ h => h.entry (by simp)

theorem reconcile_records {env : ReconcileEnv} {w : OpWorld} (hw : RecordsProcessed w.history)
    (hturns : ∀ t ∈ w.turns.tail, ∀ d ∈ t.edits, d.KeepsSpec) : RecordsProcessed (reconcile env w).2.history := by
  have hread : Triple (fun v => v = w) (refetchCluster) fun r v => RecordsProcessed v.history ∧
      ∀ copy, r = .ok copy → Held False copy.val.generation copy.val.spec v := by
    rintro v rfl
    have hedits := fun edits => RecordsProcessed.edits.editAll edits { v with turns := v.turns.tail }
      (fun _ _ => trivial) hw
    unfold refetchCluster Shared.get Shared.World.turn
    cases ht : v.turns with
    | nil =>
      refine ⟨hw, ?_⟩
      rintro copy ⟨⟩
      exact ⟨⟨hw, rfl, rfl, fun h => h.elim⟩, by rw [ht]; exact fun t h => nomatch h⟩
    | cons t rest =>
      rw [ht] at hedits hturns
      simp only
      cases t.fault with
      | some reason => exact ⟨hedits t.edits, fun _ h => nomatch h⟩
      | none =>
        refine ⟨hedits t.edits, ?_⟩
        rintro copy ⟨⟩
        exact ⟨⟨hedits t.edits, rfl, rfl, fun h => h.elim⟩, hturns⟩
  have hpass : Triple (fun v => v = w) (reconcile env) fun _ v => RecordsProcessed v.history := by
    refine Shared.Triple.bind hread ?_
    rintro (err | copy)
    · exact .pure fun v hv => hv.1
    · refine Shared.Triple.bind (.emit fun v hv => ?_) fun _ => reconcileRead_records copy
      have hheld := hv.2 copy rfl
      exact ⟨hheld.1.write rfl rfl (by simp), hheld.2⟩
  exact hpass w rfl

theorem step_records {w t : OpWorld} {a : ReconcileStep} (hw : RecordsProcessed w.history) (ha : a.ReadsLast)
    (h : ReconcileStep.step w a = some t) : RecordsProcessed t.history := by
  cases a with
  | edit d =>
    cases h
    exact RecordsProcessed.edits.editAll [d] w (fun _ _ => trivial) hw
  | reconcile env turns =>
    cases h
    exact reconcile_records (w := { w with turns := turns }) hw ha

/-- In every run in which no pass has the spec edited after it has read the object, what is recorded
was processed. -/
theorem recorded_processed {o : ClusterObject} {l : List ReconcileStep} {t : OpWorld}
    (hl : Lts.Along ReconcileStep.step (fun _ a => a.ReadsLast) (.start o) l)
    (h : Lts.run ReconcileStep.step (.start o) l = some t) : RecordsProcessed t.history := by
  have hstart : RecordsProcessed (OpWorld.start o).history := by
    intro before st after hnil
    cases before <;> cases hnil
  exact Lts.run_invariant (I := fun w : OpWorld => RecordsProcessed w.history)
    (fun _ _ _ hw ha h => step_records hw ha h) hstart hl h

/-! ## A spec that nothing has processed -/

def recordedGeneration : OpEntry → Option Nat
  | .event (.recorded st) => some st.observedGeneration
  | _ => none

def processedGeneration : OpEntry → Option Nat
  | .event (.processed generation _) => some generation
  | _ => none

theorem RecordsProcessed.generation {l : List OpEntry} (h : RecordsProcessed l) {g : Nat}
    (hg : g ∈ l.filterMap recordedGeneration) : g ∈ l.filterMap processedGeneration := by
  obtain ⟨e, he, hrec⟩ := List.mem_filterMap.1 hg
  obtain ⟨before, after, rfl⟩ := List.append_of_mem he
  unfold recordedGeneration at hrec
  split at hrec
  · rename_i st
    cases hrec
    obtain ⟨generation, spec, hp, hst⟩ := h before st after rfl
    rw [hst.observed]
    exact List.mem_filterMap.2 ⟨_, List.mem_append_left _ hp, rfl⟩
  · cases hrec

def settledPass : ReconcileEnv :=
  { ReconcileEnv.calm [] with
    hashesOf := fun _ _ => ⟨"c", "", ""⟩
    objs := [⟨⟨"db-0", some 1, ⟨"c", "", ""⟩, .parallel⟩, false⟩] }

def imageEdit (image : String) : UserEdit :=
  .spec { (ClusterObject.fresh "db" "ce:8").spec with spec := (Cluster.bare "db" image).spec }

def turnOf (edits : List UserEdit) : Shared.Turn UserEdit := ⟨edits, none⟩

/-- The edit comes after the pass has read the object, announced its progress and done its work, and
before it reads the object again to write the status. -/
theorem recorded_unprocessed : ∃ w,
    ReconcileStep.step (.start (.fresh "db" "ce:8"))
      (.reconcile settledPass [turnOf [], turnOf [], turnOf [], turnOf [imageEdit "ce:9"]]) = some w ∧
    ¬RecordsProcessed w.history := by
  refine ⟨_, rfl, fun h => ?_⟩
  have hmem := h.generation (g := 2) (by decide +kernel)
  exact absurd hmem (by decide +kernel)

theorem recorded_processed_edited : ∃ w,
    Lts.run ReconcileStep.step (.start (.fresh "db" "ce:8"))
      [.reconcile settledPass [turnOf [imageEdit "ce:9"]], .edit (imageEdit "ce:10"), .reconcile settledPass []] =
        some w ∧ w.history.filterMap recordedGeneration = [2, 3] ∧ RecordsProcessed w.history := by
  have hl : Lts.Along ReconcileStep.step (fun _ a => a.ReadsLast) (.start (.fresh "db" "ce:8"))
      [.reconcile settledPass [turnOf [imageEdit "ce:9"]], .edit (imageEdit "ce:10"), .reconcile settledPass []] := by
    refine .cons rfl ?_ (.cons rfl trivial (.cons rfl ?_ trivial))
    · intro t ht
      cases ht
    · intro t ht
      cases ht
  exact ⟨_, rfl, by decide +kernel, recorded_processed hl rfl⟩

end Acko
