/-
What a pass does to the StatefulSet of one name: at most one call, by what it finds and the size
the StatefulSet should have.
-/
import AckoProofs.Scale.Run
import AckoProofs.Lib.Keyed

namespace Acko

/-! ## One StatefulSet in a pass -/

/-- What a pass does to the StatefulSet of a name, by what it finds and the size it should have. -/
inductive Handled (cluster : Cluster) (target : Int) (n : String) : Option StatefulSet → List ScaleEvent → Prop
  | idle (found : Option StatefulSet) : Handled cluster target n found []
  | create (hashes : Hashes) : Handled cluster target n none [.create (buildStatefulSet cluster n target hashes)]
  | raise (sts : StatefulSet) (hashes : Hashes) (h : statefulSetReplicas sts ≤ target) :
    Handled cluster target n (some sts) [.patch n (statefulSetReplicas sts) target hashes]
  | lower (sts : StatefulSet) (hashes : Hashes) (h : target < statefulSetReplicas sts) :
    Handled cluster target n (some sts) [.patch n (statefulSetReplicas sts)
      (scaleDownTarget cluster (statefulSetReplicas sts) target) hashes]
  | drain (sts : StatefulSet) (h : target < statefulSetReplicas sts) :
    Handled cluster target n (some sts) [.drain n (statefulSetReplicas sts)
      (scaleDownTarget cluster (statefulSetReplicas sts) target)]
  | delete (sts : StatefulSet) (h : statefulSetReplicas sts ≤ target) : Handled cluster target n (some sts) [.delete n]

section Piece

variable {env : ScaleEnv} {cluster : Cluster} {pods : Int → List Pod} {hashesOf : Cluster → Rack → Hashes}
  {objs : List StatefulSetObject} {racks : List Rack} {blocked : Bool}

theorem reconcileRack_other {r : Rack × Nat} {n : String} (hn : statefulSetName cluster.name r.1.id ≠ n) :
    (reconcileRack env cluster pods hashesOf objs racks r).2.filter (·.about n) = [] := by
  rcases reconcileRack_cases env cluster pods objs racks hashesOf r with
    ⟨h, _⟩ | ⟨_, h⟩ | ⟨_, _, ⟨_, h⟩ | ⟨_, _, h⟩ | ⟨_, _, h⟩⟩ <;> rw [h] <;>
    simp [ScaleEvent.about, buildStatefulSet, hn]

theorem teardownEvents_other {r : StatefulSetObject × Int} {n : String} (hn : r.1.sts.name ≠ n) :
    (teardownEvents env cluster pods blocked r).filter (·.about n) = [] := by
  rw [List.filter_eq_nil_iff]
  intro e he
  rcases mem_teardownEvents he with ⟨rfl, _⟩ | ⟨_, h⟩
  · simp [ScaleEvent.about, hn]
  · rw [h] at he
    rcases deleteRemovedRack_events he with ⟨rfl, _⟩ | rfl | rfl <;> simp [ScaleEvent.about, hn]

theorem reconcileRack_handled (r : Rack × Nat) :
    Handled cluster (getRackSize cluster racks r.2) (statefulSetName cluster.name r.1.id)
      (findStatefulSet objs (statefulSetName cluster.name r.1.id))
      ((reconcileRack env cluster pods hashesOf objs racks r).2.filter
        (·.about (statefulSetName cluster.name r.1.id))) := by
  rcases reconcileRack_cases env cluster pods objs racks hashesOf r with
    ⟨h, _⟩ | ⟨hf, h⟩ | ⟨sts, hf, ⟨hle, h⟩ | ⟨_, _, h⟩ | ⟨hlt, _, h⟩⟩
  · rw [h]
    exact .idle _
  · rw [h, hf]
    simp only [List.filter_cons, ScaleEvent.about, buildStatefulSet, decide_true, if_true, List.filter_nil]
    exact .create _
  · rw [h, hf]
    simp only [List.filter_cons, ScaleEvent.about, decide_true, if_true, List.filter_nil]
    exact .raise sts _ hle
  · rw [h]
    exact .idle _
  · rw [h, hf]
    simp only [List.filter_cons, ScaleEvent.about, decide_true, if_true, List.filter_nil, Bool.false_eq_true, if_false]
    exact .lower sts _ hlt

theorem deleteRemovedRack_about (env : StsEnv) (cluster : Cluster) (obj : StatefulSetObject) (rackID : Int)
    (rackPods : List Pod) :
    (deleteRemovedRack env cluster obj rackID rackPods).2.filter (·.about obj.sts.name) = [] ∨
    (obj.deleting = false ∧
      (deleteRemovedRack env cluster obj rackID rackPods).2.filter (·.about obj.sts.name) =
        [.delete obj.sts.name]) := by
  have hcleanup : (if env.cleanupListError.isSome || !rackPods.isEmpty then []
      else ScaleEvent.deleteCascadePVCs obj.sts.name ::
        if env.configMapDeleted then [.deleteConfigMap (configMapName cluster.name rackID)] else []).filter
      (·.about obj.sts.name) = [] := by
    split
    · rfl
    · split <;> rfl
  unfold deleteRemovedRack
  simp only
  split
  · exact Or.inl hcleanup
  · rename_i hdel
    split
    · exact Or.inl rfl
    · exact Or.inl hcleanup
    · refine Or.inr ⟨by simpa using hdel, ?_⟩
      rw [List.filter_cons_of_pos (by simp [ScaleEvent.about]), hcleanup]

theorem teardownEvents_handled (r : StatefulSetObject × Int) :
    Handled cluster 0 r.1.sts.name (some r.1.sts)
      ((teardownEvents env cluster pods blocked r).filter (·.about r.1.sts.name)) := by
  unfold teardownEvents
  rcases teardownRack_cases (env.sts r.1.sts.name) blocked cluster r.1 r.2 (pods r.2) with
    ⟨_, h⟩ | ⟨hn, _, _, h⟩ | ⟨hn, h⟩
  · rw [h]
    exact .idle _
  · rw [h]
    simp only [List.filter_cons, ScaleEvent.about, decide_true, if_true, List.filter_nil]
    exact .drain _ (needsDrain_eq_true.1 hn).2
  · rw [h]
    rcases deleteRemovedRack_about (env.sts r.1.sts.name) cluster r.1 r.2 (pods r.2) with hnil | ⟨hdel, hone⟩
    · rw [hnil]
      exact .idle _
    · rw [hone]
      refine .delete _ (not_lt.1 fun hpos => ?_)
      rw [needsDrain_eq_true.2 ⟨hdel, hpos⟩] at hn
      cases hn

theorem reconcileRacks_other {n : String} (hn : n ∉ racks.map fun rack => statefulSetName cluster.name rack.id) :
    (reconcileRacks env cluster pods hashesOf objs racks).2.filter (·.about n) = [] := by
  obtain ⟨visited, hp, hev, _⟩ := reconcileRacks_events env cluster pods objs racks hashesOf
  rw [hev, List.filter_flatMap, List.flatMap_eq_nil_iff]
  intro r hr
  apply reconcileRack_other
  rintro rfl
  exact hn (List.mem_map.2 ⟨r.1, List.fst_mem_of_mem_zipIdx (hp.subset hr), rfl⟩)

theorem reconcileRacks_about (hd : (racks.map fun rack => statefulSetName cluster.name rack.id).Nodup) {r : Rack × Nat}
    (hr : r ∈ racks.zipIdx) :
    (reconcileRacks env cluster pods hashesOf objs racks).2.filter (·.about (statefulSetName cluster.name r.1.id)) =
      (reconcileRack env cluster pods hashesOf objs racks r).2.filter (·.about (statefulSetName cluster.name r.1.id)) ∨
    ((reconcileRacks env cluster pods hashesOf objs racks).2.filter
        (·.about (statefulSetName cluster.name r.1.id)) = [] ∧
      ∃ err, (reconcileRacks env cluster pods hashesOf objs racks).1 = .error err) := by
  obtain ⟨visited, hp, hev, hall⟩ := reconcileRacks_events env cluster pods objs racks hashesOf
  have hkeys : (racks.zipIdx.map fun r => statefulSetName cluster.name r.1.id).Nodup := by
    rw [← List.zipIdx_map_fst 0 racks, List.map_map] at hd
    exact hd
  rw [hev, List.filter_flatMap]
  refine (Keyed.flatMap_visited hp hkeys hr fun b hb => reconcileRack_other hb).imp_right ?_
  rintro ⟨hv, hnil⟩
  refine ⟨hnil, by_contra fun hno => ?_⟩
  rw [hall fun err herr => hno ⟨err, herr⟩] at hv
  exact hv hr

theorem findStatefulSet_of_mem (hnames : (objs.map (·.sts.name)).Nodup) {obj : StatefulSetObject} (h : obj ∈ objs) :
    findStatefulSet objs obj.sts.name = some obj.sts := by
  have hsome : (objs.find? (·.sts.name = obj.sts.name)).isSome := by
    rw [List.find?_isSome]
    exact ⟨obj, h, by simp⟩
  obtain ⟨found, hf⟩ := Option.isSome_iff_exists.1 hsome
  have hsame : found.sts.name = obj.sts.name := by simpa using List.find?_some hf
  rw [findStatefulSet, hf, List.inj_on_of_nodup_map hnames (List.mem_of_find?_eq_some hf) h hsame, Option.map_some]

theorem cleanupRemovedRacks_other {checks : MigrationChecks} {n : String}
    (hn : ∀ r ∈ removedRacks cluster racks objs, r.1.sts.name ≠ n) :
    (cleanupRemovedRacks env cluster pods objs checks racks).2.2.filter (·.about n) = [] := by
  obtain ⟨probes, blocked, visited, hp, hev, hprobes, _⟩ :=
    cleanupRemovedRacks_events env cluster pods objs checks racks
  rw [hev, List.filter_append, List.filter_flatMap, List.append_eq_nil_iff]
  constructor
  · rw [List.filter_eq_nil_iff]
    intro e he
    obtain ⟨answer, rfl⟩ := hprobes e he
    simp [ScaleEvent.about]
  · rw [List.flatMap_eq_nil_iff]
    intro r hr
    exact teardownEvents_other (hn r (hp.subset hr))

theorem removedRacks_nodup (cluster : Cluster) (racks : List Rack) (hnames : (objs.map (·.sts.name)).Nodup) :
    ((removedRacks cluster racks objs).map (·.1.sts.name)).Nodup :=
  hnames.sublist (removedRacks_sublist cluster racks objs)

theorem cleanupRemovedRacks_handled {checks : MigrationChecks} (hnames : (objs.map (·.sts.name)).Nodup)
    {r : StatefulSetObject × Int} (hr : r ∈ removedRacks cluster racks objs) :
    Handled cluster 0 r.1.sts.name (some r.1.sts)
      ((cleanupRemovedRacks env cluster pods objs checks racks).2.2.filter (·.about r.1.sts.name)) := by
  obtain ⟨probes, blocked, visited, hp, hev, hprobes, _⟩ :=
    cleanupRemovedRacks_events env cluster pods objs checks racks
  have hnoprobe : probes.filter (·.about r.1.sts.name) = [] := by
    rw [List.filter_eq_nil_iff]
    intro e he
    obtain ⟨answer, rfl⟩ := hprobes e he
    simp [ScaleEvent.about]
  have hkeys := removedRacks_nodup cluster racks hnames
  rw [hev, List.filter_append, hnoprobe, List.nil_append, List.filter_flatMap]
  rcases Keyed.flatMap_visited hp hkeys hr fun b hb => teardownEvents_other hb with h | ⟨_, h⟩ <;> rw [h]
  · exact teardownEvents_handled r
  · exact .idle _

end Piece

theorem pass_handled {s : ScaleState} (hd : DistinctRacks s.cluster) (hnames : (s.objs.map (·.sts.name)).Nodup)
    (hashesOf : Cluster → Rack → Hashes) (env : ScaleEnv) (n : String) :
    Handled s.cluster (desiredReplicas s.cluster n) n (findStatefulSet s.objs n)
      ((s.pass hashesOf env).2.2.filter (·.about n)) := by
  unfold ScaleState.pass
  rcases reconcileScaling_events env s.cluster s.pods s.objs s.checks hashesOf with ⟨_, hnil⟩ | ⟨more, hev, hmore⟩
  · rw [hnil]
    exact .idle _
  · rw [hev, List.filter_append]
    by_cases hn : n ∈ (getRacks s.cluster).map fun rack => statefulSetName s.cluster.name rack.id
    · -- a rack of the spec, which the teardown leaves alone
      have hmore : more.filter (·.about n) = [] := by
        rcases hmore with rfl | rfl
        · rfl
        · apply cleanupRemovedRacks_other
          rintro r hr rfl
          exact removedRacks_not_current hr hn
      obtain ⟨rack, hrack, rfl⟩ := List.mem_map.1 hn
      rw [← List.zipIdx_map_fst 0 (getRacks s.cluster)] at hrack
      obtain ⟨r, hr, rfl⟩ := List.mem_map.1 hrack
      rw [hmore, List.append_nil, desiredReplicas_current hd hr]
      rcases @reconcileRacks_about env s.cluster s.pods hashesOf s.objs (getRacks s.cluster) hd r hr with
        h | ⟨h, _⟩ <;> rw [h]
      · exact reconcileRack_handled r
      · exact .idle _
    · -- a removed rack, or none of the operator's
      rw [reconcileRacks_other hn, List.nil_append, desiredReplicas_removed hn]
      rcases hmore with rfl | rfl
      · exact .idle _
      · by_cases hr : ∃ r ∈ removedRacks s.cluster (getRacks s.cluster) s.objs, r.1.sts.name = n
        · obtain ⟨r, hr, rfl⟩ := hr
          rw [findStatefulSet_of_mem hnames (mem_removedRacks hr)]
          exact cleanupRemovedRacks_handled hnames hr
        · rw [cleanupRemovedRacks_other fun r hr' hsame => hr ⟨r, hr', hsame⟩]
          exact .idle _

/-! ## Counts and batches -/

def foundReplicas (found : Option StatefulSet) : Int := (found.map statefulSetReplicas).getD 0

def ScaleEvent.lowersOf (n : String) (e : ScaleEvent) : Bool := e.lowers.any (·.1 = n)

theorem lowersOf_about {n : String} {e : ScaleEvent} (h : e.lowersOf n = true) : e.about n = true := by
  cases e with
  | patch name old new hashes =>
    simp only [ScaleEvent.lowersOf, ScaleEvent.lowers] at h
    split at h
    · exact h
    · cases h
  | drain name old new => exact h
  | _ => cases h

/-- The count after a pass: what it was or the size, or one batch lower, by the one event that
lowers it. -/
theorem Handled.effect {cluster : Cluster} {target : Int} {n : String} {found : Option StatefulSet}
    {events : List ScaleEvent} (h : Handled cluster target n found events) :
    let before := foundReplicas found
    let after := foundReplicas (events.foldl (ScaleEvent.onFound n) found)
    (events.countP (·.lowersOf n) = 0 ∧
      ((after = before ∧ (events = [] ∨ before ≤ target)) ∨ (after = target ∧ (found = none ∨ before ≤ target)))) ∨
    (events.countP (·.lowersOf n) = 1 ∧ target < before ∧ after = scaleDownTarget cluster before target ∧
      ∃ e ∈ events, e.lowers = some (n, before, after)) := by
  cases h with
  | idle => exact Or.inl ⟨rfl, Or.inl ⟨rfl, Or.inl rfl⟩⟩
  | create hashes =>
    refine Or.inl ⟨rfl, Or.inr ⟨?_, Or.inl rfl⟩⟩
    simp [ScaleEvent.onFound, foundReplicas, buildStatefulSet, statefulSetReplicas]
  | raise sts hashes hle =>
    refine Or.inl ⟨?_, Or.inr ⟨?_, Or.inr hle⟩⟩
    · have hno : ¬ target < statefulSetReplicas sts := by omega
      simp [ScaleEvent.lowersOf, ScaleEvent.lowers, hno]
    · simp [ScaleEvent.onFound, foundReplicas, statefulSetReplicas]
  | lower sts hashes hlt =>
    have hlower := (batchStep_scaleDownTarget cluster hlt).lower
    have hafter : foundReplicas ([ScaleEvent.patch n (statefulSetReplicas sts)
        (scaleDownTarget cluster (statefulSetReplicas sts) target) hashes].foldl (ScaleEvent.onFound n) (some sts)) =
        scaleDownTarget cluster (statefulSetReplicas sts) target := by
      simp [ScaleEvent.onFound, foundReplicas, statefulSetReplicas]
    refine Or.inr ⟨?_, hlt, hafter, _, List.mem_singleton.2 rfl, ?_⟩
    · simp [ScaleEvent.lowersOf, ScaleEvent.lowers, hlower]
    · rw [ScaleEvent.lowers, if_pos hlower, hafter]
      rfl
  | drain sts hlt =>
    have hafter : foundReplicas ([ScaleEvent.drain n (statefulSetReplicas sts)
        (scaleDownTarget cluster (statefulSetReplicas sts) target)].foldl (ScaleEvent.onFound n) (some sts)) =
        scaleDownTarget cluster (statefulSetReplicas sts) target := by
      simp [ScaleEvent.onFound, foundReplicas, statefulSetReplicas]
    refine Or.inr ⟨?_, hlt, hafter, _, List.mem_singleton.2 rfl, ?_⟩
    · simp [ScaleEvent.lowersOf, ScaleEvent.lowers]
    · rw [ScaleEvent.lowers, hafter]
      rfl
  | delete sts hle => exact Or.inl ⟨rfl, Or.inl ⟨rfl, Or.inr hle⟩⟩

theorem pass_lowered {s : ScaleState} (hd : DistinctRacks s.cluster) (hnames : (s.objs.map (·.sts.name)).Nodup)
    {hashesOf : Cluster → Rack → Hashes} {env : ScaleEnv} {n : String} {sts sts' : StatefulSet}
    (hf : findStatefulSet s.objs n = some sts)
    (hf' : findStatefulSet (objectsAfter s.objs (s.pass hashesOf env).2.2) n = some sts')
    (hlt : statefulSetReplicas sts' < statefulSetReplicas sts) :
    (∃ e ∈ (s.pass hashesOf env).2.2, e.lowers = some (n, statefulSetReplicas sts, statefulSetReplicas sts')) ∧
    BatchStep s.cluster (desiredReplicas s.cluster n) (statefulSetReplicas sts) (statefulSetReplicas sts') := by
  have heffect := (pass_handled hd hnames hashesOf env n).effect
  rw [← findStatefulSet_objectsAfter, hf, hf'] at heffect
  simp only [foundReplicas, Option.map_some, Option.getD_some] at heffect
  rcases heffect with ⟨_, ⟨hsame, _⟩ | ⟨_, hnone | hle⟩⟩ | ⟨_, hbefore, hafter, e, he, hl⟩
  · omega
  · cases hnone
  · omega
  · refine ⟨⟨e, (List.mem_filter.1 he).1, hl⟩, ?_⟩
    rw [hafter]
    exact batchStep_scaleDownTarget s.cluster hbefore

end Acko
