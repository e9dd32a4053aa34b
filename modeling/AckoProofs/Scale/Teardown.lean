/-
What a pass does to the StatefulSets as objects: those of racks in the spec that are missing are
created, those of removed racks are deleted once they have no replicas, and the deletion that finds
no pods deletes the rack's claims and ConfigMap with it.
-/
import AckoProofs.Scale.Run

namespace Acko

/-! ## Names -/

variable {clusterName : String} {objs : List StatefulSetObject}

theorem statefulSetName_injective {k k' : Nat} (h : statefulSetName clusterName k = statefulSetName clusterName k') :
    k = k' :=
  podName_injective clusterName h

theorem configMapName_injective {k k' : Nat} (h : configMapName clusterName k = configMapName clusterName k') :
    k = k' := by
  have hlist := congrArg String.toList h
  simp only [configMapName, String.toList_append] at hlist
  exact statefulSetName_injective (String.toList_inj.1 (by
    simpa only [statefulSetName, String.toList_append] using List.append_cancel_right hlist))

theorem atoi_trimPrefix {k : Nat} (hk : k < 2 ^ 63) :
    atoi (trimPrefix (statefulSetName clusterName k) (clusterName ++ "-")) = some (k : Int) := by
  have hlist : (statefulSetName clusterName k).toList = (clusterName ++ "-").toList ++ Nat.toDigits 10 k := by
    rw [statefulSetName, String.toList_append, ← Nat.toList_repr]
    rfl
  have htrim : trimPrefix (statefulSetName clusterName k) (clusterName ++ "-") =
      String.ofList (Nat.toDigits 10 k) := by
    unfold trimPrefix
    rw [hlist, if_pos (List.isPrefixOf_iff_prefix.2 ⟨_, rfl⟩), ← String.length_toList, List.drop_left]
  rw [htrim, atoi_toDigits hk]

theorem removedRacks_id {cluster : Cluster} {racks : List Rack} {r : StatefulSetObject × Int}
    (h : r ∈ removedRacks cluster racks objs) {k : Nat} (hk : k < 2 ^ 63)
    (hname : r.1.sts.name = statefulSetName cluster.name k) : r.2 = k := by
  obtain ⟨obj, _, h⟩ := List.mem_filterMap.1 h
  split at h
  case isTrue => cases h
  case isFalse =>
    obtain ⟨rackID, hid, rfl⟩ := Option.map_eq_some_iff.1 h
    simp only at hname
    rw [hname, atoi_trimPrefix hk] at hid
    exact (Option.some.inj hid).symm

/-! ## The objects after a pass -/

/-- There is a StatefulSet of the name that is not being deleted. -/
def standing (objs : List StatefulSetObject) (name : String) : Bool :=
  objs.any fun obj => obj.sts.name = name && !obj.deleting

theorem standing_eq_true {name : String} :
    standing objs name = true ↔ ∃ obj ∈ objs, obj.sts.name = name ∧ obj.deleting = false := by
  simp [standing, List.any_eq_true]

theorem onObject_deleting (e : ScaleEvent) (obj : StatefulSetObject) (he : e ≠ .delete obj.sts.name) :
    (e.onObject obj).deleting = obj.deleting := by
  cases e with
  | delete name =>
    simp only [ScaleEvent.onObject]
    split
    case isTrue h => exact absurd (by rw [h]) he
    case isFalse => rfl
  | patch name old new hashes =>
    simp only [ScaleEvent.onObject]
    split <;> rfl
  | drain name old new =>
    simp only [ScaleEvent.onObject]
    split <;> rfl
  | _ => rfl

theorem standing_onObjects {name : String} {e : ScaleEvent} (he : e ≠ .delete name) (h : standing objs name = true) :
    standing (e.onObjects objs) name = true := by
  obtain ⟨obj, hobj, hname, hdel⟩ := standing_eq_true.1 h
  have hmap : standing (objs.map e.onObject) name = true :=
    standing_eq_true.2 ⟨e.onObject obj, List.mem_map_of_mem hobj, by rw [onObject_name, hname], by
      rw [onObject_deleting e obj (by rw [hname]; exact he), hdel]⟩
  cases e with
  | create sts =>
    simp only [ScaleEvent.onObjects]
    split
    case isTrue => exact h
    case isFalse => exact standing_eq_true.2 ⟨obj, List.mem_append_left _ hobj, hname, hdel⟩
  | _ => exact hmap

theorem standing_objectsAfter {name : String} : ∀ (events : List ScaleEvent) {objs : List StatefulSetObject},
    .delete name ∉ events → standing objs name = true → standing (objectsAfter objs events) name = true
  | [], _, _, h => h
  | e :: events, _, hnot, h => by
    have he : e ≠ .delete name := fun heq => hnot (heq ▸ List.mem_cons_self ..)
    exact standing_objectsAfter events (fun hmem => hnot (List.mem_cons_of_mem _ hmem)) (standing_onObjects he h)

theorem standing_created {sts : StatefulSet} : ∀ (events : List ScaleEvent) {objs : List StatefulSetObject},
    .create sts ∈ events → .delete sts.name ∉ events → (∀ obj ∈ objs, obj.sts.name ≠ sts.name) →
    standing (objectsAfter objs events) sts.name = true
  | e :: events, objs, hcreate, hnot, hnone => by
    have hrest : .delete sts.name ∉ events := fun hmem => hnot (List.mem_cons_of_mem _ hmem)
    by_cases hnow : standing (e.onObjects objs) sts.name = true
    · exact standing_objectsAfter events hrest hnow
    · have hlater : .create sts ∈ events := by
        rcases List.mem_cons.1 hcreate with rfl | h
        · refine absurd (standing_eq_true.2 ⟨⟨sts, false⟩, ?_, rfl, rfl⟩) hnow
          have hfresh : sts.name ∉ objs.map (·.sts.name) := by
            rintro hmem
            obtain ⟨obj, hobj, hsame⟩ := List.mem_map.1 hmem
            exact hnone obj hobj hsame
          simp only [ScaleEvent.onObjects, if_neg hfresh]
          exact List.mem_append_right _ (List.mem_singleton.2 rfl)
        · exact h
      refine standing_created events hlater hrest ?_
      intro obj hobj hname
      -- an object of the name is either an old one or a new one, which stays
      cases e with
      | create other =>
        simp only [ScaleEvent.onObjects] at hobj hnow
        split at hobj
        case isTrue => exact hnone obj hobj hname
        case isFalse hfresh =>
          rcases List.mem_append.1 hobj with hobj | hobj
          · exact hnone obj hobj hname
          · rw [if_neg hfresh] at hnow
            refine hnow (standing_eq_true.2 ⟨obj, List.mem_append_right _ hobj, hname, ?_⟩)
            rw [List.mem_singleton.1 hobj]
      | _ =>
        obtain ⟨old, hold, rfl⟩ := List.mem_map.1 hobj
        rw [onObject_name] at hname
        exact hnone old hold hname

theorem mem_objectsAfter : ∀ (events : List ScaleEvent) {objs : List StatefulSetObject} {obj : StatefulSetObject},
    obj ∈ objectsAfter objs events →
    ((∃ old ∈ objs, old.sts.name = obj.sts.name ∧ (obj.deleting = true → old.deleting = true ∨
        .delete obj.sts.name ∈ events)) ∨
      ∃ sts, .create sts ∈ events ∧ sts.name = obj.sts.name ∧ (obj.deleting = true → .delete obj.sts.name ∈ events))
  | [], _, obj, h => .inl ⟨obj, h, rfl, .inl⟩
  | e :: events, objs, obj, h => by
    rcases mem_objectsAfter events h with ⟨old, hold, hname, hdel⟩ | ⟨sts, hcreate, hname, hdel⟩
    · have hmap : old ∈ objs.map e.onObject → (∃ old ∈ objs, old.sts.name = obj.sts.name ∧
          (obj.deleting = true → old.deleting = true ∨ .delete obj.sts.name ∈ e :: events)) := by
        intro hmem
        obtain ⟨first, hfirst, rfl⟩ := List.mem_map.1 hmem
        rw [onObject_name] at hname
        refine ⟨first, hfirst, hname, fun h => ?_⟩
        by_cases he : e = .delete obj.sts.name
        · exact .inr (he ▸ List.mem_cons_self ..)
        · rcases hdel h with hdel | hdel
          · rw [onObject_deleting e first (by rw [hname]; exact he)] at hdel
            exact .inl hdel
          · exact .inr (List.mem_cons_of_mem _ hdel)
      cases e with
      | create sts =>
        simp only [ScaleEvent.onObjects] at hold
        split at hold
        case isTrue => exact .inl ⟨old, hold, hname, fun h => (hdel h).imp id (List.mem_cons_of_mem _)⟩
        case isFalse =>
          rcases List.mem_append.1 hold with hold | hold
          · exact .inl ⟨old, hold, hname, fun h => (hdel h).imp id (List.mem_cons_of_mem _)⟩
          · rw [List.mem_singleton.1 hold] at hname hdel
            refine .inr ⟨sts, List.mem_cons_self .., hname, fun h => ?_⟩
            rcases hdel h with hdel | hdel
            · cases hdel
            · exact List.mem_cons_of_mem _ hdel
      | _ => exact .inl (hmap hold)
    · exact .inr ⟨sts, List.mem_cons_of_mem _ hcreate, hname, fun h => List.mem_cons_of_mem _ (hdel h)⟩

/-! ## The events of a pass -/

def ScaleEvent.isTeardown : ScaleEvent → Bool
  | .delete _ => true
  | .deleteCascadePVCs _ => true
  | .deleteConfigMap _ => true
  | _ => false

section Events

variable {hashesOf : Cluster → Rack → Hashes} {s : ScaleState} {env : ScaleEnv}

theorem pass_teardown {e : ScaleEvent} (he : e ∈ (s.pass hashesOf env).2.2) (hkind : e.isTeardown = true) :
    ∃ r ∈ removedRacks s.cluster (getRacks s.cluster) s.objs, r.1.needsDrain = false ∧
      e ∈ (deleteRemovedRack (env.sts r.1.sts.name) s.cluster r.1 r.2 (s.pods r.2)).2 ∧
      (deleteRemovedRack (env.sts r.1.sts.name) s.cluster r.1 r.2 (s.pods r.2)).2 ⊆ (s.pass hashesOf env).2.2 := by
  rcases mem_pass he with ⟨r, _, he, _⟩ | ⟨answer, rfl⟩ | ⟨r, hr, blocked, he, hsub, _⟩
  · -- the racks of the spec are not torn down
    rcases mem_reconcileRack he with ⟨_, rfl⟩ | ⟨_, rfl⟩ | ⟨_, _, rfl⟩ <;> cases hkind
  · cases hkind
  · rcases mem_teardownEvents he with ⟨rfl, _⟩ | ⟨hn, h⟩
    · cases hkind
    · rw [h] at he hsub
      exact ⟨r, hr, hn, he, hsub⟩

theorem deleteRemovedRack_cleans {env : StsEnv} (h : env.AllOk) (cluster : Cluster) (obj : StatefulSetObject)
    (rackID : Int) :
    .deleteCascadePVCs obj.sts.name ∈ (deleteRemovedRack env cluster obj rackID []).2 ∧
      (env.configMapDeleted = true →
        .deleteConfigMap (configMapName cluster.name rackID) ∈ (deleteRemovedRack env cluster obj rackID []).2) := by
  have hcleanup : (if env.cleanupListError.isSome || !([] : List Pod).isEmpty then []
      else ScaleEvent.deleteCascadePVCs obj.sts.name ::
        if env.configMapDeleted then [.deleteConfigMap (configMapName cluster.name rackID)] else []) =
      .deleteCascadePVCs obj.sts.name ::
        if env.configMapDeleted then [.deleteConfigMap (configMapName cluster.name rackID)] else [] := by
    rw [h.cleanupList]
    rfl
  have hmem : ∀ events : List ScaleEvent, (.deleteCascadePVCs obj.sts.name ::
      if env.configMapDeleted then [.deleteConfigMap (configMapName cluster.name rackID)] else []) ⊆ events →
      .deleteCascadePVCs obj.sts.name ∈ events ∧ (env.configMapDeleted = true →
        .deleteConfigMap (configMapName cluster.name rackID) ∈ events) := by
    intro events hsub
    refine ⟨hsub (List.mem_cons_self ..), fun hdeleted => hsub (List.mem_cons_of_mem _ ?_)⟩
    rw [if_pos hdeleted]
    exact List.mem_singleton.2 rfl
  unfold deleteRemovedRack
  simp only [hcleanup]
  split
  case isTrue => exact hmem _ (List.Subset.refl _)
  case isFalse =>
    split
    case h_1 err herr => exact absurd herr (h.delete err)
    case h_2 => exact hmem _ (List.Subset.refl _)
    case h_3 => exact hmem _ fun e he => List.mem_cons_of_mem _ he

theorem pass_racks (h : env.AllOk) {r : Rack × Nat} (hr : r ∈ (getRacks s.cluster).zipIdx) :
    (reconcileRack env s.cluster s.pods hashesOf s.objs (getRacks s.cluster) r).2 ⊆ (s.pass hashesOf env).2.2 := by
  have hbody : ∀ r, ∃ d, (reconcileRack env s.cluster s.pods hashesOf s.objs (getRacks s.cluster) r).1 = .ok d := by
    intro r
    unfold reconcileRack
    rw [h.configMap]
    exact reconcileStatefulSet_succeeds (h.sts _) ..
  obtain ⟨deferred, hok⟩ := eachRack_succeeds hbody (getRacks s.cluster).zipIdx
  obtain ⟨visited, _, hev, hall⟩ :=
    reconcileRacks_events env s.cluster s.pods s.objs (getRacks s.cluster) hashesOf
  have hracks : (reconcileRack env s.cluster s.pods hashesOf s.objs (getRacks s.cluster) r).2 ⊆
      (reconcileRacks env s.cluster s.pods hashesOf s.objs (getRacks s.cluster)).2 := by
    intro e he
    rw [hev, hall (by simp [reconcileRacks, hok])]
    exact List.mem_flatMap.2 ⟨r, hr, he⟩
  unfold ScaleState.pass
  rcases reconcileScaling_events env s.cluster s.pods s.objs s.checks hashesOf with ⟨hstop, _⟩ | ⟨more, hmore, _⟩
  · exact absurd h.start hstop
  · rw [hmore]
    exact fun e he => List.mem_append_left _ (hracks he)

theorem pass_creates (h : env.AllOk) {rack : Rack} (hrack : rack ∈ getRacks s.cluster)
    (hnone : ∀ obj ∈ s.objs, obj.sts.name ≠ statefulSetName s.cluster.name rack.id) :
    ∃ sts, .create sts ∈ (s.pass hashesOf env).2.2 ∧ sts.name = statefulSetName s.cluster.name rack.id := by
  obtain ⟨i, hi⟩ := List.getElem?_of_mem hrack
  have hr : (rack, i) ∈ (getRacks s.cluster).zipIdx := List.mem_zipIdx_iff_getElem?.2 hi
  have hfind : findStatefulSet s.objs (statefulSetName s.cluster.name rack.id) = none := by
    rw [findStatefulSet, List.find?_eq_none.2 fun obj hobj => by simpa using hnone obj hobj]
    rfl
  refine ⟨buildStatefulSet s.cluster (statefulSetName s.cluster.name rack.id)
    (getRackSize s.cluster (getRacks s.cluster) i) (hashesOf s.cluster rack), pass_racks h hr ?_, ?_⟩
  · have hok := h.sts (statefulSetName s.cluster.name rack.id)
    simp only [reconcileRack, h.configMap, reconcileStatefulSet, hok.get, hok.owner, hok.create, hfind]
    exact List.mem_singleton.2 rfl
  · rfl

theorem created_name {sts : StatefulSet} (he : .create sts ∈ (s.pass hashesOf env).2.2) :
    ∃ rack ∈ getRacks s.cluster, sts.name = statefulSetName s.cluster.name rack.id := by
  rcases mem_pass he with ⟨r, hr, he, _⟩ | ⟨answer, hanswer⟩ | ⟨r, _, blocked, he, _⟩
  · refine ⟨r.1, List.fst_mem_of_mem_zipIdx hr, ?_⟩
    rcases mem_reconcileRack he with ⟨_, h⟩ | ⟨_, h⟩ | ⟨_, _, h⟩ <;> cases h
    rfl
  · cases hanswer
  · rcases mem_teardownEvents he with ⟨h, _⟩ | ⟨_, h⟩
    · cases h
    · rw [h] at he
      rcases deleteRemovedRack_events he with ⟨h, _⟩ | h | h <;> cases h

end Events

end Acko
