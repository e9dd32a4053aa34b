/-
Runs of the scaling part of a cluster: reconcile passes, between which the spec is edited and
Kubernetes moves objects and pods. Their events act on the objects, and `pass_lowers` says what a
pass has seen when it lowers a count.
-/
import AckoProofs.Scale.Drain
import AckoProofs.Lib.Run

namespace Acko

/-! ## Events on objects -/

def ScaleEvent.about (n : String) : ScaleEvent → Bool
  | .create sts => sts.name = n
  | .patch name _ _ _ => name = n
  | .drain name _ _ => name = n
  | .delete name => name = n
  | _ => false

def ScaleEvent.onObject : ScaleEvent → StatefulSetObject → StatefulSetObject
  | .patch name _ new hashes, obj =>
    if obj.sts.name = name then { obj with sts := { obj.sts with replicas := some new, hashes := hashes } } else obj
  | .drain name _ new, obj =>
    if obj.sts.name = name then { obj with sts := { obj.sts with replicas := some new } } else obj
  | .delete name, obj => if obj.sts.name = name then { obj with deleting := true } else obj
  | _, obj => obj

/-- The objects after an event; the API server has at most one of a name. -/
def ScaleEvent.onObjects (objs : List StatefulSetObject) : ScaleEvent → List StatefulSetObject
  | .create sts => if sts.name ∈ objs.map (·.sts.name) then objs else objs ++ [⟨sts, false⟩]
  | e => objs.map e.onObject

def objectsAfter (objs : List StatefulSetObject) (events : List ScaleEvent) : List StatefulSetObject :=
  events.foldl ScaleEvent.onObjects objs

def ScaleEvent.onFound (n : String) (found : Option StatefulSet) : ScaleEvent → Option StatefulSet
  | .create sts => if sts.name = n then some (found.getD sts) else found
  | .patch name _ new hashes =>
    if name = n then found.map fun sts => { sts with replicas := some new, hashes := hashes } else found
  | .drain name _ new => if name = n then found.map fun sts => { sts with replicas := some new } else found
  | _ => found

theorem onObject_name (e : ScaleEvent) (obj : StatefulSetObject) : (e.onObject obj).sts.name = obj.sts.name := by
  cases e <;> simp only [ScaleEvent.onObject] <;> split <;> rfl

theorem onObjects_nodup {objs : List StatefulSetObject} (e : ScaleEvent) (h : (objs.map (·.sts.name)).Nodup) :
    ((e.onObjects objs).map (·.sts.name)).Nodup := by
  have hmap : ((objs.map e.onObject).map (·.sts.name)).Nodup := by
    have hnames : (objs.map e.onObject).map (·.sts.name) = objs.map (·.sts.name) := by
      rw [List.map_map]
      exact List.map_congr_left fun obj _ => onObject_name e obj
    rw [hnames]
    exact h
  cases e with
  | create sts =>
    simp only [ScaleEvent.onObjects]
    split
    · exact h
    · rename_i hn
      rw [List.map_append, List.nodup_append]
      refine ⟨h, List.nodup_singleton _, ?_⟩
      rintro a ha b hb rfl
      rw [List.map_singleton, List.mem_singleton] at hb
      subst hb
      exact hn ha
  | _ => exact hmap

theorem objectsAfter_nodup : ∀ (events : List ScaleEvent) {objs : List StatefulSetObject},
    (objs.map (·.sts.name)).Nodup → ((objectsAfter objs events).map (·.sts.name)).Nodup
  | [], _, h => h
  | e :: events, _, h => objectsAfter_nodup events (onObjects_nodup e h)

variable {e : ScaleEvent} {hashesOf : Cluster → Rack → Hashes} {cluster : Cluster}

theorem onObject_sts (he : ∀ sts, e ≠ .create sts) (obj : StatefulSetObject) :
    some (e.onObject obj).sts = e.onFound obj.sts.name (some obj.sts) := by
  cases e with
  | create sts => exact absurd rfl (he sts)
  | patch name old new hashes =>
    simp only [ScaleEvent.onObject, ScaleEvent.onFound, eq_comm (a := name)]
    split <;> rfl
  | drain name old new =>
    simp only [ScaleEvent.onObject, ScaleEvent.onFound, eq_comm (a := name)]
    split <;> rfl
  | delete name =>
    simp only [ScaleEvent.onObject, ScaleEvent.onFound]
    split <;> rfl
  | _ => rfl

theorem onFound_none (he : ∀ sts, e ≠ .create sts) (n : String) : e.onFound n none = none := by
  cases e with
  | create sts => exact absurd rfl (he sts)
  | _ => simp [ScaleEvent.onFound]

theorem findStatefulSet_map (he : ∀ sts, e ≠ .create sts) (objs : List StatefulSetObject) (n : String) :
    findStatefulSet (objs.map e.onObject) n = e.onFound n (findStatefulSet objs n) := by
  have hfind : (objs.map e.onObject).find? (·.sts.name = n) = (objs.find? (·.sts.name = n)).map e.onObject := by
    rw [List.find?_map]
    congr 2
    funext obj
    simp only [Function.comp, onObject_name]
  rw [findStatefulSet, findStatefulSet, hfind]
  cases hf : objs.find? (·.sts.name = n) with
  | none => exact (onFound_none he n).symm
  | some obj =>
    have hname : obj.sts.name = n := by simpa using List.find?_some hf
    subst hname
    exact onObject_sts he obj

theorem findStatefulSet_onObjects (e : ScaleEvent) (objs : List StatefulSetObject) (n : String) :
    findStatefulSet (e.onObjects objs) n = e.onFound n (findStatefulSet objs n) := by
  cases e with
  | create sts =>
    simp only [ScaleEvent.onObjects, ScaleEvent.onFound]
    by_cases hmem : sts.name ∈ objs.map (·.sts.name)
    · rw [if_pos hmem]
      split
      · rename_i hn
        subst hn
        obtain ⟨obj, hobj, hsame⟩ := List.mem_map.1 hmem
        have hsome : (objs.find? (·.sts.name = sts.name)).isSome := by
          rw [List.find?_isSome]
          exact ⟨obj, hobj, by simpa using hsame⟩
        obtain ⟨found, hf⟩ := Option.isSome_iff_exists.1 hsome
        rw [findStatefulSet, hf, Option.map_some, Option.getD_some]
      · rfl
    · rw [if_neg hmem, findStatefulSet, findStatefulSet, List.find?_append]
      split
      · rename_i hn
        have hnone : objs.find? (·.sts.name = n) = none := by
          rw [List.find?_eq_none]
          intro obj hobj hsame
          exact hmem (List.mem_map.2 ⟨obj, hobj, by rw [hn]; simpa using hsame⟩)
        rw [hnone]
        simp [hn]
      · rename_i hn
        simp [hn]
  | _ => exact findStatefulSet_map (by simp) objs n

theorem onFound_of_not_about {n : String} (h : e.about n = false) (found : Option StatefulSet) :
    e.onFound n found = found := by
  cases e <;> simp_all [ScaleEvent.about, ScaleEvent.onFound]

theorem findStatefulSet_objectsAfter (n : String) : ∀ (events : List ScaleEvent) (objs : List StatefulSetObject),
    findStatefulSet (objectsAfter objs events) n =
      (events.filter (·.about n)).foldl (ScaleEvent.onFound n) (findStatefulSet objs n)
  | [], _ => rfl
  | e :: events, objs => by
    have ih := findStatefulSet_objectsAfter n events (e.onObjects objs)
    rw [findStatefulSet_onObjects] at ih
    rw [List.filter_cons]
    split
    · exact ih
    · rename_i h
      rw [onFound_of_not_about (by simpa using h)] at ih
      exact ih

/-! ## The system -/

/-- The cluster, its StatefulSets, the pods listed for each rack, the failures of the restart's
migration check and the events so far. -/
structure ScaleState where
  cluster : Cluster
  objs : List StatefulSetObject
  pods : Int → List Pod
  checks : MigrationChecks
  log : List ScaleEvent

inductive ScaleStep
  | pass (env : ScaleEnv)
  | edit (cluster : Cluster)
  | kube (objs : List StatefulSetObject) (pods : Int → List Pod)

section System

variable (hashesOf : Cluster → Rack → Hashes)

def ScaleState.pass (s : ScaleState) (env : ScaleEnv) : Except String Bool × MigrationChecks × List ScaleEvent :=
  reconcileScaling env s.cluster s.pods hashesOf s.objs s.checks

/-- The pods stay what they are during a pass: their removal is asynchronous. -/
def ScaleState.step (s : ScaleState) : ScaleStep → Option ScaleState
  | .pass env =>
    let (_, checks, events) := s.pass hashesOf env
    some { s with objs := objectsAfter s.objs events, checks := checks, log := s.log ++ events }
  | .edit cluster => some { s with cluster := cluster }
  | .kube objs pods =>
    -- names are unique in a namespace
    if (objs.map (·.sts.name)).Nodup then some { s with objs := objs, pods := pods } else none

/-- The size the spec wants for the StatefulSet of a name: 0 where its rack is not there. -/
def desiredReplicas (cluster : Cluster) (n : String) : Int :=
  match (getRacks cluster).zipIdx.find? fun r => statefulSetName cluster.name r.1.id = n with
  | some r => getRackSize cluster (getRacks cluster) r.2
  | none => 0

/-- No two racks of the spec share a StatefulSet: admission rejects a rack id given twice. -/
def DistinctRacks (cluster : Cluster) : Prop :=
  ((getRacks cluster).map fun rack => statefulSetName cluster.name rack.id).Nodup

instance (cluster : Cluster) : Decidable (DistinctRacks cluster) := inferInstanceAs (Decidable (List.Nodup _))

end System

variable {s : ScaleState}

theorem step_pass {t : ScaleState} {env : ScaleEnv} (h : s.step hashesOf (.pass env) = some t) :
    t.cluster = s.cluster ∧ t.objs = objectsAfter s.objs (s.pass hashesOf env).2.2 ∧
      t.log = s.log ++ (s.pass hashesOf env).2.2 := by
  cases h
  exact ⟨rfl, rfl, rfl⟩

theorem step_names {t : ScaleState} {a : ScaleStep} (hnames : (s.objs.map (·.sts.name)).Nodup)
    (h : s.step hashesOf a = some t) : (t.objs.map (·.sts.name)).Nodup := by
  cases a with
  | pass env => cases h; exact objectsAfter_nodup _ hnames
  | edit cluster => cases h; exact hnames
  | kube objs pods =>
    simp only [ScaleState.step] at h
    split at h
    · rename_i hnd
      cases h
      exact hnd
    · cases h

/-! ## Sizes and labels -/

theorem desiredReplicas_current (hd : DistinctRacks cluster) {r : Rack × Nat} (hr : r ∈ (getRacks cluster).zipIdx) :
    desiredReplicas cluster (statefulSetName cluster.name r.1.id) = getRackSize cluster (getRacks cluster) r.2 := by
  unfold desiredReplicas
  split
  · rename_i r' hf
    have hname : statefulSetName cluster.name r'.1.id = statefulSetName cluster.name r.1.id := by
      simpa using List.find?_some hf
    -- both stand in the list of racks, so with one name they stand at one place
    have hget := List.mem_zipIdx_iff_getElem?.1 hr
    have hget' := List.mem_zipIdx_iff_getElem?.1 (List.mem_of_find?_eq_some hf)
    have hlen : r'.2 < ((getRacks cluster).map fun rack => statefulSetName cluster.name rack.id).length := by
      rw [List.length_map]
      exact (List.getElem?_eq_some_iff.1 hget').1
    have hsame : r'.2 = r.2 := by
      refine (List.getElem?_inj hlen hd).1 ?_
      rw [List.getElem?_map, List.getElem?_map, hget, hget', Option.map_some, Option.map_some, hname]
    rw [hsame]
  · rename_i hf
    rw [List.find?_eq_none] at hf
    exact absurd (decide_eq_true rfl) (hf r hr)

theorem desiredReplicas_removed {n : String}
    (hn : n ∉ (getRacks cluster).map fun rack => statefulSetName cluster.name rack.id) :
    desiredReplicas cluster n = 0 := by
  unfold desiredReplicas
  split
  · rename_i r hf
    have hname : statefulSetName cluster.name r.1.id = n := by simpa using List.find?_some hf
    have hr := List.fst_mem_of_mem_zipIdx (List.mem_of_find?_eq_some hf)
    exact absurd (List.mem_map.2 ⟨r.1, hr, hname⟩) hn
  · rfl

/-- The rack ids under which a pass lists the pods of a StatefulSet. -/
def ScaleState.ListedUnder (s : ScaleState) (n : String) (id : Int) : Prop :=
  (∃ rack ∈ getRacks s.cluster, n = statefulSetName s.cluster.name rack.id ∧ id = rack.id) ∨
  ∃ r ∈ removedRacks s.cluster (getRacks s.cluster) s.objs, n = r.1.sts.name ∧ id = r.2

theorem removedRacks_not_current {racks : List Rack} {objs : List StatefulSetObject} {r : StatefulSetObject × Int}
    (h : r ∈ removedRacks cluster racks objs) :
    r.1.sts.name ∉ racks.map fun rack => statefulSetName cluster.name rack.id := by
  obtain ⟨obj, _, h⟩ := List.mem_filterMap.1 h
  split at h
  · cases h
  · rename_i hn
    obtain ⟨rackID, _, rfl⟩ := Option.map_eq_some_iff.1 h
    exact hn

/-! ## What a pass lowers -/

section Pass

variable {env : ScaleEnv} {cluster : Cluster} {pods : Int → List Pod} {hashesOf : Cluster → Rack → Hashes}
  {objs : List StatefulSetObject}

theorem reconcileRack_lowers {racks : List Rack} {r : Rack × Nat} {e : ScaleEvent} {n : String} {old new : Int}
    (he : e ∈ (reconcileRack env cluster pods hashesOf objs racks r).2) (hl : e.lowers = some (n, old, new)) :
    (reconcileRack env cluster pods hashesOf objs racks r).2 = [.probe (.ok false), e] ∧ e.isDrain = false ∧
      n = statefulSetName cluster.name r.1.id ∧ getRackSize cluster racks r.2 < old ∧
      new = scaleDownTarget cluster old (getRackSize cluster racks r.2) ∧ new ≤ readyCount (pods r.1.id) new := by
  rcases reconcileRack_cases env cluster pods objs racks hashesOf r with
    ⟨hev, _⟩ | ⟨_, hout⟩ | ⟨sts, _, ⟨hle, hout⟩ | ⟨_, _, hev⟩ | ⟨hlt, hready, hout⟩⟩
  · rw [hev] at he
    cases he
  · rw [hout] at he
    rw [List.mem_singleton.1 he] at hl
    cases hl
  · rw [hout] at he
    rw [List.mem_singleton.1 he, ScaleEvent.lowers, if_neg (by omega)] at hl
    cases hl
  · rw [hev] at he
    rw [List.mem_singleton.1 he] at hl
    cases hl
  · rw [hout] at he ⊢
    rcases List.mem_cons.1 he with rfl | he
    · cases hl
    · rw [List.mem_singleton] at he
      subst he
      simp only [ScaleEvent.lowers] at hl
      split at hl
      · cases hl
        exact ⟨rfl, rfl, rfl, hlt, rfl, hready⟩
      · cases hl

theorem teardownEvents_lowers {blocked : Bool} {r : StatefulSetObject × Int} {e : ScaleEvent} {n : String}
    {old new : Int} (he : e ∈ teardownEvents env cluster pods blocked r) (hl : e.lowers = some (n, old, new)) :
    teardownEvents env cluster pods blocked r = [e] ∧ e.isDrain = true ∧ r.1.needsDrain = true ∧ blocked = false ∧
      n = r.1.sts.name ∧ 0 < old ∧ new = scaleDownTarget cluster old 0 ∧ new ≤ readyCount (pods r.2) new := by
  rcases mem_teardownEvents he with ⟨rfl, hone, hn, hb, hready⟩ | ⟨_, hout⟩
  · cases hl
    exact ⟨hone, rfl, hn, hb, rfl, (needsDrain_eq_true.1 hn).2, rfl, hready⟩
  · rw [hout] at he
    rcases deleteRemovedRack_events he with ⟨rfl, _⟩ | rfl | rfl <;> cases hl

end Pass

theorem mem_pass {env : ScaleEnv} (he : e ∈ (s.pass hashesOf env).2.2) :
    (∃ r ∈ (getRacks s.cluster).zipIdx,
      e ∈ (reconcileRack env s.cluster s.pods hashesOf s.objs (getRacks s.cluster) r).2 ∧
      (reconcileRack env s.cluster s.pods hashesOf s.objs (getRacks s.cluster) r).2 ⊆ (s.pass hashesOf env).2.2) ∨
    (∃ answer, e = .probe answer) ∨
    ∃ r ∈ removedRacks s.cluster (getRacks s.cluster) s.objs, ∃ blocked,
      e ∈ teardownEvents env s.cluster s.pods blocked r ∧
      teardownEvents env s.cluster s.pods blocked r ⊆ (s.pass hashesOf env).2.2 ∧
      (r.1.needsDrain = true → blocked = false → .probe (.ok false) ∈ (s.pass hashesOf env).2.2) := by
  unfold ScaleState.pass at he ⊢
  rcases reconcileScaling_events env s.cluster s.pods s.objs s.checks hashesOf with ⟨_, hnil⟩ | ⟨more, hev, hmore⟩
  · rw [hnil] at he
    cases he
  · rw [hev] at he ⊢
    rcases List.mem_append.1 he with he | he
    · left
      obtain ⟨visited, hp, hracks, _⟩ :=
        reconcileRacks_events env s.cluster s.pods s.objs (getRacks s.cluster) hashesOf
      rw [hracks] at he ⊢
      obtain ⟨r, hr, he⟩ := List.mem_flatMap.1 he
      refine ⟨r, hp.subset hr, he, ?_⟩
      intro f hf
      exact List.mem_append_left _ (List.mem_flatMap.2 ⟨r, hr, hf⟩)
    · right
      rcases hmore with rfl | rfl
      · cases he
      · obtain ⟨probes, blocked, visited, hp, hcleanup, hprobes, hgate⟩ :=
          cleanupRemovedRacks_events env s.cluster s.pods s.objs s.checks (getRacks s.cluster)
        rw [hcleanup] at he ⊢
        rcases List.mem_append.1 he with he | he
        · exact Or.inl (hprobes e he)
        · obtain ⟨r, hr, he⟩ := List.mem_flatMap.1 he
          refine Or.inr ⟨r, hp.subset hr, blocked, he, ?_, ?_⟩
          · intro f hf
            exact List.mem_append_right _ (List.mem_append_right _ (List.mem_flatMap.2 ⟨r, hr, hf⟩))
          · intro hn hb
            rw [hgate r hr hn hb]
            exact List.mem_append_right _ (List.mem_cons_self ..)

/-- What a pass has seen when it lowers the count of a StatefulSet: a probe without migrations, and
enough Ready pods under the rack's label. It goes one batch towards the desired size. -/
theorem pass_lowers {env : ScaleEnv} (hd : DistinctRacks s.cluster) {n : String} {old new : Int}
    (he : e ∈ (s.pass hashesOf env).2.2) (hl : e.lowers = some (n, old, new)) :
    .probe (.ok false) ∈ (s.pass hashesOf env).2.2 ∧ desiredReplicas s.cluster n < old ∧
      new = scaleDownTarget s.cluster old (desiredReplicas s.cluster n) ∧
      ∃ id, s.ListedUnder n id ∧ new ≤ readyCount (s.pods id) new := by
  rcases mem_pass he with ⟨r, hr, he, hsub⟩ | ⟨answer, rfl⟩ | ⟨r, hr, blocked, he, _, hgate⟩
  · obtain ⟨hpiece, _, rfl, hlt, hnew, hready⟩ := reconcileRack_lowers he hl
    rw [desiredReplicas_current hd hr]
    refine ⟨hsub ?_, hlt, hnew, r.1.id, Or.inl ⟨r.1, List.fst_mem_of_mem_zipIdx hr, rfl, rfl⟩, hready⟩
    rw [hpiece]
    exact List.mem_cons_self ..
  · cases hl
  · obtain ⟨_, _, hn, hb, rfl, hpos, hnew, hready⟩ := teardownEvents_lowers he hl
    rw [desiredReplicas_removed (removedRacks_not_current hr)]
    exact ⟨hgate hn hb, hpos, hnew, r.2, Or.inr ⟨r, hr, rfl, rfl⟩, hready⟩

end Acko
