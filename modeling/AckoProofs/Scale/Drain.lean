/-
The scaling part of a reconcile pass: the StatefulSets of the racks in the spec one after the other
(`reconcileRacks`), and then the teardown of those whose rack has left it (`cleanupRemovedRacks`),
which are drained to zero before they are deleted.
-/
import AckoProofs.Scale.StatefulSet
import AckoProofs.Restart.Gate

namespace Acko

/-! ## A removed rack -/

/-- Returns whether the rack has no replicas any more. -/
def drainRemovedRack (env : StsEnv) (cluster : Cluster) (sts : StatefulSet) (rackPods : List Pod) :
    Except String Bool × List ScaleEvent :=
  let currentReplicas := statefulSetReplicas sts
  if currentReplicas ≤ 0 then (.ok true, []) else
  let target := max (currentReplicas - getScaleDownBatchSize cluster currentReplicas) 0
  match checkScaleDownReadiness env rackPods target with
  | .error err => (.error err, [])
  | .ok true => (.ok false, [])
  | .ok false =>
    -- the pods are listed once more, to quiesce those that go
    match env.relistError with
    | some _ => (.ok false, [])
    | none => match env.patchError with
      | some err => (.error ("scaling down removed rack StatefulSet " ++ sts.name ++ ": " ++ err), [])
      | none => (.ok false, [.drain sts.name currentReplicas target])

/-- The deletion of a StatefulSet without replicas, and of its storage and ConfigMap once its pods
are gone. -/
def deleteRemovedRack (env : StsEnv) (cluster : Cluster) (obj : StatefulSetObject) (rackID : Int)
    (rackPods : List Pod) : Except String Bool × List ScaleEvent :=
  let cleanup : List ScaleEvent :=
    if env.cleanupListError.isSome || !rackPods.isEmpty then []
    else .deleteCascadePVCs obj.sts.name ::
      if env.configMapDeleted then [.deleteConfigMap (configMapName cluster.name rackID)] else []
  if obj.deleting then (.ok false, cleanup)
  else match env.delete with
    | .failed err => (.error err, [])
    | .notFound => (.ok false, cleanup)
    | .deleted => (.ok false, .delete obj.sts.name :: cleanup)

/-- A StatefulSet that is not being deleted and has replicas. -/
def StatefulSetObject.needsDrain (obj : StatefulSetObject) : Bool :=
  !obj.deleting && 0 < statefulSetReplicas obj.sts

theorem needsDrain_eq_true {obj : StatefulSetObject} :
    obj.needsDrain = true ↔ obj.deleting = false ∧ 0 < statefulSetReplicas obj.sts := by
  simp only [StatefulSetObject.needsDrain, Bool.and_eq_true, Bool.not_eq_true', decide_eq_true_eq]

/-- The body of the teardown loop; returns whether the teardown is deferred. -/
def teardownRack (env : StsEnv) (migrationBlocked : Bool) (cluster : Cluster) (obj : StatefulSetObject) (rackID : Int)
    (rackPods : List Pod) : Except String Bool × List ScaleEvent :=
  if obj.needsDrain then
    if migrationBlocked then (.ok true, [])
    else match drainRemovedRack env cluster obj.sts rackPods with
      | (.error err, events) => (.error err, events)
      | (.ok false, events) => (.ok true, events)
      | (.ok true, events) =>
        let (result, more) := deleteRemovedRack env cluster obj rackID rackPods
        (result, events ++ more)
  else deleteRemovedRack env cluster obj rackID rackPods

/-! ## The pass -/

/-- What the scaling part of a pass learns from outside. `stopEarly` is an error before it, and
`migration` and `phase` are the probe of the teardown and the phase patch after it. -/
structure ScaleEnv where
  sts : String → StsEnv
  stopEarly : Option String
  configMapError : Int → Option String
  listError : Option String
  migration : Except String Bool
  phase : PhaseReply

def ScaleEnv.calm : ScaleEnv := ⟨fun _ => .calm, none, fun _ => none, none, .ok false, .done⟩

/-- Every call succeeds, whatever it answers. -/
structure ScaleEnv.AllOk (env : ScaleEnv) : Prop where
  sts : ∀ name, (env.sts name).AllOk
  start : env.stopEarly = none
  configMap : ∀ id, env.configMapError id = none
  list : env.listError = none
  migration : ∀ err, env.migration ≠ .error err
  phase : env.phase = .done

theorem ScaleEnv.calm_allOk : ScaleEnv.calm.AllOk :=
  ⟨fun _ => StsEnv.calm_allOk, rfl, fun _ => rfl, rfl, (fun _ h => nomatch h), rfl⟩

section Pass

variable (env : ScaleEnv) (cluster : Cluster) (pods : Int → List Pod)

/-- A loop over racks that stops at the first error and collects whether one was deferred. -/
def eachRack {α : Type} (body : α → Except String Bool × List ScaleEvent) :
    List α → Except String Bool × List ScaleEvent
  | [] => (.ok false, [])
  | a :: rest =>
    match body a with
    | (.error err, events) => (.error err, events)
    | (.ok deferred, events) =>
      let (result, more) := eachRack body rest
      (result.map (deferred || ·), events ++ more)

def findStatefulSet (objs : List StatefulSetObject) (name : String) : Option StatefulSet :=
  (objs.find? (·.sts.name = name)).map (·.sts)

variable (hashesOf : Cluster → Rack → Hashes)

/-- The body of the loop over the racks of the spec: the ConfigMap and the StatefulSet of one rack.
`hashesOf` gives the hashes of the template a rack should have. -/
def reconcileRack (objs : List StatefulSetObject) (racks : List Rack) (r : Rack × Nat) :
    Except String Bool × List ScaleEvent :=
  match env.configMapError r.1.id with
  | some err => (.error err, [])
  | none => reconcileStatefulSet (env.sts (statefulSetName cluster.name r.1.id)) cluster r.1 (hashesOf cluster r.1)
      (getRackSize cluster racks r.2) (pods r.1.id) (findStatefulSet objs (statefulSetName cluster.name r.1.id))

/-- In order, up to the first error. -/
def reconcileRacks (objs : List StatefulSetObject) (racks : List Rack) :
    Except String Bool × List ScaleEvent :=
  eachRack (reconcileRack env cluster pods hashesOf objs racks) racks.zipIdx

/-- The StatefulSets whose rack has left the spec, with the id their name ends in; others are not
the operator's. -/
def removedRacks (currentRacks : List Rack) (objs : List StatefulSetObject) : List (StatefulSetObject × Int) :=
  objs.filterMap fun obj =>
    if obj.sts.name ∈ currentRacks.map (fun rack => statefulSetName cluster.name rack.id) then none
    else (atoi (trimPrefix obj.sts.name (cluster.name ++ "-"))).map fun rackID => (obj, rackID)

def teardownRacks (migrationBlocked : Bool) (removed : List (StatefulSetObject × Int)) :
    Except String Bool × List ScaleEvent :=
  eachRack (fun (obj, rackID) => teardownRack (env.sts obj.sts.name) migrationBlocked cluster obj rackID (pods rackID))
    removed

/-- Drains racks that the spec no longer has. -/
def cleanupRemovedRacks (objs : List StatefulSetObject) (checks : MigrationChecks) (currentRacks : List Rack) :
    Except String Bool × MigrationChecks × List ScaleEvent :=
  match env.listError with
  | some err => (.error err, checks, [])
  | none =>
    let removed := removedRacks cluster currentRacks objs
    let checks := removed.foldl (fun checks r => clearMigrationCheckFailures checks cluster r.2) checks
    if !removed.any (·.1.needsDrain) then
      let (result, events) := teardownRacks env cluster pods false removed
      (result, checks, events)
    else match env.migration, env.phase with
      | .ok true, .failed err => (.error err, checks, [.probe env.migration])
      | answer, _ =>
        let (result, events) := teardownRacks env cluster pods (answer != .ok false) removed
        (result, checks, .probe env.migration :: events)

/-- The scaling part of `reconcileCluster`: a deferred scale-down ends the pass. -/
def reconcileScaling (objs : List StatefulSetObject) (checks : MigrationChecks) :
    Except String Bool × MigrationChecks × List ScaleEvent :=
  match env.stopEarly with
  | some err => (.error err, checks, [])
  | none =>
    match reconcileRacks env cluster pods hashesOf objs (getRacks cluster) with
    | (.error err, events) => (.error err, checks, events)
    | (.ok true, events) => (.ok true, checks, events)
    | (.ok false, events) =>
      let (result, checks, more) := cleanupRemovedRacks env cluster pods objs checks (getRacks cluster)
      (result, checks, events ++ more)

end Pass

/-! ## What a teardown can do -/

theorem drainRemovedRack_cases (env : StsEnv) (cluster : Cluster) {sts : StatefulSet} (rackPods : List Pod)
    (hpos : 0 < statefulSetReplicas sts) : ∃ result, result ≠ .ok true ∧
      (drainRemovedRack env cluster sts rackPods = (result, []) ∨
        scaleDownTarget cluster (statefulSetReplicas sts) 0 ≤
          readyCount rackPods (scaleDownTarget cluster (statefulSetReplicas sts) 0) ∧
        drainRemovedRack env cluster sts rackPods = (result,
          [.drain sts.name (statefulSetReplicas sts) (scaleDownTarget cluster (statefulSetReplicas sts) 0)])) := by
  unfold drainRemovedRack scaleDownTarget
  simp only [Int.sub_zero, if_neg (not_le.2 hpos)]
  split
  · exact ⟨_, by simp, Or.inl rfl⟩
  · exact ⟨_, by simp, Or.inl rfl⟩
  · rename_i hready
    have hready := checkScaleDownReadiness_passed hready
    cases env.relistError with
    | some err => exact ⟨_, by simp, Or.inl rfl⟩
    | none =>
      cases env.patchError with
      | some err => exact ⟨_, by simp, Or.inl rfl⟩
      | none => exact ⟨_, by simp, Or.inr ⟨hready, rfl⟩⟩

theorem deleteRemovedRack_events {env : StsEnv} {cluster : Cluster} {obj : StatefulSetObject} {rackID : Int}
    {rackPods : List Pod} {e : ScaleEvent} (h : e ∈ (deleteRemovedRack env cluster obj rackID rackPods).2) :
    (e = .delete obj.sts.name ∧ obj.deleting = false) ∨ e = .deleteCascadePVCs obj.sts.name ∨
      e = .deleteConfigMap (configMapName cluster.name rackID) := by
  have hcleanup : ∀ {e}, e ∈ (if env.cleanupListError.isSome || !rackPods.isEmpty then []
      else ScaleEvent.deleteCascadePVCs obj.sts.name ::
        if env.configMapDeleted then [.deleteConfigMap (configMapName cluster.name rackID)] else []) →
      e = .deleteCascadePVCs obj.sts.name ∨ e = .deleteConfigMap (configMapName cluster.name rackID) := by
    intro e he
    split at he
    · cases he
    · rcases List.mem_cons.1 he with rfl | he
      · exact Or.inl rfl
      · split at he
        · exact Or.inr (List.mem_singleton.1 he)
        · cases he
  unfold deleteRemovedRack at h
  simp only at h
  split at h
  · exact Or.inr (hcleanup h)
  · rename_i hdel
    split at h
    · cases h
    · exact Or.inr (hcleanup h)
    · rcases List.mem_cons.1 h with rfl | h
      · exact Or.inl ⟨rfl, by simpa using hdel⟩
      · exact Or.inr (hcleanup h)

theorem teardownRack_cases (env : StsEnv) (blocked : Bool) (cluster : Cluster) (obj : StatefulSetObject) (rackID : Int)
    (rackPods : List Pod) :
    (obj.needsDrain = true ∧ (teardownRack env blocked cluster obj rackID rackPods).2 = []) ∨
    (obj.needsDrain = true ∧ blocked = false ∧
      scaleDownTarget cluster (statefulSetReplicas obj.sts) 0 ≤
        readyCount rackPods (scaleDownTarget cluster (statefulSetReplicas obj.sts) 0) ∧
      (teardownRack env blocked cluster obj rackID rackPods).2 =
        [.drain obj.sts.name (statefulSetReplicas obj.sts)
          (scaleDownTarget cluster (statefulSetReplicas obj.sts) 0)]) ∨
    (obj.needsDrain = false ∧
      teardownRack env blocked cluster obj rackID rackPods = deleteRemovedRack env cluster obj rackID rackPods) := by
  unfold teardownRack
  cases hn : obj.needsDrain with
  | false => exact Or.inr (Or.inr ⟨rfl, rfl⟩)
  | true =>
    cases blocked with
    | true => exact Or.inl ⟨rfl, rfl⟩
    | false =>
      obtain ⟨result, hres, hev⟩ := drainRemovedRack_cases env cluster rackPods (needsDrain_eq_true.1 hn).2
      simp only [if_true, Bool.false_eq_true, if_false]
      -- a rack that is not drained yet is not deleted
      rcases hev with hev | ⟨hready, hev⟩ <;> rw [hev] <;> rcases result with err | (_ | _)
      · exact Or.inl ⟨trivial, rfl⟩
      · exact Or.inl ⟨trivial, rfl⟩
      · exact absurd rfl hres
      · exact Or.inr (Or.inl ⟨trivial, trivial, hready, rfl⟩)
      · exact Or.inr (Or.inl ⟨trivial, trivial, hready, rfl⟩)
      · exact absurd rfl hres

/-! ## What a pass can do -/

theorem eachRack_events {α : Type} (body : α → Except String Bool × List ScaleEvent) : ∀ (l : List α),
    ∃ l', l' <+: l ∧ (eachRack body l).2 = l'.flatMap (fun a => (body a).2) ∧
      ((∀ err, (eachRack body l).1 ≠ .error err) → l' = l)
  | [] => ⟨[], List.nil_prefix, rfl, fun _ => rfl⟩
  | a :: rest => by
    obtain ⟨l', hp, h, hall⟩ := eachRack_events body rest
    rw [eachRack]
    cases hb : body a with
    | mk result events =>
      cases result with
      | error err => exact ⟨[a], List.prefix_append [a] rest, by simp [hb], fun hno => absurd rfl (hno err)⟩
      | ok deferred =>
        refine ⟨a :: l', List.cons_prefix_cons.2 ⟨rfl, hp⟩, by simp [hb, h], ?_⟩
        intro hno
        rw [hall]
        intro err herr
        apply hno err
        simp only [herr, Except.map]

theorem eachRack_ok {α : Type} {body : α → Except String Bool × List ScaleEvent} : ∀ {l : List α} {deferred : Bool},
    (eachRack body l).1 = .ok deferred → ∀ a ∈ l, ∃ d, (body a).1 = .ok d ∧ (d = true → deferred = true)
  | [], _, _, a, ha => nomatch ha
  | b :: rest, deferred, h, a, ha => by
    rw [eachRack] at h
    cases hb : body b with
    | mk result events =>
      cases result with
      | error err => rw [hb] at h; cases h
      | ok first =>
        rw [hb] at h
        simp only at h
        cases hr : (eachRack body rest).1 with
        | error err => rw [hr] at h; cases h
        | ok more =>
          rw [hr] at h
          have h : (first || more) = deferred := Except.ok.inj h
          rcases List.mem_cons.1 ha with rfl | ha
          · refine ⟨first, by rw [hb], ?_⟩
            rintro rfl
            rw [← h, Bool.true_or]
          · obtain ⟨d, hd, hle⟩ := eachRack_ok hr a ha
            refine ⟨d, hd, ?_⟩
            intro ht
            rw [← h, hle ht, Bool.or_true]

theorem eachRack_succeeds {α : Type} {body : α → Except String Bool × List ScaleEvent}
    (h : ∀ a, ∃ d, (body a).1 = .ok d) : ∀ (l : List α), ∃ deferred, (eachRack body l).1 = .ok deferred
  | [] => ⟨_, rfl⟩
  | a :: rest => by
    obtain ⟨d, hd⟩ := h a
    obtain ⟨deferred, hrest⟩ := eachRack_succeeds h rest
    rw [eachRack]
    cases hb : body a with
    | mk result events =>
      rw [hb] at hd
      simp only at hd
      subst hd
      simp only [hrest]
      exact ⟨_, rfl⟩

theorem teardownRack_succeeds {env : StsEnv} (h : env.AllOk) (blocked : Bool) (cluster : Cluster)
    (obj : StatefulSetObject) (rackID : Int) (rackPods : List Pod) :
    ∃ deferred, (teardownRack env blocked cluster obj rackID rackPods).1 = .ok deferred := by
  have hdelete : ∃ deferred, (deleteRemovedRack env cluster obj rackID rackPods).1 = .ok deferred := by
    unfold deleteRemovedRack
    simp only
    split
    · exact ⟨_, rfl⟩
    · split
      · rename_i err herr
        exact absurd herr (h.delete err)
      · exact ⟨_, rfl⟩
      · exact ⟨_, rfl⟩
  have hdrain : ∃ drained, (drainRemovedRack env cluster obj.sts rackPods).1 = .ok drained := by
    obtain ⟨deferred, hd⟩ := checkScaleDownReadiness_succeeds h rackPods
      (max (statefulSetReplicas obj.sts - getScaleDownBatchSize cluster (statefulSetReplicas obj.sts)) 0)
    unfold drainRemovedRack
    simp only [hd, h.relist, h.patch]
    split
    · exact ⟨_, rfl⟩
    · cases deferred <;> exact ⟨_, rfl⟩
  unfold teardownRack
  split
  · split
    · exact ⟨_, rfl⟩
    · obtain ⟨drained, hd⟩ := hdrain
      generalize drainRemovedRack env cluster obj.sts rackPods = out at hd
      obtain ⟨result, events⟩ := out
      simp only at hd
      subst hd
      cases drained with
      | false => exact ⟨_, rfl⟩
      | true => exact hdelete
  · exact hdelete

theorem cleanupRemovedRacks_succeeds {env : ScaleEnv} (h : env.AllOk) (cluster : Cluster) (pods : Int → List Pod)
    (objs : List StatefulSetObject) (checks : MigrationChecks) (currentRacks : List Rack) :
    ∃ deferred, (cleanupRemovedRacks env cluster pods objs checks currentRacks).1 = .ok deferred := by
  have hteardown : ∀ blocked removed, ∃ deferred,
      (teardownRacks env cluster pods blocked removed).1 = .ok deferred := by
    intro blocked removed
    refine eachRack_succeeds ?_ removed
    rintro ⟨obj, rackID⟩
    exact teardownRack_succeeds (h.sts obj.sts.name) blocked cluster obj rackID (pods rackID)
  unfold cleanupRemovedRacks
  simp only [h.list, h.phase]
  split
  · exact hteardown _ _
  · split
    · rename_i hphase
      cases hphase
    · exact hteardown _ _

theorem mem_removedRacks {cluster : Cluster} {currentRacks : List Rack} {objs : List StatefulSetObject}
    {r : StatefulSetObject × Int} (h : r ∈ removedRacks cluster currentRacks objs) : r.1 ∈ objs := by
  obtain ⟨obj, ho, h⟩ := List.mem_filterMap.1 h
  split at h
  · cases h
  · obtain ⟨rackID, _, rfl⟩ := Option.map_eq_some_iff.1 h
    exact ho

theorem removedRacks_sublist (cluster : Cluster) (currentRacks : List Rack) (objs : List StatefulSetObject) :
    ((removedRacks cluster currentRacks objs).map (·.1.sts.name)).Sublist (objs.map (·.sts.name)) := by
  induction objs with
  | nil => exact List.Sublist.refl _
  | cons obj rest ih =>
    unfold removedRacks at ih ⊢
    rw [List.filterMap_cons]
    split
    · exact ih.cons _
    · rename_i r hr
      split at hr
      · cases hr
      · obtain ⟨rackID, _, rfl⟩ := Option.map_eq_some_iff.1 hr
        exact ih.cons_cons _

section Events

variable (env : ScaleEnv) (cluster : Cluster) (pods : Int → List Pod) (objs : List StatefulSetObject)
  (checks : MigrationChecks) (racks : List Rack)

theorem reconcileRack_cases (hashesOf : Cluster → Rack → Hashes) (r : Rack × Nat) :
    let out := reconcileRack env cluster pods hashesOf objs racks r
    let name := statefulSetName cluster.name r.1.id
    let size := getRackSize cluster racks r.2
    (out.2 = [] ∧ (out.1 = .ok false → ∃ sts, findStatefulSet objs name = some sts ∧ statefulSetReplicas sts = size)) ∨
    (findStatefulSet objs name = none ∧
      out = (.ok false, [.create (buildStatefulSet cluster name size (hashesOf cluster r.1))])) ∨
    ∃ sts, findStatefulSet objs name = some sts ∧
      ((statefulSetReplicas sts ≤ size ∧
          out = (.ok false, [.patch name (statefulSetReplicas sts) size (hashesOf cluster r.1)])) ∨
      (size < statefulSetReplicas sts ∧ out.1 ≠ .ok false ∧
        out.2 = [.probe (env.sts (statefulSetName cluster.name r.1.id)).migration]) ∨
      (size < statefulSetReplicas sts ∧ scaleDownTarget cluster (statefulSetReplicas sts) size ≤
          readyCount (pods r.1.id) (scaleDownTarget cluster (statefulSetReplicas sts) size) ∧
        out = (.ok false, [.probe (.ok false), .patch name (statefulSetReplicas sts)
          (scaleDownTarget cluster (statefulSetReplicas sts) size) (hashesOf cluster r.1)]))) := by
  intro out name size
  unfold out reconcileRack
  cases env.configMapError r.1.id with
  | some err => exact Or.inl ⟨rfl, by simp⟩
  | none => exact reconcileStatefulSet_cases _ cluster r.1 _ size _ _

theorem reconcileRacks_events (hashesOf : Cluster → Rack → Hashes) : ∃ visited, visited <+: racks.zipIdx ∧
    (reconcileRacks env cluster pods hashesOf objs racks).2 =
      visited.flatMap (fun r => (reconcileRack env cluster pods hashesOf objs racks r).2) ∧
    ((∀ err, (reconcileRacks env cluster pods hashesOf objs racks).1 ≠ .error err) → visited = racks.zipIdx) :=
  eachRack_events _ _

variable {env cluster pods objs racks} in
theorem mem_reconcileRack {hashesOf : Cluster → Rack → Hashes} {r : Rack × Nat} {e : ScaleEvent}
    (he : e ∈ (reconcileRack env cluster pods hashesOf objs racks r).2) :
    (∃ size, e = .create (buildStatefulSet cluster (statefulSetName cluster.name r.1.id) size (hashesOf cluster r.1))) ∨
      (∃ answer, e = .probe answer) ∨
      ∃ old new, e = .patch (statefulSetName cluster.name r.1.id) old new (hashesOf cluster r.1) := by
  rcases reconcileRack_cases env cluster pods objs racks hashesOf r with
    ⟨h, _⟩ | ⟨_, h⟩ | ⟨_, _, ⟨_, h⟩ | ⟨_, _, h⟩ | ⟨_, _, h⟩⟩ <;> rw [h] at he
  · cases he
  · exact Or.inl ⟨_, List.mem_singleton.1 he⟩
  · exact Or.inr (Or.inr ⟨_, _, List.mem_singleton.1 he⟩)
  · exact Or.inr (Or.inl ⟨_, List.mem_singleton.1 he⟩)
  · rcases List.mem_cons.1 he with he | he
    · exact Or.inr (Or.inl ⟨_, he⟩)
    · exact Or.inr (Or.inr ⟨_, _, List.mem_singleton.1 he⟩)

def teardownEvents (blocked : Bool) (r : StatefulSetObject × Int) : List ScaleEvent :=
  (teardownRack (env.sts r.1.sts.name) blocked cluster r.1 r.2 (pods r.2)).2

theorem teardownRacks_events (blocked : Bool) (removed : List (StatefulSetObject × Int)) : ∃ visited,
    visited <+: removed ∧
    (teardownRacks env cluster pods blocked removed).2 = visited.flatMap (teardownEvents env cluster pods blocked) ∧
    ((∀ err, (teardownRacks env cluster pods blocked removed).1 ≠ .error err) → visited = removed) :=
  eachRack_events _ _

variable {env cluster pods} in
theorem mem_teardownEvents {blocked : Bool} {r : StatefulSetObject × Int} {e : ScaleEvent}
    (he : e ∈ teardownEvents env cluster pods blocked r) :
    (e = .drain r.1.sts.name (statefulSetReplicas r.1.sts) (scaleDownTarget cluster (statefulSetReplicas r.1.sts) 0) ∧
      teardownEvents env cluster pods blocked r = [e] ∧ r.1.needsDrain = true ∧ blocked = false ∧
      scaleDownTarget cluster (statefulSetReplicas r.1.sts) 0 ≤
        readyCount (pods r.2) (scaleDownTarget cluster (statefulSetReplicas r.1.sts) 0)) ∨
    r.1.needsDrain = false ∧ teardownEvents env cluster pods blocked r =
      (deleteRemovedRack (env.sts r.1.sts.name) cluster r.1 r.2 (pods r.2)).2 := by
  unfold teardownEvents at he ⊢
  rcases teardownRack_cases (env.sts r.1.sts.name) blocked cluster r.1 r.2 (pods r.2) with
    ⟨_, h⟩ | ⟨hn, hb, hready, h⟩ | ⟨hn, h⟩ <;> rw [h] at he ⊢
  · cases he
  · obtain rfl := List.mem_singleton.1 he
    exact Or.inl ⟨rfl, rfl, hn, hb, hready⟩
  · exact Or.inr ⟨hn, rfl⟩

/-- The teardown of the removed racks it gets to, after the probe where one is needed: to drain a
rack the gate has to be open, which the probe says. -/
theorem cleanupRemovedRacks_events : ∃ probes blocked visited,
    visited <+: removedRacks cluster racks objs ∧
    (cleanupRemovedRacks env cluster pods objs checks racks).2.2 =
      probes ++ visited.flatMap (teardownEvents env cluster pods blocked) ∧
    (∀ e ∈ probes, ∃ answer, e = .probe answer) ∧
    (∀ r ∈ visited, r.1.needsDrain = true → blocked = false → probes = [.probe (.ok false)]) := by
  unfold cleanupRemovedRacks
  cases env.listError with
  | some err => exact ⟨[], false, [], List.nil_prefix, rfl, by simp, by simp⟩
  | none =>
    simp only
    cases hd : (removedRacks cluster racks objs).any (·.1.needsDrain) with
    | false =>
      obtain ⟨visited, hp, hev, _⟩ := teardownRacks_events env cluster pods false (removedRacks cluster racks objs)
      refine ⟨[], false, visited, hp, hev, by simp, ?_⟩
      intro r hr hn
      rw [List.any_eq_false] at hd
      exact absurd hn (hd r (hp.subset hr))
    | true =>
      have hopen : ∀ blocked, (blocked = false → env.migration = .ok false) → ∃ probes shut visited,
          visited <+: removedRacks cluster racks objs ∧
          .probe env.migration :: (teardownRacks env cluster pods blocked (removedRacks cluster racks objs)).2 =
            probes ++ visited.flatMap (teardownEvents env cluster pods shut) ∧
          (∀ e ∈ probes, ∃ answer, e = .probe answer) ∧
          (∀ r ∈ visited, r.1.needsDrain = true → shut = false → probes = [.probe (.ok false)]) := by
        intro blocked hblocked
        obtain ⟨visited, hp, hev, _⟩ := teardownRacks_events env cluster pods blocked (removedRacks cluster racks objs)
        refine ⟨[.probe env.migration], blocked, visited, hp, ?_, by simp, ?_⟩
        · rw [List.singleton_append]
          exact congrArg _ hev
        · intro _ _ _ hb
          rw [hblocked hb]
      cases hm : env.migration with
      | error err => rw [hm] at hopen; exact hopen true (by simp)
      | ok migrating =>
        rw [hm] at hopen
        cases migrating with
        | false => exact hopen false (by simp)
        | true =>
          cases env.phase with
          | failed err => exact ⟨[.probe (.ok true)], true, [], List.nil_prefix, rfl, by simp, by simp⟩
          | _ => exact hopen true (by simp)

theorem reconcileScaling_events (hashesOf : Cluster → Rack → Hashes) :
    (env.stopEarly ≠ none ∧ (reconcileScaling env cluster pods hashesOf objs checks).2.2 = []) ∨
    ∃ more, (reconcileScaling env cluster pods hashesOf objs checks).2.2 =
        (reconcileRacks env cluster pods hashesOf objs (getRacks cluster)).2 ++ more ∧
      (more = [] ∨ more = (cleanupRemovedRacks env cluster pods objs checks (getRacks cluster)).2.2) := by
  unfold reconcileScaling
  cases env.stopEarly with
  | some err => exact Or.inl ⟨by simp, rfl⟩
  | none =>
    right
    cases reconcileRacks env cluster pods hashesOf objs (getRacks cluster) with
    | mk result events =>
      rcases result with err | deferred
      · exact ⟨[], (List.append_nil _).symm, Or.inl rfl⟩
      · cases deferred with
        | true => exact ⟨[], (List.append_nil _).symm, Or.inl rfl⟩
        | false => exact ⟨_, rfl, Or.inr rfl⟩

variable {env cluster pods objs}

theorem reconcileScaling_goesOn {hashesOf : Cluster → Rack → Hashes} (hstart : env.stopEarly = none)
    (hracks : (reconcileRacks env cluster pods hashesOf objs (getRacks cluster)).1 = .ok false) :
    (reconcileScaling env cluster pods hashesOf objs checks).2.2 =
      (reconcileRacks env cluster pods hashesOf objs (getRacks cluster)).2 ++
        (cleanupRemovedRacks env cluster pods objs checks (getRacks cluster)).2.2 := by
  unfold reconcileScaling
  rw [hstart]
  generalize reconcileRacks env cluster pods hashesOf objs (getRacks cluster) = out at hracks ⊢
  obtain ⟨result, events⟩ := out
  cases hracks
  rfl

theorem cleanupRemovedRacks_open {racks : List Rack} (hlist : env.listError = none) (hquiet : env.migration = .ok false)
    (hdrain : (removedRacks cluster racks objs).any (·.1.needsDrain) = true) :
    (cleanupRemovedRacks env cluster pods objs checks racks).2.2 =
      .probe (.ok false) :: (teardownRacks env cluster pods false (removedRacks cluster racks objs)).2 := by
  unfold cleanupRemovedRacks
  rw [hlist, hquiet]
  simp only [hdrain]
  rfl

end Events

end Acko
