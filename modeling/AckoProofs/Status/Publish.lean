/-
The writer of the status (`updateStatusAndPhase`): the pods and the conditions are computed from what the
API server lists, a completed pass also asks the nodes, and the result is written under
`RetryOnConflict`, computed anew after each conflict.
-/
import AckoProofs.Kube.Labels
import AckoProofs.Reconcile.Status
import AckoProofs.Status.Migration

namespace Acko.Publish

open Shared (CallError Copy)

/-! ## Pods -/

/-- A pod with the rest of what the status shows of it: its rack label and the IP of its host. -/
structure ListedPod where
  pod : Pod
  rackLabel : Option String
  hostIP : String

/-- A conversion to `int32` wraps around. -/
def wrap32 (n : Int) : Int := n.bmod 4294967296

def defaultAeroPort : Int := 3000

/-- `IntFromAny`; a float is cut off towards zero. -/
def intFromAny (fallback : Int) : Value → Int
  | .leaf (.int i) => i
  | .leaf (.float mantissa exponent) =>
    if 0 ≤ exponent then mantissa * (10 ^ exponent.toNat : Nat) else mantissa.tdiv (10 ^ (-exponent).toNat : Nat)
  | _ => fallback

def getServicePort (config : Option Config) : Int :=
  match (config.getD []).get "network" with
  | .map network => match network.lookup "service" with
    | some (.map service) => match service.lookup "port" with
      | some port => intFromAny defaultAeroPort port
      | none => defaultAeroPort
    | _ => defaultAeroPort
  | _ => defaultAeroPort

/-- What is seen of the pod now, with what only the previous entry knows. -/
def buildPodStatus (listed : ListedPod) (prev : AerospikePodStatus) (specImage : String) (servicePort rackID : Int)
    (now : Time) : AerospikePodStatus :=
  let pod := listed.pod
  let isReady := isPodReady pod
  { podIP := pod.podIP
    hostIP := listed.hostIP
    image := pod.aerospikeImage.getD specImage
    podPort := servicePort
    servicePort := servicePort
    rack := rackID
    initializedVolumes := prev.initializedVolumes
    isRunningAndReady := isReady
    configHash := pod.hashes.config
    podSpecHash := pod.hashes.podSpec
    dynamicConfigStatus := prev.dynamicConfigStatus
    dynamicConfigChanges := prev.dynamicConfigChanges
    -- the init container of a pod that is Ready has wiped them
    dirtyVolumes := if isReady then [] else prev.dirtyVolumes
    nodeID := prev.nodeID
    clusterName := prev.clusterName
    accessEndpoints := prev.accessEndpoints
    readinessGateSatisfied := (findPodReadinessCondition pod).getD false
    lastRestartReason := prev.lastRestartReason
    lastRestartTime := prev.lastRestartTime
    unstableSince := if isReady then none else some (prev.unstableSince.getD now)
    migratingPartitions := prev.migratingPartitions }

/-- Neither terminating nor failed. -/
def countsAsReplica (pod : Pod) : Bool := pod.deletionTimestamp.isNone && pod.phase ≠ .failed

/-- A label that is no number reads as the default rack. -/
def podRackID (listed : ListedPod) : Int := (listed.rackLabel.bind atoi).getD 0

def podStatusOf (cluster : PublishedCluster) (now : Time) (listed : ListedPod) : AerospikePodStatus :=
  buildPodStatus listed ((cluster.status.pods.lookup listed.pod.name).getD .zero) cluster.spec.spec.image
    (wrap32 (getServicePort cluster.spec.spec.aerospikeConfig)) (podRackID listed) now

def buildSelectorString (labels : Labels) : String :=
  ",".intercalate ((labels.insertionSort (·.1 ≤ ·.1)).map fun (key, value) => key ++ "=" ++ value)

/-! ## Conditions -/

def podStatuses (cluster : PublishedCluster) (now : Time) (pods : List ListedPod) : PodStatuses :=
  pods.foldl (fun statuses p => DocTree.put statuses p.pod.name (podStatusOf cluster now p)) []

def readyPods (pods : List ListedPod) : Int := pods.countP fun p => isPodReady p.pod

def replicaPods (pods : List ListedPod) : Int := pods.countP fun p => countsAsReplica p.pod

/-- What the pods and the spec say. -/
def populateStatus (pods : List ListedPod) (now : Time) (cluster : PublishedCluster) : PublishedCluster × Int :=
  let ready := readyPods pods
  let health := toString ready ++ "/" ++ toString cluster.spec.spec.size
  let populated := { cluster with status := { cluster.status with
    pods := podStatuses cluster now pods
    size := ready
    replicas := replicaPods pods
    health := health
    observedGeneration := cluster.generation
    aerospikeConfig := cluster.spec.spec.aerospikeConfig
    selector := buildSelectorString (selectorLabelsForCluster cluster.name) } }
  let available := populated.setCondition .available (0 < ready) "ClusterAvailable" "At least one pod is ready"
  (available.setCondition .ready (ready = cluster.spec.spec.size) "AllPodsReady" (health ++ " pods ready"), ready)

def withPhase (cluster : PublishedCluster) (phase : Phase) (reason : String) : PublishedCluster :=
  { cluster with status := { cluster.status with phase := phase, phaseReason := reason } }

structure StatusUpdateOpts where
  aclErr : Option String
  aclSynced : Bool
  restartInProgress : Bool
  paused : Bool
  validConfigHashes : Option (List String)

def StatusUpdateOpts.plain : StatusUpdateOpts := ⟨none, false, false, false, none⟩

section Conditions

variable (configHash : Option Config → String) (opts : StatusUpdateOpts) (cluster : PublishedCluster)

def allConfigApplied : Bool :=
  !cluster.status.pods.isEmpty && cluster.status.pods.all fun (_, ps) => match opts.validConfigHashes with
    | some hashes => hashes.contains ps.configHash
    | none => ps.configHash = configHash cluster.spec.spec.aerospikeConfig

def setConfigApplied : PublishedCluster :=
  if allConfigApplied configHash opts cluster then
    cluster.setCondition .configApplied true "ConfigApplied" "All pods have the desired Aerospike configuration"
  else
    cluster.setCondition .configApplied false "ConfigPending"
      "One or more pods do not yet have the desired configuration"

def setPaused : PublishedCluster :=
  if opts.paused then cluster.setCondition .reconciliationPaused true "ReconciliationPaused"
    "Reconciliation is paused by user (spec.paused=true)"
  else cluster.setCondition .reconciliationPaused false "ReconciliationActive" "Reconciliation is active"

def setACLSynced : PublishedCluster :=
  if cluster.spec.hasAccessControl then match opts.aclErr with
    | some err => cluster.setCondition .aclSynced false "ACLSyncFailed" err
    | none =>
      if opts.aclSynced then
        cluster.setCondition .aclSynced true "ACLSyncSucceeded" "ACL roles and users are synchronized"
      else cluster.setCondition .aclSynced false "ACLSyncPending" "ACL sync skipped: no ready pods available"
  else cluster.removeCondition .aclSynced

def clearDegraded : PublishedCluster :=
  if cluster.status.phase = .configDegraded then cluster else cluster.removeCondition .dynamicConfigDegraded

def setMigrationDefault : PublishedCluster :=
  if opts.restartInProgress then
    cluster.setCondition .migrationComplete false "MigrationComplete" "Rolling restart in progress"
  else cluster.setCondition .migrationComplete true "MigrationComplete" "No rolling restart in progress"

/-- The conditions, in the order of the source. -/
def setFineGrainedConditions : PublishedCluster :=
  setMigrationDefault opts
    (clearDegraded (setACLSynced opts (setPaused opts (setConfigApplied configHash opts cluster))))

theorem isTrue_setMigrationDefault {opts : StatusUpdateOpts} {cluster : PublishedCluster} :
    (setMigrationDefault opts cluster).isTrue .migrationComplete = !opts.restartInProgress := by
  unfold setMigrationDefault
  split
  · rename_i h
    rw [isTrue_setCondition, h]
    rfl
  · rename_i h
    rw [isTrue_setCondition, Bool.eq_false_iff.2 h]
    rfl

end Conditions

/-! ## Asking the nodes -/

def asinfoCommand (nodes : List (Option AeroNode)) (cmd : String) : Except String String :=
  match nodes with
  | [] => .error "no nodes available"
  | none :: _ => .error "first node is nil"
  | some node :: _ => match node.requestInfo cmd with
    | .error err => .error ("asinfo command " ++ cmd.quote ++ " failed: " ++ err)
    | .ok result => match result.lookup cmd with
      | some val => .ok val
      | none => .error ("no result for command " ++ cmd.quote)

/-- The size the first node reports; why there is none is only logged. -/
def clusterSize (nodes : List (Option AeroNode)) : Option Int :=
  match asinfoCommand nodes "cluster-size" with
  | .error _ => none
  | .ok result => atoi (String.ofList (trimSpace result.toList))

structure AeroPodInfo where
  nodeID : String
  clusterName : String
  accessEndpoints : List String

def parseServiceEndpoints (service : String) : List String :=
  (((trimSpace service.toList).splitOn ';').map fun part => String.ofList (trimSpace part)).filter (· ≠ "")

def infoText (node : AeroNode) (cmd : String) : String :=
  match asinfoCommandOnNode node cmd with
  | .error _ => ""
  | .ok val => String.ofList (trimSpace val.toList)

def nodeInfo (node : AeroNode) : AeroPodInfo :=
  ⟨infoText node "node", infoText node "cluster-name", parseServiceEndpoints (infoText node "service")⟩

/-- The info of the nodes by pod. A nil node is dereferenced, and nothing comes back. -/
def collectAerospikeInfo (names : List (String × String)) :
    List (Option AeroNode) → List (String × AeroPodInfo) → Option (List (String × AeroPodInfo))
  | [], result => some result
  | none :: _, _ => none
  | some node :: rest, result => match node.host.bind fun host => names.lookup host with
    | none => collectAerospikeInfo names rest result
    | some podName => collectAerospikeInfo names rest (DocTree.put result podName (nodeInfo node))

def markInfo (pods : PodStatuses) (entry : String × AeroPodInfo) : PodStatuses :=
  match pods.lookup entry.1 with
  | none => pods
  | some ps => DocTree.put pods entry.1 { ps with
      nodeID := entry.2.nodeID
      clusterName := entry.2.clusterName
      accessEndpoints := entry.2.accessEndpoints }

/-- What a status write sees from outside: the listed pods, the clock, and the client's nodes, where it
connects. -/
structure View where
  pods : Except String (List ListedPod)
  now : Time
  client : Except String (List (Option AeroNode))

/-- A status to be written, with the nodes that were asked about migration while it was built. -/
structure Draft where
  cluster : PublishedCluster
  query : Option (List (Option AeroNode))

def withInfo (infos : List (String × AeroPodInfo)) (size : Option Int) (cluster : PublishedCluster) :
    PublishedCluster :=
  { cluster with status := { cluster.status with
    pods := infos.foldl markInfo cluster.status.pods
    aerospikeClusterSize := (size.map wrap32).getD cluster.status.aerospikeClusterSize } }

/-- What the servers report, pod by pod. -/
def enrichStatusWithAerospikeInfo (view : View) (cluster : PublishedCluster) : Option Draft :=
  match view.client with
  | .error _ => some ⟨cluster, none⟩
  | .ok nodes => match collectAerospikeInfo (podIPToPodName cluster.status.pods) nodes [] with
    | none => none
    | some infos => some ⟨updateMigrationStatus view.now nodes (withInfo infos (clusterSize nodes) cluster), some nodes⟩

def completed (view : View) (cluster : PublishedCluster) : PublishedCluster :=
  { cluster with status := { cluster.status with
    appliedSpec := some cluster.spec
    lastReconcileTime := some view.now
    pendingRestartPods := [] } }

def finishStatus (view : View) (phase : Phase) (cluster : PublishedCluster) : Option Draft :=
  if phase = .completed then enrichStatusWithAerospikeInfo view (completed view cluster) else some ⟨cluster, none⟩

/-! ## Writing -/

/-- The writes of others: of users, and of the operator beside this one. -/
inductive StatusEdit
  | spec (s : ObjectSpec)
  | phase (phase : Phase) (reason : String)
  | podStatus (podName : String) (ps : AerospikePodStatus)
  | reconcileHealthy (status : Bool) (reason message : String)
  | dynamicConfigDegraded (message : String)

def applyStatusEdit (cluster : PublishedCluster) : StatusEdit → PublishedCluster
  | .spec s => { cluster with spec := s, generation := cluster.generation + 1 }
  | .phase phase reason => withPhase cluster phase reason
  | .podStatus podName ps =>
    { cluster with status := { cluster.status with pods := DocTree.put cluster.status.pods podName ps } }
  | .reconcileHealthy status reason message => cluster.setCondition .reconcileHealthy status reason message
  | .dynamicConfigDegraded message => cluster.setCondition .dynamicConfigDegraded true "RollbackFailed" message

/-- A status has been written; the nodes that were asked for it. -/
inductive StatusEvent
  | published (query : Option (List (Option AeroNode)))

abbrev StatusOp := Shared.Prog PublishedCluster StatusEdit StatusEvent

abbrev StatusWorld := Shared.World PublishedCluster StatusEdit StatusEvent

/-- The last condition of a type in the list, as `conditionsSnapshot` keeps it. -/
def snapshotOf (conditions : List StatusCondition) (type : ConditionType) : Option StatusCondition :=
  conditions.reverse.find? (·.type = type)

/-- Times apart. -/
def conditionsChanged (prev cur : List StatusCondition) : Bool :=
  (prev.map (·.type)).dedup.length ≠ cur.length || cur.any fun c => snapshotOf prev c.type ≠ some c

def samePods (a b : PodStatuses) : Bool :=
  a.length = b.length && a.all fun (name, ps) => b.lookup name = some ps

/-- Compared before the servers are asked. -/
def statusUnchanged (prev latest : PublishedCluster) (readyCount : Int) (phase : Phase) (reason : String) : Bool :=
  prev.status.phase = phase && prev.status.phaseReason = reason && prev.status.size = readyCount &&
    prev.status.replicas = latest.status.replicas && prev.status.health = latest.status.health &&
    prev.status.observedGeneration = latest.generation && prev.status.selector = latest.status.selector &&
    !conditionsChanged prev.status.conditions latest.status.conditions && samePods prev.status.pods latest.status.pods

section Update

variable (configHash : Option Config → String)

/-- The status up to the point where it is compared with the old one, and the number of ready pods. -/
def prepareStatus (view : View) (phase : Phase) (reason : String) (opts : StatusUpdateOpts)
    (cluster : PublishedCluster) : Except String (PublishedCluster × Int) :=
  match view.pods with
  | .error err => .error err
  | .ok pods =>
    let (populated, readyCount) := populateStatus pods view.now cluster
    .ok (setFineGrainedConditions configHash opts (withPhase populated phase reason), readyCount)

def withObserved (draft : Draft) (observed : Nat) : Draft :=
  { draft with
    cluster := { draft.cluster with status := { draft.cluster.status with observedGeneration := observed } } }

/-- An attempt to write: the draft, the version it is written under, and the number of views used. -/
structure Attempt where
  draft : Draft
  version : Nat
  k : Nat

def nilDereference : String := "invalid memory address or nil pointer dereference"

/-- After a conflict the status is computed anew, but the generation stays the one observed first. -/
def persistStatus (views : Nat → View) (phase : Phase) (reason : String) (opts : StatusUpdateOpts) (observed : Nat)
    (attempt : Attempt) : StatusOp (Except CallError Unit × Attempt) := do
  match ← Shared.put applyStatusEdit attempt.version attempt.draft.cluster [.published attempt.draft.query] with
  | .error .conflict =>
    match ← Shared.get applyStatusEdit with
    | .error err => pure (.error err, attempt)
    | .ok refetched => match prepareStatus configHash (views attempt.k) phase reason opts refetched.val with
      | .error err => pure (.error (.failed err), attempt)
      | .ok (cluster, _) => match finishStatus (views attempt.k) phase cluster with
        | none => pure (.error (.failed nilDereference), attempt)
        | some draft => pure (.error .conflict, ⟨withObserved draft observed, refetched.version, attempt.k + 1⟩)
  | result => pure (result, attempt)

/-- `views k` is what attempt `k` sees. -/
def updateStatusAndPhase (views : Nat → View) (phase : Phase) (reason : String) (opts : StatusUpdateOpts) :
    StatusOp (Except CallError Unit) := do
  match ← Shared.get applyStatusEdit with
  | .error err => pure (.error err)
  | .ok copy => match prepareStatus configHash (views 0) phase reason opts copy.val with
    | .error err => pure (.error (.failed err))
    | .ok (latest, readyCount) =>
      -- an unchanged status is not written, and the nodes are not asked
      if statusUnchanged copy.val latest readyCount phase reason then pure (.ok ())
      else match finishStatus (views 0) phase latest with
        | none => pure (.error (.failed nilDereference))
        | some draft =>
          Shared.retryOnConflict
            (persistStatus configHash views phase reason opts draft.cluster.status.observedGeneration)
            defaultRetries ⟨draft, copy.version, 1⟩

end Update

/-! ## The reconcile loop's view -/

def toObject (base : ClusterObject) (cluster : PublishedCluster) : ClusterObject :=
  { base with
    name := cluster.name
    generation := cluster.generation
    spec := cluster.spec
    status := { base.status with
      phase := cluster.status.phase
      phaseReason := cluster.status.phaseReason
      pendingRestartPods := cluster.status.pendingRestartPods
      observedGeneration := cluster.status.observedGeneration
      appliedSpec := cluster.status.appliedSpec
      aerospikeConfig := cluster.status.aerospikeConfig
      unstableSince := cluster.status.pods.filterMap fun (name, ps) => ps.unstableSince.map (name, ·) } }

theorem foldl_put_eq_map {f : ListedPod → AerospikePodStatus} : ∀ (pods : List ListedPod) (acc : PodStatuses),
    (∀ p ∈ pods, p.pod.name ∉ acc.map (·.1)) → (pods.map (·.pod.name)).Nodup →
    pods.foldl (fun statuses p => DocTree.put statuses p.pod.name (f p)) acc =
      acc ++ pods.map fun p => (p.pod.name, f p)
  | [], acc, _, _ => by simp
  | p :: rest, acc, hfresh, hnodup => by
    have hput : ∀ m : PodStatuses, p.pod.name ∉ m.map (·.1) →
        DocTree.put m p.pod.name (f p) = m ++ [(p.pod.name, f p)] := by
      intro m
      induction m with
      | nil => intro _; rfl
      | cons entry m ih =>
        intro hm
        rw [List.map_cons, List.mem_cons, not_or] at hm
        unfold DocTree.put
        rw [if_neg (Ne.symm hm.1), ih hm.2]
        rfl
    rw [List.map_cons, List.nodup_cons] at hnodup
    rw [List.foldl_cons, hput acc (hfresh p List.mem_cons_self), foldl_put_eq_map rest _ ?_ hnodup.2]
    · simp
    · intro q hq hmem
      rw [List.map_append, List.mem_append] at hmem
      rcases hmem with hmem | hmem
      · exact hfresh q (List.mem_cons_of_mem _ hq) hmem
      · rw [List.map_singleton, List.mem_singleton] at hmem
        have hname : q.pod.name = p.pod.name := hmem
        exact hnodup.1 (hname ▸ List.mem_map_of_mem (f := fun p : ListedPod => p.pod.name) hq)

theorem lookup_unstableSince (name : String) : ∀ pods : PodStatuses, (pods.map (·.1)).Nodup →
    (pods.filterMap fun (name, ps) => ps.unstableSince.map (name, ·)).lookup name =
      ((pods.lookup name).getD .zero).unstableSince
  | [], _ => rfl
  | (n, ps) :: rest, hnodup => by
    rw [List.map_cons, List.nodup_cons] at hnodup
    have ih := lookup_unstableSince name rest hnodup.2
    rw [DocTree.lookup_cons_eq]
    by_cases h : name = n
    · subst h
      rw [if_pos rfl]
      cases hps : ps.unstableSince with
      | some t => simp [hps]
      | none =>
        -- the pod has no other entry
        have hrest : rest.lookup name = none := by
          rw [List.lookup_eq_none_iff]
          intro entry hentry
          rw [bne_iff_ne]
          rintro rfl
          exact hnodup.1 (List.mem_map.2 ⟨entry, hentry, rfl⟩)
        rw [hrest] at ih
        rw [List.filterMap_cons_none (by simp [hps]), ih, Option.getD_some, hps]
        rfl
    · rw [if_neg h, ← ih]
      cases hps : ps.unstableSince with
      | none => simp [hps]
      | some t => rw [List.filterMap_cons_some (by simp [hps]; rfl), DocTree.lookup_cons_eq, if_neg h]

variable {configHash : Option Config → String} {view : View} {phase : Phase} {reason : String}
  {opts : StatusUpdateOpts} {base : ClusterObject} {cluster latest : PublishedCluster} {readyCount : Int}
  {pods : List ListedPod}

theorem toObject_setFineGrainedConditions :
    toObject base (setFineGrainedConditions configHash opts cluster) = toObject base cluster := by
  have hmigration : ∀ c, toObject base (setMigrationDefault opts c) = toObject base c := by
    intro c
    unfold setMigrationDefault
    split <;> rfl
  have hdegraded : ∀ c, toObject base (clearDegraded c) = toObject base c := by
    intro c
    unfold clearDegraded
    split <;> rfl
  have hacl : ∀ c, toObject base (setACLSynced opts c) = toObject base c := by
    intro c
    unfold setACLSynced
    split
    · split
      · rfl
      · split <;> rfl
    · rfl
  have hpaused : ∀ c, toObject base (setPaused opts c) = toObject base c := by
    intro c
    unfold setPaused
    split <;> rfl
  have hconfig : ∀ c, toObject base (setConfigApplied configHash opts c) = toObject base c := by
    intro c
    unfold setConfigApplied
    split <;> rfl
  unfold setFineGrainedConditions
  rw [hmigration, hdegraded, hacl, hpaused, hconfig]

theorem podStatuses_unstableSince {now : Time} (hnodup : (pods.map (·.pod.name)).Nodup)
    (hold : (cluster.status.pods.map (·.1)).Nodup) :
    ((podStatuses cluster now pods).filterMap fun (name, ps) => ps.unstableSince.map (name, ·)) =
      unstablePods (cluster.status.pods.filterMap fun (name, ps) => ps.unstableSince.map (name, ·)) now
        (pods.map (·.pod)) := by
  unfold podStatuses unstablePods
  rw [foldl_put_eq_map pods [] (by simp) hnodup, List.nil_append, List.filterMap_map, List.filterMap_map]
  refine List.filterMap_congr fun p _ => ?_
  show ((if isPodReady p.pod then none else _) : Option Time).map (p.pod.name, ·) = if isPodReady p.pod then none else _
  rw [lookup_unstableSince _ _ hold]
  split <;> rfl

theorem prepareStatus_toObject (hpods : view.pods = .ok pods) (hnodup : (pods.map (·.pod.name)).Nodup)
    (hold : (cluster.status.pods.map (·.1)).Nodup)
    (h : prepareStatus configHash view phase reason opts cluster = .ok (latest, readyCount)) :
    toObject base latest =
      (Acko.populateStatus (pods.map (·.pod)) view.now (toObject base cluster)).withPhase phase reason := by
  unfold prepareStatus at h
  rw [hpods] at h
  cases h
  rw [toObject_setFineGrainedConditions]
  have hunstable := @podStatuses_unstableSince cluster pods view.now hnodup hold
  unfold Acko.populateStatus
  show toObject base (withPhase (populateStatus pods view.now cluster).1 phase reason) = _
  unfold toObject ClusterObject.withPhase
  rw [← hunstable]
  rfl

theorem lookup_unstablePods {prev : List (String × Time)} {now : Time} {p : Pod} : ∀ {pods : List Pod},
    (pods.map (·.name)).Nodup → p ∈ pods →
    (unstablePods prev now pods).lookup p.name =
      if isPodReady p then none else some ((prev.lookup p.name).getD now)
  | q :: rest, hnodup, hp => by
    rw [List.map_cons, List.nodup_cons] at hnodup
    -- no later pod has the name of the first
    have hrest : (unstablePods prev now rest).lookup q.name = none := by
      rw [List.lookup_eq_none_iff]
      intro entry hentry
      obtain ⟨r, hr, hentry⟩ := List.mem_filterMap.1 hentry
      split at hentry
      · cases hentry
      · cases hentry
        rw [bne_iff_ne]
        rintro heq
        exact hnodup.1 (heq ▸ List.mem_map_of_mem hr)
    rcases List.mem_cons.1 hp with rfl | hp
    · cases hready : isPodReady p with
      | true => simpa [unstablePods, hready] using hrest
      | false => simp [unstablePods, hready]
    · have hne : p.name ≠ q.name := fun heq => hnodup.1 (heq ▸ List.mem_map_of_mem hp)
      rw [← lookup_unstablePods hnodup.2 hp]
      cases hready : isPodReady q with
      | true => simp [unstablePods, hready]
      | false => simp [unstablePods, hready, DocTree.lookup_cons_eq, hne]

/-- After a status is published, the restart leaves out a listed pod exactly if the list has it unready and ten
minutes have passed since a status first had it so. -/
theorem stuckUnstable_prepareStatus (hpods : view.pods = .ok pods) (hnodup : (pods.map (·.pod.name)).Nodup)
    (hold : (cluster.status.pods.map (·.1)).Nodup)
    (h : prepareStatus configHash view phase reason opts cluster = .ok (latest, readyCount))
    {p : ListedPod} (hp : p ∈ pods) (now : Time) :
    stuckUnstable (toObject base latest).toCluster now p.pod = true ↔
      isPodReady p.pod = false ∧ maxPodUnstableDuration <
        now - (((cluster.status.pods.lookup p.pod.name).getD .zero).unstableSince).getD view.now := by
  have hnames : ((pods.map (·.pod)).map (·.name)).Nodup := by
    rw [List.map_map]
    exact hnodup
  have hlookup : (toObject base latest).toCluster.status.unstableSince.lookup p.pod.name =
      if isPodReady p.pod then none
      else some ((((cluster.status.pods.lookup p.pod.name).getD .zero).unstableSince).getD view.now) := by
    rw [prepareStatus_toObject hpods hnodup hold h, ← lookup_unstableSince p.pod.name cluster.status.pods hold]
    exact lookup_unstablePods hnames (List.mem_map_of_mem hp)
  unfold stuckUnstable
  rw [hlookup]
  cases isPodReady p.pod <;> simp

end Acko.Publish
