/-
The Services of a cluster: the headless one, one for each pod, the load balancer for seed discovery and the
one for metrics. Each is found by its name and created, or updated where it has drifted; the Services of
pods that are gone are found by their labels and deleted.
-/
import AckoProofs.Admission.Declared
import AckoProofs.Lib.Cut
import AckoProofs.Objects.Store
import AckoProofs.Pod.Container

namespace Acko

/-! ## Names -/

def headlessServiceName (clusterName : String) : String := clusterName

def metricsServiceName (clusterName : String) : String := clusterName ++ "-metrics"

def seedsFinderServiceName (clusterName : String) : String := clusterName ++ "-seeds-lb"

def podServiceName (pod : String) : String := pod ++ "-pod"

def podServiceLabel : String := "acko.io/pod-service"

/-! ## Labels and annotations -/

/-- `mergeAdditionalLabels`: the labels of the operator stay. -/
def mergeAdditionalLabels (base additional : StringMap) : StringMap := base ∪ additional

/-- By the domain of the key. -/
def isSystemAnnotation (key : String) : Bool :=
  match Cut.cut '/' key.toList with
  | (_, none) => false
  | (domain, some _) =>
    decide (domain = "kubernetes.io".toList) || ".kubernetes.io".toList.isSuffixOf domain ||
      decide (domain = "k8s.io".toList) || ".k8s.io".toList.isSuffixOf domain

def keepKeys (p : String → Bool) (m : StringMap) : StringMap where
  entries := m.entries.filter fun e => p e.1
  nodupKeys := by
    obtain ⟨⟨l⟩, h⟩ := m
    exact List.NodupKeys.sublist List.filter_sublist h

/-- `reconcileAnnotations`; an absent map is the empty one. -/
def reconcileAnnotations (existing desired : StringMap) : StringMap :=
  mapsCopy (keepKeys isSystemAnnotation existing) desired

/-- The system's annotations do not count. -/
def equalAnnotations (actual desired : StringMap) : Bool := actual = reconcileAnnotations actual desired

example :
    (["kubectl.kubernetes.io/last-applied-configuration", "k8s.io/x", "bypass-kubernetes.io/x", "kubernetes.io"].map
    isSystemAnnotation) = [true, true, false, false] := by decide

/-! ## Ports -/

def ServicePort.tcp (name : String) (port : Int) : ServicePort := ⟨name, port, .int port, "TCP"⟩

def headlessPorts : List ServicePort :=
  [.tcp "service" servicePort, .tcp "fabric" fabricPort, .tcp "heartbeat" heartbeatPort, .tcp "info" infoPort]

def podServiceType (spec : AerospikeServiceSpec) : ServiceType := spec.serviceType.getD .clusterIP

/-- An external service also has the cluster ports. -/
def podServicePorts (svcType : ServiceType) : List ServicePort :=
  let servicePorts := [ServicePort.tcp "service" servicePort]
  if svcType = .nodePort ∨ svcType = .loadBalancer then
    servicePorts ++ [.tcp "fabric" fabricPort, .tcp "heartbeat" heartbeatPort]
  else servicePorts

/-- The port of the seeds finder Service; a zero stands for 3000. -/
def seedsFinderPorts (lbSpec : LoadBalancerSpec) : List ServicePort :=
  let port := if lbSpec.port = 0 then 3000 else lbSpec.port
  let targetPort := if lbSpec.targetPort = 0 then 3000 else lbSpec.targetPort
  [⟨"service", port, .int targetPort, "TCP"⟩]

/-! ## One Service -/

/-- What the operator wants of a Service, whoever made it. -/
structure DesiredService where
  labels : StringMap
  annotations : StringMap
  selector : StringMap
  ports : List ServicePort

/-- The Service is created where there is none of the name, and updated where it has drifted. Nothing is
asked about who made the one that is there. -/
def reconcileService (kind name : String) (created : Service) (onCreate : ApiError → Option ApiError)
    (needsUpdate : Service → Bool) (updated : Service → Service) : ObjectPlan :=
  .read (·.wrap ("getting " ++ kind ++ " " ++ name)) fun objects =>
    match objects.services.lookup name with
    | none => .write (.service name (.create created)) onCreate .done
    | some existing =>
      if needsUpdate existing then
        .write (.service name (.update (updated existing))) (orFail ("updating " ++ kind ++ " " ++ name)) .done
      else .done

def deleteService (kind name : String) (onDelete : ApiError → Option ApiError) : ObjectPlan :=
  .read (·.wrap ("getting " ++ kind ++ " " ++ name ++ " for cleanup")) fun objects =>
    match objects.services.lookup name with
    | none => .done
    | some _ => .write (.service name .delete) onDelete .done

/-! ## The headless Service -/

namespace DeclaredCluster

def headlessMetadata (cluster : DeclaredCluster) : Option ObjectMeta := cluster.spec.headlessService.bind (·.metadata)

def desiredHeadless (cluster : DeclaredCluster) : DesiredService where
  labels :=
    mergeAdditionalLabels (labelsForCluster cluster.name).toMap ((cluster.headlessMetadata.map (·.labels)).getD ∅)
  annotations := (cluster.headlessMetadata.map (·.annotations)).getD ∅
  selector := (selectorLabelsForCluster cluster.name).toMap
  ports := headlessPorts

end DeclaredCluster

def headlessServiceNeedsUpdate (existing : Service) (desired : DesiredService) : Bool :=
  !equalAnnotations existing.annotations desired.annotations ||
    decide (existing.labels ≠ desired.labels) ||
    decide (existing.selector ≠ desired.selector) ||
    !existing.publishNotReadyAddresses ||
    decide (existing.ports ≠ desired.ports)

variable (cluster : DeclaredCluster)

def reconcileHeadlessService : ObjectPlan :=
  let svcName := headlessServiceName cluster.name
  let desired := cluster.desiredHeadless
  reconcileService "headless service" svcName
    { labels := desired.labels
      annotations := desired.annotations
      owner := some cluster.uid
      clusterIP := "None"
      type := none
      selector := desired.selector
      publishNotReadyAddresses := true
      ports := desired.ports
      externalTrafficPolicy := ""
      loadBalancerSourceRanges := [] }
    (orFail ("creating headless service " ++ svcName))
    (headlessServiceNeedsUpdate · desired)
    fun existing =>
      { existing with
        labels := desired.labels
        annotations := reconcileAnnotations existing.annotations desired.annotations
        ports := desired.ports
        selector := desired.selector
        publishNotReadyAddresses := true }

/-! ## The Services of the pods -/

def DeclaredCluster.desiredPodService (podService : AerospikeServiceSpec) (pod : String) : DesiredService where
  labels := mergeAdditionalLabels (labelsForCluster cluster.name ++ [(podServiceLabel, pod)]).toMap
    ((podService.metadata.map (·.labels)).getD ∅)
  annotations := (podService.metadata.map (·.annotations)).getD ∅
  selector := Labels.toMap [("statefulset.kubernetes.io/pod-name", pod)]
  ports := podServicePorts (podServiceType podService)

def podServiceNeedsUpdate (existing : Service) (desired : DesiredService) (desiredType : ServiceType) : Bool :=
  !equalAnnotations existing.annotations desired.annotations ||
    decide (existing.labels ≠ desired.labels) ||
    decide (existing.type ≠ some desiredType) ||
    decide (existing.selector ≠ desired.selector) ||
    decide (existing.ports ≠ desired.ports)

/-- One service for a pod. -/
def reconcilePodService (podService : AerospikeServiceSpec) (pod : String) : ObjectPlan :=
  let svcName := podServiceName pod
  let serviceType := podServiceType podService
  let desired := cluster.desiredPodService podService pod
  reconcileService "pod service" svcName
    { labels := desired.labels
      annotations := desired.annotations
      owner := some cluster.uid
      clusterIP := ""
      type := some serviceType
      selector := desired.selector
      publishNotReadyAddresses := false
      ports := desired.ports
      externalTrafficPolicy := ""
      loadBalancerSourceRanges := [] }
    (orFail ("creating pod service " ++ svcName))
    (podServiceNeedsUpdate · desired serviceType)
    fun existing =>
      { existing with
        labels := desired.labels
        annotations := reconcileAnnotations existing.annotations desired.annotations
        type := some serviceType
        selector := desired.selector
        ports := desired.ports }

/-- The Services that `cleanupStalePodServices` deletes: with the selector labels of the cluster and the
label of a pod that is not active. -/
def stalePodServices (activePodNames : List String) (objects : Objects) : List String :=
  (objects.services.entries.filter fun e =>
    carries (selectorLabelsForCluster cluster.name) e.2.labels &&
      match e.2.labels.lookup podServiceLabel with
      | none => false
      | some pod => decide (pod ≠ "") && decide (pod ∉ activePodNames)).map (·.1)

/-- Services of pods that are gone. -/
def cleanupStalePodServices (activePodNames : List String) : ObjectPlan :=
  .read (·.wrap "listing pod services for cleanup") fun objects =>
    Plan.forEach
      (fun name => .write (.service name .delete) (unlessNotFound ("deleting stale pod service " ++ name)) .done)
      (stalePodServices cluster activePodNames objects)

/-- `reconcilePodServices`. `pods` are the names that `listClusterPods` gives. -/
def reconcilePodServices (pods : List String) : ObjectPlan :=
  match cluster.spec.podService with
  | none => cleanupStalePodServices cluster []
  | some podService =>
    .read (·.wrap "listing cluster pods for pod services") fun _ =>
      (Plan.forEach (reconcilePodService cluster podService) pods).andThen (cleanupStalePodServices cluster pods)

/-! ## The seeds finder Service -/

def DeclaredCluster.desiredSeedsFinder (lbSpec : LoadBalancerSpec) : DesiredService where
  labels := mergeAdditionalLabels (labelsForCluster cluster.name).toMap lbSpec.labels
  annotations := lbSpec.annotations
  selector := (selectorLabelsForCluster cluster.name).toMap
  ports := seedsFinderPorts lbSpec

/-- The traffic policy of an existing Service; an empty one stands for "Cluster". -/
def LoadBalancerSpec.desiredPolicy (lbSpec : LoadBalancerSpec) : String :=
  if lbSpec.externalTrafficPolicy ≠ "" then lbSpec.externalTrafficPolicy else "Cluster"

def seedsFinderServiceNeedsUpdate (existing : Service) (desired : DesiredService) (lbSpec : LoadBalancerSpec) : Bool :=
  !equalAnnotations existing.annotations desired.annotations ||
    decide (existing.labels ≠ desired.labels) ||
    decide (existing.selector ≠ desired.selector) ||
    decide (existing.ports ≠ desired.ports) ||
    decide (existing.externalTrafficPolicy ≠ lbSpec.desiredPolicy) ||
    decide (existing.loadBalancerSourceRanges ≠ lbSpec.loadBalancerSourceRanges)

def reconcileSeedsFinderService : ObjectPlan :=
  let svcName := seedsFinderServiceName cluster.name
  match cluster.spec.seedsLoadBalancer with
  | none => deleteService "seeds finder service" svcName (unlessNotFound ("deleting seeds finder service " ++ svcName))
  | some lbSpec =>
    let desired := cluster.desiredSeedsFinder lbSpec
    reconcileService "seeds finder service" svcName
      { labels := desired.labels
        annotations := desired.annotations
        owner := some cluster.uid
        clusterIP := ""
        type := some .loadBalancer
        selector := desired.selector
        publishNotReadyAddresses := false
        ports := desired.ports
        externalTrafficPolicy := lbSpec.externalTrafficPolicy
        loadBalancerSourceRanges := lbSpec.loadBalancerSourceRanges }
      (orFail ("creating seeds finder service " ++ svcName))
      (seedsFinderServiceNeedsUpdate · desired lbSpec)
      fun existing =>
        { existing with
          labels := desired.labels
          annotations := reconcileAnnotations existing.annotations desired.annotations
          selector := desired.selector
          ports := desired.ports
          externalTrafficPolicy := lbSpec.desiredPolicy
          loadBalancerSourceRanges := lbSpec.loadBalancerSourceRanges }

/-! ## The metrics Service -/

def desiredMetricsService (monitoring : AerospikeMonitoringSpec) : Service where
  labels := (labelsForCluster cluster.name).toMap
  annotations := ∅
  owner := some cluster.uid
  clusterIP := ""
  type := some .clusterIP
  selector := (selectorLabelsForCluster cluster.name).toMap
  publishNotReadyAddresses := false
  ports := [.tcp "metrics" monitoring.port]
  externalTrafficPolicy := ""
  loadBalancerSourceRanges := []

def metricsServiceNeedsUpdate (existing desired : Service) : Bool :=
  decide (existing.type ≠ desired.type) || decide (existing.ports ≠ desired.ports) ||
    decide (existing.selector ≠ desired.selector) || decide (existing.labels ≠ desired.labels)

def reconcileMetricsService : ObjectPlan :=
  let svcName := metricsServiceName cluster.name
  match cluster.spec.monitoring.filter (·.enabled) with
  | none => deleteService "metrics service" svcName unlessGone
  | some monitoring =>
    let desired := desiredMetricsService cluster monitoring
    reconcileService "metrics service" svcName desired some (metricsServiceNeedsUpdate · desired) fun existing =>
      { existing with
        type := desired.type
        ports := desired.ports
        selector := desired.selector
        labels := desired.labels }

/-! ## Services after a request -/

theorem lookup_service_self (objects : Objects) (name : String) (change : Keyed.Change Service) :
    (objects.apply (.service name change)).services.lookup name = change.on (objects.services.lookup name) :=
  Keyed.lookup_write_self name change objects.services

theorem lookup_service_of_ne {name other : String} (h : other ≠ name) (objects : Objects)
    (change : Keyed.Change Service) :
    (objects.apply (.service name change)).services.lookup other = objects.services.lookup other :=
  Keyed.lookup_write_of_ne h change objects.services

section OneService

variable {ok : Objects → Request → Prop} {P : Service → Prop} {kind name : String} {created : Service}
  {onCreate : ApiError → Option ApiError} {needsUpdate : Service → Bool} {updated : Service → Service} {s : Objects}

theorem wp_reconcileService (hcreate : s.services.lookup name = none → ok s (.service name (.create created)))
    (hupdate : ∀ existing, s.services.lookup name = some existing → needsUpdate existing = true →
      ok s (.service name (.update (updated existing))))
    (hcreated : P created) (hupdated : ∀ existing, P (updated existing))
    (hsame : ∀ existing, needsUpdate existing = false → P existing) :
    Plan.wp Objects.apply ok
      (fun t => (∃ svc, t.services.lookup name = some svc ∧ P svc) ∧
        ∀ other, other ≠ name → t.services.lookup other = s.services.lookup other)
      (reconcileService kind name created onCreate needsUpdate updated) s := by
  unfold reconcileService
  rw [Plan.wp]
  cases hlook : s.services.lookup name with
  | none =>
    refine ⟨hcreate hlook, ⟨created, ?_, hcreated⟩, fun other hother => lookup_service_of_ne hother _ _⟩
    rw [lookup_service_self, hlook]
    rfl
  | some existing =>
    dsimp only
    split
    · rename_i hdrift
      refine ⟨hupdate existing hlook hdrift, ⟨updated existing, ?_, hupdated existing⟩,
        fun other hother => lookup_service_of_ne hother _ _⟩
      rw [lookup_service_self, hlook]
      rfl
    · rename_i hdrift
      exact ⟨⟨existing, hlook, hsame existing (Bool.not_eq_true _ ▸ hdrift)⟩, fun _ _ => rfl⟩

theorem wp_deleteService {onDelete : ApiError → Option ApiError} (hok : ok s (.service name .delete)) :
    Plan.wp Objects.apply ok (fun t => t.services.lookup name = none) (deleteService kind name onDelete) s := by
  unfold deleteService
  rw [Plan.wp]
  cases hlook : s.services.lookup name with
  | none => exact hlook
  | some existing =>
    refine ⟨hok, ?_⟩
    show (s.apply (.service name .delete)).services.lookup name = none
    rw [lookup_service_self]
    rfl

end OneService

end Acko
