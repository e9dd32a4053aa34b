/-
The containers that the operator writes into a pod: the server, the init container and the exporter.
-/
import AckoProofs.Pod.Spec
import Mathlib.Data.Finset.Sort

namespace Acko

/-! ## Names and ports -/

def initContainerName : String := "aerospike-init"
def exporterContainerName : String := "aerospike-prometheus-exporter"

def servicePort : Int := 3000
def fabricPort : Int := 3001
def heartbeatPort : Int := 3002
def infoPort : Int := 3003

def configMapVolumeName : String := "aerospike-config-map"
def aerospikeConfigVolumeName : String := "aerospike-config"
def configMapVolumeMountPath : String := "/configmap"
def aerospikeConfigPath : String := "/etc/aerospike"

def preStopSleepSeconds : Int := 15

/-! ## The server -/

def buildLivenessProbe : Probe :=
  ⟨.exec ["/bin/sh", "-c", "/usr/bin/asinfo -v 'build' -h 127.0.0.1 -p " ++ toString servicePort], 30, 30, 5, 5⟩

def buildReadinessProbe : Probe :=
  ⟨.exec ["/bin/sh", "-c", "/usr/bin/asinfo -v 'statistics' -h 127.0.0.1 -p " ++ toString servicePort ++
    " 2>&1 | grep -q 'cluster_size'"], 15, 10, 5, 3⟩

variable (cluster : AerospikeCluster)

/-- The server. -/
def buildAerospikeContainer (volumeMounts : List VolumeMount) : TemplateContainer :=
  let spec := cluster.spec.podSpec.bind (·.aerospikeContainerSpec)
  { name := aerospikeContainerName
    image := cluster.spec.image
    command := ["/usr/bin/asd", "--foreground"]
    ports := [.tcp "service" servicePort, .tcp "fabric" fabricPort, .tcp "heartbeat" heartbeatPort,
      .tcp "info" infoPort]
    env := []
    resources := (spec.bind (·.resources)).getD .empty
    volumeMounts := volumeMounts
    lifecycle := some (.preStopExec ["sleep", toString preStopSleepSeconds])
    readinessProbe := some buildReadinessProbe
    livenessProbe := some buildLivenessProbe
    securityContext := spec.bind (·.securityContext)
    rest := none }

/-! ## The init container -/

def VolumeInitMethod.text : VolumeInitMethod → String
  | .none => "none"
  | .deleteFiles => "deleteFiles"
  | .dd => "dd"
  | .blkdiscard => "blkdiscard"
  | .headerCleanup => "headerCleanup"

def VolumeWipeMethod.text : VolumeWipeMethod → String
  | .none => "none"
  | .deleteFiles => "deleteFiles"
  | .dd => "dd"
  | .blkdiscard => "blkdiscard"
  | .headerCleanup => "headerCleanup"
  | .blkdiscardWithHeaderCleanup => "blkdiscardWithHeaderCleanup"

/-- `buildInitVolumesEnv`: `method:path` of every volume that the server mounts and a method is
resolved for. -/
def buildInitVolumesEnv (storageSpec : Option AerospikeStorageSpec) : String :=
  ",".intercalate <| (storageVolumes storageSpec).filterMap fun vol =>
    match resolveInitMethod vol storageSpec, vol.aerospike with
    | .none, _ => none
    | _, none => none
    | method, some att => some (method.text ++ ":" ++ att.path)

/-- The dirty volumes with a wipe method. -/
def buildWipeVolumesEnv (storageSpec : Option AerospikeStorageSpec) (dirtyVolumes : List String) : String :=
  ",".intercalate <| ((storageVolumes storageSpec).filter (·.name ∈ dirtyVolumes)).filterMap fun vol =>
    match resolveWipeMethod vol storageSpec, vol.aerospike with
    | .none, _ => none
    | _, none => none
    | method, some att => some (method.text ++ ":" ++ att.path)

def AerospikeCluster.externalServiceType : Option ServiceType :=
  (cluster.spec.podService.bind (·.serviceType)).filter (· ≠ .clusterIP)

def buildInitEnvVars : List EnvVar :=
  [.field "POD_IP" "status.podIP", .field "POD_NAME" "metadata.name", .field "NODE_IP" "status.hostIP"]

def envUnlessEmpty (name value : String) : List EnvVar := if value = "" then [] else [.text name value]

/-- Copies the config, wipes and initialises volumes. -/
def buildInitContainer (storageSpec : Option AerospikeStorageSpec) (volumeMounts : List VolumeMount)
    (dirtyVolumes : List String) : TemplateContainer :=
  let external := match cluster.externalServiceType with
    | some type => [.text "EXTERNAL_SERVICE_TYPE" type.text, .field "POD_NAMESPACE" "metadata.namespace"]
    | none => []
  { name := initContainerName
    image := cluster.spec.image
    command := ["bash", "/configmap/aerospike-init.sh"]
    ports := []
    env := buildInitEnvVars ++ external ++
      envUnlessEmpty "WIPE_VOLUMES" (buildWipeVolumesEnv storageSpec dirtyVolumes) ++
      envUnlessEmpty "INIT_VOLUMES" (buildInitVolumesEnv storageSpec)
    resources := .empty
    volumeMounts := [.of configMapVolumeName configMapVolumeMountPath true,
      .of aerospikeConfigVolumeName aerospikeConfigPath false] ++ volumeMounts
    lifecycle := none
    readinessProbe := none
    livenessProbe := none
    securityContext := none
    rest := none }

/-! ## The exporter -/

variable (acl : Option AerospikeAccessControlSpec)

/-- `FindAdminUser`: the first user with both admin roles. -/
def findAdminUser : Option AerospikeUserSpec :=
  acl.bind fun acl => acl.users.find? fun user => "sys-admin" ∈ user.roles ∧ "user-admin" ∈ user.roles

def adminEnv : List EnvVar :=
  match findAdminUser acl with
  | none => []
  | some admin => [.text "AS_AUTH_USER" admin.name,
      ⟨"AS_AUTH_PASSWORD", "", some (.secretKeyRef admin.secretName "password")⟩, .text "AS_AUTH_MODE" "internal"]

def replaceChar (s : String) (old : Char) (new : String) : String :=
  String.ofList (s.toList.flatMap fun c => if c = old then new.toList else [c])

/-- Backslash first, then the quote. -/
def escapeTOML (s : String) : String := replaceChar (replaceChar s '\\' "\\\\") '"' "\\\""

def sortedLabelKeys (labels : StringMap) : List String := labels.keys.sort (· ≤ ·)

/-- `METRIC_LABELS`: the pairs in the order of their keys. -/
def metricLabelsEnv (labels : StringMap) : List EnvVar :=
  if labels = ∅ then [] else
  [.text "METRIC_LABELS" (", ".intercalate ((sortedLabelKeys labels).map fun key =>
    escapeTOML key ++ "=\"" ++ escapeTOML ((labels.lookup key).getD "") ++ "\""))]

/-- The metrics exporter. -/
def buildExporterSidecar (monitoring : AerospikeMonitoringSpec) (acl : Option AerospikeAccessControlSpec) :
    TemplateContainer :=
  { name := exporterContainerName
    image := monitoring.exporterImage
    command := []
    ports := [.tcp "metrics" monitoring.port]
    env := [.text "AS_HOST" "127.0.0.1", .text "AS_PORT" (toString servicePort)] ++ adminEnv acl ++
      metricLabelsEnv monitoring.metricLabels ++ monitoring.env
    resources := monitoring.resources.getD .empty
    volumeMounts := []
    lifecycle := none
    readinessProbe := some ⟨.httpGet "/metrics" monitoring.port, 10, 10, 5, 3⟩
    livenessProbe := some ⟨.httpGet "/metrics" monitoring.port, 30, 30, 5, 3⟩
    securityContext := none
    rest := none }

def adminCredentials : Option (String × String) :=
  (findAdminUser acl).map fun admin => (admin.name, admin.secretName)

theorem adminEnv_eq_iff {acl acl' : Option AerospikeAccessControlSpec} :
    adminEnv acl = adminEnv acl' ↔ adminCredentials acl = adminCredentials acl' := by
  unfold adminEnv adminCredentials
  cases findAdminUser acl <;> cases findAdminUser acl' <;> simp [EnvVar.text]

theorem buildExporterSidecar_eq_iff {monitoring : AerospikeMonitoringSpec}
    {acl acl' : Option AerospikeAccessControlSpec} :
    buildExporterSidecar monitoring acl = buildExporterSidecar monitoring acl' ↔
      adminCredentials acl = adminCredentials acl' := by
  simp [buildExporterSidecar, adminEnv_eq_iff]

end Acko
