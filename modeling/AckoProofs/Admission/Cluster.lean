/-
The validating webhook as far as the size, the image, the config, the racks, the disruption budgets and
the overrides of a cluster are concerned. The checks of other parts of the spec are given by their
errors; the warnings are left out.
-/
import AckoProofs.Admission.Config
import AckoProofs.Admission.Default
import AckoProofs.Admission.Image
import AckoProofs.Lib.Keyed
import Mathlib.Algebra.Ring.Int.Defs

namespace Acko

def maxCEClusterSize : Int := 8
def minCEMajorVersion : Int := 8

/-- The errors of the checks of other parts of the spec. -/
structure OtherChecks where
  accessControl : List String
  containerNames : List String
  monitoring : List String
  storage : List String
  operations : List String

def OtherChecks.none : OtherChecks := ⟨[], [], [], [], []⟩

/-! ## Size and image -/

def imageErrors (field image : String) : List String :=
  match enterpriseImage image with
  | some .repository => [field ++ " " ++ quoted image ++ " references the enterprise repository " ++
      "(aerospike-server-enterprise); CE clusters must use a CE image such as aerospike:ce-8.1.1.1"]
  | some .edition => [field ++ " " ++ quoted image ++
      " is an Enterprise Edition image; only Community Edition images are allowed"]
  | none => []

variable (spec : DeclaredSpec)

/-- The edition's limits on size and image. -/
def validateSizeAndImage : List String :=
  (if maxCEClusterSize < spec.size then
    ["spec.size " ++ toString spec.size ++ " exceeds CE maximum of " ++ toString maxCEClusterSize] else []) ++
  (if spec.size = 0 ∧ spec.templateRef = none then
    ["spec.size must be set (1–8) when spec.templateRef is not specified"] else []) ++
  (if spec.image = "" ∧ spec.templateRef = none then
    ["spec.image must not be empty when spec.templateRef is not specified"] else []) ++
  imageErrors "spec.image" spec.image ++
  if imageTag spec.image = "latest" then [] else
    match (parseMajorVersion spec.image).filter (· < minCEMajorVersion) with
    | some major => ["spec.image " ++ quoted spec.image ++ " requires Aerospike CE " ++ toString minCEMajorVersion ++
        " or later (got major version " ++ toString major ++ "); CE 7.x is no longer supported"]
    | none => []

/-! ## Integers or percentages -/

/-- An integer or a percentage in range. -/
def intOrStringErrors (val : Option IntOrString) (fieldName : String) (minValue : Int) : List String :=
  let label := if minValue = 0 then "non-negative" else "positive"
  match val with
  | none => []
  | some (.int v) => if v < minValue then
      [fieldName ++ " must be a " ++ label ++ " integer (got " ++ toString v ++ ")"] else []
  | some (.str s) => match cutPercent s with
    | none =>
        [fieldName ++ " must be a " ++ label ++ " integer or a percentage string (e.g., \"25%\"); got " ++ quoted s]
    | some numStr => match atoi numStr with
      | none => [fieldName ++ " percentage " ++ quoted s ++ " is not a valid integer"]
      | some num => if num < minValue ∨ 100 < num then
          [fieldName ++ " percentage must be between " ++ toString minValue ++ " and 100 (got " ++ toString num ++ ")"]
          else []

/-- A budget must not allow every pod at once. -/
def maxUnavailableErrors (mu : IntOrString) (field : String) (size : Int) : List String :=
  match mu with
  | .int v => if 0 < size ∧ size ≤ v then
      [field ++ " (" ++ toString v ++ ") is >= the pod count it protects (" ++ toString size ++
        "); a PodDisruptionBudget that allows every pod to be evicted at once is not a budget. Use a value below " ++
        toString size ++ ", or set spec.disablePDB to opt out of disruption protection deliberately"] else []
  | .str s => match ((cutPercent s).bind atoi).filter (100 ≤ ·) with
    | some _ => [field ++ " (" ++ s ++ ") allows 100% disruption; a PodDisruptionBudget that allows every pod to be " ++
        "evicted at once is not a budget. Use a value below 100%, or set spec.disablePDB to opt out of " ++
        "disruption protection deliberately"]
    | none => []

/-! ## Replication factors and ports -/

/-- The errors of one namespace; `size` is none where the template supplies it. -/
def replicationFactorErrors (size : Option Int) (nsMap : Config) : List String :=
  let place := "namespace " ++ quoted (((nsMap.lookup "name").bind Value.asString).getD "") ++ ": "
  let bounded := fun (rf : Int) =>
    if rf < 1 then [place ++ "replication-factor must be >= 1, got " ++ toString rf] else
    match size with
    | none => []
    | some size => if size < rf then [place ++ "replication-factor " ++ toString rf ++ " exceeds cluster size " ++
        toString size] else []
  match nsMap.lookup "replication-factor" with
  | none => []
  | some (.leaf (.int v)) => bounded v
  | some (.leaf (.float m e)) =>
    if !floatIsInt m e || floatLt m e 0 then
      [place ++ "replication-factor must be a positive integer, got " ++ fmtFloat m e]
    else bounded (intOfFloat m e)
  | some rf =>
      [place ++ "replication-factor must be an integer, got " ++ Value.typeName rf ++ " (" ++ Value.fmtV rf ++ ")"]

/-- Each factor against the size. -/
def validateReplicationFactor : List String :=
  match spec.aerospikeConfig with
  | none => []
  | some config =>
    let size := if spec.size = 0 ∧ spec.templateRef.isSome then none else some spec.size
    (namespaceMaps config.entries).flatMap (replicationFactorErrors size)

def operatorFixedNetworkPorts : List (String × Int) :=
  [("service", servicePort), ("heartbeat", heartbeatPort), ("fabric", fabricPort)]

def aerospikeReservedPorts : List (Int × String) :=
  [(3000, "service"), (3001, "fabric"), (3002, "heartbeat"), (3003, "info")]

def sectionPort (netCfg : Config) (sub : String) : Option Value := (netCfg.section sub).bind (·.lookup "port")

/-- `extractPort` with the check of the range. -/
def extractPort (sub : String) (raw : Value) : Except String Int :=
  let field := "aerospikeConfig.network." ++ sub ++ ".port"
  let ranged := fun (port : Int) => if port < 1 ∨ 65535 < port then
    Except.error (field ++ "=" ++ toString port ++ " must be in range 1-65535") else .ok port
  match raw with
  | .leaf (.int x) => ranged x
  | .leaf (.float m e) => ranged (intOfFloat m e)
  | .leaf (.str x) => .error (field ++ " must be an integer, got string " ++ quoted x)
  | raw => .error (field ++ " must be an integer, got " ++ raw.typeName)

/-- The ports that were read, with their subsections, and the errors of the others. -/
def portResults (netCfg : Config) : List (String × Except String Int) :=
  (operatorFixedNetworkPorts.map (·.1)).filterMap fun sub => (sectionPort netCfg sub).map fun raw =>
    (sub, extractPort sub raw)

def okPort (r : String × Except String Int) : Option (String × Int) :=
  match r.2 with
  | .ok port => some (r.1, port)
  | .error _ => none

def reservedErrors (p : String × Int) : List String :=
  aerospikeReservedPorts.flatMap fun (reservedPort, reservedFor) => if reservedPort = p.2 ∧ reservedFor ≠ p.1 then
    ["aerospikeConfig.network." ++ p.1 ++ ".port=" ++ toString p.2 ++ " conflicts with reserved port " ++
      toString reservedPort ++ " (used for " ++ reservedFor ++ ")"] else []

def fixedErrors (p : String × Int) : List String :=
  match (operatorFixedNetworkPorts.lookup p.1).filter (p.2 ≠ ·) with
  | some fixed => ["aerospikeConfig.network." ++ p.1 ++ ".port=" ++ toString p.2 ++
      " is not supported; the operator requires the fixed port " ++ toString fixed ++
      " (container ports, health probes, Services and NetworkPolicies all assume it). " ++
      "Remove the port override or set it to " ++ toString fixed ++ "."]
  | none => []

def portConflicts : List (String × Int) → List String
  | [] => []
  | p :: rest => (rest.flatMap fun q => if p.2 = q.2 then
      ["network port conflict: " ++ p.1 ++ ".port and " ++ q.1 ++ ".port are both " ++ toString p.2] else []) ++
    portConflicts rest

/-- Ports are in range, distinct and the fixed ones. -/
def validateNetworkPortUniqueness (config : Config) : List String :=
  match config.section "network" with
  | none => []
  | some netCfg =>
    let results := portResults netCfg
    let ports := results.filterMap okPort
    (results.flatMap fun r => match r.2 with
      | .error e => [e]
      | .ok _ => []) ++ ports.flatMap reservedErrors ++ portConflicts ports ++ ports.flatMap fixedErrors

/-! ## Disruption budgets -/

def validateMaxUnavailable : List String :=
  if spec.size = 0 ∧ spec.templateRef.isSome then [] else
  match spec.maxUnavailable with
  | none => []
  | some mu => maxUnavailableErrors mu "spec.maxUnavailable" spec.size

/-- The size of the `i`-th of `numRacks` racks, as the webhook computes it. -/
def admissionRackSize (size : Int) (numRacks i : Nat) : Int :=
  if (i : Int) < size.tmod numRacks then size.tdiv numRacks + 1 else size.tdiv numRacks

/-- Each rack's budget against its share. -/
def validateRackMaxUnavailable : List String :=
  if spec.racks = [] ∨ spec.size = 0 ∧ spec.templateRef.isSome then [] else
  spec.racks.zipIdx.flatMap fun (rack, i) =>
    match rack.maxUnavailable with
    | none => []
    | some mu => maxUnavailableErrors mu ("spec.rackConfig.racks[id=" ++ toString rack.id ++ "].maxUnavailable")
        (admissionRackSize spec.size spec.racks.length i)

/-! ## Racks -/

/-- The errors of a rack's own config. -/
def rackOwnErrors (rack : DeclaredRack) : List String :=
  match rack.aerospikeConfig with
  | none => []
  | some config => (validateAerospikeConfig config.entries).map
      ("rackConfig.racks[id=" ++ toString rack.id ++ "].aerospikeConfig: " ++ ·)

def rackErrors (racks : List DeclaredRack) (rack : DeclaredRack) (i : Nat) : List String :=
  rackIdentityErrors rack.id rack.rackLabel ((racks.take i).map (·.id)) ((racks.take i).map (·.rackLabel)) ++
    rackOwnErrors rack

def eachRackErrors (racks : List DeclaredRack) : List String :=
  racks.zipIdx.flatMap fun (rack, i) => rackErrors racks rack i

/-- The batch sizes of `rackConfig`, and the check of the number of racks that follows `validateRackConfig`. -/
def rackLimitErrors : List String :=
  match spec.rackConfig with
  | none => []
  | some rc =>
    intOrStringErrors rc.scaleDownBatchSize "rackConfig.scaleDownBatchSize" 1 ++
    intOrStringErrors rc.maxIgnorablePods "rackConfig.maxIgnorablePods" 0 ++
    intOrStringErrors rc.rollingUpdateBatchSize "rackConfig.rollingUpdateBatchSize" 1 ++
    if 0 < rc.racks.length ∧ spec.sizeKnown ∧ spec.size < rc.racks.length then
      ["rackConfig defines " ++ toString rc.racks.length ++ " racks but spec.size is " ++ toString spec.size ++
        "; each rack must get at least 1 pod, so the rack count must not exceed spec.size"] else []

/-- `validateRackConfig`, with the check of the number of racks that follows it. -/
def rackConfigErrors : List String := eachRackErrors spec.racks ++ rackLimitErrors spec

/-! ## Overrides -/

/-- No enterprise key in a template. -/
def validateTemplateConfigBannedKeys (fieldPath : String) (cfg : Config) (isNamespaceDefaults : Bool) : List String :=
  (if (cfg.lookup "xdr").isSome then [fieldPath ++ " must not contain 'xdr' section (XDR is Enterprise-only)"]
  else []) ++
  (if (cfg.lookup "tls").isSome then [fieldPath ++ " must not contain 'tls' section (TLS is Enterprise-only)"]
  else []) ++
  (((sortedKeys cfg).filter isTLSKey).map fun key =>
    fieldPath ++ "." ++ key ++ " is not allowed in CE edition (TLS is Enterprise-only)") ++
  validateNetworkTLSCE fieldPath cfg ++
  (match cfg.lookup "security" with
    | none => []
    | some (.map secMap) => enterpriseOnlySecurityKeys.flatMap fun (key, reason) => if (secMap.lookup key).isSome then
        [fieldPath ++ ".security." ++ key ++ " is not allowed in CE edition (" ++ reason ++ ")"] else []
    | some v => [fieldPath ++ ".security must be a map, got " ++ Value.typeName v]) ++
  if isNamespaceDefaults then
    enterpriseOnlyNamespaceKeys.flatMap fun (key, reason) => if (cfg.lookup key).isSome then
      [fieldPath ++ "." ++ key ++ " is not allowed in CE edition (" ++ reason ++
        "); namespaceDefaults is applied as a base to every namespace"] else []
  else []

def bannedKeyErrors (fieldPath : String) (cfg : Option ConfigMap) (isNamespaceDefaults : Bool) : List String :=
  match cfg with
  | none => []
  | some cfg => validateTemplateConfigBannedKeys fieldPath cfg.entries isNamespaceDefaults

/-- The edition's checks on the overrides. -/
def validateOverrides (overrides : ClusterTemplateSpec) : List String :=
  imageErrors "spec.overrides.image" overrides.image ++
  (match overrides.size with
    | some size => if size < 1 ∨ maxCEClusterSize < size then ["spec.overrides.size " ++ toString size ++
        " must be between 1 and " ++ toString maxCEClusterSize ++ " (CE limit)"] else []
    | none => []) ++
  match overrides.aerospikeConfig with
  | none => []
  | some config =>
    bannedKeyErrors "spec.overrides.aerospikeConfig.namespaceDefaults" config.namespaceDefaults true ++
    bannedKeyErrors "spec.overrides.aerospikeConfig.service" config.service false

/-! ## The spec -/

def clusterConfigErrors (errors : Config → List String) : List String :=
  match spec.aerospikeConfig with
  | none => []
  | some config => errors config.entries

def DeclaredSpec.validateErrors (others : OtherChecks) (spec : DeclaredSpec) : List String :=
  validateSizeAndImage spec ++ clusterConfigErrors spec validateAerospikeConfig ++ others.accessControl ++
  others.containerNames ++ rackConfigErrors spec ++ others.monitoring ++ others.storage ++
  clusterConfigErrors spec validateNetworkPortUniqueness ++ validateReplicationFactor spec ++
  intOrStringErrors spec.maxUnavailable "maxUnavailable" 0 ++ validateMaxUnavailable spec ++
  validateRackMaxUnavailable spec ++ others.operations ++
  (if spec.overrides.isSome ∧ spec.templateRef.isNone then
    ["spec.overrides can only be set when spec.templateRef is specified"] else []) ++
  match spec.overrides with
  | some overrides => validateOverrides overrides
  | none => []

/-- All errors in one text. -/
def DeclaredSpec.validate (others : OtherChecks) (spec : DeclaredSpec) : Option String :=
  let errors := spec.validateErrors others
  if errors.isEmpty then none else some ("validation failed: " ++ "; ".intercalate errors)

/-- A cluster on its way through the webhooks: defaults first, checks then. -/
def admitCluster (others : OtherChecks) (cluster : DeclaredCluster) : Except String DeclaredCluster := do
  let cluster ← defaultCluster cluster
  match cluster.spec.validate others with
  | none => .ok cluster
  | some err => .error err

/-! ## What an admitted spec is like -/

variable {others : OtherChecks} {spec : DeclaredSpec}

theorem DeclaredSpec.validate_eq_none : spec.validate others = none ↔ spec.validateErrors others = [] := by
  unfold DeclaredSpec.validate
  simp only [List.isEmpty_iff]
  split <;> simp_all

theorem admitCluster_eq_ok {user cluster : DeclaredCluster} (h : admitCluster others user = .ok cluster) :
    defaultCluster user = .ok cluster ∧ cluster.spec.validate others = none := by
  unfold admitCluster at h
  cases hd : defaultCluster user with
  | error e =>
    rw [hd] at h
    cases h
  | ok c =>
    rw [hd] at h
    cases hv : c.spec.validate others with
    | none =>
      simp only [bind, Except.bind, hv] at h
      cases h
      exact ⟨rfl, hv⟩
    | some err =>
      simp only [bind, Except.bind, hv] at h
      cases h

/-- The checks of `validate` that later results rest on. -/
structure AdmittedSpec (spec : DeclaredSpec) : Prop where
  config : ∀ c, spec.aerospikeConfig = some c → validateAerospikeConfig c.entries = []
  ports : ∀ c, spec.aerospikeConfig = some c → validateNetworkPortUniqueness c.entries = []
  racks : rackConfigErrors spec = []
  replication : validateReplicationFactor spec = []
  maxUnavailable : intOrStringErrors spec.maxUnavailable "maxUnavailable" 0 = []
  budget : validateMaxUnavailable spec = []
  rackBudgets : validateRackMaxUnavailable spec = []

theorem admittedSpec_of_validate (h : spec.validate others = none) : AdmittedSpec spec := by
  have hconfig : ∀ errors, clusterConfigErrors spec errors = [] → ∀ c, spec.aerospikeConfig = some c →
      errors c.entries = [] := by
    intro errors he c hc
    rw [clusterConfigErrors, hc] at he
    exact he
  rw [DeclaredSpec.validate_eq_none] at h
  unfold DeclaredSpec.validateErrors at h
  simp only [List.append_eq_nil_iff] at h
  obtain ⟨⟨⟨⟨⟨⟨⟨⟨⟨⟨⟨⟨⟨⟨-, h2⟩, -⟩, -⟩, h5⟩, -⟩, -⟩, h8⟩, h9⟩, h10⟩, h11⟩, h12⟩, -⟩, -⟩, -⟩ := h
  exact ⟨hconfig _ h2, hconfig _ h8, h5, h9, h10, h11, h12⟩

theorem AdmittedSpec.rackErrors (h : AdmittedSpec spec) {rack : DeclaredRack} {i : Nat}
    (hrack : spec.racks[i]? = some rack) : rackErrors spec.racks rack i = [] := by
  have hracks := h.racks
  unfold rackConfigErrors eachRackErrors at hracks
  simp only [List.append_eq_nil_iff, List.flatMap_eq_nil_iff] at hracks
  exact hracks.1 (rack, i) (List.mem_zipIdx_iff_getElem?.2 hrack)

theorem AdmittedSpec.rackConfig (h : AdmittedSpec spec) {rack : DeclaredRack} (hrack : rack ∈ spec.racks)
    {config : ConfigMap} (hc : rack.aerospikeConfig = some config) : validateAerospikeConfig config.entries = [] := by
  obtain ⟨i, hi⟩ := List.mem_iff_getElem?.1 hrack
  have herrors := h.rackErrors hi
  simp only [Acko.rackErrors, rackOwnErrors, hc, List.append_eq_nil_iff, List.map_eq_nil_iff] at herrors
  exact herrors.2

theorem AdmittedSpec.nodup_ids (h : AdmittedSpec spec) : (spec.racks.map (·.id)).Nodup := by
  refine Keyed.nodup_of_take _ fun rack i hi hearlier => ?_
  have herrors := h.rackErrors hi
  simp only [Acko.rackErrors, rackIdentityErrors, if_pos hearlier, List.append_eq_nil_iff] at herrors
  cases herrors.1.1.2

/-! ## The admission of an update -/

section Update

variable {env : ValidateEnv} {cluster : AerospikeCluster}

/-- The checks that the admission of an update takes as given are the ones of this module, and the other way
round. -/
structure ValidateEnv.Runs (env : ValidateEnv) (others : OtherChecks) (spec : DeclaredSpec)
    (cluster : AerospikeCluster) : Prop where
  beforeRacks : env.beforeRacks cluster = validateSizeAndImage spec ++
    clusterConfigErrors spec validateAerospikeConfig ++ others.accessControl ++ others.containerNames
  racks : List.Forall₂ (fun declared rack => declared.id = rack.id ∧ declared.rackLabel = rack.rackLabel ∧
    rackOwnErrors declared = env.rackConfig rack) spec.racks cluster.spec.racks
  beforeStorage : env.beforeStorage cluster = rackLimitErrors spec ++ others.monitoring
  storage : others.storage = cluster.spec.storage.elim [] (validateStorage env.parseQuantity) ++
    validateRackStorage env.parseQuantity cluster.spec.racks
  afterStorage : env.afterStorage cluster = clusterConfigErrors spec validateNetworkPortUniqueness ++
    validateReplicationFactor spec ++ intOrStringErrors spec.maxUnavailable "maxUnavailable" 0 ++
    validateMaxUnavailable spec ++ validateRackMaxUnavailable spec ++ others.operations
  overrides : ∀ overrides, spec.overrides = some overrides →
    env.overrides overrides.toAerospikeClusterTemplateSpec = validateOverrides overrides

theorem flatMap_zipIdx_congr {α β γ : Type} {R : α → β → Prop} {f : α × Nat → List γ} {g : β × Nat → List γ}
    {l : List α} {m : List β} (hlm : List.Forall₂ R l m) (hfg : ∀ a b i, R a b → f (a, i) = g (b, i)) :
    l.zipIdx.flatMap f = m.zipIdx.flatMap g := by
  suffices ∀ n, (l.zipIdx n).flatMap f = (m.zipIdx n).flatMap g from this 0
  induction hlm with
  | nil => exact fun _ => rfl
  | cons hab _ ih =>
    intro n
    rw [List.zipIdx_cons, List.zipIdx_cons, List.flatMap_cons, List.flatMap_cons, ih, hfg _ _ n hab]

theorem validateRackConfig_of_runs (hruns : env.Runs others spec cluster) :
    validateRackConfig env cluster.spec.racks = eachRackErrors spec.racks := by
  have hids : spec.racks.map (·.id) = cluster.spec.racks.map (·.id) := by
    refine (congrFun₂ List.forall₂_eq_eq_eq _ _).mp ?_
    rw [List.forall₂_map_left_iff, List.forall₂_map_right_iff]
    exact hruns.racks.imp fun _ _ h => h.1
  have hlabels : spec.racks.map (·.rackLabel) = cluster.spec.racks.map (·.rackLabel) := by
    refine (congrFun₂ List.forall₂_eq_eq_eq _ _).mp ?_
    rw [List.forall₂_map_left_iff, List.forall₂_map_right_iff]
    exact hruns.racks.imp fun _ _ h => h.2.1
  refine (flatMap_zipIdx_congr hruns.racks fun declared rack i h => ?_).symm
  obtain ⟨hid, hlabel, hown⟩ := h
  simp only [rackErrors, hid, hlabel, hown, List.map_take, hids, hlabels]

/-- One object has the same errors in both models. -/
theorem validate_of_describes (h : spec.Describes cluster) (hruns : env.Runs others spec cluster) :
    validate env cluster = spec.validate others := by
  have herrors : validateErrors env cluster = spec.validateErrors others := by
    unfold validateErrors DeclaredSpec.validateErrors rackConfigErrors
    rw [validateRackConfig_of_runs hruns, hruns.beforeRacks, hruns.beforeStorage, hruns.storage, hruns.afterStorage,
      ← h.templateRef, ← h.overrides]
    cases ho : spec.overrides with
    | none => cases cluster.spec.storage <;> simp [List.append_assoc]
    | some overrides =>
      have hoverrides := hruns.overrides overrides ho
      cases cluster.spec.storage <;> simp [hoverrides, List.append_assoc]
  unfold validate DeclaredSpec.validate
  rw [herrors]

/-- An update that is admitted leaves a spec that meets the checks of a creation. -/
theorem admittedSpec_of_validateUpdate {status : Option OperationStatus} {old : AerospikeCluster}
    (h : spec.Describes cluster) (hruns : env.Runs others spec cluster)
    (haccept : validateUpdate env status old cluster = none) : AdmittedSpec spec := by
  simp only [validateUpdate, validateWithCtx, Option.orElse_eq_none] at haccept
  have hvalidate := haccept.2.2.2.2.1
  rw [validate_of_describes h hruns] at hvalidate
  exact admittedSpec_of_validate hvalidate

end Update

/-! ## The sizes of the racks -/

section RackSizes

variable {size : Int} {numRacks : Nat}

theorem admissionRackSize_eq (h : 0 ≤ size) (i : Nat) :
    admissionRackSize size numRacks i = size / numRacks + if (i : Int) < size % numRacks then 1 else 0 := by
  unfold admissionRackSize
  rw [Int.tdiv_eq_ediv_of_nonneg h, Int.tmod_eq_emod_of_nonneg h]
  split
  · rfl
  · exact (Int.add_zero _).symm

/-- The first `m` racks hold `m` times the quotient and one pod more each, as far as the remainder goes. -/
theorem sum_admissionRackSize (h : 0 ≤ size) (hpos : 0 < numRacks) (m : Nat) :
    ((List.range m).map (admissionRackSize size numRacks)).sum =
      m * (size / numRacks) + min (m : Int) (size % numRacks) := by
  have hrem := Int.emod_nonneg size (show (numRacks : Int) ≠ 0 by omega)
  induction m with
  | zero => simp [hrem]
  | succ m ih =>
    rw [List.range_succ, List.map_append, List.sum_append, ih, List.map_singleton, List.sum_singleton,
      admissionRackSize_eq h, Int.natCast_succ, Int.add_mul]
    split <;> omega

theorem sum_rackSizes (h : 0 ≤ size) (hpos : 0 < numRacks) :
    ((List.range numRacks).map (admissionRackSize size numRacks)).sum = size := by
  have hlt := Int.emod_lt_of_pos size (show 0 < (numRacks : Int) by omega)
  rw [sum_admissionRackSize h hpos, min_eq_right hlt.le]
  exact Int.mul_ediv_add_emod size numRacks

/-- One pod more goes to the rack the remainder points at; a full remainder makes the next quotient. -/
theorem admissionRackSize_succ (h : 0 ≤ size) (hpos : 0 < numRacks) {i : Nat} (hi : i < numRacks) :
    admissionRackSize (size + 1) numRacks i =
      admissionRackSize size numRacks i + if i = (size % numRacks).toNat then 1 else 0 := by
  have hn : 0 < (numRacks : Int) := by omega
  have hrem := Int.emod_nonneg size hn.ne'
  have hlt := Int.emod_lt_of_pos size hn
  have hsize := Int.mul_ediv_add_emod size numRacks
  rw [admissionRackSize_eq h, admissionRackSize_eq (by omega)]
  by_cases hfull : size % numRacks + 1 < numRacks
  · obtain ⟨hquot, hmod⟩ : (size + 1) / (numRacks : Int) = size / numRacks ∧
        (size + 1) % (numRacks : Int) = size % numRacks + 1 :=
      (Int.ediv_emod_unique hn).2 ⟨by omega, by omega, hfull⟩
    rw [hquot, hmod]
    split <;> split <;> split <;> omega
  · obtain ⟨hquot, hmod⟩ : (size + 1) / (numRacks : Int) = size / numRacks + 1 ∧ (size + 1) % (numRacks : Int) = 0 := by
      refine (Int.ediv_emod_unique hn).2 ⟨?_, le_refl 0, hn⟩
      rw [Int.mul_add]
      omega
    rw [hquot, hmod]
    split <;> split <;> split <;> omega

end RackSizes

/-- The racks share the cluster's pods: evenly, the first ones before the others, as the webhook counts them, and one
pod more makes one rack larger. -/
theorem rack_sizes_partition {cluster grown : DeclaredCluster} {racks : List DeclaredRack}
    (hsize : 0 ≤ cluster.spec.size) (hracks : racks ≠ []) (hgrown : grown.spec.size = cluster.spec.size + 1) :
    ((List.range racks.length).map (cluster.getRackSize racks)).sum = cluster.spec.size ∧
    (∀ i j, cluster.getRackSize racks i ≤ cluster.getRackSize racks j + 1) ∧
    (∀ i j, i ≤ j → cluster.getRackSize racks j ≤ cluster.getRackSize racks i) ∧
    (∀ i, cluster.getRackSize racks i = admissionRackSize cluster.spec.size racks.length i) ∧
    ∃ k < racks.length, ∀ i < racks.length,
      grown.getRackSize racks i = cluster.getRackSize racks i + if i = k then 1 else 0 := by
  have hpos := List.length_pos_iff.2 hracks
  have hn : 0 < (racks.length : Int) := by omega
  have hwebhook : ∀ (c : DeclaredCluster) i, c.getRackSize racks i = admissionRackSize c.spec.size racks.length i :=
    fun _ _ => rfl
  have heq : ∀ i, cluster.getRackSize racks i = _ := fun i => admissionRackSize_eq hsize i
  have hlt := Int.emod_lt_of_pos cluster.spec.size hn
  refine ⟨sum_rackSizes hsize hpos, ?_, ?_, hwebhook cluster, (cluster.spec.size % racks.length).toNat, ?_, ?_⟩
  · intro i j
    rw [heq, heq]
    split <;> split <;> omega
  · intro i j hij
    rw [heq, heq]
    split <;> split <;> omega
  · have hrem := Int.emod_nonneg cluster.spec.size hn.ne'
    omega
  · intro i hi
    rw [hwebhook, hwebhook, hgrown]
    exact admissionRackSize_succ hsize hpos hi

theorem rack_sizes_partition_five :
    let racks := List.replicate 3 defaultRack
    ((List.range 3).map ((DeclaredCluster.plain "demo" "" 5 racks).getRackSize racks)).sum = 5 :=
  (@rack_sizes_partition (.plain "demo" "" 5 _) (.plain "demo" "" 6 []) (List.replicate 3 defaultRack) (by decide)
    (by simp) rfl).1

end Acko
