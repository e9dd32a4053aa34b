/-
The disruption budgets that a cluster is to have (`reconciler_pdb.go`, up to `anyRackSetsMaxUnavailable`):
one for the whole cluster, or one for each rack once a rack sets its own, with the number of pods that
each one protects.
-/
import AckoProofs.Admission.Declared

namespace Acko

/-! ## Replication factors -/

def defaultReplicationFactor : Int := 2

/-- `int32(v)` of an integer, which wraps. -/
def int32Of (v : Int) : Int := v.bmod 4294967296

/-- `int32(v)` of a `float64`, which cuts the fraction off; a number out of range becomes the least one, as on amd64. -/
def int32OfFloat (m e : Int) : Int :=
  if -2147483648 ≤ floatTrunc m e ∧ floatTrunc m e < 2147483648 then floatTrunc m e else -2147483648

/-- The replication factor of a namespace; one that is not a number or below 1 counts as the default. -/
def namespaceReplicationFactor (nsMap : Config) : Int :=
  let rf := match nsMap.lookup "replication-factor" with
    | some (.leaf (.int v)) => int32Of v
    | some (.leaf (.float m e)) => int32OfFloat m e
    | _ => defaultReplicationFactor
  if rf < 1 then defaultReplicationFactor else rf

/-- The loop of `minReplicationFactor`; 0 stands for none yet. -/
def minStep (minRF : Int) (nsMap : Config) : Int :=
  let rf := namespaceReplicationFactor nsMap
  if minRF = 0 ∨ rf < minRF then rf else minRF

/-- The lowest factor, 2 where none counts. -/
def minReplicationFactor (config : Option ConfigMap) : Int :=
  match config with
  | none => defaultReplicationFactor
  | some config =>
    let minRF := (namespaceMaps config.entries).foldl minStep 0
    if minRF = 0 then defaultReplicationFactor else minRF

variable (cluster : DeclaredCluster)

/-- One less than the lowest factor, at least 1. -/
def defaultMaxUnavailable (rack : DeclaredRack) : Int :=
  let mu := minReplicationFactor (cluster.getEffectiveConfig rack) - 1
  if 1 < mu then mu else 1

/-! ## Policies -/

/-- `resolvePDBPolicy`: a percentage is handed on, an integer is kept below the number of pods. -/
def resolvePDBPolicy (configured : Option IntOrString) (defaultMU size : Int) : IntOrString :=
  match configured with
  | none => .int defaultMU
  | some (.str s) => .str s
  | some (.int v) =>
    let capped := if 1 < size ∧ size - 1 < v then size - 1 else v
    .int (if capped < 0 then 0 else capped)

/-- The value that a rack's budget is resolved from: its own before the cluster's. -/
def rackConfigured (rack : DeclaredRack) : Option IntOrString :=
  match rack.maxUnavailable with
  | some mu => some mu
  | none => cluster.spec.maxUnavailable

/-- The budget of one rack. -/
def effectivePDBPolicy (rack : DeclaredRack) (rackSize : Int) : IntOrString :=
  resolvePDBPolicy (rackConfigured cluster rack) (defaultMaxUnavailable cluster rack) rackSize

variable (racks : List DeclaredRack)

/-- The value that the cluster's budget is resolved from; a single rack's own counts here too. -/
def clusterConfigured : Option IntOrString :=
  match racks with
  | [rack] => rackConfigured cluster rack
  | _ => cluster.spec.maxUnavailable

/-- The loop of `clusterPDBPolicy`: the smallest default of the racks, 0 standing for none yet. -/
def minDefaultStep (defaultMU : Int) (rack : DeclaredRack) : Int :=
  let mu := defaultMaxUnavailable cluster rack
  if defaultMU = 0 ∨ mu < defaultMU then mu else defaultMU

def clusterDefaultMaxUnavailable : Int :=
  let defaultMU := racks.foldl (minDefaultStep cluster) 0
  if defaultMU < 1 then 1 else defaultMU

/-- The budget of the whole cluster. -/
def clusterPDBPolicy : IntOrString :=
  resolvePDBPolicy (clusterConfigured cluster racks) (clusterDefaultMaxUnavailable cluster racks) cluster.spec.size

def anyRackSetsMaxUnavailable : Bool := racks.any (·.maxUnavailable.isSome)

/-! ## The budgets -/

def pdbName (clusterName : String) : String := clusterName ++ "-pdb"

def rackPDBName (clusterName : String) (rackID : Int) : String := clusterName ++ "-" ++ toString rackID ++ "-pdb"

/-- A budget that the cluster is to have: what it selects, the value it is resolved from, the default it
falls back to, and how many pods it protects. -/
structure PlannedPDB where
  name : String
  selector : Labels
  configured : Option IntOrString
  defaultMU : Int
  pods : Int

def PlannedPDB.maxUnavailable (pdb : PlannedPDB) : IntOrString :=
  resolvePDBPolicy pdb.configured pdb.defaultMU pdb.pods

namespace DeclaredCluster

/-- More than one rack, and one of them sets a budget of its own. -/
def perRack (cluster : DeclaredCluster) : Bool :=
  decide (1 < cluster.getRacks.length) && anyRackSetsMaxUnavailable cluster.getRacks

def clusterPDB (cluster : DeclaredCluster) : PlannedPDB where
  name := pdbName cluster.name
  selector := selectorLabelsForCluster cluster.name
  configured := clusterConfigured cluster cluster.getRacks
  defaultMU := clusterDefaultMaxUnavailable cluster cluster.getRacks
  pods := cluster.spec.size

def rackPDB (cluster : DeclaredCluster) (rack : DeclaredRack) (i : Nat) : PlannedPDB where
  name := rackPDBName cluster.name rack.id
  selector := labelsForRack cluster.name rack.id
  configured := rackConfigured cluster rack
  defaultMU := defaultMaxUnavailable cluster rack
  pods := cluster.getRackSize cluster.getRacks i

def rackPDBs (cluster : DeclaredCluster) : List PlannedPDB :=
  cluster.getRacks.zipIdx.map fun (rack, i) => cluster.rackPDB rack i

/-- The budgets that a cluster which has not switched them off is to have. -/
def plannedPDBs (cluster : DeclaredCluster) : List PlannedPDB :=
  if cluster.perRack then cluster.rackPDBs else [cluster.clusterPDB]

end DeclaredCluster

end Acko
