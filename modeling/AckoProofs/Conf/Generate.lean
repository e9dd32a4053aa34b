/-
The text of aerospike.conf (package `configgen`). A loop over the sorted keys of a map is written as what
each entry writes, sorted by the keys and joined.
-/
import AckoProofs.Config.Map
import AckoProofs.Lib.Stanza

namespace Acko

open Stanza (tabs)

/-! ## Values -/

/-- The `float64` nearest to an integer: 53 bits, ties to even. -/
def float64OfInt (n : Int) : Int :=
  let unit := 2 ^ (n.natAbs.log2 - 52)
  let q := n.natAbs / unit
  let r := n.natAbs % unit
  let q := if unit < 2 * r ∨ 2 * r = unit ∧ q % 2 = 1 then q + 1 else q
  if n < 0 then -((q * unit : Nat) : Int) else (q * unit : Nat)

/-- `formatValue` of a `float64`: digits only for a whole number within 64 bits. -/
def formatFloat (mantissa exponent : Int) : String :=
  let n := float64OfInt (floatTrunc mantissa exponent)
  if floatWhole mantissa exponent = true ∧ -2 ^ 63 ≤ n ∧ n < 2 ^ 63 then toString n else fmtFloat mantissa exponent

/-- The text of a value. -/
def formatValue : Value → String
  | .leaf .nil => ""
  | .leaf (.bool b) => if b then "true" else "false"
  | .leaf (.int i) => toString i
  | .leaf (.float m e) => formatFloat m e
  | .leaf (.str s) => s
  | v => v.fmtV

example : formatValue (.leaf (.float 3 3)) = "3000" ∧ formatValue (.leaf (.float 30005 (-1))) = "3000.5" ∧
    formatValue (.leaf (.float 1152921504606847 3)) = "1152921504606846976" := by decide

/-! ## Lines and blocks -/

def writeLine (key : String) (v : Value) (indent : Nat) : String :=
  tabs indent ++ key ++ " " ++ formatValue v ++ "\n"

def writeBraces (head body : String) (indent : Nat) : String :=
  tabs indent ++ head ++ " \x7b\n" ++ body ++ tabs indent ++ "\x7d\n"

def inOrder (entries : List (String × String)) : String :=
  String.join ((entries.insertionSort (·.1 ≤ ·.1)).map (·.2))

/-! ## Maps -/

mutual
/-- What `writeMapEntries` writes for a key: a block for a map, one line or block for each item of a list. -/
def writeMapEntry (key : String) (indent : Nat) : Value → String
  | .leaf s => if s = .nil then "" else writeLine key (.leaf s) indent
  | .map m => writeBraces key (inOrder (writeMapFields (indent + 1) m)) indent
  | .list l => writeMapItems key indent l
def writeMapItems (key : String) (indent : Nat) : List Value → String
  | [] => ""
  | v :: l => writeMapItem key indent v ++ writeMapItems key indent l
def writeMapItem (key : String) (indent : Nat) : Value → String
  | .leaf s => writeLine key (.leaf s) indent
  | .map m => writeBraces key (inOrder (writeMapFields (indent + 1) m)) indent
  | .list l => writeLine key (.list l) indent
def writeMapFields (indent : Nat) : List (String × Value) → List (String × String)
  | [] => []
  | (k, v) :: m => (k, writeMapEntry k indent v) :: writeMapFields indent m
end

/-- The entries, sorted by key. -/
def writeMapEntries (m : Config) (indent : Nat) : String := inOrder (writeMapFields indent m)

def writeBlock (key : String) (inner : Config) (indent : Nat) : String :=
  writeBraces key (writeMapEntries inner (indent + 1)) indent

def generateStanza (name : String) (m : Config) : String := writeBlock name m 0

def generateServiceSection (serviceConfig : Config) : String :=
  "service \x7b\n" ++ writeMapEntries serviceConfig 1 ++ "\x7d\n"

/-! ## Namespaces -/

/-- The stated type, or a guess from the keys. -/
def inferStorageEngineType (m : Config) : String :=
  match (m.lookup "type").bind Value.asString with
  | some t => t
  | none => if m.any fun (k, _) => k = "file" || k = "device" then "device" else "memory"

/-- The type stands in the head of the block. -/
def writeStorageEngine (m : Config) (entries : List (String × String)) (indent : Nat) : String :=
  let remaining := entries.filter fun e => e.1 ≠ "type"
  let head := "storage-engine " ++ inferStorageEngineType m
  if remaining.isEmpty then tabs indent ++ head ++ "\n" else writeBraces head (inOrder remaining) indent

mutual
/-- As `writeMapEntries`, storage engine apart. -/
def writeNamespaceEntry (key : String) (indent : Nat) : Value → String
  | .leaf s => writeLine key (.leaf s) indent
  | .map m =>
    if key = "storage-engine" then writeStorageEngine m (writeNamespaceFields (indent + 1) m) indent
    else writeBraces key (inOrder (writeNamespaceFields (indent + 1) m)) indent
  | .list l => if key = "storage-engine" then writeLine key (.list l) indent else writeNamespaceItems key indent l
def writeNamespaceItems (key : String) (indent : Nat) : List Value → String
  | [] => ""
  | v :: l => writeNamespaceItem key indent v ++ writeNamespaceItems key indent l
def writeNamespaceItem (key : String) (indent : Nat) : Value → String
  | .leaf s => writeLine key (.leaf s) indent
  | .map m => writeBraces key (inOrder (writeNamespaceFields (indent + 1) m)) indent
  | .list l => writeLine key (.list l) indent
def writeNamespaceFields (indent : Nat) : List (String × Value) → List (String × String)
  | [] => []
  | (k, v) :: m => (k, writeNamespaceEntry k indent v) :: writeNamespaceFields indent m
end

/-- What a loop over a list writes; the first error ends it. -/
def writeEach (f : Nat → Value → Except String String) : Nat → List Value → Except String String
  | _, [] => .ok ""
  | i, v :: l => do
    let s ← f i v
    let rest ← writeEach f (i + 1) l
    .ok (s ++ rest)

def entryName (m : Config) : Option String := ((m.lookup "name").bind Value.asString).filter (· ≠ "")

def withoutName {α : Type} (entries : List (String × α)) : List (String × α) := entries.filter fun e => e.1 ≠ "name"

def namespaceSection (i : Nat) : Value → Except String String
  | .map nsMap =>
    match entryName nsMap with
    | none => .error ("namespace entry " ++ toString i ++ " missing 'name' key")
    | some name => .ok (writeBraces ("namespace " ++ name) (inOrder (withoutName (writeNamespaceFields 1 nsMap))) 0)
  | _ => .error ("namespace entry " ++ toString i ++ " is not a map")

def generateNamespaceSections (namespaces : List Value) : Except String String :=
  writeEach namespaceSection 0 namespaces

/-! ## Logging -/

/-- The head of a sink's block: its kind, and the path of a file. -/
def sinkHead (name : String) : String × Option String :=
  if name = "console" ∨ name = "stderr" then ("console", none)
  else if name = "syslog" then ("syslog", none)
  else ("file", some name)

def headText (key : String) : Option String → String
  | some value => key ++ " " ++ value
  | none => key

def sinkSection (i : Nat) : Value → Except String String
  | .map logMap =>
    match entryName logMap with
    | none => .error ("logging entry " ++ toString i ++ " is missing the required \"name\" key")
    | some name => .ok (writeBraces (headText (sinkHead name).1 (sinkHead name).2)
        (inOrder (withoutName (logMap.map fun (k, v) => (k, writeLine k v 2)))) 1)
  | v => .error ("logging entry " ++ toString i ++ " is not a map (got " ++ v.typeName ++ ")")

def generateLoggingSection (logs : List Value) : Except String String := do
  let sinks ← writeEach sinkSection 0 logs
  .ok ("logging \x7b\n" ++ sinks ++ "\x7d\n")

/-! ## Network -/

/-- An entry of the network section: a block for a map, a line for anything else. -/
def networkEntry (key : String) (indent : Nat) : Value → String
  | .map m => writeBraces key (writeMapEntries m (indent + 1)) indent
  | v => writeLine key v indent

/-- The DNS name of the pod and the port. -/
def meshSeed (serviceName namespace_ : String) (heartbeatPort : Int) (pName : String) : String :=
  pName ++ ("." ++ serviceName ++ "." ++ namespace_ ++ ".svc.cluster.local") ++ " " ++ toString heartbeatPort

/-- The pods' seeds replace those of the config. -/
def generateHeartbeatSubsection (hbConfig : Config) (serviceName namespace_ : String) (podNames : List String)
    (heartbeatPort : Int) : String :=
  "\theartbeat \x7b\n" ++
    inOrder ((hbConfig.filter fun e => e.1 ≠ "mesh-seed-address-port").map fun (k, v) => (k, networkEntry k 2 v)) ++
    String.join (podNames.map fun pName =>
      "\t\tmesh-seed-address-port " ++ meshSeed serviceName namespace_ heartbeatPort pName ++ "\n") ++
    "\t\x7d\n"

/-- The heartbeat has the seeds of all pods. -/
def generateNetworkSection (networkConfig : Config) (serviceName namespace_ : String) (podNames : List String)
    (heartbeatPort : Int) : String :=
  "network \x7b\n" ++
    inOrder (networkConfig.map fun (k, v) => (k,
      if k = "heartbeat" then
        generateHeartbeatSubsection (v.asMap.getD []) serviceName namespace_ podNames heartbeatPort
      else networkEntry k 1 v)) ++
    "\x7d\n"

/-! ## The file -/

def confSection (writeNetwork : Config → String) (key : String) (val : Value) : Except String String :=
  if val.isNil then .ok ""
  else if key = "namespaces" then
    match val with
    | .list namespaces => generateNamespaceSections namespaces
    | _ => .error "namespaces must be a list"
  else if key = "logging" then
    match val with
    | .list logs => generateLoggingSection logs
    | _ => .error "logging must be a list"
  else if key = "security" then .ok ""
  else if key = "service" then
    match val with
    | .map svcMap => .ok (generateServiceSection svcMap)
    | _ => .error "service must be a map"
  else if key = "network" then
    match val with
    | .map netMap => .ok (writeNetwork netMap)
    | _ => .error "network must be a map"
  else
    match val with
    | .map m => .ok (generateStanza key m)
    | _ => .ok (writeLine key val 0)

def confSections (writeNetwork : Config → String) : Config → Except String String
  | [] => .ok ""
  | (key, val) :: rest => do
    let s ← confSection writeNetwork key val
    let l ← confSections writeNetwork rest
    .ok (s ++ l)

theorem confSections_cons_ok {w : Config → String} {key : String} {val : Value} {rest : Config} {r : String} :
    confSections w ((key, val) :: rest) = .ok r ↔
      ∃ s l, confSection w key val = .ok s ∧ confSections w rest = .ok l ∧ r = s ++ l := by
  rw [confSections]
  cases confSection w key val with
  | error e => simp [bind, Except.bind]
  | ok s => cases confSections w rest <;> simp [bind, Except.bind, eq_comm]

/-- Section by section, sorted by name. -/
def generateConfigCore (config : Config) (writeNetwork : Config → String) : Except String String :=
  confSections writeNetwork (config.insertionSort (·.1 ≤ ·.1))

def generateConfig (config : Config) : Except String String := generateConfigCore config (generateStanza "network")

/-- With the seeds of all pods in the heartbeat. -/
def generateConfForPod (config : Config) (serviceName namespace_ : String) (podNames : List String)
    (heartbeatPort : Int) : Except String String :=
  generateConfigCore config fun netMap => generateNetworkSection netMap serviceName namespace_ podNames heartbeatPort

end Acko
