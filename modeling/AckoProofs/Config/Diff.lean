/-
The diff of two configs (`internal/configdiff`): every changed parameter, sorted into dynamic
changes, which a set-config command can apply at runtime, and static ones, which need a restart.
-/
import AckoProofs.Config.Value
import Mathlib.Algebra.Group.Int.Defs
import Mathlib.Algebra.Group.Nat.Defs
import Mathlib.Data.List.Induction

namespace Acko

/-! ## Changes -/

/-- One changed parameter. `path` holds the segments of the dotted path. -/
structure Change where
  path : List String
  context : String
  key : String
  oldValue : Value
  newValue : Value
  «namespace» : String

/-- The changes, by whether a restart is needed. -/
structure DiffResult where
  dynamic : List Change
  static : List Change

namespace DiffResult

def empty : DiffResult := ⟨[], []⟩

def append (a b : DiffResult) : DiffResult := ⟨a.dynamic ++ b.dynamic, a.static ++ b.static⟩

def HasChanges (d : DiffResult) : Bool := !d.dynamic.isEmpty || !d.static.isEmpty

def HasStaticChanges (d : DiffResult) : Bool := !d.static.isEmpty

theorem hasChanges_eq_false {d : DiffResult} : d.HasChanges = false ↔ d = .empty := by
  cases d
  simp [HasChanges, empty]

theorem append_eq_empty {a b : DiffResult} : a.append b = .empty ↔ a = .empty ∧ b = .empty := by
  cases a
  cases b
  simp only [append, empty, mk.injEq, List.append_eq_nil_iff]
  exact and_and_and_comm

theorem static_eq_empty {l : List Change} : mk [] l = .empty ↔ l = [] := by
  simp [empty]

theorem foldr_append_eq_empty : ∀ {l : List DiffResult}, l.foldr append .empty = .empty ↔ ∀ d ∈ l, d = .empty
  | [] => by simp
  | d :: l => by rw [List.foldr_cons, append_eq_empty, foldr_append_eq_empty, List.forall_mem_cons]

end DiffResult

/-- The parameters that set-config changes without a restart (`dynamicParams`). -/
def dynamicParams : List String :=
  ["service.proto-fd-max", "service.transaction-queues", "service.transaction-threads-per-queue",
   "service.batch-index-threads", "service.batch-max-buffers-per-queue", "service.batch-max-unused-buffers",
   "service.info-threads", "service.migrate-fill-delay", "service.migrate-max-num-incoming",
   "service.migrate-threads", "service.proto-fd-idle-ms", "service.query-threads-limit",
   "service.scan-threads-limit", "service.ticker-interval",
   "network.heartbeat.interval", "network.heartbeat.timeout", "network.fabric.channel-bulk-recv-threads",
   "network.fabric.channel-ctrl-recv-threads", "network.fabric.channel-meta-recv-threads",
   "network.fabric.channel-rw-recv-threads", "network.fabric.recv-rearm-threshold", "network.fabric.send-threads",
   "namespace.default-ttl", "namespace.high-water-disk-pct", "namespace.high-water-memory-pct",
   "namespace.stop-writes-pct", "namespace.stop-writes-sys-memory-pct", "namespace.migrate-order",
   "namespace.migrate-retransmit-ms", "namespace.migrate-sleep", "namespace.nsup-hist-period",
   "namespace.nsup-period", "namespace.nsup-threads", "namespace.prefer-uniform-balance", "namespace.rack-id",
   "namespace.read-page-cache", "namespace.transaction-pending-limit", "namespace.write-commit-level-override",
   "logging.any", "logging.misc", "logging.alloc", "logging.arenax", "logging.hardware", "logging.msg",
   "logging.namespace", "logging.network", "logging.os", "logging.proto", "logging.record", "logging.socket",
   "logging.xdr",
   "security.log.report-authentication", "security.log.report-sys-admin", "security.log.report-user-admin",
   "security.log.report-violation"]

/-- By the table of dynamic parameters. -/
def IsDynamic (paramPath : String) : Bool := dynamicParams.contains paramPath

/-! ## Paths -/

def joinPath (pre key : String) : String := if pre = "" then key else pre ++ "." ++ key

def pathText (path : List String) : String := path.foldl joinPath ""

def firstSegment (path : String) : String := String.ofList (path.toList.takeWhile (· ≠ '.'))

/-- The path without its leading context segment; the path itself where it has only one. -/
def keyWithinContext (path : String) : String :=
  match path.toList.dropWhile (· ≠ '.') with
  | [] => path
  | _ :: rest => String.ofList rest

/-! ## Equality of values -/

/-- An integer as a `float64` holds it: 53 significant bits, ties to even. -/
def roundFloat64 (i : Int) : Int :=
  if i.natAbs ≤ 2 ^ 53 then i else
  let k := i.natAbs.log2 - 52
  let q := i.natAbs / 2 ^ k
  let r := i.natAbs % 2 ^ k
  let up := 2 ^ k < 2 * r ∨ (2 ^ k = 2 * r ∧ q % 2 = 1)
  i.sign * (((if up then q + 1 else q) * 2 ^ k : Nat) : Int)

/-- A number widened to `float64`, as a pair that is equal for two numbers exactly when their
`float64`s are; `none` where the value is not a number. -/
def numericValue : Value → Option (Int × Int)
  | .leaf (.int i) => some (roundFloat64 i, 0)
  | .leaf (.float m e) => some (if 0 ≤ e then (roundFloat64 (m * 10 ^ e.toNat), 0) else (m, e))
  | _ => none

mutual
def deepEqual : Value → Value → Bool
  | .leaf a, .leaf b => a = b
  | .list a, .list b => deepEqualList a b
  | .map a, .map b => a.length = b.length && deepEqualFields a b
  | _, _ => false
def deepEqualList : List Value → List Value → Bool
  | [], [] => true
  | a :: l, b :: m => deepEqual a b && deepEqualList l m
  | _, _ => false
def deepEqualFields : Config → Config → Bool
  | [], _ => true
  | (k, v) :: l, m =>
    (match m.lookup k with
     | some w => deepEqual v w
     | none => false) && deepEqualFields l m
end

/-- Numbers compare across Go's numeric types; strings, booleans and nil directly; anything else
deeply. -/
def valuesEqual (a b : Value) : Bool :=
  match numericValue a with
  | some x => numericValue b = some x
  | none => deepEqual a b

/-! ## The diff -/

def asSlice : Value → List Value
  | .list l => l
  | _ => []

/-- The namespace entries by name: the last entry of a name counts, entries that are not maps or
have no string name are dropped. -/
def namespacesByName (namespaces : List Value) : List (String × Config) :=
  namespaces.foldl (fun result ns => match ns with
    | .map nsMap => match nsMap.lookup "name" with
      | some (.leaf (.str name)) => DocTree.put result name nsMap
      | _ => result
    | _ => result) []

def sortChange (c : Change) (path : String) : DiffResult :=
  if IsDynamic path then ⟨[c], []⟩ else ⟨[], [c]⟩

/-- Dynamic or static, by the path. -/
def classifyChange (path : List String) (oldVal newVal : Value) («namespace» : String) : DiffResult :=
  sortChange ⟨path, firstSegment (pathText path), keyWithinContext (pathText path), oldVal, newVal, «namespace»⟩
    (pathText path)

def diffNamespaceKey (name : String) (oldCfg : Config) (key : String) (newVal : Value) : DiffResult :=
  if key = "name" then .empty else
  let change : Change := ⟨["namespace", key], "namespace", key, oldCfg.get key, newVal, name⟩
  match oldCfg.lookup key with
  | none => sortChange change (pathText ["namespace", key])
  | some oldVal => if valuesEqual oldVal newVal then .empty else sortChange change (pathText ["namespace", key])

/-- The parameters a namespace no longer has: always static. -/
def diffNamespaceRemoved (name : String) (oldCfg newCfg : Config) : List Change :=
  oldCfg.filterMap fun (key, oldVal) =>
    if key = "name" then none else
    match newCfg.lookup key with
    | some _ => none
    | none => some ⟨["namespace", key], "namespace", key, oldVal, Value.nil, name⟩

/-- Namespaces are matched by name. -/
def diffNamespaces (oldNS newNS : List Value) : DiffResult :=
  let oldByName := namespacesByName oldNS
  let newByName := namespacesByName newNS
  let changed := newByName.map fun (name, newCfg) => match oldByName.lookup name with
    | none => ⟨[], [⟨["namespaces", name], "namespace", name, Value.nil, .map newCfg, ""⟩]⟩
    | some oldCfg =>
      ((newCfg.map fun (key, newVal) => diffNamespaceKey name oldCfg key newVal).foldr DiffResult.append .empty).append
        ⟨[], diffNamespaceRemoved name oldCfg newCfg⟩
  let removed := oldByName.filterMap fun (name, oldCfg) => match newByName.lookup name with
    | some _ => none
    | none => some ⟨["namespaces", name], "namespace", name, .map oldCfg, Value.nil, ""⟩
  (changed.foldr DiffResult.append .empty).append ⟨[], removed⟩

/-- The keys a section no longer has: always static, since "back to the default" is no set-config
value. A removed `namespaces` key is not looked at. -/
def diffRemoved (pre : List String) (oldSection newSection : Config) : List Change :=
  oldSection.filterMap fun (key, oldVal) =>
    if key = "namespaces" then none else
    match newSection.lookup key with
    | some _ => none
    | none =>
      let path := pre ++ [key]
      some ⟨path, firstSegment (pathText path), keyWithinContext (pathText path), oldVal, Value.nil, ""⟩

def diffPlain (pre : List String) (oldSection : Config) (key : String) (newVal : Value) : DiffResult :=
  if key = "namespaces" then diffNamespaces (asSlice (oldSection.get key)) (asSlice newVal) else
  match oldSection.lookup key with
  | none => classifyChange (pre ++ [key]) Value.nil newVal ""
  | some oldVal => if valuesEqual oldVal newVal then .empty else classifyChange (pre ++ [key]) oldVal newVal ""

mutual
def diffKeys (pre : List String) (oldSection : Config) : Config → DiffResult
  | [] => .empty
  | (key, newVal) :: rest => (diffKey pre oldSection key newVal).append (diffKeys pre oldSection rest)
def diffKey (pre : List String) (oldSection : Config) (key : String) : Value → DiffResult
  | .map newMap =>
    if key = "namespaces" then diffPlain pre oldSection key (.map newMap) else
    match oldSection.lookup key with
    | some (.map oldMap) =>
      (diffKeys (pre ++ [key]) oldMap newMap).append ⟨[], diffRemoved (pre ++ [key]) oldMap newMap⟩
    | _ => diffPlain pre oldSection key (.map newMap)
  | .leaf s => diffPlain pre oldSection key (.leaf s)
  | .list l => diffPlain pre oldSection key (.list l)
end

/-- The changed and added keys of a section and then the removed ones. -/
def diffSection (pre : List String) (oldSection newSection : Config) : DiffResult :=
  (diffKeys pre oldSection newSection).append ⟨[], diffRemoved pre oldSection newSection⟩

/-- Dynamic and static changes between two configs. -/
def Diff (oldConfig newConfig : Config) : DiffResult := diffSection [] oldConfig newConfig

/-! ## One key -/

section Key

variable {pre : List String} {oldSection : Config} {key : String}

theorem diffKey_namespaces (newVal : Value) :
    diffKey pre oldSection "namespaces" newVal =
      diffNamespaces (asSlice (oldSection.get "namespaces")) (asSlice newVal) := by
  cases newVal <;> simp [diffKey, diffPlain]

theorem diffKey_section {m n : Config} (hkey : key ≠ "namespaces") (hold : oldSection.lookup key = some (.map m)) :
    diffKey pre oldSection key (.map n) = diffSection (pre ++ [key]) m n := by
  rw [diffKey, if_neg hkey, hold]
  rfl

theorem diffKey_plain {newVal : Value} (hkey : key ≠ "namespaces")
    (hplain : ∀ m n, oldSection.lookup key = some (.map m) → newVal ≠ .map n) :
    diffKey pre oldSection key newVal = diffPlain pre oldSection key newVal := by
  cases newVal with
  | leaf s => rfl
  | list l => rfl
  | map n =>
    rw [diffKey, if_neg hkey]
    split
    · rename_i m hold
      exact absurd rfl (hplain m n hold)
    · rfl

end Key

/-! ## Namespaces by name -/

def keyedName : Value → Option (String × Config)
  | .map nsMap => match nsMap.lookup "name" with
    | some (.leaf (.str name)) => some (name, nsMap)
    | _ => none
  | _ => none

variable {name : String} {pre : List String} {oldSection : Config}

theorem keyedName_eq_some {ns : Value} {cfg : Config} :
    keyedName ns = some (name, cfg) ↔ ns = .map cfg ∧ cfg.lookup "name" = some (.leaf (.str name)) := by
  unfold keyedName
  split
  · rename_i nsMap
    split
    · rename_i found hname
      simp only [Option.some.injEq, Prod.mk.injEq, DocTree.map.injEq]
      constructor
      · rintro ⟨rfl, rfl⟩
        exact ⟨rfl, hname⟩
      · rintro ⟨rfl, hcfg⟩
        rw [hname] at hcfg
        cases hcfg
        exact ⟨rfl, rfl⟩
    · rename_i hname
      simp only [reduceCtorEq, DocTree.map.injEq, false_iff, not_and]
      rintro rfl hcfg
      exact hname name hcfg
  · rename_i hmap
    simp only [reduceCtorEq, false_iff, not_and]
    intro heq
    exact absurd heq (hmap cfg)

theorem namespacesByName_concat (l : List Value) (ns : Value) :
    namespacesByName (l ++ [ns]) = match keyedName ns with
      | some (name, cfg) => DocTree.put (namespacesByName l) name cfg
      | none => namespacesByName l := by
  unfold namespacesByName
  rw [List.foldl_append]
  cases ns with
  | leaf s => rfl
  | list l => rfl
  | map nsMap =>
    unfold keyedName
    dsimp only [List.foldl_cons, List.foldl_nil]
    split <;> rfl

theorem nodup_namespacesByName (l : List Value) : ((namespacesByName l).map (·.1)).Nodup := by
  induction l using List.reverseRecOn with
  | nil => exact List.nodup_nil
  | append_singleton l ns ih =>
    rw [namespacesByName_concat]
    split
    · exact DocTree.nodup_keys_put _ _ ih
    · exact ih

theorem mem_of_namespacesByName {cfg : Config} {l : List Value} (h : (name, cfg) ∈ namespacesByName l) :
    .map cfg ∈ l ∧ cfg.lookup "name" = some (.leaf (.str name)) := by
  induction l using List.reverseRecOn with
  | nil => cases h
  | append_singleton l ns ih =>
    rw [namespacesByName_concat] at h
    have hearlier : (name, cfg) ∈ namespacesByName l →
        .map cfg ∈ l ++ [ns] ∧ cfg.lookup "name" = some (.leaf (.str name)) :=
      fun hin => ⟨List.mem_append_left _ (ih hin).1, (ih hin).2⟩
    split at h
    · rename_i found nsMap hkeyed
      obtain ⟨rfl, hname⟩ := keyedName_eq_some.1 hkeyed
      rcases DocTree.mem_of_mem_put h with ⟨rfl, rfl⟩ | hin
      · exact ⟨List.mem_append_right _ (List.mem_singleton_self _), hname⟩
      · exact hearlier hin
    · exact hearlier h

/-! ## Removed keys -/

def lostKey (skip : String) (newMap : Config) (key : String) : Bool := decide (key ≠ skip) && (newMap.lookup key).isNone

theorem diffRemoved_eq_map {newSection : Config} :
    diffRemoved pre oldSection newSection =
      (oldSection.filter fun e => lostKey "namespaces" newSection e.1).map fun e =>
      ⟨pre ++ [e.1], firstSegment (pathText (pre ++ [e.1])), keyWithinContext (pathText (pre ++ [e.1])), e.2, Value.nil,
        ""⟩ := by
  unfold diffRemoved lostKey
  rw [← List.filterMap_eq_map, List.filterMap_filter]
  refine List.filterMap_congr ?_
  rintro ⟨key, oldVal⟩ -
  dsimp only
  by_cases hkey : key = "namespaces"
  · simp [hkey]
  · cases newSection.lookup key <;> simp [hkey]

theorem diffNamespaceRemoved_eq_map {oldCfg newCfg : Config} :
    diffNamespaceRemoved name oldCfg newCfg = (oldCfg.filter fun e => lostKey "name" newCfg e.1).map fun e =>
      ⟨["namespace", e.1], "namespace", e.1, e.2, Value.nil, name⟩ := by
  unfold diffNamespaceRemoved lostKey
  rw [← List.filterMap_eq_map, List.filterMap_filter]
  refine List.filterMap_congr ?_
  rintro ⟨key, oldVal⟩ -
  dsimp only
  by_cases hkey : key = "name"
  · simp [hkey]
  · cases newCfg.lookup key <;> simp [hkey]

/-! ## Nothing reported -/

theorem sortChange_ne_empty {c : Change} {path : String} : sortChange c path ≠ .empty := by
  unfold sortChange
  split <;> simp [DiffResult.empty]

theorem diffKeys_eq_empty : ∀ {newSection : Config},
    diffKeys pre oldSection newSection = .empty ↔
      ∀ key newVal, (key, newVal) ∈ newSection → diffKey pre oldSection key newVal = .empty
  | [] => by simp [diffKeys]
  | (key, newVal) :: rest => by
    rw [diffKeys, DiffResult.append_eq_empty, diffKeys_eq_empty]
    simp only [List.mem_cons, Prod.mk.injEq, or_imp, forall_and, and_imp, forall_eq_apply_imp_iff, forall_eq]

theorem diffPlain_eq_empty {key : String} {oldVal newVal : Value} (hkey : key ≠ "namespaces")
    (hold : oldSection.lookup key = some oldVal) :
    diffPlain pre oldSection key newVal = .empty ↔ valuesEqual oldVal newVal = true := by
  unfold diffPlain
  rw [if_neg hkey, hold]
  dsimp only
  split
  · rename_i h
    simp [h]
  · rename_i h
    exact iff_of_false sortChange_ne_empty h

theorem diffNamespaceKey_eq_empty {key : String} {oldCfg : Config} {oldVal newVal : Value}
    (hold : oldCfg.lookup key = some oldVal) :
    diffNamespaceKey name oldCfg key newVal = .empty ↔ (key ≠ "name" → valuesEqual oldVal newVal = true) := by
  unfold diffNamespaceKey
  by_cases hkey : key = "name"
  · simp [hkey]
  · rw [if_neg hkey, hold]
    dsimp only
    split
    · rename_i h
      simp [h]
    · rename_i h
      exact iff_of_false sortChange_ne_empty fun hequal => h (hequal hkey)

theorem filter_lostKey_eq_nil {skip : String} {oldMap newMap : Config} :
    (oldMap.filter fun e => lostKey skip newMap e.1) = [] ↔
      ∀ key oldVal, (key, oldVal) ∈ oldMap → key ≠ skip → newMap.lookup key ≠ none := by
  rw [List.filter_eq_nil_iff, Prod.forall]
  refine forall_congr' fun key => forall_congr' fun oldVal => imp_congr_right fun _ => ?_
  rw [lostKey, Bool.and_eq_true, decide_eq_true_eq, Option.isNone_iff_eq_none, not_and]

theorem diffRemoved_eq_nil {newSection : Config} :
    diffRemoved pre oldSection newSection = [] ↔
      ∀ key oldVal, (key, oldVal) ∈ oldSection → key ≠ "namespaces" → newSection.lookup key ≠ none := by
  rw [diffRemoved_eq_map, List.map_eq_nil_iff, filter_lostKey_eq_nil]

theorem diffNamespaceRemoved_eq_nil {oldCfg newCfg : Config} :
    diffNamespaceRemoved name oldCfg newCfg = [] ↔
      ∀ key oldVal, (key, oldVal) ∈ oldCfg → key ≠ "name" → newCfg.lookup key ≠ none := by
  rw [diffNamespaceRemoved_eq_map, List.map_eq_nil_iff, filter_lostKey_eq_nil]

example : (Diff [("service", .map [("proto-fd-max", .leaf (.int 15000)), ("x", .leaf (.str "a"))])]
    [("service", .map [("proto-fd-max", .leaf (.float 2 4))])]).dynamic.map (fun c => (c.context, c.key)) =
      [("service", "proto-fd-max")] := by decide

end Acko
