/-
The two readings of the migration statistics. `isMigratingOnAnyNode` gates restarts and scale-downs, and
stops at the first node that is not settled; `migrateStatsPerNode` keys what the nodes report by their
hosts, and `applyMigrationStats` publishes it.
-/
import AckoProofs.Status.Object

namespace Acko

/-! ## Replies of a node -/

/-- A node of the client: `host` is the name of its host, where it has one, and `requestInfo` what it
answers to an info command. -/
structure AeroNode where
  name : String
  host : Option String
  requestInfo : String → Except String (List (String × String))

def asinfoCommandOnNode (node : AeroNode) (cmd : String) : Except String String :=
  match node.requestInfo cmd with
  | .error err => .error ("asinfo command " ++ cmd.quote ++ " on node " ++ node.name ++ " failed: " ++ err)
  | .ok result => match result.lookup cmd with
    | some val => .ok val
    | none => .error ("no result for command " ++ cmd.quote ++ " on node " ++ node.name)

def trimSpace (s : List Char) : List Char := (s.dropWhile isSpace).rdropWhile isSpace

def cutPair (pair : List Char) : Option (List Char × List Char) :=
  match pair.dropWhile (· ≠ '=') with
  | [] => none
  | _ :: value => some (pair.takeWhile (· ≠ '='), value)

/-- The number at the first pair with the key. A pair without a separator is passed over; a value that
is no number ends the search. -/
def findStat (key : String) : List (List Char) → Option Int
  | [] => none
  | pair :: rest => match cutPair pair with
    | none => findStat key rest
    | some (k, v) =>
      if String.ofList (trimSpace k) = key then atoi (String.ofList (trimSpace v)) else findStat key rest

/-- The value of the first pair with the key. -/
def parseMigrateStat (stats key : String) : Option Int := findStat key (stats.toList.splitOn ';')

example : parseMigrateStat "a=1; migrate_partitions_remaining = -7 ;b" "migrate_partitions_remaining" = some (-7) := by
  decide +kernel

def statisticsCommand : String := "statistics"

def migratePartitionsRemaining : String := "migrate_partitions_remaining"

def AeroNode.reported (node : AeroNode) : Option Int :=
  match asinfoCommandOnNode node statisticsCommand with
  | .error _ => none
  | .ok stats => parseMigrateStat stats migratePartitionsRemaining

/-- The node answers with a count of at most zero. -/
def AeroNode.Settled (node : AeroNode) : Prop := ∃ n, node.reported = some n ∧ n ≤ 0

/-! ## The gate's reading -/

/-- The loop of `isMigratingOnAnyNode`, with the error that goes with its answer. -/
def migratingScan : List (Option AeroNode) → Bool × Option String
  | [] => (false, none)
  | none :: rest => migratingScan rest
  | some node :: rest => match asinfoCommandOnNode node statisticsCommand with
    | .error err => (true, some ("statistics command on node " ++ node.name ++ " failed: " ++ err))
    | .ok stats => match parseMigrateStat stats migratePartitionsRemaining with
      | none => (true, some ("could not parse migrate_partitions_remaining on node " ++ node.name))
      | some remaining => if 0 < remaining then (true, none) else migratingScan rest

/-- Whether some node reports partitions left. -/
def isMigratingOnAnyNode (nodes : List (Option AeroNode)) : Bool × Option String :=
  if nodes.isEmpty then (false, some "no nodes available in Aerospike cluster") else migratingScan nodes

theorem migratingScan_iff : ∀ {nodes : List (Option AeroNode)},
    migratingScan nodes = (false, none) ↔ ∀ node, some node ∈ nodes → node.Settled
  | [] => by simp [migratingScan]
  | none :: rest => by
    unfold migratingScan
    rw [migratingScan_iff]
    simp
  | some node :: rest => by
    have ih := @migratingScan_iff rest
    have hnode : node.Settled ↔ ∃ stats n, asinfoCommandOnNode node statisticsCommand = .ok stats ∧
        parseMigrateStat stats migratePartitionsRemaining = some n ∧ n ≤ 0 := by
      unfold AeroNode.Settled AeroNode.reported
      cases asinfoCommandOnNode node statisticsCommand <;> simp
    simp only [List.mem_cons, Option.some.injEq, forall_eq_or_imp, hnode]
    unfold migratingScan
    cases asinfoCommandOnNode node statisticsCommand with
    | error err => simp
    | ok stats =>
      cases hn : parseMigrateStat stats migratePartitionsRemaining with
      | none => simp [hn]
      | some n =>
        by_cases hpos : 0 < n
        · simp [hn, hpos]
        · simp [hn, hpos, ih, Int.not_lt.1 hpos]

variable {nodes : List (Option AeroNode)} {node : AeroNode} {host : String} {perNode : List (String × Int)}

theorem isMigratingOnAnyNode_iff :
    isMigratingOnAnyNode nodes = (false, none) ↔ nodes ≠ [] ∧ ∀ node, some node ∈ nodes → node.Settled := by
  unfold isMigratingOnAnyNode
  cases nodes with
  | nil => simp
  | cons node rest => simp [migratingScan_iff]

/-! ## The status' reading -/

/-- The count recorded for a node whose state could not be confirmed. -/
def migrateUncertainSentinel : Int := 1

/-- The count to record, and whether the node has confirmed it. -/
def migrateRemainingForNode (stats : Except String String) : Int × Bool :=
  match stats with
  | .error _ => (migrateUncertainSentinel, false)
  | .ok stats => match parseMigrateStat stats migratePartitionsRemaining with
    | none => (migrateUncertainSentinel, false)
    | some n => (n, true)

def AeroNode.recorded (node : AeroNode) : Int :=
  (migrateRemainingForNode (asinfoCommandOnNode node statisticsCommand)).1

/-- One node of the loop: the counts by host, and the number of nodes dropped for want of one. -/
def recordNode (acc : List (String × Int) × Nat) : Option AeroNode → List (String × Int) × Nat
  | none => acc
  | some node => match node.host with
    | none => (acc.1, acc.2 + 1)
    | some host => (DocTree.put acc.1 host node.recorded, acc.2)

/-- Nodes that do not answer are left out. -/
def migrateStatsPerNode (nodes : List (Option AeroNode)) : Except String (List (String × Int)) :=
  if nodes.isEmpty then .error "no nodes available in Aerospike cluster" else
  let (result, droppedCount) := nodes.foldl recordNode ([], 0)
  if 0 < droppedCount && result.isEmpty then
    .error ("all " ++ toString droppedCount ++ " node(s) lacked host info or were unreachable for statistics")
  else .ok result

theorem recorded_le_zero : node.recorded ≤ 0 ↔ node.Settled := by
  unfold AeroNode.recorded AeroNode.Settled AeroNode.reported migrateRemainingForNode
  cases asinfoCommandOnNode node statisticsCommand with
  | error err => simp [migrateUncertainSentinel]
  | ok stats => cases hn : parseMigrateStat stats migratePartitionsRemaining <;> simp [migrateUncertainSentinel, hn]

theorem recorded_of_reported {n : Int} (h : node.reported = some n) : node.recorded = n := by
  unfold AeroNode.reported at h
  unfold AeroNode.recorded migrateRemainingForNode
  cases hs : asinfoCommandOnNode node statisticsCommand with
  | error err => rw [hs] at h; cases h
  | ok stats =>
    rw [hs] at h
    simp only at h
    simp only [h]

def hostNames (nodes : List (Option AeroNode)) : List String := nodes.filterMap fun node => node.bind (·.host)

def hosted (nodes : List (Option AeroNode)) : List (Option AeroNode) :=
  nodes.filter fun node => (node.bind (·.host)).isSome

theorem mem_hosted : some node ∈ hosted nodes ↔ some node ∈ nodes ∧ ∃ host, node.host = some host := by
  simp [hosted, Option.isSome_iff_exists]

theorem mem_hostNames : host ∈ hostNames nodes ↔ ∃ node, some node ∈ nodes ∧ node.host = some host := by
  unfold hostNames
  rw [List.mem_filterMap]
  constructor
  · rintro ⟨_ | node, hmem, h⟩
    · cases h
    · exact ⟨node, hmem, h⟩
  · rintro ⟨node, hmem, h⟩
    exact ⟨some node, hmem, h⟩

/-! ## The counts by host -/

theorem node_of_mem_counts {n : Int} : ∀ (nodes : List (Option AeroNode))
    (acc : List (String × Int) × Nat), (host, n) ∈ (nodes.foldl recordNode acc).1 →
    (host, n) ∈ acc.1 ∨ ∃ node, some node ∈ nodes ∧ node.host = some host ∧ node.recorded = n
  | [], _, h => Or.inl h
  | x :: rest, acc, h => by
    rcases node_of_mem_counts rest (recordNode acc x) h with h | ⟨node, hmem, hnode⟩
    · cases x with
      | none => exact Or.inl h
      | some node =>
        cases hhost : node.host with
        | none =>
          simp only [recordNode, hhost] at h
          exact Or.inl h
        | some host' =>
          simp only [recordNode, hhost] at h
          rcases DocTree.mem_of_mem_put h with ⟨rfl, rfl⟩ | h
          · exact Or.inr ⟨node, List.mem_cons_self, hhost, rfl⟩
          · exact Or.inl h
    · exact Or.inr ⟨node, List.mem_cons_of_mem _ hmem, hnode⟩

theorem mem_counts_of_not_mem {n : Int} : ∀ (nodes : List (Option AeroNode))
    (acc : List (String × Int) × Nat), host ∉ hostNames nodes → (host, n) ∈ acc.1 →
    (host, n) ∈ (nodes.foldl recordNode acc).1
  | [], _, _, h => h
  | none :: rest, acc, hno, h => mem_counts_of_not_mem rest acc hno h
  | some node :: rest, acc, hno, h => by
    have hrest : host ∉ hostNames rest := by
      rw [mem_hostNames] at hno ⊢
      rintro ⟨other, hmem, hother⟩
      exact hno ⟨other, List.mem_cons_of_mem _ hmem, hother⟩
    refine mem_counts_of_not_mem rest _ hrest ?_
    cases hhost : node.host with
    | none => simpa only [recordNode, hhost] using h
    | some host' =>
      simp only [recordNode, hhost]
      refine DocTree.mem_put_of_ne ?_ h
      rintro rfl
      exact hno (mem_hostNames.2 ⟨node, List.mem_cons_self, hhost⟩)

theorem mem_counts_of_nodup (hhost : node.host = some host) :
    ∀ (nodes : List (Option AeroNode)) (acc : List (String × Int) × Nat), (hostNames nodes).Nodup →
    some node ∈ nodes → (host, node.recorded) ∈ (nodes.foldl recordNode acc).1
  | none :: rest, acc, hnodup, hmem => by
    refine mem_counts_of_nodup hhost rest acc hnodup ?_
    simpa using hmem
  | some first :: rest, acc, hnodup, hmem => by
    rcases List.mem_cons.1 hmem with hfirst | hmem
    · cases hfirst
      have hno : host ∉ hostNames rest := by
        have hcons : hostNames (some node :: rest) = host :: hostNames rest := by simp [hostNames, hhost]
        rw [hcons] at hnodup
        exact (List.nodup_cons.1 hnodup).1
      -- no later node overwrites the entry
      refine mem_counts_of_not_mem rest _ hno ?_
      simp only [recordNode, hhost]
      exact DocTree.mem_put_self _ _ acc.1
    · refine mem_counts_of_nodup hhost rest _ ?_ hmem
      cases hf : first.host with
      | none => simpa [hostNames, hf] using hnodup
      | some host' =>
        have hcons : hostNames (some first :: rest) = host' :: hostNames rest := by simp [hostNames, hf]
        rw [hcons] at hnodup
        exact (List.nodup_cons.1 hnodup).2

theorem put_ne_nil (m : List (String × Int)) (k : String) (v : Int) : DocTree.put m k v ≠ [] :=
  List.ne_nil_of_mem (DocTree.mem_put_self k v m)

/-- A node with a host leaves an entry, its own or that of a later node. -/
theorem counts_ne_nil (hhost : node.host = some host) :
    ∀ (nodes : List (Option AeroNode)) (acc : List (String × Int) × Nat), (acc.1 ≠ [] ∨ some node ∈ nodes) →
    (nodes.foldl recordNode acc).1 ≠ []
  | [], _, h => by
    rcases h with h | h
    · exact h
    · cases h
  | x :: rest, acc, h => by
    refine counts_ne_nil hhost rest _ ?_
    rcases h with h | h
    · refine Or.inl ?_
      unfold recordNode
      split
      · exact h
      · split
        · exact h
        · exact put_ne_nil _ _ _
    · rcases List.mem_cons.1 h with h | h
      · subst h
        refine Or.inl ?_
        simp only [recordNode, hhost]
        exact put_ne_nil _ _ _
      · exact Or.inr h

theorem migrateStatsPerNode_of_host (hmem : some node ∈ nodes) (hhost : node.host = some host) :
    migrateStatsPerNode nodes = .ok (nodes.foldl recordNode ([], 0)).1 ∧ (nodes.foldl recordNode ([], 0)).1 ≠ [] := by
  have hcounts := counts_ne_nil hhost nodes ([], 0) (Or.inr hmem)
  have hnodes : nodes.isEmpty = false := by
    rw [List.isEmpty_eq_false_iff]
    exact List.ne_nil_of_mem hmem
  refine ⟨?_, hcounts⟩
  unfold migrateStatsPerNode
  simp [hnodes, hcounts]

theorem migrateStatsPerNode_ok (h : migrateStatsPerNode nodes = .ok perNode) :
    perNode = (nodes.foldl recordNode ([], 0)).1 := by
  unfold migrateStatsPerNode at h
  split at h
  · cases h
  · simp only at h
    split at h
    · cases h
    · cases h
      rfl

/-! ## Publication -/

/-- A sum of `int64` wraps around. -/
def wrap64 (n : Int) : Int := n.bmod 18446744073709551616

def podIPToPodName (pods : PodStatuses) : List (String × String) :=
  pods.foldl (fun names (name, ps) => if ps.podIP = "" then names else DocTree.put names ps.podIP name) []

/-- The count of a node at the pod that has its IP. -/
def markMigrating (names : List (String × String)) (pods : PodStatuses) (entry : String × Int) : PodStatuses :=
  match names.lookup entry.1 with
  | none => pods
  | some podName => match pods.lookup podName with
    | none => pods
    | some ps => DocTree.put pods podName { ps with migratingPartitions := some entry.2 }

/-- No count at the pods whose IP no node has. -/
def clearMigrating (perNode : List (String × Int)) (pods : PodStatuses) : PodStatuses :=
  pods.map fun (name, ps) =>
    (name, if (perNode.lookup ps.podIP).isSome then ps else { ps with migratingPartitions := none })

def totalRemaining (perNode : List (String × Int)) : Int :=
  perNode.foldl (fun total entry => wrap64 (total + entry.2)) 0

def anyMigrating (perNode : List (String × Int)) : Bool := perNode.any fun entry => 0 < entry.2

/-- Marks the pods and sets the condition. -/
def applyMigrationStats (now : Time) (perNode : List (String × Int)) (cluster : PublishedCluster) : PublishedCluster :=
  if perNode.isEmpty then cluster else
  let names := podIPToPodName cluster.status.pods
  let pods := clearMigrating perNode (perNode.foldl (markMigrating names) cluster.status.pods)
  let cluster := { cluster with status := { cluster.status with
    pods := pods
    migrationStatus := some ⟨anyMigrating perNode, totalRemaining perNode, now⟩ } }
  cluster.setCondition .migrationComplete (!anyMigrating perNode) "MigrationComplete"
    ("Remaining partitions: " ++ toString (totalRemaining perNode))

/-- The last part of `enrichStatusWithAerospikeInfo`; a query that fails is logged only. -/
def updateMigrationStatus (now : Time) (nodes : List (Option AeroNode)) (cluster : PublishedCluster) :
    PublishedCluster :=
  match migrateStatsPerNode nodes with
  | .error _ => cluster
  | .ok perNode => applyMigrationStats now perNode cluster

theorem isTrue_applyMigrationStats {now : Time} {cluster : PublishedCluster} (h : perNode ≠ []) :
    (applyMigrationStats now perNode cluster).isTrue .migrationComplete = !anyMigrating perNode := by
  unfold applyMigrationStats
  rw [if_neg (by simpa using h)]
  exact isTrue_setCondition

theorem totalRemaining_eq_zero (h : ∀ entry ∈ perNode, entry.2 = 0) : totalRemaining perNode = 0 := by
  unfold totalRemaining
  induction perNode with
  | nil => rfl
  | cons entry rest ih =>
    rw [List.foldl_cons, h entry List.mem_cons_self]
    exact ih fun e he => h e (List.mem_cons_of_mem _ he)

theorem anyMigrating_eq_false : anyMigrating perNode = false ↔ ∀ entry ∈ perNode, entry.2 ≤ 0 := by
  simp [anyMigrating]

/-! ## Agreement -/

/-- The status path says that the migration is complete, whatever the status said before. -/
def SetsMigrationComplete (nodes : List (Option AeroNode)) : Prop :=
  ∀ now cluster, (updateMigrationStatus now nodes cluster).isTrue .migrationComplete = true

theorem updateMigrationStatus_of_host {now : Time} {cluster : PublishedCluster} (hmem : some node ∈ nodes)
    (hhost : node.host = some host) :
    updateMigrationStatus now nodes cluster = applyMigrationStats now (nodes.foldl recordNode ([], 0)).1 cluster := by
  unfold updateMigrationStatus
  rw [(migrateStatsPerNode_of_host hmem hhost).1]

/-- Without a node that has a host the path says nothing; else the condition is what the counts say. -/
theorem updateMigrationStatus_cases (now : Time) (nodes : List (Option AeroNode)) (cluster : PublishedCluster) :
    (updateMigrationStatus now nodes cluster = cluster ∧ hostNames nodes = []) ∨
    (hostNames nodes ≠ [] ∧ (updateMigrationStatus now nodes cluster).isTrue .migrationComplete =
      !anyMigrating (nodes.foldl recordNode ([], 0)).1) := by
  cases hnames : hostNames nodes with
  | nil =>
    refine Or.inl ⟨?_, rfl⟩
    have hcounts : (nodes.foldl recordNode ([], 0)).1 = [] := by
      rw [List.eq_nil_iff_forall_not_mem]
      rintro ⟨host, n⟩ hmem
      rcases node_of_mem_counts nodes ([], 0) hmem with h | ⟨node, hnode, hhost, _⟩
      · cases h
      · have := mem_hostNames.2 ⟨node, hnode, hhost⟩
        rw [hnames] at this
        cases this
    unfold updateMigrationStatus
    split
    · rfl
    · rename_i perNode hok
      rw [migrateStatsPerNode_ok hok, hcounts]
      rfl
  | cons host rest =>
    refine Or.inr ⟨by simp, ?_⟩
    obtain ⟨node, hmem, hhost⟩ := mem_hostNames.1 (show host ∈ hostNames nodes by rw [hnames]; exact List.mem_cons_self)
    rw [updateMigrationStatus_of_host hmem hhost]
    exact isTrue_applyMigrationStats (migrateStatsPerNode_of_host hmem hhost).2

theorem anyMigrating_counts (hnodup : (hostNames nodes).Nodup) :
    anyMigrating (nodes.foldl recordNode ([], 0)).1 = false ↔ ∀ node, some node ∈ hosted nodes → node.Settled := by
  rw [anyMigrating_eq_false]
  constructor
  · intro h node hmem
    obtain ⟨hmem, host, hhost⟩ := mem_hosted.1 hmem
    exact recorded_le_zero.1 (h _ (mem_counts_of_nodup hhost nodes _ hnodup hmem))
  · rintro h ⟨host, n⟩ hmem
    rcases node_of_mem_counts nodes _ hmem with hmem | ⟨node, hnode, hhost, rfl⟩
    · cases hmem
    · exact recorded_le_zero.2 (h node (mem_hosted.2 ⟨hnode, host, hhost⟩))

/-- The readings agree on the nodes that have a host, where no two of them share its name; and what the
gate reads as settled, the status publishes as such. -/
theorem sensors_agree (nodes : List (Option AeroNode)) :
    ((hostNames nodes).Nodup → SetsMigrationComplete nodes → isMigratingOnAnyNode (hosted nodes) = (false, none)) ∧
    (isMigratingOnAnyNode nodes = (false, none) → (∃ node host, some node ∈ nodes ∧ node.host = some host) →
      SetsMigrationComplete nodes ∧
      ((∀ node n, some node ∈ nodes → node.reported = some n → 0 ≤ n) → ∀ now cluster,
        (updateMigrationStatus now nodes cluster).status.migrationStatus.map (·.remainingPartitions) = some 0)) := by
  constructor
  · intro hnodup hsets
    -- a status that says no is not changed by a path that says nothing
    let before := (PublishedCluster.fresh "c" "").setCondition .migrationComplete false "" ""
    have hafter := hsets 0 before
    rcases updateMigrationStatus_cases 0 nodes before with ⟨heq, _⟩ | ⟨hnames, hcond⟩
    · rw [heq, isTrue_setCondition] at hafter
      cases hafter
    · rw [hcond, Bool.not_eq_true', anyMigrating_counts hnodup] at hafter
      rw [isMigratingOnAnyNode_iff]
      refine ⟨?_, hafter⟩
      obtain ⟨host, hmem⟩ := List.exists_mem_of_ne_nil _ hnames
      obtain ⟨node, hmem, hhost⟩ := mem_hostNames.1 hmem
      exact List.ne_nil_of_mem (mem_hosted.2 ⟨hmem, host, hhost⟩)
  · rintro hscan ⟨node, host, hmem, hhost⟩
    have hsettled := (isMigratingOnAnyNode_iff.1 hscan).2
    have hcounts : ∀ entry ∈ (nodes.foldl recordNode ([], 0)).1,
        ∃ node, some node ∈ nodes ∧ node.recorded = entry.2 := by
      rintro ⟨host, n⟩ hentry
      rcases node_of_mem_counts nodes _ hentry with hentry | ⟨node, hnode, _, hn⟩
      · cases hentry
      · exact ⟨node, hnode, hn⟩
    constructor
    · intro now cluster
      rw [updateMigrationStatus_of_host hmem hhost,
        isTrue_applyMigrationStats (migrateStatsPerNode_of_host hmem hhost).2,
        Bool.not_eq_true', anyMigrating_eq_false]
      intro entry hentry
      obtain ⟨node, hnode, hn⟩ := hcounts entry hentry
      rw [← hn]
      exact recorded_le_zero.2 (hsettled node hnode)
    · intro hnonneg now cluster
      have htotal : totalRemaining (nodes.foldl recordNode ([], 0)).1 = 0 := by
        refine totalRemaining_eq_zero fun entry hentry => ?_
        obtain ⟨node, hnode, hn⟩ := hcounts entry hentry
        obtain ⟨n, hreported, hle⟩ := hsettled node hnode
        have hge := hnonneg node n hnode hreported
        -- settled is at most zero, so a count that is not negative is zero
        rw [recorded_of_reported hreported] at hn
        omega
      rw [updateMigrationStatus_of_host hmem hhost]
      unfold applyMigrationStats
      rw [if_neg (by simpa using (migrateStatsPerNode_of_host hmem hhost).2)]
      simp only [PublishedCluster.setCondition, htotal, Option.map_some]

def AeroNode.counting (name : String) (host : Option String) (count : String) : AeroNode :=
  ⟨name, host, fun cmd => .ok [(cmd, migratePartitionsRemaining ++ "=" ++ count)]⟩

def settledPair : List (Option AeroNode) :=
  [some (.counting "a" (some "10.0.0.1") "0"), none, some (.counting "b" (some "10.0.0.2") "0")]

theorem settled_pair_agrees : (hostNames settledPair).Nodup ∧ SetsMigrationComplete settledPair ∧
    isMigratingOnAnyNode (hosted settledPair) = (false, none) := by
  have hsets := ((sensors_agree settledPair).2 (by decide +kernel) ⟨_, _, List.mem_cons_self, rfl⟩).1
  exact ⟨by decide, hsets, (sensors_agree settledPair).1 (by decide) hsets⟩

/-- A node that reports partitions and has no host, beside one that is done. -/
def hostlessNode : List (Option AeroNode) :=
  [some (.counting "a" (some "10.0.0.1") "0"), some (.counting "b" none "5")]

/-- Two nodes under one host name, of which the first reports partitions. -/
def sharedHost : List (Option AeroNode) :=
  [some (.counting "a" (some "10.0.0.1") "5"), some (.counting "b" (some "10.0.0.1") "0")]

theorem complete_while_migrating :
    (SetsMigrationComplete hostlessNode ∧ isMigratingOnAnyNode hostlessNode = (true, none)) ∧
    (SetsMigrationComplete sharedHost ∧ isMigratingOnAnyNode sharedHost = (true, none)) := by
  have hsets : ∀ nodes, hostNames nodes ≠ [] → anyMigrating (nodes.foldl recordNode ([], 0)).1 = false →
      SetsMigrationComplete nodes := by
    intro nodes hnames hany now cluster
    rcases updateMigrationStatus_cases now nodes cluster with ⟨_, h⟩ | ⟨_, h⟩
    · exact absurd h hnames
    · rw [h, hany]
      rfl
  exact ⟨⟨hsets _ (by decide) (by decide +kernel), by decide +kernel⟩,
    ⟨hsets _ (by decide) (by decide +kernel), by decide +kernel⟩⟩

end Acko
