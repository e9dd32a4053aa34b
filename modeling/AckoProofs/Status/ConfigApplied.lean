/-
What the published `ConfigApplied` condition says about the pods of each rack. A pass hands the hashes of all racks'
effective configs to the status writer, which accepts a pod as soon as its hash is one of them.
-/
import AckoProofs.Status.Evidence

namespace Acko.Publish

open Shared (Turn)

/-! ## Hashes -/

section Hashes

variable (configHash : Option Config → String)

def rackConfigHash (cluster : Cluster) (rack : Rack) : String := configHash (getEffectiveConfig cluster rack)

/-- The hash of each rack. -/
def buildValidConfigHashes (cluster : Cluster) : List String :=
  (getRacks cluster).map (rackConfigHash configHash cluster)

/-- A pod of a rack that carries the hash of another rack carries its own rack's, which is the same. -/
def NoForeignHash (cluster : Cluster) (pods : List ListedPod) : Prop :=
  ∀ p ∈ pods, ∀ rack ∈ getRacks cluster, ∀ other ∈ getRacks cluster, podRackID p = rack.id →
    p.pod.hashes.config = rackConfigHash configHash cluster other →
    rackConfigHash configHash cluster other = rackConfigHash configHash cluster rack

/-- What the condition is to say: it is True only if every pod of a rack carries the rack's hash, and it is True
if there are pods and every one carries the hash of its rack. -/
structure SaysPerRack (cluster : Cluster) (written : PublishedCluster) : Prop where
  sound : written.isTrue .configApplied = true → ∀ name ps, (name, ps) ∈ written.status.pods →
    ∀ rack ∈ getRacks cluster, ps.rack = rack.id → ps.configHash = rackConfigHash configHash cluster rack
  complete : written.status.pods ≠ [] →
    (∀ name ps, (name, ps) ∈ written.status.pods → ∃ rack ∈ getRacks cluster, ps.rack = rack.id ∧
      ps.configHash = rackConfigHash configHash cluster rack) → written.isTrue .configApplied = true

/-- The rack and the hash of each listed pod. -/
def listed (pods : List ListedPod) : List (String × Int × String) :=
  pods.map fun p => (p.pod.name, podRackID p, p.pod.hashes.config)

/-- The rack and the hash of each pod in a status. -/
def carried (pods : PodStatuses) : List (String × Int × String) :=
  pods.map fun e => (e.1, e.2.rack, e.2.configHash)

/-- The status has the pods that were listed at one of the attempts, and its condition is about each rack's own hash
just where none of them carries another rack's, or one carries the hash of no rack. -/
def JudgedByRack (views : Nat → View) (cluster : Cluster) (written : PublishedCluster) : Prop :=
  ∃ k pods, (views k).pods = .ok pods ∧ carried written.status.pods = listed pods ∧
    (SaysPerRack configHash cluster written ↔ NoForeignHash configHash cluster pods ∨
      ∃ p ∈ pods, p.pod.hashes.config ∉ buildValidConfigHashes configHash cluster)

end Hashes

/-! ## What the writer leaves of rack and hash -/

theorem carried_put {pods : PodStatuses} {name : String} {ps prev : AerospikePodStatus}
    (hprev : pods.lookup name = some prev)
    (hrack : ps.rack = prev.rack) (hhash : ps.configHash = prev.configHash) :
    carried (DocTree.put pods name ps) = carried pods :=
  DocTree.map_put_of_lookup (fun ps : AerospikePodStatus => (ps.rack, ps.configHash)) (by rw [hrack, hhash]) hprev

theorem carried_foldl {α : Type} {f : PodStatuses → α → PodStatuses}
    (hf : ∀ pods a, carried (f pods a) = carried pods) :
    ∀ (l : List α) (pods : PodStatuses), carried (l.foldl f pods) = carried pods
  | [], _ => rfl
  | a :: l, pods => by rw [List.foldl_cons, carried_foldl hf l, hf]

theorem carried_markInfo (pods : PodStatuses) (entry : String × AeroPodInfo) :
    carried (markInfo pods entry) = carried pods := by
  unfold markInfo
  split
  · rfl
  · rename_i ps hps
    exact carried_put hps rfl rfl

theorem carried_markMigrating (names : List (String × String)) (pods : PodStatuses) (entry : String × Int) :
    carried (markMigrating names pods entry) = carried pods := by
  unfold markMigrating
  split
  · rfl
  · split
    · rfl
    · rename_i ps hps
      exact carried_put hps rfl rfl

theorem carried_clearMigrating (perNode : List (String × Int)) (pods : PodStatuses) :
    carried (clearMigrating perNode pods) = carried pods := by
  unfold carried clearMigrating
  rw [List.map_map]
  refine List.map_congr_left ?_
  rintro ⟨name, ps⟩ -
  by_cases h : (perNode.lookup ps.podIP).isSome = true <;> simp [h]

theorem updateMigrationStatus_keeps (now : Time) (nodes : List (Option AeroNode)) (cluster : PublishedCluster) :
    carried (updateMigrationStatus now nodes cluster).status.pods = carried cluster.status.pods ∧
      (updateMigrationStatus now nodes cluster).isTrue .configApplied = cluster.isTrue .configApplied := by
  unfold updateMigrationStatus
  split
  · exact ⟨rfl, rfl⟩
  · unfold applyMigrationStats
    split
    · exact ⟨rfl, rfl⟩
    · refine ⟨?_, ?_⟩
      · show carried (clearMigrating _ _) = _
        rw [carried_clearMigrating, carried_foldl (carried_markMigrating _)]
      · rw [isTrue_setCondition_of_ne (by decide)]
        exact isTrue_congr rfl

variable {draft : Draft}

theorem finishStatus_keeps {view : View} {phase : Phase} {latest : PublishedCluster}
    (h : finishStatus view phase latest = some draft) :
    carried draft.cluster.status.pods = carried latest.status.pods ∧
      draft.cluster.isTrue .configApplied = latest.isTrue .configApplied := by
  unfold finishStatus at h
  split at h
  · unfold enrichStatusWithAerospikeInfo at h
    cases hclient : view.client with
    | error err =>
      rw [hclient] at h
      cases h
      exact ⟨rfl, isTrue_congr rfl⟩
    | ok nodes =>
      rw [hclient] at h
      dsimp only at h
      split at h
      · cases h
      · rename_i infos _
        cases h
        obtain ⟨hpods, hcond⟩ := updateMigrationStatus_keeps view.now nodes
          (withInfo infos (clusterSize nodes) (completed view latest))
        refine ⟨hpods.trans ?_, hcond.trans (isTrue_congr rfl)⟩
        exact carried_foldl carried_markInfo infos latest.status.pods
  · cases h
    exact ⟨rfl, rfl⟩

/-! ## What is computed -/

section Prepare

variable {configHash : Option Config → String} {view : View} {phase : Phase} {reason : String}
  {opts : StatusUpdateOpts} {cluster latest : PublishedCluster} {readyCount : Int}

theorem isTrue_setConfigApplied :
    (setConfigApplied configHash opts cluster).isTrue .configApplied = allConfigApplied configHash opts cluster := by
  unfold setConfigApplied
  split
  · rename_i h
    rw [isTrue_setCondition, h]
  · rename_i h
    rw [isTrue_setCondition, Bool.eq_false_iff.2 h]

theorem setFineGrainedConditions_keeps :
    (setFineGrainedConditions configHash opts cluster).isTrue .configApplied =
      allConfigApplied configHash opts cluster ∧
      (setFineGrainedConditions configHash opts cluster).status.pods = cluster.status.pods := by
  have hmigration : ∀ c, (setMigrationDefault opts c).isTrue .configApplied = c.isTrue .configApplied ∧
      (setMigrationDefault opts c).status.pods = c.status.pods := by
    intro c
    unfold setMigrationDefault
    split <;> exact ⟨isTrue_setCondition_of_ne (by decide), rfl⟩
  have hdegraded : ∀ c, (clearDegraded c).isTrue .configApplied = c.isTrue .configApplied ∧
      (clearDegraded c).status.pods = c.status.pods := by
    intro c
    unfold clearDegraded
    split
    · exact ⟨rfl, rfl⟩
    · exact ⟨isTrue_removeCondition_of_ne (by decide), rfl⟩
  have hacl : ∀ c, (setACLSynced opts c).isTrue .configApplied = c.isTrue .configApplied ∧
      (setACLSynced opts c).status.pods = c.status.pods := by
    intro c
    unfold setACLSynced
    split
    · split
      · exact ⟨isTrue_setCondition_of_ne (by decide), rfl⟩
      · split <;> exact ⟨isTrue_setCondition_of_ne (by decide), rfl⟩
    · exact ⟨isTrue_removeCondition_of_ne (by decide), rfl⟩
  have hpaused : ∀ c, (setPaused opts c).isTrue .configApplied = c.isTrue .configApplied ∧
      (setPaused opts c).status.pods = c.status.pods := by
    intro c
    unfold setPaused
    split <;> exact ⟨isTrue_setCondition_of_ne (by decide), rfl⟩
  have hconfig : (setConfigApplied configHash opts cluster).status.pods = cluster.status.pods := by
    unfold setConfigApplied
    split <;> rfl
  unfold setFineGrainedConditions
  rw [(hmigration _).1, (hdegraded _).1, (hacl _).1, (hpaused _).1, (hmigration _).2, (hdegraded _).2, (hacl _).2,
    (hpaused _).2]
  exact ⟨isTrue_setConfigApplied, hconfig⟩

variable {pods : List ListedPod}

theorem carried_podStatuses (cluster : PublishedCluster) (now : Time) (hnames : (pods.map (·.pod.name)).Nodup) :
    carried (podStatuses cluster now pods) = listed pods := by
  rw [podStatuses, foldl_put_eq_map pods [] (by simp) hnames, List.nil_append, carried, List.map_map]
  rfl

theorem forall_mem_carried {pods : PodStatuses} {Q : Int → String → Prop} :
    (∀ name ps, (name, ps) ∈ pods → Q ps.rack ps.configHash) ↔ ∀ e ∈ carried pods, Q e.2.1 e.2.2 := by
  rw [carried, List.forall_mem_map]
  exact ⟨fun h e he => h e.1 e.2 he, fun h name ps hmem => h (name, ps) hmem⟩

/-- What is said of the rack and the hash of every pod in the status is said of every listed pod. -/
theorem forall_listed {statuses : PodStatuses} (h : carried statuses = listed pods) (Q : Int → String → Prop) :
    (∀ name ps, (name, ps) ∈ statuses → Q ps.rack ps.configHash) ↔
      ∀ p ∈ pods, Q (podRackID p) p.pod.hashes.config := by
  rw [forall_mem_carried, h, listed, List.forall_mem_map]

theorem nil_listed {statuses : PodStatuses} (h : carried statuses = listed pods) :
    statuses = [] ↔ pods = [] := by
  rw [← List.map_eq_nil_iff (l := statuses), ← List.map_eq_nil_iff (l := pods)]
  exact Eq.congr_left h

theorem prepareStatus_ok {hashes : List String} (hhashes : opts.validConfigHashes = some hashes)
    (hnames : ∀ pods, view.pods = .ok pods → (pods.map (·.pod.name)).Nodup)
    (h : prepareStatus configHash view phase reason opts cluster = .ok (latest, readyCount)) :
    ∃ pods, view.pods = .ok pods ∧ carried latest.status.pods = listed pods ∧
      (latest.isTrue .configApplied = true ↔ pods ≠ [] ∧ ∀ p ∈ pods, p.pod.hashes.config ∈ hashes) := by
  unfold prepareStatus at h
  cases hpods : view.pods with
  | error err =>
    rw [hpods] at h
    cases h
  | ok pods =>
    rw [hpods] at h
    have hlatest : setFineGrainedConditions configHash opts
        (withPhase (populateStatus pods view.now cluster).1 phase reason) = latest := (Prod.mk.inj (Except.ok.inj h)).1
    obtain ⟨hcond, hkept⟩ := @setFineGrainedConditions_keeps configHash opts
      (withPhase (populateStatus pods view.now cluster).1 phase reason)
    rw [hlatest] at hcond hkept
    have hlisted : carried latest.status.pods = listed pods := by
      rw [hkept]
      exact carried_podStatuses cluster view.now (hnames pods hpods)
    refine ⟨pods, rfl, hlisted, ?_⟩
    rw [hcond, allConfigApplied, hhashes, ← hkept, Bool.and_eq_true, List.all_eq_true, Prod.forall, Bool.not_eq_true',
      List.isEmpty_eq_false_iff, ne_eq, nil_listed hlisted]
    simp only [List.contains_iff_mem]
    rw [forall_listed hlisted fun _ hash => hash ∈ hashes]

variable {reconciled : Cluster}

theorem mem_validConfigHashes {hash : String} :
    hash ∈ buildValidConfigHashes configHash reconciled ↔
      ∃ rack ∈ getRacks reconciled, rackConfigHash configHash reconciled rack = hash :=
  List.mem_map

theorem saysPerRack_iff {written : PublishedCluster} (hlisted : carried written.status.pods = listed pods)
    (htrue : written.isTrue .configApplied = true ↔
      pods ≠ [] ∧ ∀ p ∈ pods, p.pod.hashes.config ∈ buildValidConfigHashes configHash reconciled) :
    SaysPerRack configHash reconciled written ↔ NoForeignHash configHash reconciled pods ∨
      ∃ p ∈ pods, p.pod.hashes.config ∉ buildValidConfigHashes configHash reconciled := by
  have hown := forall_listed hlisted fun rackID hash =>
    ∀ rack ∈ getRacks reconciled, rackID = rack.id → hash = rackConfigHash configHash reconciled rack
  constructor
  · intro h
    by_contra hneither
    rw [not_or] at hneither
    obtain ⟨hforeign, hvalid⟩ := hneither
    push Not at hvalid
    refine hforeign fun p hp rack hrack other _ hid hhash => ?_
    have hpods : written.isTrue .configApplied = true := htrue.2 ⟨List.ne_nil_of_mem hp, hvalid⟩
    rw [← hhash]
    exact hown.1 (h.sound hpods) p hp rack hrack hid
  · intro h
    constructor
    · intro hpods
      obtain ⟨-, hvalid⟩ := htrue.1 hpods
      rcases h with hforeign | ⟨p, hp, hunknown⟩
      · refine hown.2 fun p hp rack hrack hid => ?_
        obtain ⟨other, hother, hhash⟩ := mem_validConfigHashes.1 (hvalid p hp)
        rw [← hhash]
        exact hforeign p hp rack hrack other hother hid hhash.symm
      · exact absurd (hvalid p hp) hunknown
    · intro hne hall
      rw [forall_listed hlisted fun rackID hash => ∃ rack ∈ getRacks reconciled, rackID = rack.id ∧
        hash = rackConfigHash configHash reconciled rack] at hall
      refine htrue.2 ⟨fun hnil => hne ((nil_listed hlisted).2 hnil), fun p hp => ?_⟩
      obtain ⟨rack, hrack, -, hhash⟩ := hall p hp
      exact mem_validConfigHashes.2 ⟨rack, hrack, hhash.symm⟩

theorem judgedByRack_of_finishStatus {views : Nat → View} {k : Nat}
    (hhashes : opts.validConfigHashes = some (buildValidConfigHashes configHash reconciled))
    (hnames : ∀ pods, (views k).pods = .ok pods → (pods.map (·.pod.name)).Nodup)
    (hprepare : prepareStatus configHash (views k) phase reason opts cluster = .ok (latest, readyCount))
    (hfinish : finishStatus (views k) phase latest = some draft) :
    JudgedByRack configHash views reconciled draft.cluster := by
  obtain ⟨pods, hpods, hlisted, htrue⟩ := prepareStatus_ok hhashes hnames hprepare
  obtain ⟨hcarried, hcond⟩ := finishStatus_keeps hfinish
  rw [← hcarried] at hlisted
  rw [← hcond] at htrue
  exact ⟨k, pods, hpods, hlisted, saysPerRack_iff hlisted htrue⟩

end Prepare

/-! ## What is written -/

def Wrote (history : List (Shared.Entry StatusEdit StatusEvent)) : Prop := ∃ query, .event (.published query) ∈ history

/-- The object is what was written last, with the edits of others that the history has since. -/
def WrittenLast (D : PublishedCluster → Prop) (obj : PublishedCluster)
    (history : List (Shared.Entry StatusEdit StatusEvent)) : Prop :=
  Wrote history → ∃ (written : PublishedCluster) (before : List (Shared.Entry StatusEdit StatusEvent))
    (query : Option (List (Option AeroNode))) (edits : List StatusEdit),
    D written ∧ history = before ++ .event (.published query) :: edits.map .edit ∧
      obj = edits.foldl applyStatusEdit written

theorem writtenLast_keptByEdits {D : PublishedCluster → Prop} :
    Shared.KeptByEdits applyStatusEdit (fun _ => True) (WrittenLast D) := by
  rintro o l d - h ⟨query, hmem⟩
  have hearlier : Wrote l := by
    rcases List.mem_append.1 hmem with hin | hnew
    · exact ⟨query, hin⟩
    · cases List.mem_singleton.1 hnew
  obtain ⟨written, before, query, edits, hD, rfl, rfl⟩ := h hearlier
  refine ⟨written, before, query, edits ++ [d], hD, ?_, ?_⟩
  · rw [List.map_append, List.append_assoc, List.cons_append]
    rfl
  · rw [List.foldl_append]
    rfl

theorem saysPerRack_withObserved {configHash : Option Config → String} {reconciled : Cluster} {observed : Nat} :
    SaysPerRack configHash reconciled (withObserved draft observed).cluster ↔
      SaysPerRack configHash reconciled draft.cluster := by
  have hcond : (withObserved draft observed).cluster.isTrue .configApplied =
      draft.cluster.isTrue .configApplied := isTrue_congr rfl
  constructor
  · intro h
    exact ⟨fun htrue => h.sound (hcond.trans htrue), fun hne hall => hcond.symm.trans (h.complete hne hall)⟩
  · intro h
    exact ⟨fun htrue => h.sound (hcond.symm.trans htrue), fun hne hall => hcond.trans (h.complete hne hall)⟩

/-- The condition that the end of a pass writes is about each rack's own hash if and only if none of the pods listed for
it carries the hash of another rack, or one carries the hash of no rack. -/
theorem config_applied_per_rack {configHash : Option Config → String} {views : Nat → View} {phase : Phase}
    {reason : String} {opts : StatusUpdateOpts} {reconciled : Cluster} {cluster : PublishedCluster} {version : Nat}
    {turns : List (Turn StatusEdit)}
    (hhashes : opts.validConfigHashes = some (buildValidConfigHashes configHash reconciled))
    (hnames : ∀ k pods, (views k).pods = .ok pods → (pods.map (·.pod.name)).Nodup) :
    WrittenLast (JudgedByRack configHash views reconciled)
      (updateStatusAndPhase configHash views phase reason opts ⟨cluster, version, turns, []⟩).2.obj
      (updateStatusAndPhase configHash views phase reason opts ⟨cluster, version, turns, []⟩).2.history := by
  have hkeeps : Shared.Keeps (fun _ => True) (WrittenLast (JudgedByRack configHash views reconciled))
      (updateStatusAndPhase configHash views phase reason opts) := by
    refine updateStatusAndPhase_keeps (D := fun draft => JudgedByRack configHash views reconciled draft.cluster)
      writtenLast_keptByEdits ?_ ?_ ?_
    · intro draft o l hdraft _ _
      exact ⟨draft.cluster, l, draft.query, [], hdraft, rfl, rfl⟩
    · rintro draft observed ⟨k, pods, hpods, hlisted, hiff⟩
      exact ⟨k, pods, hpods, hlisted, saysPerRack_withObserved.trans hiff⟩
    · intro k cluster latest readyCount draft hprepare hfinish
      exact judgedByRack_of_finishStatus hhashes (hnames k) hprepare hfinish
  refine (hkeeps _ ⟨?_, fun _ _ _ _ => trivial⟩).1
  rintro ⟨query, hmem⟩
  cases hmem

/-! ## Two racks -/

def firstKey (config : Option Config) : String := ((config.getD []).map Prod.fst).headD ""

/-- Two racks, one with an override of its logging and one with an override of its security. -/
def twoRacks : Cluster :=
  let cluster := Cluster.bare "c" ""
  { cluster with spec := { cluster.spec with
    size := 2
    rackConfig := some ⟨[⟨1, some [("logging", .nil)]⟩, ⟨2, some [("security", .nil)]⟩], none, none, none⟩ } }

def podsOfBoth (first second : String) : List ListedPod :=
  [⟨.serving "c-1-0" "" "10.0.0.1" ⟨first, "", ""⟩, some "1", ""⟩,
    ⟨.serving "c-2-0" "" "10.0.0.2" ⟨second, "", ""⟩, some "2", ""⟩]

def passOver (first second : String) : StatusWorld :=
  (updateStatusAndPhase firstKey (fun _ => ⟨.ok (podsOfBoth first second), 0, .error "connection refused"⟩) .completed
    "Cluster is healthy and stable"
    { StatusUpdateOpts.plain with validConfigHashes := some (buildValidConfigHashes firstKey twoRacks) }
    (StatusWorld.start (.fresh "c" ""))).2

theorem history_passOver (first second : String) :
    (passOver first second).history = [.event (.published none)] := rfl

theorem noForeignHash_both : NoForeignHash firstKey twoRacks (podsOfBoth "logging" "security") := by
  intro p hp rack hrack other hother hid hhash
  simp only [podsOfBoth, List.mem_cons, List.not_mem_nil, or_false] at hp
  have hracks : getRacks twoRacks = [⟨1, some [("logging", .nil)]⟩, ⟨2, some [("security", .nil)]⟩] := rfl
  rw [hracks, List.mem_cons, List.mem_singleton] at hrack hother
  rcases hp with rfl | rfl <;> rcases hrack with rfl | rfl <;> rcases hother with rfl | rfl <;> revert hid hhash <;>
    decide +kernel

theorem config_applied_per_rack_both : (passOver "logging" "security").obj.isTrue .configApplied = true ∧
    Wrote (passOver "logging" "security").history ∧
    WrittenLast (SaysPerRack firstKey twoRacks) (passOver "logging" "security").obj
      (passOver "logging" "security").history := by
  refine ⟨by decide +kernel, ⟨none, ?_⟩, fun hwrote => ?_⟩
  · rw [history_passOver]
    exact List.mem_singleton_self _
  · have hnames : ∀ k pods,
        ((fun _ => ⟨.ok (podsOfBoth "logging" "security"), 0, .error "connection refused"⟩ : Nat → View)
        k).pods = .ok pods → (pods.map (·.pod.name)).Nodup := by
      rintro k pods ⟨⟩
      decide
    obtain ⟨written, before, query, edits, ⟨k, pods, hpods, -, hiff⟩, hhistory, hobj⟩ :=
      config_applied_per_rack rfl hnames hwrote
    cases hpods
    exact ⟨written, before, query, edits, hiff.2 (Or.inl noForeignHash_both), hhistory, hobj⟩

/-- The overrides of the racks have been exchanged, and each pod still carries what is now the other rack's hash. -/
theorem config_applied_exchanged : (passOver "security" "logging").obj.isTrue .configApplied = true ∧
    ¬ WrittenLast (SaysPerRack firstKey twoRacks) (passOver "security" "logging").obj
      (passOver "security" "logging").history := by
  have htrue : (passOver "security" "logging").obj.isTrue .configApplied = true := by decide +kernel
  refine ⟨htrue, fun h => ?_⟩
  rw [history_passOver] at h
  obtain ⟨written, before, query, edits, hsays, hhistory, hobj⟩ := h ⟨none, List.mem_singleton_self _⟩
  -- nobody has edited the object since it was written
  have hedits : edits = [] := by
    have hlength := congrArg List.length hhistory
    simp only [List.length_append, List.length_cons, List.length_map, List.length_nil] at hlength
    exact List.length_eq_zero_iff.1 (by omega)
  rw [hedits, List.foldl_nil] at hobj
  rw [← hobj] at hsays
  have hfirst := hsays.sound htrue "c-1-0" _ (List.mem_cons_self ..) ⟨1, some [("logging", .nil)]⟩
    (List.mem_cons_self ..) rfl
  revert hfirst
  decide +kernel

end Acko.Publish
