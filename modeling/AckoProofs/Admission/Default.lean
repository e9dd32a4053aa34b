/-
The config that the mutating webhook writes into a cluster (`Default`): the values it adds where the user
set none. The defaults of monitoring and of host networking are left out.
-/
import AckoProofs.Admission.Declared
import AckoProofs.Admission.Validate
import AckoProofs.Lib.Merge
import AckoProofs.Pod.Container

namespace Acko

open DocTree (put lookup_put wellKeyedFields wellKeyedFields_put)

def defaultProtoFdMax : Int := 15000
def defaultHeartbeatMode : String := "mesh"

/-! ## Sections -/

/-- `if _, exists := m[k]; !exists { m[k] = v }`. -/
def putIfAbsent (m : Config) (k : String) (v : Value) : Config :=
  if (m.lookup k).isSome then m else put m k v

def putDefaults (m defs : Config) : Config := defs.foldl (fun m d => putIfAbsent m d.1 d.2) m

/-- `getOrCreateMapSection`; the new section is stored by the caller. -/
def getOrCreateMapSection (m : Config) (key : String) : Except String Config :=
  match m.lookup key with
  | some (.map existing) => .ok existing
  | some existing => .error ("config key " ++ quoted key ++ " has type " ++ Value.typeName existing ++ ", expected map")
  | none => .ok []

def defaultSection (key : String) (defs : Config) (m : Config) : Except String Config := do
  let existing ← getOrCreateMapSection m key
  .ok (put m key (.map (putDefaults existing defs)))

/-! ## The config -/

def serviceDefaults (clusterName : String) : Config :=
  [("cluster-name", .leaf (.str clusterName)), ("proto-fd-max", .leaf (.int defaultProtoFdMax))]

def networkDefaults : List (String × Config) :=
  [("service", [("port", .leaf (.int servicePort))]),
    ("heartbeat", [("port", .leaf (.int heartbeatPort)), ("mode", .leaf (.str defaultHeartbeatMode))]),
    ("fabric", [("port", .leaf (.int fabricPort))])]

def defaultServiceConfig (clusterName : String) (config : Config) : Except String Config :=
  defaultSection "service" (serviceDefaults clusterName) config

def defaultSubsections : List (String × Config) → Config → Except String Config
  | [], net => .ok net
  | (name, defs) :: rest, net => do defaultSubsections rest (← defaultSection name defs net)

def defaultNetworkConfig (config : Config) : Except String Config := do
  let network ← getOrCreateMapSection config "network"
  let network ← defaultSubsections networkDefaults network
  .ok (put config "network" (.map network))

def defaultEntries (clusterName : String) (config : Config) : Except String Config := do
  defaultNetworkConfig (← defaultServiceConfig clusterName config)

/-! ## What a key holds -/

theorem lookup_putIfAbsent (m : Config) (k j : String) (v : Value) :
    (putIfAbsent m k v).lookup j = if j = k ∧ m.lookup k = none then some v else m.lookup j := by
  unfold putIfAbsent
  cases h : m.lookup k with
  | none =>
    rw [if_neg (by simp), lookup_put]
    by_cases hj : j = k <;> simp [hj]
  | some w =>
    rw [if_pos (by simp)]
    simp

theorem lookup_putDefaults (j : String) : ∀ {defs m : Config}, wellKeyedFields defs = true →
    (putDefaults m defs).lookup j = match m.lookup j with
      | some v => some v
      | none => defs.lookup j
  | [], m, _ => by
    show m.lookup j = _
    cases m.lookup j <;> rfl
  | (k, v) :: defs, m, h => by
    obtain ⟨hk, -, hdefs⟩ := DocTree.wellKeyedFields_cons.1 h
    show (putDefaults (putIfAbsent m k v) defs).lookup j = _
    rw [lookup_putDefaults j hdefs, lookup_putIfAbsent, DocTree.lookup_cons_eq]
    by_cases hj : j = k
    · subst hj
      cases hm : m.lookup j <;> simp
    · simp [hj]

variable {key : String} {defs : Config}

theorem getOrCreateMapSection_eq_ok {m s : Config} :
    getOrCreateMapSection m key = .ok s ↔ m.lookup key = some (.map s) ∨ m.lookup key = none ∧ s = [] := by
  unfold getOrCreateMapSection
  cases m.lookup key with
  | none => simp [eq_comm]
  | some v => cases v <;> simp

variable {m m' : Config}

theorem defaultSection_eq_ok (h : defaultSection key defs m = .ok m') :
    ∃ s, (m.lookup key = some (.map s) ∨ m.lookup key = none ∧ s = []) ∧
      m' = put m key (.map (putDefaults s defs)) := by
  unfold defaultSection at h
  cases hs : getOrCreateMapSection m key with
  | error e =>
    rw [hs] at h
    cases h
  | ok s =>
    rw [hs] at h
    cases h
    exact ⟨s, getOrCreateMapSection_eq_ok.1 hs, rfl⟩

/-! ## Distinct keys -/

theorem wellKeyed_putDefaults : ∀ {defs m : Config}, wellKeyedFields defs = true →
    wellKeyedFields m = true → wellKeyedFields (putDefaults m defs) = true
  | [], m, _, hm => hm
  | (k, v) :: defs, m, h, hm => by
    obtain ⟨-, hv, hdefs⟩ := DocTree.wellKeyedFields_cons.1 h
    have hput : wellKeyedFields (putIfAbsent m k v) = true := by
      unfold putIfAbsent
      split
      · exact hm
      · exact wellKeyedFields_put hv hm
    show wellKeyedFields (putDefaults (putIfAbsent m k v) defs) = true
    exact wellKeyed_putDefaults hdefs hput

theorem wellKeyed_defaultSection (hdefs : wellKeyedFields defs = true) (hm : wellKeyedFields m = true)
    (h : defaultSection key defs m = .ok m') :
    wellKeyedFields m' = true := by
  obtain ⟨s, hs, rfl⟩ := defaultSection_eq_ok h
  have hskeys : wellKeyedFields s = true := by
    rcases hs with hs | ⟨-, rfl⟩
    · exact DocTree.wellKeyed_of_lookup hm hs
    · rfl
  have hmap : DocTree.wellKeyed (.map (putDefaults s defs)) = true := wellKeyed_putDefaults hdefs hskeys
  exact wellKeyedFields_put hmap hm

theorem wellKeyed_defaultSubsections : ∀ {subs : List (String × Config)} {net net' : Config},
    (∀ sub ∈ subs, wellKeyedFields sub.2 = true) → wellKeyedFields net = true →
    defaultSubsections subs net = .ok net' → wellKeyedFields net' = true
  | [], net, net', _, hnet, h => by
    cases h
    exact hnet
  | (name, defs) :: subs, net, net', hsubs, hnet, h => by
    unfold defaultSubsections at h
    cases hsec : defaultSection name defs net with
    | error e =>
      rw [hsec] at h
      cases h
    | ok mid =>
      rw [hsec] at h
      have hmid := wellKeyed_defaultSection (hsubs _ List.mem_cons_self) hnet hsec
      exact wellKeyed_defaultSubsections (fun sub hsub => hsubs sub (List.mem_cons_of_mem _ hsub)) hmid h

theorem wellKeyed_serviceDefaults (clusterName : String) : wellKeyedFields (serviceDefaults clusterName) = true :=
  rfl

theorem wellKeyed_networkDefaults : ∀ sub ∈ networkDefaults, wellKeyedFields sub.2 = true := by
  decide

/-! ## The sections afterwards -/

/-- The section at a key was a map or absent, and is now a map with the defaults. -/
def Defaulted (m m' : Config) (key : String) (defs : Config) : Prop :=
  ∃ s, (m.lookup key = some (.map s) ∨ m.lookup key = none ∧ s = []) ∧ m'.lookup key = some (.map (putDefaults s defs))

theorem Defaulted.of_lookup_eq {m₁ m₂ m' : Config} (h : Defaulted m₂ m' key defs)
    (heq : m₂.lookup key = m₁.lookup key) : Defaulted m₁ m' key defs := by
  obtain ⟨s, hs, hm'⟩ := h
  exact ⟨s, by rwa [heq] at hs, hm'⟩

theorem defaulted_defaultSection (h : defaultSection key defs m = .ok m') :
    Defaulted m m' key defs ∧ ∀ j, j ≠ key → m'.lookup j = m.lookup j := by
  obtain ⟨s, hs, rfl⟩ := defaultSection_eq_ok h
  refine ⟨⟨s, hs, ?_⟩, fun j hj => ?_⟩
  · rw [lookup_put, if_pos rfl]
  · rw [lookup_put, if_neg hj]

theorem defaulted_defaultSubsections : ∀ {subs : List (String × Config)} {net net' : Config},
    (subs.map (·.1)).Nodup → defaultSubsections subs net = .ok net' →
      (∀ sub ∈ subs, Defaulted net net' sub.1 sub.2) ∧ ∀ j, j ∉ subs.map (·.1) → net'.lookup j = net.lookup j
  | [], net, net', _, h => by
    cases h
    exact ⟨by simp, fun j _ => rfl⟩
  | (name, defs) :: subs, net, net', hnodup, h => by
    rw [List.map_cons, List.nodup_cons] at hnodup
    unfold defaultSubsections at h
    cases hsec : defaultSection name defs net with
    | error e =>
      rw [hsec] at h
      cases h
    | ok mid =>
      rw [hsec] at h
      obtain ⟨hname, hother⟩ := defaulted_defaultSection hsec
      obtain ⟨hsubs, hrest⟩ := defaulted_defaultSubsections hnodup.2 h
      refine ⟨fun sub hsub => ?_, fun j hj => ?_⟩
      · rcases List.mem_cons.1 hsub with rfl | hsub
        · obtain ⟨s, hs, hmid⟩ := hname
          exact ⟨s, hs, (hrest name hnodup.1).trans hmid⟩
        · refine (hsubs sub hsub).of_lookup_eq (hother sub.1 ?_)
          intro he
          exact hnodup.1 (List.mem_map.2 ⟨sub, hsub, he⟩)
      · rw [List.map_cons, List.mem_cons, not_or] at hj
        rw [hrest j hj.2, hother j hj.1]

/-- What `Default` leaves of a config: the sections and subsections it fills in were maps or absent. -/
structure DefaultedConfig (clusterName : String) (config config' : Config) : Prop where
  service : Defaulted config config' "service" (serviceDefaults clusterName)
  network : ∃ net net', (config.lookup "network" = some (.map net) ∨ config.lookup "network" = none ∧ net = []) ∧
    config'.lookup "network" = some (.map net') ∧ (∀ sub ∈ networkDefaults, Defaulted net net' sub.1 sub.2) ∧
    ∀ j, j ∉ networkDefaults.map (·.1) → net'.lookup j = net.lookup j
  others : ∀ j, j ≠ "service" → j ≠ "network" → config'.lookup j = config.lookup j
  distinct : wellKeyedFields config = true → wellKeyedFields config' = true

variable {clusterName : String}

theorem defaultEntries_eq_ok {config config' : Config} (h : defaultEntries clusterName config = .ok config') :
    DefaultedConfig clusterName config config' := by
  unfold defaultEntries defaultServiceConfig at h
  cases hsvc : defaultSection "service" (serviceDefaults clusterName) config with
  | error e =>
    rw [hsvc] at h
    cases h
  | ok mid =>
    rw [hsvc] at h
    obtain ⟨hservice, hmid⟩ := defaulted_defaultSection hsvc
    change defaultNetworkConfig mid = .ok config' at h
    unfold defaultNetworkConfig at h
    cases hnet : getOrCreateMapSection mid "network" with
    | error e =>
      rw [hnet] at h
      cases h
    | ok net =>
      rw [hnet] at h
      change (defaultSubsections networkDefaults net >>= fun network =>
        Except.ok (put mid "network" (.map network))) = .ok config' at h
      cases hsubs : defaultSubsections networkDefaults net with
      | error e =>
        rw [hsubs] at h
        cases h
      | ok net' =>
        rw [hsubs] at h
        cases h
        have hwas := getOrCreateMapSection_eq_ok.1 hnet
        obtain ⟨hfilled, hother⟩ := defaulted_defaultSubsections (by decide) hsubs
        refine ⟨?_, ⟨net, net', ?_, ?_, hfilled, hother⟩, ?_, ?_⟩
        · obtain ⟨s, hs, hm⟩ := hservice
          refine ⟨s, hs, ?_⟩
          rw [lookup_put, if_neg (by decide), hm]
        · rwa [hmid "network" (by decide)] at hwas
        · rw [lookup_put, if_pos rfl]
        · intro j hj hj'
          rw [lookup_put, if_neg hj', hmid j hj]
        · intro hkeys
          have hmidkeys := wellKeyed_defaultSection (wellKeyed_serviceDefaults clusterName) hkeys hsvc
          have hnetkeys : wellKeyedFields net = true := by
            rcases hwas with hwas | ⟨-, rfl⟩
            · exact DocTree.wellKeyed_of_lookup hmidkeys hwas
            · rfl
          have hnet'keys : DocTree.wellKeyed (.map net') = true :=
            wellKeyed_defaultSubsections wellKeyed_networkDefaults hnetkeys hsubs
          exact wellKeyedFields_put hnet'keys hmidkeys

/-! ## The cluster -/

def defaultConfigMap (clusterName : String) (config : ConfigMap) : Except String ConfigMap :=
  match h : defaultEntries clusterName config.entries with
  | .ok entries => .ok ⟨entries, (defaultEntries_eq_ok h).distinct config.distinct⟩
  | .error e => .error e

/-- The defaulting webhook. -/
def defaultCluster (cluster : DeclaredCluster) : Except String DeclaredCluster := do
  let config ← defaultConfigMap cluster.name (cluster.spec.aerospikeConfig.getD .empty)
  .ok { cluster with spec := { cluster.spec with aerospikeConfig := some config } }

theorem defaultConfigMap_eq_ok {config config' : ConfigMap} (h : defaultConfigMap clusterName config = .ok config') :
    DefaultedConfig clusterName config.entries config'.entries := by
  unfold defaultConfigMap at h
  split at h
  · rename_i entries hentries
    cases h
    exact defaultEntries_eq_ok hentries
  · cases h

theorem defaultCluster_eq_ok {cluster cluster' : DeclaredCluster} (h : defaultCluster cluster = .ok cluster') :
    ∃ config, cluster' = { cluster with spec := { cluster.spec with aerospikeConfig := some config } } ∧
      DefaultedConfig cluster.name (cluster.spec.aerospikeConfig.getD .empty).entries config.entries := by
  unfold defaultCluster at h
  cases hconfig : defaultConfigMap cluster.name (cluster.spec.aerospikeConfig.getD .empty) with
  | error e =>
    rw [hconfig] at h
    cases h
  | ok config =>
    rw [hconfig] at h
    cases h
    exact ⟨config, rfl, defaultConfigMap_eq_ok hconfig⟩

/-! ## Defaulting again -/

theorem putDefaults_of_mem {m : Config} :
    ∀ {defs : Config}, (∀ d ∈ defs, (m.lookup d.1).isSome) → putDefaults m defs = m
  | [], _ => rfl
  | d :: defs, h => by
    rw [List.forall_mem_cons] at h
    show putDefaults (putIfAbsent m d.1 d.2) defs = m
    rw [putIfAbsent, if_pos h.1]
    exact putDefaults_of_mem h.2

theorem Defaulted.again (hdefs : wellKeyedFields defs = true) (h : Defaulted m m' key defs) :
    defaultSection key defs m' = .ok m' := by
  obtain ⟨s, _, hs⟩ := h
  have hfilled : putDefaults (putDefaults s defs) defs = putDefaults s defs := by
    refine putDefaults_of_mem fun d hd => ?_
    rw [lookup_putDefaults d.1 hdefs, DocTree.lookup_of_mem hdefs hd]
    cases s.lookup d.1 <;> rfl
  unfold defaultSection getOrCreateMapSection
  simp only [hs]
  show Except.ok (put m' key (.map (putDefaults (putDefaults s defs) defs))) = .ok m'
  rw [hfilled, DocTree.put_of_lookup hs]

theorem defaultSubsections_again {net net' : Config} : ∀ {subs : List (String × Config)},
    (∀ sub ∈ subs, wellKeyedFields sub.2 = true) → (∀ sub ∈ subs, Defaulted net net' sub.1 sub.2) →
    defaultSubsections subs net' = .ok net'
  | [], _, _ => rfl
  | sub :: subs, hsubs, h => by
    rw [List.forall_mem_cons] at hsubs h
    show (defaultSection sub.1 sub.2 net' >>= defaultSubsections subs) = .ok net'
    rw [h.1.again hsubs.1]
    exact defaultSubsections_again hsubs.2 h.2

theorem DefaultedConfig.again {config config' : Config} (h : DefaultedConfig clusterName config config') :
    defaultEntries clusterName config' = .ok config' := by
  obtain ⟨net, net', _, hnet, hfilled, _⟩ := h.network
  unfold defaultEntries defaultServiceConfig
  rw [h.service.again (wellKeyed_serviceDefaults clusterName)]
  show defaultNetworkConfig config' = .ok config'
  unfold defaultNetworkConfig getOrCreateMapSection
  simp only [hnet]
  show (defaultSubsections networkDefaults net' >>= fun network => Except.ok (put config' "network" (.map network))) = _
  rw [defaultSubsections_again wellKeyed_networkDefaults hfilled]
  exact congrArg Except.ok (DocTree.put_of_lookup hnet)

/-- The webhook may be called again on what it has defaulted: it accepts the cluster and changes nothing. -/
theorem default_idempotent {cluster cluster' : DeclaredCluster} (h : defaultCluster cluster = .ok cluster') :
    defaultCluster cluster' = .ok cluster' := by
  obtain ⟨config, rfl, hconfig⟩ := defaultCluster_eq_ok h
  have hagain : defaultConfigMap cluster.name config = .ok config := by
    unfold defaultConfigMap
    split <;> rename_i hentries <;> rw [hconfig.again] at hentries <;> cases hentries
    rfl
  unfold defaultCluster
  show (defaultConfigMap cluster.name config >>= _) = _
  rw [hagain]
  rfl

/-- A config with a port and a mode of its own, to which the webhook adds the rest. -/
def partlyConfigured : DeclaredCluster :=
  let cluster := DeclaredCluster.plain "db" "" 1 []
  { cluster with
    spec := { cluster.spec with aerospikeConfig := some ⟨[("service", .map [("proto-fd-max", .leaf (.int 15000))]),
      ("network", .map [("heartbeat", .map [("mode", .leaf (.str "mesh"))])])], rfl⟩ } }

theorem default_idempotent_plain : ∃ cluster, defaultCluster partlyConfigured = .ok cluster ∧
    defaultCluster cluster = .ok cluster := by
  obtain ⟨cluster, h⟩ : ∃ cluster, defaultCluster partlyConfigured = .ok cluster := ⟨_, rfl⟩
  exact ⟨cluster, h, default_idempotent h⟩

end Acko
