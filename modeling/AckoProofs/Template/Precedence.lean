/-
Which config value of a cluster with a template counts: the user's, the overrides', the template's or the operator's
default. The template is merged below what admission has stored, and admission has stored the operator's defaults
by then, so a default hides what the overrides or the template hold at its key.
-/
import AckoProofs.Admission.RackLimits
import AckoProofs.Template.Config

namespace Acko

open DocTree (Hit walk wellKeyedFields value_walk_merge walk_cons_map lookup_cons_eq)

/-! ## The values a template can supply -/

inductive HeartbeatField
  | mode | interval | timeout
  deriving DecidableEq

def HeartbeatField.key : HeartbeatField → String
  | .mode => "mode"
  | .interval => "interval"
  | .timeout => "timeout"

/-- A place of the config that a template can supply: a path of at least one key under `service`, a field of
`network.heartbeat`, or such a path inside an entry of `namespaces`. -/
inductive TemplatePath
  | service (key : String) (rest : List String)
  | heartbeat (field : HeartbeatField)
  | inNamespace (i : Nat) (key : String) (rest : List String)

/-- A field of a template's heartbeat; an empty mode and a zero are unset. -/
def TemplateHeartbeatConfig.field (hb : TemplateHeartbeatConfig) : HeartbeatField → Hit Scalar
  | .mode => if hb.mode = "" then .absent else .leaf (.str hb.mode)
  | .interval => if hb.interval = 0 then .absent else .leaf (.int hb.interval)
  | .timeout => if hb.timeout = 0 then .absent else .leaf (.int hb.timeout)

def heartbeatField (hb : Option TemplateHeartbeatConfig) (field : HeartbeatField) : Hit Scalar :=
  match hb with
  | some hb => hb.field field
  | none => .absent

def heartbeatOf (tmplConfig : Option TemplateAerospikeConfig) : Option TemplateHeartbeatConfig :=
  (tmplConfig.bind (·.network)).bind (·.heartbeat)

namespace TemplatePath

def entryAt (i : Nat) (config : Config) : Option Value := ((config.lookup "namespaces").bind Value.asList).bind (·[i]?)

/-- What a config has at the place; where there is no entry, nothing can be put into it. -/
def read : TemplatePath → Config → Hit Scalar
  | .service key rest, config => walk ("service" :: key :: rest) (.map config)
  | .heartbeat field, config => walk ["network", "heartbeat", field.key] (.map config)
  | .inNamespace i key rest, config => match entryAt i config with
    | some entry => walk (key :: rest) entry
    | none => .blocked

/-- The place at whose key the operator's default is put. -/
def start : TemplatePath → TemplatePath
  | .service key _ => .service key []
  | path => path

/-- What is applied of an offer: a heartbeat number that is not positive is passed over. -/
def taken : TemplatePath → Hit Scalar → Hit Scalar
  | .heartbeat _, .leaf (.int i) => if 0 < i then .leaf (.int i) else .absent
  | _, hit => hit

/-- What a template offers for the place. -/
def offered : TemplatePath → Option TemplateAerospikeConfig → Hit Scalar
  | .service key rest, tmplConfig => walk (key :: rest) (.map (entriesOf (tmplConfig.bind (·.service))))
  | .heartbeat field, tmplConfig => heartbeatField (heartbeatOf tmplConfig) field
  | .inNamespace _ key rest, tmplConfig =>
    walk (key :: rest) (.map (entriesOf (tmplConfig.bind (·.namespaceDefaults))))

def heartbeatDefaults : Config := (networkDefaults.lookup "heartbeat").getD []

def operatorDefault : TemplatePath → String → Hit Scalar
  | .service key rest, clusterName => walk (key :: rest) (.map (serviceDefaults clusterName))
  | .heartbeat field, _ => walk [field.key] (.map heartbeatDefaults)
  | .inNamespace .., _ => .absent

end TemplatePath

open TemplatePath

/-! ## Overrides over the template -/

theorem taken_blocked (path : TemplatePath) : path.taken .blocked = .blocked := by cases path <;> rfl

theorem taken_absent (path : TemplatePath) : path.taken .absent = .absent := by cases path <;> rfl

theorem heartbeatField_merge (base upper : Option TemplateHeartbeatConfig) (field : HeartbeatField) :
    heartbeatField (mergeTemplateHeartbeatConfig base upper) field =
      (heartbeatField upper field).orElse (heartbeatField base field) := by
  match base, upper with
  | none, upper => exact (DocTree.Hit.orElse_absent (heartbeatField upper field)).symm
  | some base, none => rfl
  | some base, some upper =>
    unfold mergeTemplateHeartbeatConfig heartbeatField
    cases field with
    | mode => by_cases h : upper.mode = "" <;> simp [TemplateHeartbeatConfig.field, DocTree.Hit.orElse, h]
    | interval => by_cases h : upper.interval = 0 <;> simp [TemplateHeartbeatConfig.field, DocTree.Hit.orElse, h]
    | timeout => by_cases h : upper.timeout = 0 <;> simp [TemplateHeartbeatConfig.field, DocTree.Hit.orElse, h]

theorem heartbeatOf_merge (base upper : Option TemplateAerospikeConfig) :
    heartbeatOf (mergeTemplateAerospikeConfig base upper) =
      mergeTemplateHeartbeatConfig (heartbeatOf base) (heartbeatOf upper) := by
  have hnone : ∀ hb, mergeTemplateHeartbeatConfig hb none = hb := by
    intro hb
    cases hb <;> rfl
  match base, upper with
  | none, upper => rfl
  | some base, none => exact (hnone _).symm
  | some ⟨_, _, none⟩, some ⟨_, _, none⟩ => rfl
  | some ⟨_, _, some ⟨hb⟩⟩, some ⟨_, _, none⟩ => exact (hnone hb).symm
  | some ⟨_, _, none⟩, some ⟨_, _, some ⟨hb⟩⟩ => rfl
  | some ⟨_, _, some ⟨hb⟩⟩, some ⟨_, _, some ⟨none⟩⟩ => exact (hnone hb).symm
  | some ⟨_, _, some ⟨hb⟩⟩, some ⟨_, _, some ⟨some hb'⟩⟩ => rfl

theorem entriesOf_distinct (m : Option ConfigMap) : wellKeyedFields (entriesOf m) = true := (m.getD .empty).distinct

theorem taken_offered_merge (path : TemplatePath) (base upper : Option TemplateAerospikeConfig) :
    (path.taken (path.offered (mergeTemplateAerospikeConfig base upper))).value =
      (path.taken ((path.offered upper).orElse (path.offered base))).value := by
  have habsent : path.offered none = .absent := by cases path <;> rfl
  match base, upper with
  | none, upper => rw [habsent, DocTree.Hit.orElse_absent, mergeTemplateAerospikeConfig]
  | some base, none =>
    rw [habsent]
    rfl
  | some base, some upper =>
    cases path with
    | service key rest =>
      show (walk (key :: rest) (.map (entriesOf (mergeTemplateMap base.service upper.service)))).value = _
      rw [entriesOf_mergeTemplateMap, value_walk_merge rest key (entriesOf_distinct upper.service)]
      rfl
    | inNamespace i key rest =>
      show (walk (key :: rest)
        (.map (entriesOf (mergeTemplateMap base.namespaceDefaults upper.namespaceDefaults)))).value = _
      rw [entriesOf_mergeTemplateMap, value_walk_merge rest key (entriesOf_distinct upper.namespaceDefaults)]
      rfl
    | heartbeat field =>
      show (taken _
        (heartbeatField (heartbeatOf (mergeTemplateAerospikeConfig (some base) (some upper))) field)).value = _
      rw [heartbeatOf_merge, heartbeatField_merge]
      rfl

/-! ## The template below the cluster -/

theorem walk_putDefaults {defs : Config} (hdefs : wellKeyedFields defs = true) (s : Config) (key : String)
    (rest : List String) : walk (key :: rest) (.map (putDefaults s defs)) =
      if (s.lookup key).isSome then walk (key :: rest) (.map s) else walk (key :: rest) (.map defs) := by
  rw [walk_cons_map, walk_cons_map, walk_cons_map, lookup_putDefaults key hdefs]
  cases s.lookup key <;> rfl

theorem walk_singleton_ne_absent {m : Config} {key : String} :
    walk [key] (.map m) ≠ .absent ↔ (m.lookup key).isSome = true := by
  rw [walk_cons_map]
  cases m.lookup key with
  | none => simp
  | some v => cases v <;> simp [walk]

theorem walk_singleton_putDefaults {defs : Config} (hdefs : wellKeyedFields defs = true) (s : Config)
    (key : String) : walk [key] (.map (putDefaults s defs)) =
      (walk [key] (.map s)).orElse (walk [key] (.map defs)) := by
  rw [walk_putDefaults hdefs]
  split
  · rename_i hset
    have hhit := walk_singleton_ne_absent.2 hset
    cases hw : walk [key] (.map s) with
    | absent => exact absurd hw hhit
    | leaf x => rfl
    | blocked => rfl
  · rename_i hunset
    have hhit : walk [key] (.map s) = .absent := by
      by_contra hne
      exact hunset (walk_singleton_ne_absent.1 hne)
    rw [hhit]
    rfl

theorem walk_heartbeatEntries (hb : TemplateHeartbeatConfig) (field : HeartbeatField) :
    walk [field.key] (.map hb.entries) = TemplatePath.taken (.heartbeat field) (hb.field field) := by
  have hnumber : ∀ x : Int, TemplatePath.taken (.heartbeat field)
      (if x = 0 then .absent else .leaf (.int x)) = if 0 < x then .leaf (.int x) else .absent := by
    intro x
    by_cases hx : x = 0
    · simp [hx, TemplatePath.taken]
    · simp [hx, TemplatePath.taken]
  unfold TemplateHeartbeatConfig.entries
  cases field with
  | mode =>
    by_cases hm : hb.mode = "" <;> by_cases hi : 0 < hb.interval <;> by_cases ht : 0 < hb.timeout <;>
      simp [hm, hi, ht, HeartbeatField.key, TemplateHeartbeatConfig.field, TemplatePath.taken, walk, lookup_cons_eq]
  | interval =>
    rw [TemplateHeartbeatConfig.field, hnumber]
    by_cases hm : hb.mode = "" <;> by_cases hi : 0 < hb.interval <;> by_cases ht : 0 < hb.timeout <;>
      simp [hm, hi, ht, HeartbeatField.key, walk, lookup_cons_eq]
  | timeout =>
    rw [TemplateHeartbeatConfig.field, hnumber]
    by_cases hm : hb.mode = "" <;> by_cases hi : 0 < hb.interval <;> by_cases ht : 0 < hb.timeout <;>
      simp [hm, hi, ht, HeartbeatField.key, walk, lookup_cons_eq]

/-- The heartbeat section is there, as admission leaves it. -/
def HasHeartbeat (config : Config) : Prop :=
  ∃ net sec, config.lookup "network" = some (.map net) ∧ net.lookup "heartbeat" = some (.map sec)

variable {config config' : Config} {path : TemplatePath} {clusterName : String}

theorem read_heartbeat {net sec : Config} (field : HeartbeatField) (hnet : config.lookup "network" = some (.map net))
    (hsec : net.lookup "heartbeat" = some (.map sec)) :
    TemplatePath.read (.heartbeat field) config = walk [field.key] (.map sec) := by
  unfold TemplatePath.read
  dsimp only
  rw [walk_cons_map, hnet]
  dsimp only
  rw [walk_cons_map, hsec]

theorem read_service {s : Config} (key : String) (rest : List String)
    (h : config.lookup "service" = some (.map s) ∨ config.lookup "service" = none ∧ s = []) :
    TemplatePath.read (.service key rest) config = walk (key :: rest) (.map s) := by
  unfold TemplatePath.read
  dsimp only
  rw [walk_cons_map]
  rcases h with h | ⟨h, rfl⟩
  · rw [h]
  · rw [h]
    rfl

theorem wellKeyed_entryAt {nsMap : Config} (hkeys : wellKeyedFields config = true) {i : Nat}
    (hentry : entryAt i config = some (.map nsMap)) : wellKeyedFields nsMap = true := by
  unfold entryAt at hentry
  obtain ⟨l, hl, hi⟩ := Option.bind_eq_some_iff.1 hentry
  obtain ⟨v, hv, hlist⟩ := Option.bind_eq_some_iff.1 hl
  rw [Value.asList_eq_some.1 hlist] at hv
  exact DocTree.wellKeyed_of_mem (DocTree.wellKeyed_of_lookup hkeys hv) (List.mem_of_getElem? hi)

variable {tmplConfig : TemplateAerospikeConfig}

/-- What the cluster has stored counts before what is taken of the template's offer. -/
def TemplatePath.Fills (path : TemplatePath) (tmplConfig : TemplateAerospikeConfig) (config config' : Config) : Prop :=
  (path.read config').value = ((path.read config).orElse (path.taken (path.offered (some tmplConfig)))).value

section Templated

variable (h : TemplatedConfig tmplConfig config config')

include h

theorem entryAt_templated (i : Nat) : entryAt i config' =
    (entryAt i config).map (namespaceWithDefaults (entriesOf tmplConfig.namespaceDefaults)) := by
  unfold entryAt
  rw [h.namespaces]
  rcases config.lookup "namespaces" with _ | (s | l | m)
  · rfl
  · rfl
  · exact List.getElem?_map
  · rfl

theorem fills_service (hkeys : wellKeyedFields config = true) (key : String) (rest : List String) :
    (TemplatePath.service key rest).Fills tmplConfig config config' := by
  unfold TemplatePath.Fills
  rcases h.service with ⟨hempty, hsame⟩ | ⟨s, hs, hs'⟩
  · have hoffer : TemplatePath.offered (.service key rest) (some tmplConfig) = .absent := by
      show walk (key :: rest) (.map (entriesOf tmplConfig.service)) = _
      rw [hempty]
      rfl
    rw [hoffer, taken_absent, DocTree.Hit.orElse_absent]
    unfold TemplatePath.read
    dsimp only
    rw [walk_cons_map, walk_cons_map, hsame]
  · have hskeys : wellKeyedFields s = true := by
      rcases hs with hs | ⟨-, rfl⟩
      · exact DocTree.wellKeyed_of_lookup hkeys hs
      · rfl
    rw [read_service key rest (Or.inl hs'), read_service key rest hs, value_walk_merge rest key hskeys]
    rfl

theorem fills_heartbeat (hheartbeat : HasHeartbeat config) (field : HeartbeatField) :
    (TemplatePath.heartbeat field).Fills tmplConfig config config' := by
  obtain ⟨net, sec, hnet, hsec⟩ := hheartbeat
  have hread := read_heartbeat field hnet hsec
  have hoffer : TemplatePath.offered (.heartbeat field) (some tmplConfig) =
      heartbeatField (tmplConfig.network.bind (·.heartbeat)) field := rfl
  have hnetwork := h.network
  unfold applyHeartbeatDefaults at hnetwork
  unfold TemplatePath.Fills
  cases hhb : tmplConfig.network.bind (·.heartbeat) with
  | none =>
    rw [hhb] at hnetwork hoffer
    rw [hoffer, heartbeatField, taken_absent, DocTree.Hit.orElse_absent, hread,
      read_heartbeat field (hnetwork.trans hnet) hsec]
  | some hb =>
    rw [hhb] at hnetwork hoffer
    dsimp only at hnetwork
    have hsection : getOrCreateSection config "network" = net := by
      rw [getOrCreateSection, Config.section_eq_some.2 hnet]
      rfl
    have hsection' : getOrCreateSection net "heartbeat" = sec := by
      rw [getOrCreateSection, Config.section_eq_some.2 hsec]
      rfl
    rw [DocTree.lookup_put, if_pos rfl, hsection, hsection'] at hnetwork
    have hput : (DocTree.put net "heartbeat" (.map (putDefaults sec hb.entries))).lookup "heartbeat" =
        some (.map (putDefaults sec hb.entries)) := by
      rw [DocTree.lookup_put, if_pos rfl]
    rw [read_heartbeat field hnetwork hput, hread, hoffer, heartbeatField,
      walk_singleton_putDefaults (wellKeyed_heartbeatEntries hb), walk_heartbeatEntries]

theorem fills_inNamespace (hkeys : wellKeyedFields config = true) (i : Nat) (key : String) (rest : List String) :
    (TemplatePath.inNamespace i key rest).Fills tmplConfig config config' := by
  unfold TemplatePath.Fills TemplatePath.read
  dsimp only
  rw [entryAt_templated h]
  rcases hentry : entryAt i config with _ | (s | l | nsMap)
  · rfl
  · rfl
  · rfl
  · rw [Option.map_some, namespaceWithDefaults, deepMergeMapBaseFirst_eq]
    exact value_walk_merge rest key (wellKeyed_entryAt hkeys hentry)

theorem fills_templated (hkeys : wellKeyedFields config = true) (hheartbeat : HasHeartbeat config) :
    path.Fills tmplConfig config config' := by
  cases path with
  | service key rest => exact fills_service h hkeys key rest
  | heartbeat field => exact fills_heartbeat h hheartbeat field
  | inNamespace i key rest => exact fills_inNamespace h hkeys i key rest

end Templated

/-! ## The operator's defaults below the user -/

/-- What admission stores at a place: the default where the user sets nothing at its first key, and otherwise what the
user has. Defaults are scalars, so below a map of the user's there is none. -/
structure Filled (user start stored default : Hit Scalar) : Prop where
  unset : start = .absent → user = .absent ∧ stored = default
  set : start ≠ .absent → stored = user ∧ (user = .absent → default.value = none)

theorem filled_walk_putDefaults {defs : Config} (hdefs : wellKeyedFields defs = true)
    (hleaves : ∀ key v, defs.lookup key = some v → ∃ x, v = .leaf x) (s : Config) (key : String) (rest : List String) :
    Filled (walk (key :: rest) (.map s)) (walk [key] (.map s)) (walk (key :: rest) (.map (putDefaults s defs)))
      (walk (key :: rest) (.map defs)) := by
  rw [walk_putDefaults hdefs]
  constructor
  · intro hunset
    have hnone : s.lookup key = none := by
      by_contra hsome
      exact walk_singleton_ne_absent.2 (Option.isSome_iff_ne_none.2 hsome) hunset
    rw [walk_cons_map, hnone]
    exact ⟨rfl, rfl⟩
  · intro hset
    rw [if_pos (walk_singleton_ne_absent.1 hset)]
    refine ⟨rfl, fun habsent => ?_⟩
    cases rest with
    | nil => exact absurd habsent hset
    | cons next rest =>
      rw [walk_cons_map key (next :: rest) defs]
      cases hv : defs.lookup key with
      | none => rfl
      | some v =>
        obtain ⟨x, rfl⟩ := hleaves key v hv
        rfl

theorem filled_of_singleton {user stored default : Hit Scalar} (h : stored = user.orElse default) :
    Filled user user stored default := by
  constructor
  · rintro rfl
    exact ⟨rfl, h⟩
  · intro hset
    refine ⟨?_, fun habsent => absurd habsent hset⟩
    cases user with
    | absent => exact absurd rfl hset
    | leaf x => exact h
    | blocked => exact h

theorem serviceDefaults_leaf {key : String} {v : Value} (h : (serviceDefaults clusterName).lookup key = some v) :
    ∃ x, v = .leaf x := by
  unfold serviceDefaults at h
  simp only [lookup_cons_eq, List.lookup_nil] at h
  split at h
  · cases h
    exact ⟨_, rfl⟩
  · split at h
    · cases h
      exact ⟨_, rfl⟩
    · cases h

theorem heartbeatDefaults_mem : ("heartbeat", heartbeatDefaults) ∈ networkDefaults :=
  List.mem_cons_of_mem _ List.mem_cons_self

theorem read_defaulted (h : DefaultedConfig clusterName config config') (path : TemplatePath) :
    Filled (path.read config) (path.start.read config) (path.read config') (path.operatorDefault clusterName) := by
  cases path with
  | service key rest =>
    obtain ⟨s, hs, hs'⟩ := h.service
    rw [TemplatePath.start, read_service key rest hs, read_service key [] hs, read_service key rest (Or.inl hs')]
    exact filled_walk_putDefaults (wellKeyed_serviceDefaults clusterName) (fun _ _ => serviceDefaults_leaf) s key rest
  | heartbeat field =>
    obtain ⟨net, net', hnet, hnet', hfilled, -⟩ := h.network
    obtain ⟨s, hs, hs'⟩ := hfilled _ heartbeatDefaults_mem
    have hread : TemplatePath.read (.heartbeat field) config = walk [field.key] (.map s) := by
      unfold TemplatePath.read
      dsimp only
      rw [walk_cons_map]
      rcases hnet with hnet | ⟨hnet, rfl⟩
      · rw [hnet]
        dsimp only
        rw [walk_cons_map]
        rcases hs with hs | ⟨hs, rfl⟩
        · rw [hs]
        · rw [hs]
          rfl
      · rw [hnet]
        rcases hs with hs | ⟨-, rfl⟩
        · cases hs
        · rfl
    show Filled (TemplatePath.read (.heartbeat field) config) (TemplatePath.read (.heartbeat field) config) _ _
    rw [hread, read_heartbeat field hnet' hs']
    exact filled_of_singleton
      (walk_singleton_putDefaults (wellKeyed_networkDefaults _ heartbeatDefaults_mem) s field.key)
  | inNamespace i key rest =>
    refine filled_of_singleton ?_
    show _ = DocTree.Hit.orElse _ .absent
    rw [DocTree.Hit.orElse_absent]
    unfold TemplatePath.read entryAt
    dsimp only
    rw [h.others "namespaces" (by decide) (by decide)]

theorem hasHeartbeat_of_default (h : DefaultedConfig clusterName config config') : HasHeartbeat config' := by
  obtain ⟨net, net', -, hnet', hfilled, -⟩ := h.network
  obtain ⟨s, -, hs'⟩ := hfilled _ heartbeatDefaults_mem
  exact ⟨net', _, hnet', hs'⟩

/-! ## The whole way -/

/-- Nothing hides a value that should count: what is in the user's way to the place has no scalar behind it; where the
operator's default is put, the overrides and the template have no other scalar; and where it is not, what is in the
overrides' way has no scalar of the template's behind it and the offer is taken. -/
structure Clear (path : TemplatePath) (user start overrides template default : Hit Scalar) : Prop where
  atUser : user = .blocked → overrides.value = none ∧ template.value = none ∧ default.value = none
  atDefault : start = .absent → default ≠ .absent →
    (overrides.value <|> template.value) = none ∨ (overrides.value <|> template.value) = default.value
  atOverrides : user = .absent → start ≠ .absent ∨ default = .absent →
    (overrides = .blocked → template.value = none) ∧
      ∀ x, overrides.orElse template = .leaf x → path.taken (.leaf x) = .leaf x

theorem value_taken_leaf {path : TemplatePath} {x : Scalar} :
    (path.taken (.leaf x)).value = some x ↔ path.taken (.leaf x) = .leaf x := by
  constructor
  · intro h
    cases htaken : path.taken (.leaf x) with
    | absent => rw [htaken] at h; cases h
    | blocked => rw [htaken] at h; cases h
    | leaf y => rw [htaken] at h; cases h; rfl
  · intro h
    rw [h]
    rfl

/-- The offer that is taken is the one that should count. -/
theorem value_taken_iff {path : TemplatePath} {overrides template : Hit Scalar} :
    (path.taken (overrides.orElse template)).value = (overrides.value <|> template.value) ↔
      (overrides = .blocked → template.value = none) ∧
        ∀ x, overrides.orElse template = .leaf x → path.taken (.leaf x) = .leaf x := by
  have hleaf : ∀ y : Scalar, (path.taken (.leaf y)).value = some y ↔
      ∀ x, DocTree.Hit.leaf y = .leaf x → path.taken (.leaf x) = .leaf x := by
    intro y
    rw [value_taken_leaf]
    constructor
    · rintro h x hx
      cases hx
      exact h
    · intro h
      exact h y rfl
  cases overrides with
  | leaf y =>
    show (path.taken (.leaf y)).value = some y ↔ _
    rw [hleaf]
    simp [DocTree.Hit.orElse]
  | blocked =>
    show (path.taken .blocked).value = template.value ↔ _
    rw [taken_blocked]
    simp [DocTree.Hit.orElse, DocTree.Hit.value, eq_comm]
  | absent =>
    show (path.taken template).value = template.value ↔ _
    cases template with
    | absent => simp [DocTree.Hit.orElse, taken_absent]
    | blocked => simp [DocTree.Hit.orElse, taken_blocked]
    | leaf y =>
      show (path.taken (.leaf y)).value = some y ↔ _
      rw [hleaf]
      simp [DocTree.Hit.orElse]

section Clear

variable {path : TemplatePath} {user start stored overrides template merged default : Hit Scalar}

theorem clear_iff_of_blocked (huser : user = .blocked) (hstart : start ≠ .absent) :
    Clear path user start overrides template default ↔
      overrides.value = none ∧ template.value = none ∧ default.value = none := by
  refine ⟨fun h => h.atUser huser, fun h => ⟨fun _ => h, fun habsent => absurd habsent hstart, fun habsent => ?_⟩⟩
  cases huser.symm.trans habsent

theorem clear_iff_of_default (huser : user = .absent) (hstart : start = .absent) (hdefault : default ≠ .absent) :
    Clear path user start overrides template default ↔
      (overrides.value <|> template.value) = none ∨ (overrides.value <|> template.value) = default.value := by
  refine ⟨fun h => h.atDefault hstart hdefault, fun h => ⟨fun hblocked => ?_, fun _ _ => h, fun _ hor => ?_⟩⟩
  · cases huser.symm.trans hblocked
  · exact hor.elim (absurd hstart) fun habsent => absurd habsent hdefault

theorem clear_iff_of_offer (huser : user = .absent) (hor : start ≠ .absent ∨ default = .absent) :
    Clear path user start overrides template default ↔
      (path.taken (overrides.orElse template)).value = (overrides.value <|> template.value) := by
  rw [value_taken_iff]
  refine ⟨fun h => h.atOverrides huser hor, fun h => ⟨fun hblocked => ?_, fun hstart hne => ?_, fun _ _ => h⟩⟩
  · cases huser.symm.trans hblocked
  · exact hor.elim (absurd hstart) fun habsent => absurd habsent hne

theorem value_iff_clear (hstored : Filled user start stored default)
    (hmerged : merged.value = (path.taken (overrides.orElse template)).value) :
    (stored.orElse merged).value = (user.value <|> overrides.value <|> template.value <|> default.value) ↔
      Clear path user start overrides template default := by
  have hnone : (overrides.value <|> template.value <|> none) = (overrides.value <|> template.value) := by
    cases overrides.value <;> cases template.value <;> rfl
  by_cases hstart : start = .absent
  · obtain ⟨rfl, rfl⟩ := hstored.unset hstart
    cases stored with
    | absent =>
      rw [clear_iff_of_offer rfl (.inr rfl), ← hmerged, ← hnone]
      rfl
    | leaf d =>
      rw [clear_iff_of_default rfl hstart (by simp)]
      show some d = (overrides.value <|> template.value <|> some d) ↔ _
      cases overrides.value <;> cases template.value <;> simp [DocTree.Hit.value, eq_comm]
    | blocked =>
      rw [clear_iff_of_default rfl hstart (by simp)]
      show none = (overrides.value <|> template.value <|> none) ↔ _
      rw [hnone, eq_comm]
      exact (or_self_iff).symm
  · obtain ⟨rfl, hdefault⟩ := hstored.set hstart
    cases stored with
    | leaf x => exact iff_of_true rfl ⟨by simp, fun habsent => absurd habsent hstart, by simp⟩
    | blocked =>
      rw [clear_iff_of_blocked rfl hstart]
      show none = (overrides.value <|> template.value <|> default.value) ↔ _
      cases overrides.value <;> cases template.value <;> simp [eq_comm]
    | absent =>
      rw [clear_iff_of_offer rfl (.inl hstart), ← hmerged, ← hnone, ← hdefault rfl]
      rfl

end Clear

def DeclaredSpec.overridesConfig (spec : DeclaredSpec) : Option TemplateAerospikeConfig :=
  spec.overrides.bind (·.aerospikeConfig)

theorem aerospikeConfig_mergeTemplateSpec (snapshot : ClusterTemplateSpec) (overrides : Option ClusterTemplateSpec) :
    (snapshot.mergeTemplateSpec overrides).aerospikeConfig =
      mergeTemplateAerospikeConfig snapshot.aerospikeConfig (overrides.bind (·.aerospikeConfig)) := by
  cases overrides with
  | none =>
    show snapshot.aerospikeConfig = mergeTemplateAerospikeConfig snapshot.aerospikeConfig none
    cases snapshot.aerospikeConfig <;> rfl
  | some overrides => rfl

theorem offered_getD (path : TemplatePath) (tmplConfig : Option TemplateAerospikeConfig) :
    path.offered (some (tmplConfig.getD ⟨none, none, none⟩)) = path.offered tmplConfig := by
  cases tmplConfig with
  | none => cases path <;> rfl
  | some tmplConfig => rfl

def tunedTemplate : ClusterTemplateSpec :=
  ⟨⟨none⟩, "", some 3,
    some ⟨none, some ⟨[("migrate-threads", .leaf (.int 2)), ("proto-fd-max", .leaf (.int 20000))], rfl⟩, none⟩,
    none, none⟩

def tunedOverrides : ClusterTemplateSpec :=
  ⟨⟨none⟩, "", none,
    some ⟨none, some ⟨[("migrate-threads", .leaf (.int 4)), ("proto-fd-max", .leaf (.int 30000))], rfl⟩, none⟩,
    none, none⟩

def tunedUser : DeclaredCluster :=
  let cluster := DeclaredCluster.plain "demo" "aerospike:ce-8.1.1.1" 0 []
  { cluster with spec := { cluster.spec with templateRef := some "tuned", overrides := some tunedOverrides } }

end Acko
