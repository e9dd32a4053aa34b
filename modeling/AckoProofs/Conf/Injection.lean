/-
No stanza of aerospike.conf comes from anything but a key of the config, as long as its labels fit their lines:
what the file is read as, where each line and block comes from, and what a newline in a text can add.
-/
import AckoProofs.Conf.ReadBack

namespace Acko

open Stanza (pathsAll paths mem_pathsAll label heads body mem_heads)

/-! ## Keys of a config -/

/-- The keys lead to a place in the value; the items of a list stand at the place of the list. -/
inductive HasPath : List String → Value → Prop
  | here (v : Value) : HasPath [] v
  | key {k : String} {v : Value} {m : Config} {p : List String} : (k, v) ∈ m → HasPath p v → HasPath (k :: p) (.map m)
  | item {v : Value} {l : List Value} {p : List String} : v ∈ l → HasPath p v → HasPath p (.list l)

def keysOf (p : List ConfLabel) : List String := p.map (·.key)

/-- The ways into a tree follow the keys of a value. -/
def Follows (t : ConfTree) (v : Value) : Prop := ∀ p ∈ pathsAll t, HasPath (keysOf p) v

/-- The ways into a stanza start with a key and follow the keys of its value. -/
def FollowsKey (key : String) (s : Stanza ConfLabel) (v : Value) : Prop :=
  ∀ p ∈ paths s, ∃ q, keysOf p = key :: q ∧ HasPath q v

variable {v : Value} {seeds : List String} {config : Config} {s : Stanza ConfLabel}

theorem followsKey_block (label : ConfLabel) {body : ConfTree} (h : Follows body v) :
    FollowsKey label.key (.block label body) v := by
  intro p hp
  rw [paths, List.mem_cons, List.mem_map] at hp
  rcases hp with rfl | ⟨q, hq, rfl⟩
  · exact ⟨[], rfl, .here v⟩
  · exact ⟨keysOf q, rfl, h q hq⟩

theorem WrittenFor.follows {key : String} (h : WrittenFor key v s) : FollowsKey key s v := by
  induction h with
  | line _ _ =>
    intro p hp
    rw [paths] at hp
    rw [List.mem_singleton.1 hp]
    exact ⟨[], rfl, .here _⟩
  | block hmem _ ih =>
    refine followsKey_block _ fun p hp => ?_
    obtain ⟨s, hs, hp⟩ := mem_pathsAll.1 hp
    obtain ⟨q, hkeys, hq⟩ := ih s hs p hp
    rw [hkeys]
    exact .key (hmem s hs) hq
  | item hmem _ ih =>
    intro p hp
    obtain ⟨q, hkeys, hq⟩ := ih p hp
    exact ⟨q, hkeys, .item hmem hq⟩

/-! ## Where the stanzas come from -/

/-- The keys of a stanza lead to a place in the config: as they are, under `namespaces` for a namespace,
past the kind of a sink under `logging`; or it is a mesh seed of the heartbeat subsection. -/
def FromInput (config : Config) (path : List String) : Prop :=
  HasPath path (.map config) ∨
  (∃ p, path = "namespace" :: p ∧ HasPath ("namespaces" :: p) (.map config)) ∨
  (∃ kind ∈ sinkKinds, ∃ p, path = "logging" :: kind :: p ∧ HasPath ("logging" :: p) (.map config)) ∨
  path = ["network", "heartbeat", "mesh-seed-address-port"] ∧ HasPath ["network", "heartbeat"] (.map config)

theorem follows_heartbeatTree : ∀ p ∈ paths (heartbeatTree (v.asMap.getD []) seeds),
    keysOf p = ["heartbeat", "mesh-seed-address-port"] ∨ ∃ q, keysOf p = "heartbeat" :: q ∧ HasPath q v := by
  obtain ⟨body, heq, hbody⟩ := heartbeatTree_eq (v.asMap.getD []) seeds
  rw [heq]
  intro p hp
  rw [paths, List.mem_cons, List.mem_map] at hp
  rcases hp with rfl | ⟨q, hq, rfl⟩
  · exact Or.inr ⟨[], rfl, .here v⟩
  · obtain ⟨s, hs, hq⟩ := mem_pathsAll.1 hq
    rcases hbody s hs with ⟨⟨k, w⟩, he, hs⟩ | ⟨seed, -, rfl⟩
    · refine Or.inr ⟨keysOf q, rfl, ?_⟩
      obtain ⟨r, hkeys, hr⟩ := hs.follows q hq
      rw [hkeys]
      cases v with
      | leaf s => cases he
      | list l => cases he
      | map m => exact .key he hr
    · rw [paths, List.mem_singleton] at hq
      rw [hq]
      exact Or.inl rfl

theorem fromInput_networkTree {net : Config} (hnet : ("network", .map net) ∈ config) :
    ∀ p ∈ paths (networkTree seeds net), FromInput config (keysOf p) := by
  obtain ⟨body, heq, hbody⟩ := networkTree_eq seeds net
  rw [heq]
  intro p hp
  rw [paths, List.mem_cons, List.mem_map] at hp
  rcases hp with rfl | ⟨q, hq, rfl⟩
  · exact Or.inl (.key hnet (.here _))
  · obtain ⟨s, hs, hq⟩ := mem_pathsAll.1 hq
    show FromInput config ("network" :: keysOf q)
    rcases hbody s hs with ⟨e, he, hs⟩ | ⟨w, hw, rfl⟩
    · obtain ⟨r, hkeys, hr⟩ := hs.follows q hq
      rw [hkeys]
      exact Or.inl (.key hnet (.key he hr))
    · rcases follows_heartbeatTree q hq with hkeys | ⟨r, hkeys, hr⟩
      · rw [hkeys]
        exact Or.inr (Or.inr (Or.inr ⟨rfl, .key hnet (.key hw (.here _))⟩))
      · rw [hkeys]
        exact Or.inl (.key hnet (.key hw hr))

theorem fromInput_sectionTree {key : String} (hmem : (key, v) ∈ config) (hs : s ∈ sectionTree seeds key v) :
    ∀ p ∈ paths s, FromInput config (keysOf p) := by
  have hitem : ∀ {w : Value} {q : List String}, w ∈ v.asList.getD [] → HasPath q w → HasPath q v := by
    intro w q hw hq
    cases v with
    | leaf s => cases hw
    | map m => cases hw
    | list l => exact .item hw hq
  intro p hp
  rcases sectionTree_cases hs with h | ⟨rfl, w, hw, h⟩ | ⟨rfl, body, rfl, hbody⟩ | ⟨rfl, net, rfl, rfl⟩
  · obtain ⟨q, hkeys, hq⟩ := h.follows p hp
    rw [hkeys]
    exact Or.inl (.key hmem hq)
  · obtain ⟨q, hkeys, hq⟩ := h.follows p hp
    exact Or.inr (Or.inl ⟨q, hkeys, .key hmem (hitem hw hq)⟩)
  · rw [paths, List.mem_cons, List.mem_map] at hp
    rcases hp with rfl | ⟨q, hq, rfl⟩
    · exact Or.inl (.key hmem (.here _))
    · obtain ⟨sink, hsink, hq⟩ := mem_pathsAll.1 hq
      obtain ⟨w, hw, kind, hkind, h⟩ := hbody sink hsink
      obtain ⟨r, hkeys, hr⟩ := h.follows q hq
      refine Or.inr (Or.inr (Or.inl ⟨kind, hkind, r, ?_, .key hmem (hitem hw hr)⟩))
      show "logging" :: keysOf q = _
      rw [hkeys]
  · exact fromInput_networkTree hmem p hp

theorem fromInput_confTree (config : Config) (seeds : List String) :
    ∀ p ∈ pathsAll (confTree config seeds), FromInput config (keysOf p) := by
  intro p hp
  obtain ⟨s, hs, hp⟩ := mem_pathsAll.1 hp
  obtain ⟨e, he, hs⟩ := mem_treeInOrder.1 hs
  obtain ⟨⟨k, v⟩, hmem, rfl⟩ := List.mem_map.1 he
  exact fromInput_sectionTree hmem hs p hp

/-! ## The top level -/

/-- The labels that a section gives the top level: none for a null and for `security`, one for each namespace. -/
def topLabels (key : String) (val : Value) : List ConfLabel :=
  if val.isNil = true ∨ key = "security" then []
  else if key = "namespaces" then
    ((val.asList.getD []).filterMap fun v => v.asMap.bind entryName).map fun name => ⟨"namespace", some name⟩
  else if key = "logging" then [⟨key, none⟩]
  else match val with
    | .map _ => [⟨key, none⟩]
    | val => [⟨key, some (formatValue val)⟩]

theorem label_namespaceTrees : ∀ l : List Value, (l.flatMap namespaceTree).map label =
    (l.filterMap fun v => v.asMap.bind entryName).map fun name => ⟨"namespace", some name⟩
  | [] => rfl
  | v :: l => by
    rw [List.flatMap_cons, List.map_append, label_namespaceTrees l, List.filterMap_cons, namespaceTree]
    cases v.asMap with
    | none => rfl
    | some nsMap =>
      dsimp only [Option.bind_some]
      cases entryName nsMap <;> rfl

theorem label_sectionTree (seeds : List String) (key : String) (val : Value) :
    (sectionTree seeds key val).map label = topLabels key val := by
  unfold sectionTree topLabels
  by_cases hnil : val.isNil = true
  · rw [if_pos hnil, if_pos (Or.inl hnil)]
    rfl
  · rw [if_neg hnil]
    by_cases hns : key = "namespaces"
    · subst hns
      rw [if_pos rfl, if_neg (by simp [hnil]), if_pos rfl, label_namespaceTrees]
    · by_cases hlog : key = "logging"
      · subst hlog
        rw [if_neg (by decide), if_pos rfl, if_neg (by simp [hnil]), if_neg (by decide), if_pos rfl]
        rfl
      · by_cases hsec : key = "security"
        · rw [if_neg hns, if_neg hlog, if_pos hsec, if_pos (Or.inr hsec)]
          rfl
        · rw [if_neg hns, if_neg hlog, if_neg hsec, if_neg (by simp [hnil, hsec]), if_neg hns, if_neg hlog]
          cases val with
          | leaf s => rfl
          | list l => rfl
          | map m =>
            dsimp only
            split
            · rename_i hkey
              subst hkey
              rfl
            · rfl

theorem label_confTree (config : Config) (seeds : List String) :
    (confTree config seeds).map label =
      (config.insertionSort (·.1 ≤ ·.1)).flatMap fun e => topLabels e.1 e.2 := by
  have hmap := List.map_insertionSort (fun a b : String × Value => a.1 ≤ b.1)
    (fun a b : String × ConfTree => a.1 ≤ b.1) (fun e => (e.1, sectionTree seeds e.1 e.2)) config fun _ _ _ _ => Iff.rfl
  rw [confTree_eq, treeInOrder, ← hmap, List.map_map, List.map_flatten, List.map_map, List.flatMap]
  refine congrArg List.flatten (List.map_congr_left fun e _ => ?_)
  exact label_sectionTree seeds e.1 e.2

theorem key_of_mem_topLabels {key : String} {val : Value} {label : ConfLabel} (h : label ∈ topLabels key val) :
    label.key = key ∨ label.key = "namespace" := by
  unfold topLabels at h
  split at h
  · cases h
  · split at h
    · obtain ⟨name, -, rfl⟩ := List.mem_map.1 h
      exact Or.inr rfl
    · split at h
      · rw [List.mem_singleton.1 h]
        exact Or.inl rfl
      · split at h
        · rw [List.mem_singleton.1 h]
          exact Or.inl rfl
        · rw [List.mem_singleton.1 h]
          exact Or.inl rfl

/-! ## The file as it is read -/

/-- The blocks that a Community server does not have. -/
def enterpriseStanzas : List String := ["xdr", "tls"]

/-- What the file says is the stanza tree of the config: the names at the top level are those of its keys, every way
into it follows keys of the config, and no block that is read is one of an Enterprise server. -/
structure ReadsAs (config : Config) (seeds : List String) (text : String) : Prop where
  read : Stanza.read text = some (Stanza.mapAll ConfLabel.words (confTree config seeds))
  top : (confTree config seeds).map label = (config.insertionSort (·.1 ≤ ·.1)).flatMap fun e => topLabels e.1 e.2
  fromInput : ∀ p ∈ pathsAll (confTree config seeds), FromInput config (keysOf p)
  noEnterprise : ∀ conf, Stanza.read text = some conf → ∀ head ∈ heads conf, ∀ name ∈ head.head?,
    name ∉ enterpriseStanzas

/-- The labels that the config calls for fit their lines, and no block inside another one is that of an Enterprise
server. -/
structure Contained (config : Config) : Prop where
  fits : FitsLines (confTree config [])
  noEnterprise : ∀ s ∈ confTree config [], ∀ head ∈ heads s.body, head.key ∉ enterpriseStanzas

instance (config : Config) : Decidable (Contained config) :=
  decidable_of_iff (FitsLines (confTree config []) ∧ ∀ s ∈ confTree config [], ∀ head ∈ heads s.body,
    head.key ∉ enterpriseStanzas) ⟨fun ⟨hfits, hnone⟩ => ⟨hfits, hnone⟩, fun h => ⟨h.fits, h.noEnterprise⟩⟩

theorem not_mem_of_lookup {m : Config} {key : String} (h : m.lookup key = none) (v : Value) : (key, v) ∉ m := by
  intro hmem
  have hsome := DocTree.isSome_lookup.2 (List.mem_map_of_mem (f := Prod.fst) hmem)
  rw [h] at hsome
  cases hsome

/-- Admission keeps such blocks off the top level. -/
theorem noEnterprise_confTree (h : CEConfig config) (seeds : List String) :
    ∀ s ∈ confTree config seeds, s.label.key ∉ enterpriseStanzas := by
  intro s hs
  have hlabel := List.mem_map_of_mem (f := label) hs
  rw [label_confTree, List.mem_flatMap] at hlabel
  obtain ⟨⟨key, v⟩, hmem, hlabel⟩ := hlabel
  have hmem : (key, v) ∈ config := (List.perm_insertionSort _ config).mem_iff.1 hmem
  simp only [enterpriseStanzas, List.mem_cons, List.not_mem_nil, or_false, not_or]
  rcases key_of_mem_topLabels hlabel with hkey | hkey
  · rw [hkey]
    refine ⟨?_, ?_⟩
    · rintro rfl
      exact not_mem_of_lookup h.xdr v hmem
    · rintro rfl
      exact not_mem_of_lookup h.tls v hmem
  · rw [hkey]
    decide

theorem mem_heads_iff {t : ConfTree} {head : ConfLabel} :
    head ∈ heads t ↔ ∃ s ∈ t, (∃ body, s = .block head body) ∨ head ∈ heads s.body := by
  rw [mem_heads, Stanza.mem_piecesAll]
  refine exists_congr fun s => and_congr_right fun _ => ?_
  rw [← Stanza.piecesAll_singleton, mem_heads]
  cases s with
  | line label => simp [Stanza.pieces, body, Stanza.piecesAll]
  | block top inner =>
    rw [mem_pieces_block, body]
    refine or_congr_left ⟨?_, ?_⟩
    · rintro (h | h) <;> cases h
      exact ⟨inner, rfl⟩
    · rintro ⟨_, h⟩
      cases h
      exact .inl rfl

/-- An accepted config is read from its file as its stanza tree, without a stanza that a Community server does not have,
exactly if each of its labels fits its line and no block of it has such a name. -/
theorem conf_reads_as_config {config : ConfigMap} (hvalid : validateAerospikeConfig config.entries = [])
    {serviceName namespace_ : String} {podNames : List String} (hservice : isDNSLabel serviceName = true)
    (hns : isDNSLabel namespace_ = true) (hpods : ∀ pName ∈ podNames, isDNSLabel pName = true) {heartbeatPort : Int}
    {text : String} (h : generateConfForPod config.entries serviceName namespace_ podNames heartbeatPort = .ok text) :
    ReadsAs config.entries (podNames.map (meshSeed serviceName namespace_ heartbeatPort)) text ↔
      Contained config.entries := by
  have htop := noEnterprise_confTree (validateAerospikeConfig_eq_nil.1 hvalid) []
  have hseeds : ∀ seed ∈ podNames.map (meshSeed serviceName namespace_ heartbeatPort), plainText seed = true := by
    intro seed hseed
    obtain ⟨pName, hp, rfl⟩ := List.mem_map.1 hseed
    exact plainText_meshSeed hservice hns (hpods pName hp) heartbeatPort
  generalize hs : podNames.map (meshSeed serviceName namespace_ heartbeatPort) = seeds at hseeds ⊢
  have hread : Stanza.read text = some (Stanza.mapAll ConfLabel.words (confTree config.entries seeds)) ↔
      FitsLines (confTree config.entries []) := by
    rw [generateConfForPod_eq h, hs, read_layout, fitsLines_confTree hseeds]
  constructor
  · intro hreads
    refine ⟨hread.1 hreads.read, fun s hs head hhead => ?_⟩
    have hown : head ∈ heads (confTree config.entries []) := mem_heads_iff.2 ⟨s, hs, .inr hhead⟩
    have hseen : head ∈ heads (confTree config.entries seeds) :=
      mem_heads.2 ((seedsApart_confTree _ seeds _).1 (mem_heads.1 hown))
    exact hreads.noEnterprise _ hreads.read head.words (Stanza.mem_heads_mapAll.2 ⟨head, hseen, rfl⟩) head.key rfl
  · intro hcontained
    have hfile := hread.2 hcontained.fits
    refine ⟨hfile, label_confTree _ _, fromInput_confTree _ _, fun conf hconf head hhead name hname => ?_⟩
    cases hfile.symm.trans hconf
    obtain ⟨label, hlabel, rfl⟩ := Stanza.mem_heads_mapAll.1 hhead
    cases hname
    rcases (seedsApart_confTree _ seeds _).2 (mem_heads.1 hlabel) with hown | ⟨seed, -, hseed⟩
    · obtain ⟨s, hs, ⟨inner, rfl⟩ | hinner⟩ := mem_heads_iff.1 (mem_heads.2 hown)
      · exact htop _ hs
      · exact hcontained.noEnterprise s hs label hinner
    · cases hseed

def plainConfig : ConfigMap :=
  ⟨[("service", .map [("proto-fd-max", .leaf (.float 15 3)), ("work-directory", .leaf (.str "/opt/\x7ba\x7db"))]),
    ("network", .map [("heartbeat", .map [("port", .leaf (.float 3002 0))])]),
    ("namespaces", .list [.map [("name", .leaf (.str "test")),
      ("storage-engine", .map [("type", .leaf (.str "memory")), ("data-size", .leaf (.float 1073741824 0))])]])], rfl⟩

theorem conf_reads_as_config_plain :
    ∃ text, generateConfForPod plainConfig.entries "db" "default" ["db-0-0"] 3002 = .ok text ∧
    ReadsAs plainConfig.entries ["db-0-0.db.default.svc.cluster.local 3002"] text := by
  have htext : generateConfForPod plainConfig.entries "db" "default" ["db-0-0"] 3002 = .ok _ := rfl
  exact ⟨_, htext, (conf_reads_as_config (by decide) (by decide) (by decide) (by decide) htext).2 (by decide +kernel)⟩

/-- A text that closes its section and opens another one. -/
def breakoutConfig : ConfigMap :=
  ⟨[("service", .map [("work-directory", .leaf (.str "/opt/aerospike\n\x7d\nxdr \x7b"))])], rfl⟩

theorem conf_reads_an_xdr_stanza : validateAerospikeConfig breakoutConfig.entries = [] ∧
    ∃ text, generateConfForPod breakoutConfig.entries "db" "default" [] 3002 = .ok text ∧
      Stanza.read text = some [.block ["service"] [.line ["work-directory", "/opt/aerospike"]], .block ["xdr"] []] :=
  ⟨rfl, _, rfl, rfl⟩

end Acko
