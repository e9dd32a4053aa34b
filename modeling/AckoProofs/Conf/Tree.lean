/-
The stanza tree of a config: what aerospike.conf says, without the text. A label is a key and what stands
after it on its line. `generateConfForPod` writes the layout of this tree.
-/
import AckoProofs.Conf.Generate

namespace Acko

open Stanza (tabs)

/-! ## Labels -/

/-- A key, and the rest of its line; a block may have none. -/
structure ConfLabel where
  key : String
  value : Option String
  deriving DecidableEq

def ConfLabel.text (label : ConfLabel) : String := headText label.key label.value

def ConfLabel.words (label : ConfLabel) : List String := label.key :: Stanza.words (label.value.getD "")

abbrev ConfTree := List (Stanza ConfLabel)

def keyStanza (key : String) (v : Value) : Stanza ConfLabel := .line ⟨key, some (formatValue v)⟩

def treeInOrder (entries : List (String × ConfTree)) : ConfTree :=
  ((entries.insertionSort (·.1 ≤ ·.1)).map (·.2)).flatten

/-! ## Trees -/

/-- The storage engine: its type stands after the key. -/
def storageEngineTree (m : Config) (entries : List (String × ConfTree)) : Stanza ConfLabel :=
  let remaining := entries.filter fun e => e.1 ≠ "type"
  let label : ConfLabel := ⟨"storage-engine", some (inferStorageEngineType m)⟩
  if remaining.isEmpty then .line label else .block label (treeInOrder remaining)

mutual
/-- The stanzas of a key. Inside a namespace a null is written and the storage engine has a form of its
own; elsewhere a null is left out. -/
def entryTree (inNamespace : Bool) (key : String) : Value → ConfTree
  | .leaf s => if inNamespace = false ∧ s = .nil then [] else [keyStanza key (.leaf s)]
  | .map m =>
    if inNamespace = true ∧ key = "storage-engine" then [storageEngineTree m (fieldsTree inNamespace m)]
    else [.block ⟨key, none⟩ (treeInOrder (fieldsTree inNamespace m))]
  | .list l =>
    if inNamespace = true ∧ key = "storage-engine" then [keyStanza key (.list l)] else itemsTree inNamespace key l
def itemsTree (inNamespace : Bool) (key : String) : List Value → ConfTree
  | [] => []
  | v :: l => itemTree inNamespace key v :: itemsTree inNamespace key l
def itemTree (inNamespace : Bool) (key : String) : Value → Stanza ConfLabel
  | .leaf s => keyStanza key (.leaf s)
  | .map m => .block ⟨key, none⟩ (treeInOrder (fieldsTree inNamespace m))
  | .list l => keyStanza key (.list l)
def fieldsTree (inNamespace : Bool) : List (String × Value) → List (String × ConfTree)
  | [] => []
  | (k, v) :: m => (k, entryTree inNamespace k v) :: fieldsTree inNamespace m
end

def mapTree (m : Config) : ConfTree := treeInOrder (fieldsTree false m)

def namespaceTree (v : Value) : ConfTree :=
  match v.asMap with
  | none => []
  | some nsMap => match entryName nsMap with
    | none => []
    | some name => [.block ⟨"namespace", some name⟩ (treeInOrder (withoutName (fieldsTree true nsMap)))]

def sinkTree (v : Value) : ConfTree :=
  match v.asMap with
  | none => []
  | some logMap => match entryName logMap with
    | none => []
    | some name => [.block ⟨(sinkHead name).1, (sinkHead name).2⟩
        (treeInOrder (withoutName (logMap.map fun (k, v) => (k, [keyStanza k v]))))]

def networkEntryTree (key : String) : Value → Stanza ConfLabel
  | .map m => .block ⟨key, none⟩ (mapTree m)
  | v => keyStanza key v

/-- The heartbeat subsection, with the mesh seeds after the entries. -/
def heartbeatTree (hbConfig : Config) (seeds : List String) : Stanza ConfLabel :=
  .block ⟨"heartbeat", none⟩
    (treeInOrder
      ((hbConfig.filter fun e => e.1 ≠ "mesh-seed-address-port").map fun (k, v) => (k, [networkEntryTree k v])) ++
      seeds.map fun seed => .line ⟨"mesh-seed-address-port", some seed⟩)

def networkTree (seeds : List String) (networkConfig : Config) : Stanza ConfLabel :=
  .block ⟨"network", none⟩ (treeInOrder (networkConfig.map fun (k, v) => (k,
    [if k = "heartbeat" then heartbeatTree (v.asMap.getD []) seeds else networkEntryTree k v])))

def sectionTree (seeds : List String) (key : String) (val : Value) : ConfTree :=
  if val.isNil then []
  else if key = "namespaces" then (val.asList.getD []).flatMap namespaceTree
  else if key = "logging" then [.block ⟨"logging", none⟩ ((val.asList.getD []).flatMap sinkTree)]
  else if key = "security" then []
  else match val with
    | .map m => if key = "network" then [networkTree seeds m] else [.block ⟨key, none⟩ (mapTree m)]
    | val => [keyStanza key val]

/-- The stanza tree of a config, with the mesh seeds in its heartbeat subsection. -/
def confTree (config : Config) (seeds : List String) : ConfTree :=
  treeInOrder (config.map fun (k, v) => (k, sectionTree seeds k v))

theorem confTree_eq (config : Config) (seeds : List String) :
    confTree config seeds = treeInOrder (config.map fun e => (e.1, sectionTree seeds e.1 e.2)) := rfl

/-! ## Layout -/

def layout (n : Nat) (t : ConfTree) : String := Stanza.text n (Stanza.mapAll ConfLabel.text t)

theorem layout_nil (n : Nat) : layout n [] = "" := by
  rw [layout, Stanza.mapAll, Stanza.text_nil]

theorem layout_append (n : Nat) (t u : ConfTree) : layout n (t ++ u) = layout n t ++ layout n u := by
  rw [layout, Stanza.mapAll_append, Stanza.text_append]
  rfl

theorem layout_cons (n : Nat) (s : Stanza ConfLabel) (t : ConfTree) : layout n (s :: t) = layout n [s] ++ layout n t :=
  layout_append n [s] t

theorem layout_line (n : Nat) (label : ConfLabel) : layout n [.line label] = tabs n ++ label.text ++ "\n" := by
  rw [layout, Stanza.mapAll, Stanza.map, Stanza.mapAll, Stanza.text_line]

theorem layout_keyStanza (n : Nat) (key : String) (v : Value) : layout n [keyStanza key v] = writeLine key v n := by
  rw [keyStanza, layout_line]
  simp only [ConfLabel.text, headText, writeLine, String.append_assoc]

theorem layout_block (n : Nat) (label : ConfLabel) (body : ConfTree) :
    layout n [.block label body] = writeBraces label.text (layout (n + 1) body) n := by
  rw [layout, Stanza.mapAll, Stanza.map, Stanza.mapAll, Stanza.text_block]
  rfl

theorem layout_flatten (n : Nat) : ∀ l : List ConfTree, layout n l.flatten = String.join (l.map (layout n))
  | [] => layout_nil n
  | t :: l => by
    rw [List.flatten_cons, layout_append, layout_flatten n l, List.map_cons, String.join_cons]

theorem insertionSort_map_snd {α β : Type} (f : α → β) (l : List (String × α)) :
    (l.map fun e => (e.1, f e.2)).insertionSort (·.1 ≤ ·.1) = (l.insertionSort (·.1 ≤ ·.1)).map fun e => (e.1, f e.2) :=
  (List.map_insertionSort _ _ (fun e => (e.1, f e.2)) l fun _ _ _ _ => Iff.rfl).symm

theorem inOrder_layout (n : Nat) (entries : List (String × ConfTree)) :
    inOrder (entries.map fun e => (e.1, layout n e.2)) = layout n (treeInOrder entries) := by
  rw [inOrder, treeInOrder, layout_flatten, insertionSort_map_snd, List.map_map, List.map_map]
  rfl

theorem map_layout {n : Nat} {write : String × Value → String × String} {tree : String × Value → ConfTree}
    (h : ∀ e, write e = (e.1, layout n (tree e))) (m : Config) :
    m.map write = (m.map fun e => (e.1, tree e)).map fun e => (e.1, layout n e.2) := by
  rw [List.map_map]
  exact List.map_congr_left fun e _ => h e

/-! ## The writers lay out the tree -/

theorem text_key (key : String) : ConfLabel.text ⟨key, none⟩ = key := rfl

mutual
theorem writeMapEntry_eq : ∀ (key : String) (n : Nat) (v : Value),
    writeMapEntry key n v = layout n (entryTree false key v)
  | key, n, .leaf s => by
    rw [writeMapEntry, entryTree]
    by_cases hs : s = .nil
    · rw [if_pos hs, if_pos ⟨rfl, hs⟩, layout_nil]
    · rw [if_neg hs, if_neg fun h => hs h.2, layout_keyStanza]
  | key, n, .map m => by
    rw [writeMapEntry, entryTree, if_neg (by simp), layout_block, writeMapFields_eq (n + 1) m, inOrder_layout, text_key]
  | key, n, .list l => by
    rw [writeMapEntry, entryTree, if_neg (by simp), writeMapItems_eq key n l]
theorem writeMapItems_eq : ∀ (key : String) (n : Nat) (l : List Value),
    writeMapItems key n l = layout n (itemsTree false key l)
  | key, n, [] => by rw [writeMapItems, itemsTree, layout_nil]
  | key, n, v :: l => by
    rw [writeMapItems, itemsTree, layout_cons, writeMapItem_eq key n v, writeMapItems_eq key n l]
theorem writeMapItem_eq : ∀ (key : String) (n : Nat) (v : Value),
    writeMapItem key n v = layout n [itemTree false key v]
  | key, n, .leaf s => by rw [writeMapItem, itemTree, layout_keyStanza]
  | key, n, .map m => by
    rw [writeMapItem, itemTree, layout_block, writeMapFields_eq (n + 1) m, inOrder_layout, text_key]
  | key, n, .list l => by rw [writeMapItem, itemTree, layout_keyStanza]
theorem writeMapFields_eq : ∀ (n : Nat) (m : List (String × Value)),
    writeMapFields n m = (fieldsTree false m).map fun e => (e.1, layout n e.2)
  | n, [] => by
    rw [writeMapFields, fieldsTree]
    rfl
  | n, (k, v) :: m => by
    rw [writeMapFields, fieldsTree, writeMapEntry_eq k n v, writeMapFields_eq n m]
    rfl
end

theorem writeMapEntries_eq (m : Config) (n : Nat) : writeMapEntries m n = layout n (mapTree m) := by
  rw [writeMapEntries, writeMapFields_eq, inOrder_layout, mapTree]

theorem filter_map_key {α β : Type} (f : α → β) (p : String → Bool) (l : List (String × α)) :
    (l.map fun e => (e.1, f e.2)).filter (fun e => p e.1) = (l.filter fun e => p e.1).map fun e => (e.1, f e.2) :=
  List.filter_map

theorem writeStorageEngine_eq (m : Config) (entries : List (String × ConfTree)) (n : Nat) :
    writeStorageEngine m (entries.map fun e => (e.1, layout (n + 1) e.2)) n =
      layout n [storageEngineTree m entries] := by
  unfold writeStorageEngine storageEngineTree
  dsimp only
  rw [filter_map_key (layout (n + 1)) (fun k => decide (k ≠ "type")) entries, List.isEmpty_map]
  split
  · rw [layout_line]
    rfl
  · rw [layout_block, inOrder_layout]
    rfl

mutual
theorem writeNamespaceEntry_eq : ∀ (key : String) (n : Nat) (v : Value),
    writeNamespaceEntry key n v = layout n (entryTree true key v)
  | key, n, .leaf s => by rw [writeNamespaceEntry, entryTree, if_neg (by simp), layout_keyStanza]
  | key, n, .map m => by
    rw [writeNamespaceEntry, entryTree, writeNamespaceFields_eq (n + 1) m]
    by_cases hkey : key = "storage-engine"
    · rw [if_pos hkey, if_pos ⟨rfl, hkey⟩, writeStorageEngine_eq]
    · rw [if_neg hkey, if_neg fun h => hkey h.2, layout_block, inOrder_layout, text_key]
  | key, n, .list l => by
    rw [writeNamespaceEntry, entryTree]
    by_cases hkey : key = "storage-engine"
    · rw [if_pos hkey, if_pos ⟨rfl, hkey⟩, layout_keyStanza]
    · rw [if_neg hkey, if_neg fun h => hkey h.2, writeNamespaceItems_eq key n l]
theorem writeNamespaceItems_eq : ∀ (key : String) (n : Nat) (l : List Value),
    writeNamespaceItems key n l = layout n (itemsTree true key l)
  | key, n, [] => by rw [writeNamespaceItems, itemsTree, layout_nil]
  | key, n, v :: l => by
    rw [writeNamespaceItems, itemsTree, layout_cons, writeNamespaceItem_eq key n v, writeNamespaceItems_eq key n l]
theorem writeNamespaceItem_eq : ∀ (key : String) (n : Nat) (v : Value),
    writeNamespaceItem key n v = layout n [itemTree true key v]
  | key, n, .leaf s => by rw [writeNamespaceItem, itemTree, layout_keyStanza]
  | key, n, .map m => by
    rw [writeNamespaceItem, itemTree, layout_block, writeNamespaceFields_eq (n + 1) m, inOrder_layout, text_key]
  | key, n, .list l => by rw [writeNamespaceItem, itemTree, layout_keyStanza]
theorem writeNamespaceFields_eq : ∀ (n : Nat) (m : List (String × Value)),
    writeNamespaceFields n m = (fieldsTree true m).map fun e => (e.1, layout n e.2)
  | n, [] => by
    rw [writeNamespaceFields, fieldsTree]
    rfl
  | n, (k, v) :: m => by
    rw [writeNamespaceFields, fieldsTree, writeNamespaceEntry_eq k n v, writeNamespaceFields_eq n m]
    rfl
end

/-! ## Sections -/

theorem withoutName_layout (n : Nat) (entries : List (String × ConfTree)) :
    withoutName (entries.map fun e => (e.1, layout n e.2)) = (withoutName entries).map fun e => (e.1, layout n e.2) :=
  filter_map_key (layout n) (fun k => decide (k ≠ "name")) entries

theorem writeEach_eq {f : Nat → Value → Except String String} {tree : Value → ConfTree} {n : Nat}
    (hf : ∀ i v s, f i v = .ok s → s = layout n (tree v)) : ∀ {l : List Value} {i : Nat} {r : String},
      writeEach f i l = .ok r → r = layout n (l.flatMap tree)
  | [], i, r, h => by
    cases h
    rw [List.flatMap_nil, layout_nil]
  | v :: l, i, r, h => by
    rw [writeEach] at h
    cases hv : f i v with
    | error e =>
      rw [hv] at h
      cases h
    | ok s =>
      cases hl : writeEach f (i + 1) l with
      | error e =>
        rw [hv, hl] at h
        cases h
      | ok rest =>
        rw [hv, hl] at h
        cases h
        rw [List.flatMap_cons, layout_append, hf i v s hv, writeEach_eq hf hl]

theorem namespaceSection_eq (i : Nat) (v : Value) (s : String) (h : namespaceSection i v = .ok s) :
    s = layout 0 (namespaceTree v) := by
  cases v with
  | leaf x => cases h
  | list l => cases h
  | map m =>
    unfold namespaceSection at h
    dsimp only at h
    unfold namespaceTree
    dsimp only [Value.asMap]
    cases hname : entryName m with
    | none =>
      rw [hname] at h
      cases h
    | some name =>
      rw [hname] at h
      cases h
      rw [layout_block, writeNamespaceFields_eq, withoutName_layout, inOrder_layout]
      rfl

theorem sinkSection_eq (i : Nat) (v : Value) (s : String) (h : sinkSection i v = .ok s) :
    s = layout 1 (sinkTree v) := by
  cases v with
  | leaf x => cases h
  | list l => cases h
  | map m =>
    unfold sinkSection at h
    dsimp only at h
    unfold sinkTree
    dsimp only [Value.asMap]
    cases hname : entryName m with
    | none =>
      rw [hname] at h
      cases h
    | some name =>
      rw [hname] at h
      cases h
      rw [layout_block, map_layout fun e => by rw [layout_keyStanza], withoutName_layout, inOrder_layout]
      rfl

theorem networkEntry_eq (key : String) (n : Nat) (v : Value) :
    networkEntry key n v = layout n [networkEntryTree key v] := by
  cases v with
  | leaf s => exact (layout_keyStanza n key (.leaf s)).symm
  | list l => exact (layout_keyStanza n key (.list l)).symm
  | map m =>
    rw [networkEntryTree, layout_block, text_key, ← writeMapEntries_eq]
    rfl

theorem generateHeartbeatSubsection_eq (hbConfig : Config) (serviceName namespace_ : String) (podNames : List String)
    (port : Int) : generateHeartbeatSubsection hbConfig serviceName namespace_ podNames port =
      layout 1 [heartbeatTree hbConfig (podNames.map (meshSeed serviceName namespace_ port))] := by
  have hentries : ∀ e : String × Value, (e.1, networkEntry e.1 2 e.2) = (e.1, layout 2 [networkEntryTree e.1 e.2]) :=
    fun e => by rw [networkEntry_eq]
  have hseeds : ∀ seeds : List String,
      String.join (seeds.map fun seed => "\t\tmesh-seed-address-port " ++ seed ++ "\n") =
        layout 2 (seeds.map fun seed => .line ⟨"mesh-seed-address-port", some seed⟩) := by
    intro seeds
    induction seeds with
    | nil => rw [List.map_nil, List.map_nil, layout_nil]; rfl
    | cons seed seeds ih =>
      rw [List.map_cons, String.join_cons, ih, List.map_cons, layout_cons, layout_line]
      rfl
  have hseeds := hseeds (podNames.map (meshSeed serviceName namespace_ port))
  rw [List.map_map] at hseeds
  rw [heartbeatTree, layout_block, layout_append, ← hseeds, ← inOrder_layout, ← map_layout hentries,
    generateHeartbeatSubsection,
    writeBraces]
  simp only [String.append_assoc]
  rfl

theorem generateNetworkSection_eq (networkConfig : Config) (serviceName namespace_ : String) (podNames : List String)
    (port : Int) : generateNetworkSection networkConfig serviceName namespace_ podNames port =
      layout 0 [networkTree (podNames.map (meshSeed serviceName namespace_ port)) networkConfig] := by
  rw [networkTree, layout_block, ← inOrder_layout, generateNetworkSection, writeBraces]
  have hentries : ∀ e : String × Value, (e.1, if e.1 = "heartbeat" then
        generateHeartbeatSubsection (e.2.asMap.getD []) serviceName namespace_ podNames port
        else networkEntry e.1 1 e.2) =
      (e.1, layout 1 [if e.1 = "heartbeat" then
        heartbeatTree (e.2.asMap.getD []) (podNames.map (meshSeed serviceName namespace_ port))
        else networkEntryTree e.1 e.2]) := by
    intro e
    split
    · rw [generateHeartbeatSubsection_eq]
    · rw [networkEntry_eq]
  rw [map_layout hentries]
  simp only [String.append_assoc]
  rfl

theorem confSection_eq {serviceName namespace_ : String} {podNames : List String} {port : Int} {key : String}
    {val : Value}
    {s : String} (h : confSection (fun netMap => generateNetworkSection netMap serviceName namespace_ podNames port)
      key val = .ok s) :
    s = layout 0 (sectionTree (podNames.map (meshSeed serviceName namespace_ port)) key val) := by
  unfold confSection at h
  unfold sectionTree
  split at h
  · rename_i hnil
    cases h
    rw [if_pos hnil, layout_nil]
  · rename_i hnil
    rw [if_neg hnil]
    split at h
    · rename_i hkey
      rw [if_pos hkey]
      split at h
      · exact writeEach_eq namespaceSection_eq h
      · cases h
    · rename_i hns
      rw [if_neg hns]
      split at h
      · rename_i hkey
        rw [if_pos hkey]
        split at h
        · rename_i logs
          unfold generateLoggingSection at h
          cases hsinks : writeEach sinkSection 0 logs with
          | error e =>
            rw [hsinks] at h
            cases h
          | ok sinks =>
            rw [hsinks] at h
            cases h
            rw [layout_block, writeEach_eq sinkSection_eq hsinks, writeBraces]
            simp only [String.append_assoc]
            rfl
        · cases h
      · rename_i hlog
        rw [if_neg hlog]
        split at h
        · rename_i hkey
          cases h
          rw [if_pos hkey, layout_nil]
        · rename_i hsec
          rw [if_neg hsec]
          have hblock : ∀ m : Config, layout 0 [.block ⟨key, none⟩ (mapTree m)] = writeBlock key m 0 := by
            intro m
            rw [layout_block, ← writeMapEntries_eq]
            rfl
          -- What is left is one block of a map, the network's own, or one line.
          split at h
          · rename_i hkey
            subst hkey
            cases val with
            | leaf x => cases h
            | list l => cases h
            | map m =>
              cases h
              show _ = layout 0 (if "service" = "network" then _ else [.block ⟨"service", none⟩ (mapTree m)])
              rw [if_neg (by decide), hblock, writeBlock, writeBraces, generateServiceSection]
              simp only [String.append_assoc]
              rfl
          · split at h
            · rename_i hkey
              cases val with
              | leaf x => cases h
              | list l => cases h
              | map m =>
                cases h
                show _ = layout 0 (if key = "network" then [networkTree _ m] else _)
                rw [if_pos hkey]
                exact generateNetworkSection_eq m serviceName namespace_ podNames port
            · rename_i hnet
              cases val with
              | leaf x =>
                cases h
                exact (layout_keyStanza 0 key (.leaf x)).symm
              | list l =>
                cases h
                exact (layout_keyStanza 0 key (.list l)).symm
              | map m =>
                cases h
                show _ = layout 0 (if key = "network" then _ else [.block ⟨key, none⟩ (mapTree m)])
                rw [if_neg hnet, hblock]
                rfl

theorem confSections_eq {w : Config → String} {tree : String → Value → ConfTree}
    (hw : ∀ key val s, confSection w key val = .ok s → s = layout 0 (tree key val)) : ∀ {m : Config} {r : String},
      confSections w m = .ok r → r = layout 0 (m.map fun (k, v) => tree k v).flatten
  | [], r, h => by
    cases h
    rw [List.map_nil, List.flatten_nil, layout_nil]
  | (key, val) :: rest, r, h => by
    obtain ⟨s, l, hs, hl, rfl⟩ := confSections_cons_ok.1 h
    rw [List.map_cons, List.flatten_cons, layout_append, hw key val s hs, confSections_eq hw hl]

/-- The file is the layout of the config's stanza tree. -/
theorem generateConfForPod_eq {config : Config} {serviceName namespace_ : String} {podNames : List String} {port : Int}
    {text : String} (h : generateConfForPod config serviceName namespace_ podNames port = .ok text) :
    text = layout 0 (confTree config (podNames.map (meshSeed serviceName namespace_ port))) := by
  have hsorted : ∀ seeds, confTree config seeds =
      ((config.insertionSort (·.1 ≤ ·.1)).map fun (k, v) => sectionTree seeds k v).flatten := by
    intro seeds
    have hmap := List.map_insertionSort (fun a b : String × Value => a.1 ≤ b.1)
      (fun a b : String × ConfTree => a.1 ≤ b.1) (fun (k, v) => (k, sectionTree seeds k v)) config fun _ _ _ _ =>
        Iff.rfl
    rw [confTree, treeInOrder, ← hmap, List.map_map]
    rfl
  rw [hsorted]
  exact confSections_eq (fun _ _ _ => confSection_eq) h

end Acko
