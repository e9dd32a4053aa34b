/-
The file of a pod against the plain file of the same config. The plain writer treats the network like any
section; the writer with mesh seeds has loops of its own for the entries of the network and of the heartbeat,
which know neither lists nor nil values. Apart from those, the seeds are all that the two files differ in;
and where the keys are single words no text around an entry can make up for a difference in it.
-/
import AckoProofs.Conf.Plain
import AckoProofs.Lib.Cut

namespace Acko

open Stanza (tabs)

/-! ## One entry -/

def Value.flat : Value → Bool
  | .list _ => false
  | v => !v.isNil

theorem networkEntry_of_flat {v : Value} (h : v.flat = true) (key : String) (n : Nat) :
    networkEntry key n v = writeMapEntry key n v := by
  cases v with
  | leaf s =>
    have hs : s ≠ .nil := by
      rintro rfl
      cases h
    rw [writeMapEntry, if_neg hs, networkEntry]
    rintro m ⟨⟩
  | map m => rw [writeMapEntry, networkEntry, writeMapEntries]
  | list l => cases h

theorem writeMapFields_map (n : Nat) : ∀ m : Config, writeMapFields n m = m.map fun e => (e.1, writeMapEntry e.1 n e.2)
  | [] => by rw [writeMapFields, List.map_nil]
  | (k, v) :: m => by rw [writeMapFields, writeMapFields_map n m, List.map_cons]

theorem inOrder_map (m : Config) (f : String × Value → String) :
    inOrder (m.map fun e => (e.1, f e)) = String.join ((m.insertionSort (·.1 ≤ ·.1)).map f) := by
  rw [inOrder, ← List.map_insertionSort (·.1 ≤ ·.1) (·.1 ≤ ·.1) (fun e : String × Value => (e.1, f e)) m
    (fun _ _ _ _ => Iff.rfl), List.map_map]
  rfl

/-! ## The network -/

def seedLines (serviceName namespace_ : String) (heartbeatPort : Int) (podNames : List String) : String :=
  String.join (podNames.map fun pName =>
    "\t\tmesh-seed-address-port " ++ meshSeed serviceName namespace_ heartbeatPort pName ++ "\n")

def heartbeatStanza (hbConfig : Config) (lines : String) : String :=
  "\theartbeat \x7b\n" ++ writeMapEntries hbConfig 2 ++ lines ++ "\t\x7d\n"

/-- `writeMapEntries` writes nothing for it: a nil or an empty list. -/
def Value.silent : Value → Bool
  | .leaf s => s = .nil
  | .list l => l.isEmpty
  | .map _ => false

/-- The item of a list that the plain writer writes as an empty stanza: the text of one, or a map with nothing to
write. -/
def Value.emptyStanza : Value → Prop
  | .leaf s => s = .str "\x7b\n\t\x7d"
  | .map m => ∀ e ∈ m, Value.silent e.2 = true
  | .list _ => False

/-- A heartbeat that both writers write alike: as a map of flat values, or as an empty stanza though it is no map. -/
def Value.heartbeatAlike : Value → Prop
  | .map hb => ∀ e ∈ hb, Value.flat e.2 = true
  | .leaf s => Value.emptyStanza (.leaf s)
  | .list l => ∃ item, l = [item] ∧ Value.emptyStanza item

/-- The network has no list and no nil where the two writers treat them differently: directly in it, or in the heartbeat
map; and the heartbeat is a map, or written like an empty one. -/
structure FlatNetwork (net : Config) : Prop where
  entries : ∀ e ∈ net, e.1 ≠ "heartbeat" → e.2.flat = true
  heartbeat : ∀ v, ("heartbeat", v) ∈ net → v.heartbeatAlike

def NoSeedKey (net : Config) : Prop := ∀ hb, ("heartbeat", .map hb) ∈ net → ∀ e ∈ hb, e.1 ≠ "mesh-seed-address-port"

variable {serviceName namespace_ : String} {podNames : List String} {port : Int} {net hb : Config} {v : Value}

theorem generateHeartbeatSubsection_map (hkey : ∀ e ∈ hb, e.1 ≠ "mesh-seed-address-port") :
    generateHeartbeatSubsection hb serviceName namespace_ podNames port = "\theartbeat \x7b\n" ++
      String.join ((hb.insertionSort (·.1 ≤ ·.1)).map fun e => networkEntry e.1 2 e.2) ++
      seedLines serviceName namespace_ port podNames ++ "\t\x7d\n" := by
  have hfilter : hb.filter (fun e => e.1 ≠ "mesh-seed-address-port") = hb :=
    List.filter_eq_self.2 fun e he => decide_eq_true (hkey e he)
  rw [generateHeartbeatSubsection, hfilter, ← inOrder_map]
  rfl

theorem generateHeartbeatSubsection_of_flat (hflat : ∀ e ∈ hb, e.2.flat = true)
    (hkey : ∀ e ∈ hb, e.1 ≠ "mesh-seed-address-port") :
    generateHeartbeatSubsection hb serviceName namespace_ podNames port =
      heartbeatStanza hb (seedLines serviceName namespace_ port podNames) := by
  have hentries : ∀ e ∈ hb.insertionSort (·.1 ≤ ·.1), networkEntry e.1 2 e.2 = writeMapEntry e.1 2 e.2 := fun e he =>
    networkEntry_of_flat (hflat e ((List.mem_insertionSort _).1 he)) e.1 2
  rw [generateHeartbeatSubsection_map hkey, heartbeatStanza, writeMapEntries, writeMapFields_map, inOrder_map,
    List.map_congr_left hentries]

/-- How the text of an entry starts. -/
def lead (n : Nat) (key : String) : String := tabs n ++ key ++ " "

/-- An entry as the plain writer writes it: nothing for a silent value, otherwise a text that starts with the key. -/
theorem writeMapEntry_lead (key : String) (n : Nat) (v : Value) :
    v.silent = true ∧ writeMapEntry key n v = "" ∨
      v.silent = false ∧ ∃ r, writeMapEntry key n v = lead n key ++ r := by
  have hbraces : ∀ body, ∃ r, writeBraces key body n = lead n key ++ r := fun body =>
    ⟨"\x7b\n" ++ body ++ tabs n ++ "\x7d\n", by
      rw [writeBraces, lead, show (" \x7b\n" : String) = " " ++ "\x7b\n" from rfl]
      simp only [String.append_assoc]⟩
  have hline : ∀ v, ∃ r, writeLine key v n = lead n key ++ r := fun v => ⟨formatValue v ++ "\n", by
    simp only [writeLine, lead, String.append_assoc]⟩
  cases v with
  | leaf s =>
    by_cases hs : s = .nil
    · exact .inl ⟨decide_eq_true hs, by rw [writeMapEntry, if_pos hs]⟩
    · refine .inr ⟨decide_eq_false hs, ?_⟩
      rw [writeMapEntry, if_neg hs]
      exact hline _
  | map m =>
    refine .inr ⟨rfl, ?_⟩
    rw [writeMapEntry]
    exact hbraces _
  | list l =>
    cases l with
    | nil => exact .inl ⟨rfl, by rw [writeMapEntry, writeMapItems]⟩
    | cons v l =>
      refine .inr ⟨rfl, ?_⟩
      obtain ⟨r, hr⟩ : ∃ r, writeMapItem key n v = lead n key ++ r := by
        cases v with
        | leaf s =>
          rw [writeMapItem]
          exact hline _
        | map m =>
          rw [writeMapItem]
          exact hbraces _
        | list l =>
          rw [writeMapItem]
          exact hline _
      exact ⟨r ++ writeMapItems key n l, by
        simp only [writeMapEntry, writeMapItems, hr, String.append_assoc]⟩

theorem join_lead (n : Nat) : ∀ l : Config,
    (∀ e ∈ l, e.2.silent = true) ∧ String.join (l.map fun e => writeMapEntry e.1 n e.2) = "" ∨
      (∃ e ∈ l, e.2.silent = false) ∧ ∃ k r, String.join (l.map fun e => writeMapEntry e.1 n e.2) = lead n k ++ r
  | [] => .inl ⟨(fun _ he => by cases he), rfl⟩
  | e :: l => by
    rw [List.map_cons, String.join_cons, List.forall_mem_cons, List.exists_mem_cons_iff]
    rcases writeMapEntry_lead e.1 n e.2 with ⟨hsilent, he⟩ | ⟨hloud, r, hr⟩
    · rw [he, String.empty_append]
      exact (join_lead n l).imp (And.imp_left fun h => ⟨hsilent, h⟩) (And.imp_left Or.inr)
    · refine .inr ⟨.inl hloud, e.1, r ++ String.join (l.map fun e => writeMapEntry e.1 n e.2), ?_⟩
      rw [hr, String.append_assoc]

theorem writeMapEntries_lead (m : Config) (n : Nat) :
    (∀ e ∈ m, e.2.silent = true) ∧ writeMapEntries m n = "" ∨
      (∃ e ∈ m, e.2.silent = false) ∧ ∃ k r, writeMapEntries m n = lead n k ++ r := by
  have hsorted : ∀ e, e ∈ m.insertionSort (·.1 ≤ ·.1) ↔ e ∈ m := fun e => List.mem_insertionSort _
  have hjoin := join_lead n (m.insertionSort (·.1 ≤ ·.1))
  simp only [hsorted] at hjoin
  rwa [writeMapEntries, writeMapFields_map, inOrder_map]

theorem writeMapEntries_silent {m : Config} (h : ∀ e ∈ m, e.2.silent = true) (n : Nat) : writeMapEntries m n = "" := by
  rcases writeMapEntries_lead m n with ⟨-, hempty⟩ | ⟨⟨e, he, hloud⟩, -⟩
  · exact hempty
  · rw [h e he] at hloud
    cases hloud

theorem writeBraces_heartbeat (hb : Config) :
    writeBraces "heartbeat" (writeMapEntries hb 2) 1 = heartbeatStanza hb "" := by
  rw [heartbeatStanza, String.append_empty, writeBraces]
  simp only [String.append_assoc]
  rfl

theorem writeMapItem_of_emptyStanza (h : v.emptyStanza) : writeMapItem "heartbeat" 1 v = heartbeatStanza [] "" := by
  cases v with
  | leaf s =>
    cases h
    decide
  | map m =>
    rw [writeMapItem]
    refine (writeBraces_heartbeat m).trans ?_
    rw [heartbeatStanza, writeMapEntries_silent h]
    rfl
  | list l => cases h

theorem writeMapEntry_heartbeat (h : v.heartbeatAlike) :
    writeMapEntry "heartbeat" 1 v = heartbeatStanza (v.asMap.getD []) "" := by
  cases v with
  | map hb =>
    rw [writeMapEntry]
    exact writeBraces_heartbeat hb
  | leaf s =>
    cases h
    decide
  | list l =>
    obtain ⟨item, rfl, h⟩ := h
    rw [writeMapEntry, writeMapItems, writeMapItems, String.append_empty]
    exact writeMapItem_of_emptyStanza h

theorem generateHeartbeatSubsection_of_alike (h : v.heartbeatAlike)
    (hkey : ∀ hb, v = .map hb → ∀ e ∈ hb, e.1 ≠ "mesh-seed-address-port") :
    generateHeartbeatSubsection (v.asMap.getD []) serviceName namespace_ podNames port =
      heartbeatStanza (v.asMap.getD []) (seedLines serviceName namespace_ port podNames) := by
  cases v with
  | map hb => exact generateHeartbeatSubsection_of_flat h (hkey hb rfl)
  | leaf s => exact generateHeartbeatSubsection_of_flat (fun _ he => by cases he) (fun _ he => by cases he)
  | list l => exact generateHeartbeatSubsection_of_flat (fun _ he => by cases he) (fun _ he => by cases he)

theorem generateStanza_network (net : Config) :
    generateStanza "network" net = "network \x7b\n" ++
      String.join ((net.insertionSort (·.1 ≤ ·.1)).map fun e => writeMapEntry e.1 1 e.2) ++ "\x7d\n" := by
  rw [← inOrder_map, ← writeMapFields_map, generateStanza, writeBlock, writeBraces, writeMapEntries]
  simp only [String.append_assoc]
  rfl

/-- What the writer with seeds writes for an entry of the network. -/
def podEntry (serviceName namespace_ : String) (podNames : List String) (port : Int) (e : String × Value) : String :=
  if e.1 = "heartbeat" then generateHeartbeatSubsection (e.2.asMap.getD []) serviceName namespace_ podNames port
  else networkEntry e.1 1 e.2

theorem generateNetworkSection_entries (net : Config) :
    generateNetworkSection net serviceName namespace_ podNames port = "network \x7b\n" ++
      String.join ((net.insertionSort (·.1 ≤ ·.1)).map (podEntry serviceName namespace_ podNames port)) ++
        "\x7d\n" := by
  rw [← inOrder_map]
  rfl

theorem podEntry_of_ne {e : String × Value} (hne : e.1 ≠ "heartbeat") (hflat : e.2.flat = true) :
    podEntry serviceName namespace_ podNames port e = writeMapEntry e.1 1 e.2 := by
  rw [podEntry, if_neg hne, networkEntry_of_flat hflat]

theorem FlatNetwork.podEntry_eq (hflat : FlatNetwork net) (hkey : NoSeedKey net) {e : String × Value} (he : e ∈ net) :
    podEntry serviceName namespace_ [] port e = writeMapEntry e.1 1 e.2 := by
  obtain ⟨k, v⟩ := e
  by_cases hk : k = "heartbeat"
  · subst hk
    have halike := hflat.heartbeat v he
    rw [podEntry, if_pos rfl, writeMapEntry_heartbeat halike]
    exact generateHeartbeatSubsection_of_alike halike fun hb heq => hkey hb (heq ▸ he)
  · exact podEntry_of_ne hk (hflat.entries _ he hk)

theorem network_of_no_heartbeat (hflat : FlatNetwork net) (h : net.lookup "heartbeat" = none) :
    generateNetworkSection net serviceName namespace_ podNames port = generateStanza "network" net := by
  rw [generateNetworkSection_entries, generateStanza_network]
  refine congrArg (fun l => "network \x7b\n" ++ String.join l ++ "\x7d\n") (List.map_congr_left fun e he => ?_)
  have hmem := (List.mem_insertionSort _).1 he
  have hlook := List.lookup_eq_none_iff.1 h e hmem
  have hne : e.1 ≠ "heartbeat" := fun heq => by simp [heq] at hlook
  exact podEntry_of_ne hne (hflat.entries e hmem hne)

/-- The section is cut at the heartbeat stanza, in which alone the two files differ. -/
theorem network_split (hnodup : (net.map (·.1)).Nodup) (hflat : FlatNetwork net) (hkey : NoSeedKey net)
    (h : net.lookup "heartbeat" = some v) :
    ∃ before after, generateStanza "network" net = before ++ heartbeatStanza (v.asMap.getD []) "" ++ after ∧
      ∀ podNames, generateNetworkSection net serviceName namespace_ podNames port =
        before ++ heartbeatStanza (v.asMap.getD []) (seedLines serviceName namespace_ port podNames) ++ after := by
  have hperm := List.perm_insertionSort (·.1 ≤ ·.1) net
  have hmem := DocTree.mem_of_lookup h
  have halike := hflat.heartbeat v hmem
  obtain ⟨front, back, hcut⟩ := List.append_of_mem (hperm.mem_iff.2 hmem)
  have hkeys := (hperm.map (·.1)).nodup_iff.2 hnodup
  rw [hcut, List.map_append, List.map_cons, List.nodup_append, List.nodup_cons] at hkeys
  have hother : ∀ podNames, ∀ e ∈ net, e.1 ≠ "heartbeat" →
      podEntry serviceName namespace_ podNames port e = writeMapEntry e.1 1 e.2 := fun _ e he hne =>
    podEntry_of_ne hne (hflat.entries e he hne)
  have hfront : ∀ e ∈ front, e.1 ≠ "heartbeat" := fun e he heq =>
    hkeys.2.2 _ (List.mem_map_of_mem he) _ List.mem_cons_self heq
  have hback : ∀ e ∈ back, e.1 ≠ "heartbeat" := fun e he heq =>
    hkeys.2.1.1 (List.mem_map.2 ⟨e, he, heq⟩)
  have hcutMem : ∀ e, e ∈ front ∨ e ∈ back → e ∈ net := fun e he =>
    hperm.mem_iff.1 (hcut ▸ List.mem_append.2 (he.imp_right (List.mem_cons_of_mem _)))
  refine ⟨"network \x7b\n" ++ String.join (front.map fun e => writeMapEntry e.1 1 e.2),
    String.join (back.map fun e => writeMapEntry e.1 1 e.2) ++ "\x7d\n", ?_, fun podNames => ?_⟩
  · rw [generateStanza_network, hcut, List.map_append, List.map_cons, String.join_append, String.join_cons,
      writeMapEntry_heartbeat halike]
    simp only [String.append_assoc]
  · rw [generateNetworkSection_entries, hcut, List.map_append, List.map_cons, String.join_append, String.join_cons,
      List.map_congr_left fun e he => hother podNames e (hcutMem e (.inl he)) (hfront e he),
      List.map_congr_left fun e he => hother podNames e (hcutMem e (.inr he)) (hback e he), podEntry, if_pos rfl,
      generateHeartbeatSubsection_of_alike halike fun hb heq => hkey hb (heq ▸ hmem)]
    simp only [String.append_assoc]

/-! ## Differences that stay -/

/-- A key that is one word of its line. -/
def Worded (key : String) : Prop := ' ' ∉ key.toList ∧ '\n' ∉ key.toList

/-- The text after the last entry of a block. -/
def Closes (n : Nat) (y : String) : Prop := ∃ r, y = tabs n ++ "\x7d" ++ r

/-- What stands after an entry of a block: the closing brace, or an entry with one of these keys. -/
def Beyond (n : Nat) (keys : List String) (y : String) : Prop :=
  Closes n y ∨ ∃ k ∈ keys, ∃ r, y = lead (n + 1) k ++ r

theorem tabs_succ (n : Nat) : tabs (n + 1) = tabs n ++ "\t" := by
  rw [tabs, List.replicate_succ', String.ofList_append]
  rfl

variable {n : Nat} {k : String} {keys : List String} {x y : String}

theorem beyond_join {g : String × Value → String} (hg : ∀ e, g e = "" ∨ ∃ r, g e = lead (n + 1) e.1 ++ r)
    (hy : Closes n y) : ∀ l : Config, Beyond n (l.map (·.1)) (String.join (l.map g) ++ y)
  | [] => .inl (by rwa [List.map_nil, show String.join [] = "" from rfl, String.empty_append])
  | e :: l => by
    rw [List.map_cons, List.map_cons, String.join_cons, String.append_assoc]
    rcases hg e with he | ⟨r, hr⟩
    · rw [he, String.empty_append]
      exact (beyond_join hg hy l).imp_right fun ⟨k, hk, hr⟩ => ⟨k, List.mem_cons_of_mem _ hk, hr⟩
    · refine .inr ⟨e.1, List.mem_cons_self, r ++ (String.join (l.map g) ++ y), ?_⟩
      rw [hr, String.append_assoc]

/-- The next entry is not taken for one with another key. -/
theorem Beyond.ne_lead (h : Beyond n keys y) (hkey : ' ' ∉ k.toList) (hkeys : ∀ k' ∈ keys, ' ' ∉ k'.toList)
    (hnot : k ∉ keys) (r : String) : y ≠ lead (n + 1) k ++ r := by
  rintro rfl
  rcases h with ⟨r', h⟩ | ⟨k', hk', r', h⟩
  · rw [lead, tabs_succ] at h
    have hlist := congrArg String.toList h
    simp only [String.toList_append, List.append_assoc, List.append_cancel_left_eq] at hlist
    exact absurd (List.cons.inj hlist).1 (by decide)
  · have hlist := congrArg String.toList h
    simp only [lead, String.toList_append, List.append_assoc, List.append_cancel_left_eq] at hlist
    have heq := String.toList_inj.1 (Cut.append_cons_inj hkey (hkeys k' hk') hlist).1
    exact hnot (heq ▸ hk')

/-- Nor for the brace that closes a block inside. -/
theorem Beyond.ne_close (h : Beyond n keys y) (hkeys : ∀ k ∈ keys, Worded k) (r : String) :
    y ≠ tabs (n + 1) ++ "\x7d\n" ++ r := by
  rintro rfl
  rcases h with ⟨r', h⟩ | ⟨k, hk, r', h⟩
  · rw [tabs_succ] at h
    have hlist := congrArg String.toList h
    simp only [String.toList_append, List.append_assoc, List.append_cancel_left_eq] at hlist
    exact absurd (List.cons.inj hlist).1 (by decide)
  · have hlist := congrArg String.toList h
    simp only [lead, String.toList_append, List.append_assoc, List.append_cancel_left_eq] at hlist
    change '\x7d' :: '\n' :: r.toList = k.toList ++ ' ' :: r'.toList at hlist
    -- the key would be a brace and hold the newline, or be empty
    have hword := hkeys k hk
    cases hk : k.toList with
    | nil =>
      rw [hk] at hlist
      exact absurd (List.cons.inj hlist).1 (by decide)
    | cons c cs =>
      rw [hk] at hlist
      have htail := (List.cons.inj hlist).2
      cases cs with
      | nil => exact absurd (List.cons.inj htail).1 (by decide)
      | cons d ds =>
        refine hword.2 ?_
        rw [hk, (List.cons.inj htail).1]
        exact List.mem_cons_of_mem _ List.mem_cons_self

/-- A text is not the same text in brackets, whatever follows. -/
theorem ne_bracketed (u v : List Char) : ∀ t : List Char, '[' :: (t ++ u) ≠ t ++ '\n' :: v
  | [], h => absurd (List.cons.inj h).1 (by decide)
  | c :: t, h => by
    have hcons := List.cons.inj h
    rw [← hcons.1] at hcons
    exact ne_bracketed u v t hcons.2

theorem bracket_notMem_int (i : Int) : '[' ∉ (toString i).toList := by
  have hnat : ∀ m : Nat, '[' ∉ (toString m).toList := by
    intro m hm
    have hdigits : (toString m).toList = Nat.toDigits 10 m := Nat.toList_repr
    rw [hdigits] at hm
    exact absurd (Nat.isDigit_of_mem_toDigits (by omega) (le_refl _) hm) (by decide)
  cases i with
  | ofNat m => exact hnat m
  | negSucc m =>
    intro hm
    have hneg : toString (Int.negSucc m) = "-" ++ toString (m + 1) := rfl
    rw [hneg, String.toList_append, List.mem_append] at hm
    exact hm.elim (by decide) (hnat (m + 1))

theorem writeMapItems_lead (k : String) (n : Nat) (item : Value) (l : List Value) :
    ∃ r, writeMapItems k n (item :: l) = lead n k ++ r := by
  rcases writeMapEntry_lead k n (.list (item :: l)) with ⟨hsilent, -⟩ | ⟨-, r, hr⟩
  · cases hsilent
  · exact ⟨r, by rwa [writeMapEntry] at hr⟩

/-- The first line of an item: its own text, or one without a bracket. -/
theorem writeMapItem_line (k : String) (n : Nat) (item : Value) :
    ∃ t r, writeMapItem k n item = lead n k ++ t ++ "\n" ++ r ∧ (t = item.fmtV ∨ '[' ∉ t.toList) := by
  have hline : ∀ v, writeLine k v n = lead n k ++ formatValue v ++ "\n" ++ "" := fun v => by
    rw [String.append_empty, writeLine, lead]
  cases item with
  | leaf s =>
    refine ⟨formatValue (.leaf s), "", by rw [writeMapItem, hline], ?_⟩
    cases s with
    | nil => exact .inr (by decide)
    | bool b => exact .inl (by rw [Value.fmtV]; rfl)
    | str t => exact .inl (by rw [Value.fmtV]; rfl)
    | int i => exact .inl (by rw [Value.fmtV]; rfl)
    | float m e =>
      rw [Value.fmtV]
      change formatFloat m e = fmtFloat m e ∨ '[' ∉ (formatFloat m e).toList
      unfold formatFloat
      dsimp only
      split
      · exact .inr (bracket_notMem_int _)
      · exact .inl rfl
  | map m =>
    refine ⟨"\x7b", inOrder (writeMapFields (n + 1) m) ++ tabs n ++ "\x7d\n", ?_, .inr (by decide)⟩
    rw [writeMapItem, writeBraces, lead, show (" \x7b\n" : String) = " " ++ "\x7b" ++ "\n" from rfl]
    simp only [String.append_assoc]
  | list l => exact ⟨formatValue (.list l), "", by rw [writeMapItem, hline], .inl rfl⟩

/-- A list in brackets and its first item on a line of its own are different texts, whatever follows. -/
theorem networkEntry_list_ne {item : Value} {l : List Value} :
    networkEntry k n (.list (item :: l)) ++ x ≠ writeMapEntry k n (.list (item :: l)) ++ y := by
  intro h
  obtain ⟨rest, hrest⟩ : ∃ rest, " ".intercalate (Value.fmtList (item :: l)) = item.fmtV ++ rest := by
    rw [Value.fmtList]
    cases Value.fmtList l with
    | nil => exact ⟨"", by simp⟩
    | cons t ts => exact ⟨" " ++ " ".intercalate (t :: ts), by rw [String.intercalate_cons_cons, String.append_assoc]⟩
  have hnet : networkEntry k n (.list (item :: l)) = lead n k ++ ("[" ++ (item.fmtV ++ rest) ++ "]") ++ "\n" := by
    rw [← hrest]
    change writeLine k (.list (item :: l)) n = _
    rw [writeLine, lead]
    change _ ++ Value.fmtV (.list (item :: l)) ++ "\n" = _
    rw [Value.fmtV]
  obtain ⟨t, r, hitem, ht⟩ := writeMapItem_line k n item
  rw [hnet, writeMapEntry, writeMapItems, hitem] at h
  have hlist := congrArg String.toList h
  simp only [String.toList_append, List.append_assoc, List.append_cancel_left_eq] at hlist
  change '[' :: (item.fmtV.toList ++ _) = t.toList ++ '\n' :: _ at hlist
  rcases ht with rfl | ht
  · exact ne_bracketed _ _ _ hlist
  · cases htext : t.toList with
    | nil =>
      rw [htext] at hlist
      exact absurd (List.cons.inj hlist).1 (by decide)
    | cons c cs =>
      rw [htext] at hlist ht
      exact ht ((List.cons.inj hlist).1 ▸ List.mem_cons_self)

theorem networkEntry_ne (h : v.flat = false) (hy : ∀ r, y ≠ lead n k ++ r) :
    networkEntry k n v ++ x ≠ writeMapEntry k n v ++ y := by
  have hsilent : writeMapEntry k n v = "" → networkEntry k n v = writeLine k v n →
      networkEntry k n v ++ x ≠ writeMapEntry k n v ++ y := by
    intro hempty hline heq
    rw [hempty, String.empty_append, hline, writeLine] at heq
    exact hy (formatValue v ++ "\n" ++ x) (by rw [← heq, lead]; simp only [String.append_assoc])
  cases v with
  | leaf s =>
    have hnil : s = .nil := by
      by_contra hs
      exact absurd h (by simp [Value.flat, Value.isNil, hs])
    subst hnil
    exact hsilent (by rw [writeMapEntry, if_pos rfl]) rfl
  | map m => cases h
  | list l =>
    cases l with
    | nil => exact hsilent (by rw [writeMapEntry, writeMapItems]) rfl
    | cons item l => exact networkEntry_list_ne

/-- If two writers of the entries of a block give the same text, they agree on each entry on which agreeing is not
a matter of what follows. -/
theorem forall_of_join_eq {f g : String × Value → String} {P : String × Value → Prop}
    (hf : ∀ e, f e = "" ∨ ∃ r, f e = lead (n + 1) e.1 ++ r) (hg : ∀ e, g e = "" ∨ ∃ r, g e = lead (n + 1) e.1 ++ r)
    (hx : Closes n x) (hy : Closes n y) : ∀ {l : Config}, (l.map (·.1)).Nodup → (∀ e ∈ l, P e → f e = g e) →
    (∀ e ∈ l, ∀ keys x y, e.1 ∉ keys → (∀ k ∈ keys, k ∈ l.map (·.1)) → Beyond n keys x → Beyond n keys y → ¬ P e →
      f e ++ x ≠ g e ++ y) →
    String.join (l.map f) ++ x = String.join (l.map g) ++ y → ∀ e ∈ l, P e
  | [], _, _, _, _, e, he => by cases he
  | e :: l, hnodup, hgood, hbad, h, e', he' => by
    rw [List.map_cons, List.nodup_cons] at hnodup
    rw [List.map_cons, List.map_cons, String.join_cons, String.join_cons, String.append_assoc,
      String.append_assoc] at h
    have hP : P e := by
      by_contra hP
      exact hbad e List.mem_cons_self (l.map (·.1)) _ _ hnodup.1 (fun k hk => List.mem_cons_of_mem _ hk)
        (beyond_join hf hx l) (beyond_join hg hy l) hP h
    rcases List.mem_cons.1 he' with rfl | he'
    · exact hP
    · rw [hgood e List.mem_cons_self hP, String.append_right_inj] at h
      refine forall_of_join_eq hf hg hx hy hnodup.2 (fun e he => hgood e (List.mem_cons_of_mem _ he))
        (fun e he keys x y hnot hkeys => ?_) h e' he'
      exact hbad e (List.mem_cons_of_mem _ he) keys x y hnot fun k hk => List.mem_cons_of_mem _ (hkeys k hk)

/-- The heartbeat is no text with line breaks other than that of an empty stanza, and no list that starts with one. -/
def HeartbeatUnbroken : Value → Prop
  | .leaf (.str t) => '\n' ∈ t.toList → t = "\x7b\n\t\x7d"
  | .list (.leaf (.str t) :: _) => '\n' ∈ t.toList → t = "\x7b\n\t\x7d"
  | _ => True

theorem newline_notMem_leaf {s : Scalar} (hnot : ¬ Value.emptyStanza (.leaf s))
    (hbreak : HeartbeatUnbroken (.leaf s)) : '\n' ∉ (formatValue (.leaf s)).toList := by
  by_cases htext : ∃ t, s = .str t
  · obtain ⟨t, rfl⟩ := htext
    exact fun hmem => hnot (congrArg Scalar.str (hbreak hmem))
  · refine fun hmem => absurd (List.all_eq_true.1 (plainText_formatValue fun t ht => htext ⟨t, ht⟩) _ hmem) (by decide)

/-- Only what is written as an empty stanza gives the text of one, whatever follows. -/
theorem heartbeat_item_ne (item : Value) (hnot : ¬ item.emptyStanza)
    (hbreak : ∀ s, item = .leaf s → HeartbeatUnbroken item) (hy : ∀ r, y ≠ "\t\x7d\n" ++ r) :
    heartbeatStanza [] "" ++ x ≠ writeMapItem "heartbeat" 1 item ++ y := by
  have hstanza : heartbeatStanza [] "" = lead 1 "heartbeat" ++ ("\x7b\n" ++ "\t\x7d\n") := by decide
  intro h
  rw [hstanza] at h
  cases item with
  | leaf s =>
    rw [writeMapItem, writeLine] at h
    have hlist := congrArg String.toList h
    simp only [lead, String.toList_append, List.append_assoc, List.append_cancel_left_eq] at hlist
    have hrest : "\t\x7d\n".toList ++ x.toList = y.toList :=
      (Cut.append_cons_inj (a := ['\x7b']) (by decide) (newline_notMem_leaf hnot (hbreak s rfl)) hlist).2
    exact hy x (String.toList_inj.1 (by rw [String.toList_append, hrest]))
  | map m =>
    rcases writeMapEntries_lead m 2 with ⟨hsilent, -⟩ | ⟨-, k, r, hbody⟩
    · exact hnot hsilent
    · have hitem : writeMapItem "heartbeat" 1 (.map m) = writeBraces "heartbeat" (writeMapEntries m 2) 1 := by
        rw [writeMapItem, writeMapEntries]
      have hopen : tabs 1 ++ "heartbeat" ++ " \x7b\n" = lead 1 "heartbeat" ++ "\x7b\n" := by decide
      have htabs : lead 2 k = "\t" ++ ("\t" ++ k ++ " ") := by
        rw [lead, show tabs 2 = "\t" ++ "\t" from by decide]
        simp only [String.append_assoc]
      rw [hitem, writeBraces, hbody, hopen, htabs] at h
      have hlist := congrArg String.toList h
      simp only [String.toList_append, List.append_assoc, List.append_cancel_left_eq] at hlist
      exact absurd (List.cons.inj (List.cons.inj hlist).2).1 (by decide)
  | list l =>
    rw [writeMapItem, writeLine] at h
    have hlist := congrArg String.toList h
    simp only [lead, String.toList_append, List.append_assoc, List.append_cancel_left_eq] at hlist
    change _ = (Value.fmtV (.list l)).toList ++ _ at hlist
    rw [Value.fmtV] at hlist
    simp only [String.toList_append, List.append_assoc] at hlist
    exact absurd (List.cons.inj hlist).1 (by decide)

theorem networkEntry_lead (k : String) (n : Nat) (v : Value) : ∃ r, networkEntry k n v = lead n k ++ r := by
  have hline : ∃ r, writeLine k v n = lead n k ++ r := ⟨formatValue v ++ "\n", by
    simp only [writeLine, lead, String.append_assoc]⟩
  cases v with
  | leaf s => exact hline
  | list l => exact hline
  | map m =>
    rw [networkEntry_of_flat rfl]
    exact (writeMapEntry_lead k n (.map m)).elim (fun h => by cases h.1) And.right

/-- What is written for the keys of a block decides for each of them whether it is flat. -/
theorem flat_of_join_eq {m : Config} (hnodup : (m.map (·.1)).Nodup) (hwords : ∀ e ∈ m, Worded e.1)
    (hx : Closes n x) (hy : Closes n y)
    (h : String.join (m.map fun e => networkEntry e.1 (n + 1) e.2) ++ x =
      String.join (m.map fun e => writeMapEntry e.1 (n + 1) e.2) ++ y) : ∀ e ∈ m, e.2.flat = true := by
  refine forall_of_join_eq (fun e => .inr (networkEntry_lead _ _ _)) (fun e => ?_) hx hy hnodup
    (fun e _ hflat => networkEntry_of_flat hflat e.1 (n + 1)) (fun e he keys x y hnot hkeys _ hy hflat => ?_) h
  · exact (writeMapEntry_lead e.1 (n + 1) e.2).imp And.right And.right
  · have hblank : ∀ k ∈ keys, ' ' ∉ k.toList := fun k hk => by
      obtain ⟨e', he', rfl⟩ := List.mem_map.1 (hkeys k hk)
      exact (hwords e' he').1
    exact networkEntry_ne (Bool.eq_false_iff.2 hflat) (hy.ne_lead (hwords e he).1 hblank hnot)

theorem heartbeat_map_ne (hkey : ∀ e ∈ hb, e.1 ≠ "mesh-seed-address-port") (hnodup : (hb.map (·.1)).Nodup)
    (hwords : ∀ e ∈ hb, Worded e.1) (hnot : ¬ Value.heartbeatAlike (.map hb)) :
    generateHeartbeatSubsection hb serviceName namespace_ [] port ++ x ≠
      writeMapEntry "heartbeat" 1 (.map hb) ++ y := by
  have hperm := List.perm_insertionSort (·.1 ≤ ·.1) hb
  have hcloses : ∀ x, Closes 1 ("\t\x7d\n" ++ x) := fun x => ⟨"\n" ++ x, by
    rw [← String.append_assoc]
    rfl⟩
  intro h
  rw [writeMapEntry] at h
  change _ = writeBraces "heartbeat" (writeMapEntries hb 2) 1 ++ y at h
  rw [generateHeartbeatSubsection_map hkey, writeBraces_heartbeat, heartbeatStanza, writeMapEntries,
    writeMapFields_map, inOrder_map] at h
  have hbody := flat_of_join_eq ((hperm.map (·.1)).nodup_iff.2 hnodup) (fun e he => hwords e (hperm.mem_iff.1 he))
    (hcloses x) (hcloses y) ?_
  · exact hnot fun e he => hbody e (hperm.mem_iff.2 he)
  · have hseeds : seedLines serviceName namespace_ port [] = "" := rfl
    simpa only [hseeds, String.append_assoc, String.empty_append, String.append_right_inj] using h

section Heartbeat

variable (hy : ∀ r, y ≠ lead 1 "heartbeat" ++ r)

include hy

theorem emptyHeartbeat_ne : heartbeatStanza [] "" ++ x ≠ y := by
  rintro rfl
  exact hy ("\x7b\n\t\x7d\n" ++ x) (by rw [← String.append_assoc]; rfl)

variable (hclose : ∀ r, y ≠ "\t\x7d\n" ++ r)

include hclose

theorem heartbeat_list_ne {l : List Value} (hnot : ¬ Value.heartbeatAlike (.list l))
    (hbreak : HeartbeatUnbroken (.list l)) (hx : ∀ r, x ≠ lead 1 "heartbeat" ++ r) :
    heartbeatStanza [] "" ++ x ≠ writeMapEntry "heartbeat" 1 (.list l) ++ y := by
  intro h
  rw [writeMapEntry] at h
  cases l with
  | nil =>
    rw [writeMapItems, String.empty_append] at h
    exact emptyHeartbeat_ne hy h
  | cons item l =>
    rw [writeMapItems, String.append_assoc] at h
    by_cases hitem : Value.emptyStanza item
    · -- the first item is an empty stanza, so a second one would stand where the next entry is
      rw [writeMapItem_of_emptyStanza hitem, String.append_right_inj] at h
      cases l with
      | nil => exact hnot ⟨item, rfl, hitem⟩
      | cons item' l =>
        obtain ⟨r, hr⟩ := writeMapItems_lead "heartbeat" 1 item' l
        rw [hr, String.append_assoc] at h
        exact hx _ h
    · refine heartbeat_item_ne _ hitem ?_ ?_ h
      · rintro s rfl
        cases s <;> exact hbreak
      · intro r
        cases l with
        | nil =>
          rw [writeMapItems, String.empty_append]
          exact hclose r
        | cons item' l =>
          obtain ⟨r', hr⟩ := writeMapItems_lead "heartbeat" 1 item' l
          rw [hr]
          intro heq
          have hlist := congrArg String.toList heq
          simp only [String.toList_append, List.append_assoc] at hlist
          exact absurd (List.cons.inj (List.cons.inj hlist).2).1 (by decide)

/-- A heartbeat that the two writers do not write alike is not made up for by what follows it. -/
theorem heartbeat_ne (hkey : ∀ hb, v = .map hb → ∀ e ∈ hb, e.1 ≠ "mesh-seed-address-port")
    (hnodup : ∀ hb, v = .map hb → (hb.map (·.1)).Nodup) (hwords : ∀ hb, v = .map hb → ∀ e ∈ hb, Worded e.1)
    (hnot : ¬ v.heartbeatAlike) (hbreak : HeartbeatUnbroken v) (hx : ∀ r, x ≠ lead 1 "heartbeat" ++ r) :
    generateHeartbeatSubsection (v.asMap.getD []) serviceName namespace_ [] port ++ x ≠
      writeMapEntry "heartbeat" 1 v ++ y := by
  have hempty : generateHeartbeatSubsection [] serviceName namespace_ [] port = heartbeatStanza [] "" :=
    generateHeartbeatSubsection_of_flat (fun _ he => by cases he) fun _ he => by cases he
  cases v with
  | map hb => exact heartbeat_map_ne (hkey hb rfl) (hnodup hb rfl) (hwords hb rfl) hnot
  | list l => exact hempty ▸ heartbeat_list_ne hy hclose hnot hbreak hx
  | leaf s =>
    change generateHeartbeatSubsection [] serviceName namespace_ [] port ++ x ≠ _
    rw [hempty, writeMapEntry]
    split
    · rw [String.empty_append]
      exact emptyHeartbeat_ne hy
    · rw [← writeMapItem]
      exact heartbeat_item_ne (.leaf s) hnot (fun _ _ => hbreak) hclose

end Heartbeat

/-- The keys directly in the network and in the heartbeat are words, and the heartbeat is no text of several lines. -/
structure WordKeys (net : Config) : Prop where
  keys : ∀ e ∈ net, Worded e.1
  heartbeatKeys : ∀ hb, ("heartbeat", .map hb) ∈ net → ∀ e ∈ hb, Worded e.1
  unbroken : ∀ v, ("heartbeat", v) ∈ net → HeartbeatUnbroken v

theorem podEntry_lead (e : String × Value) :
    ∃ r, podEntry serviceName namespace_ [] port e = lead 1 e.1 ++ r := by
  unfold podEntry
  split
  case isTrue hkey =>
    rw [hkey, generateHeartbeatSubsection,
      show ("\theartbeat \x7b\n" : String) = lead 1 "heartbeat" ++ "\x7b\n" from rfl]
    simp only [String.append_assoc]
    exact ⟨_, rfl⟩
  case isFalse => exact networkEntry_lead _ _ _

/-- With words for keys, the two writers agree on a network only where they agree on each entry. -/
theorem flatNetwork_of_eq (hdistinct : DocTree.wellKeyed (.map net) = true) (hkey : NoSeedKey net)
    (hwords : WordKeys net)
    (h : generateNetworkSection net serviceName namespace_ [] port = generateStanza "network" net) :
    FlatNetwork net := by
  have hperm := List.perm_insertionSort (·.1 ≤ ·.1) net
  have hcloses : Closes 0 "\x7d\n" := ⟨"\n", rfl⟩
  rw [generateNetworkSection_entries, generateStanza_network, String.append_assoc, String.append_assoc,
    String.append_right_inj] at h
  have hmem : ∀ e, e ∈ net.insertionSort (·.1 ≤ ·.1) ↔ e ∈ net := fun e => hperm.mem_iff
  have hentries := forall_of_join_eq
    (P := fun e => if e.1 = "heartbeat" then e.2.heartbeatAlike else e.2.flat = true)
    (fun e => .inr (podEntry_lead e)) (fun e => (writeMapEntry_lead e.1 1 e.2).imp And.right And.right) hcloses hcloses
    ((hperm.map (·.1)).nodup_iff.2 (DocTree.nodup_keys hdistinct)) ?_ ?_ h
  · simp only [hmem] at hentries
    refine ⟨fun e he hne => ?_, fun v hv => ?_⟩
    · have hP := hentries e he
      rwa [if_neg hne] at hP
    · have hP := hentries _ hv
      rwa [if_pos rfl] at hP
  · rintro ⟨k, v⟩ he hP
    by_cases hk : k = "heartbeat"
    · subst hk
      rw [if_pos rfl] at hP
      rw [podEntry, if_pos rfl, writeMapEntry_heartbeat hP]
      exact generateHeartbeatSubsection_of_alike hP fun hb heq => hkey hb (heq ▸ (hmem _).1 he)
    · rw [if_neg hk] at hP
      exact podEntry_of_ne hk hP
  · rintro ⟨k, v⟩ he keys x y hnot hkeys hx hy hP
    have he := (hmem _).1 he
    have hworded : ∀ k ∈ keys, Worded k := fun k hk => by
      obtain ⟨e', he', rfl⟩ := List.mem_map.1 (hkeys k hk)
      exact hwords.keys e' ((hmem _).1 he')
    have hblank : ∀ k ∈ keys, ' ' ∉ k.toList := fun k hk => (hworded k hk).1
    have hkeyBlank := (hwords.keys _ he).1
    by_cases hk : k = "heartbeat"
    · subst hk
      rw [if_pos rfl] at hP
      rw [podEntry, if_pos rfl]
      refine heartbeat_ne (hy.ne_lead hkeyBlank hblank hnot) (hy.ne_close hworded)
        (fun hb heq => hkey hb (heq ▸ he)) (fun hb heq => ?_)
        (fun hb heq => hwords.heartbeatKeys hb (heq ▸ he)) hP (hwords.unbroken v he)
        (hx.ne_lead hkeyBlank hblank hnot)
      subst heq
      exact DocTree.nodup_keys (DocTree.wellKeyed_of_lookup hdistinct (DocTree.lookup_of_mem hdistinct he))
    · rw [if_neg hk] at hP
      rw [podEntry, if_neg hk]
      exact networkEntry_ne (Bool.eq_false_iff.2 hP) (hy.ne_lead hkeyBlank hblank hnot)

/-! ## The file -/

variable {w w' : Config → String} {l : Config}

theorem confSection_congr {key : String} {val : Value} (h : ∀ net, key = "network" → val = .map net → w net = w' net) :
    confSection w key val = confSection w' key val := by
  unfold confSection
  split <;> try rfl
  split <;> try rfl
  split <;> try rfl
  split <;> try rfl
  split <;> try rfl
  split
  case isTrue hkey =>
    cases val with
    | map net => exact congrArg Except.ok (h net hkey rfl)
    | leaf s => rfl
    | list l => rfl
  case isFalse => rfl

theorem confSections_congr (h : ∀ net, ("network", .map net) ∈ l → w net = w' net) :
    confSections w l = confSections w' l := by
  induction l with
  | nil => rfl
  | cons e l ih =>
    obtain ⟨key, val⟩ := e
    have hhead : confSection w key val = confSection w' key val := confSection_congr fun net hkey hval =>
      h net (by rw [hkey, hval]; exact List.mem_cons_self)
    rw [confSections, confSections, hhead, ih fun net hnet => h net (List.mem_cons_of_mem _ hnet)]

theorem confSections_split (hnodup : (l.map (·.1)).Nodup) (hmem : ("network", .map net) ∈ l) {text : String}
    (h : confSections w l = .ok text) :
    ∃ before after, ∀ w' : Config → String, confSections w' l = .ok (before ++ w' net ++ after) := by
  induction l generalizing text with
  | nil => cases hmem
  | cons e l ih =>
    obtain ⟨key, val⟩ := e
    rw [List.map_cons, List.nodup_cons] at hnodup
    obtain ⟨s, rest, hs, hrest, -⟩ := confSections_cons_ok.1 h
    by_cases hkey : key = "network"
    · subst hkey
      have hnot : ∀ v, ("network", v) ∉ l := fun v hv => hnodup.1 (List.mem_map.2 ⟨_, hv, rfl⟩)
      rcases List.mem_cons.1 hmem with heq | hmem
      · cases heq
        refine ⟨"", rest, fun w' => confSections_cons_ok.2 ⟨w' net, rest, rfl, ?_, by simp⟩⟩
        rw [← hrest]
        exact confSections_congr fun net hnet => absurd hnet (hnot _)
      · exact absurd hmem (hnot _)
    · rcases List.mem_cons.1 hmem with heq | hmem
      · cases heq
        exact absurd rfl hkey
      · obtain ⟨before, after, hsplit⟩ := ih hnodup.2 hmem hrest
        refine ⟨s ++ before, after, fun w' =>
          confSections_cons_ok.2 ⟨s, _, ?_, hsplit w', by simp [String.append_assoc]⟩⟩
        rw [← hs]
        exact confSection_congr fun net heq => absurd heq hkey


/-- What the file with seeds is, given the plain one: the same without pods; with pods their seeds stand at the end of
the heartbeat stanza, if there is a heartbeat, and nothing else is changed. -/
structure ExtendsPlain (config : Config) (serviceName namespace_ : String) (port : Int) (plain : String) : Prop where
  noPods : generateConfForPod config serviceName namespace_ [] port = .ok plain
  seeds : ∀ v, (config.section "network").bind (·.lookup "heartbeat") = some v → ∀ podNames, ∃ before after,
    plain = before ++ heartbeatStanza (v.asMap.getD []) "" ++ after ∧
      generateConfForPod config serviceName namespace_ podNames port =
        .ok (before ++ heartbeatStanza (v.asMap.getD []) (seedLines serviceName namespace_ port podNames) ++ after)
  noHeartbeat : (config.section "network").bind (·.lookup "heartbeat") = none → ∀ podNames,
    generateConfForPod config serviceName namespace_ podNames port = .ok plain

section File

variable {config : ConfigMap} {plain : String}

theorem section_of_mem_sorted (hnet : ("network", .map net) ∈ config.entries.insertionSort (·.1 ≤ ·.1)) :
    config.entries.section "network" = some net :=
  Config.section_eq_some.2 (DocTree.lookup_of_mem config.distinct ((List.mem_insertionSort _).1 hnet))

/-- The file is cut at its network section, the only one that depends on the writer. -/
theorem generateConfigCore_split (hok : generateConfigCore config.entries w = .ok plain)
    (hsection : config.entries.section "network" = some net) :
    ∃ before after, ∀ w' : Config → String, generateConfigCore config.entries w' = .ok (before ++ w' net ++ after) := by
  have hperm := List.perm_insertionSort (·.1 ≤ ·.1) config.entries
  have hnodup := (hperm.map (·.1)).nodup_iff.2 (DocTree.nodup_keys config.distinct)
  exact confSections_split hnodup (hperm.mem_iff.2 (DocTree.mem_of_lookup (Config.section_eq_some.1 hsection))) hok

theorem extendsPlain_of_flat (hok : generateConfig config.entries = .ok plain)
    (hkey : ∀ net, config.entries.section "network" = some net → NoSeedKey net)
    (hflat : ∀ net, config.entries.section "network" = some net → FlatNetwork net) :
    ExtendsPlain config.entries serviceName namespace_ port plain where
  noPods := by
    rw [← hok]
    refine confSections_congr fun net hnet => ?_
    have hsection := section_of_mem_sorted hnet
    rw [generateNetworkSection_entries, generateStanza_network,
      List.map_congr_left fun e he => (hflat net hsection).podEntry_eq (hkey net hsection)
        ((List.mem_insertionSort _).1 he)]
  seeds v hv podNames := by
    obtain ⟨net, hsection, hv⟩ := Option.bind_eq_some_iff.1 hv
    have hkeys := DocTree.nodup_keys (DocTree.wellKeyed_of_lookup config.distinct (Config.section_eq_some.1 hsection))
    obtain ⟨front, back, hstanza, hpods⟩ := network_split hkeys (hflat net hsection) (hkey net hsection) hv
    obtain ⟨before, after, hfile⟩ := generateConfigCore_split hok hsection
    have hplain := Except.ok.inj (hok.symm.trans (hfile (generateStanza "network")))
    refine ⟨before ++ front, back ++ after, ?_, ?_⟩
    · rw [hplain, hstanza]
      simp only [String.append_assoc]
    · refine (hfile _).trans (congrArg Except.ok ?_)
      rw [hpods]
      simp only [String.append_assoc]
  noHeartbeat hnone podNames := by
    rw [← hok]
    refine confSections_congr fun net hnet => ?_
    have hsection := section_of_mem_sorted hnet
    rw [hsection, Option.bind_some] at hnone
    exact network_of_no_heartbeat (hflat net hsection) hnone

end File

/-- The two files differ by the seeds alone if the network is flat, and only then where its keys are words. -/
theorem per_pod_extends_plain (config : ConfigMap) (serviceName namespace_ : String) (port : Int) (plain : String)
    (hok : generateConfig config.entries = .ok plain)
    (hkey : ∀ net, config.entries.section "network" = some net → NoSeedKey net) :
    ((∀ net, config.entries.section "network" = some net → FlatNetwork net) →
      ExtendsPlain config.entries serviceName namespace_ port plain) ∧
    ((∀ net, config.entries.section "network" = some net → WordKeys net) →
      (ExtendsPlain config.entries serviceName namespace_ port plain ↔
        ∀ net, config.entries.section "network" = some net → FlatNetwork net)) := by
  have hforward : (∀ net, config.entries.section "network" = some net → FlatNetwork net) →
      ExtendsPlain config.entries serviceName namespace_ port plain := extendsPlain_of_flat hok hkey
  refine ⟨hforward, fun hwords => ⟨fun hextends net hsection => ?_, hforward⟩⟩
  obtain ⟨before, after, hfile⟩ := generateConfigCore_split hok hsection
  have heq := (hfile _).symm.trans (hextends.noPods.trans (hok.symm.trans (hfile _)))
  have hnetwork := (String.append_left_inj after).1 (Except.ok.inj heq)
  exact flatNetwork_of_eq (DocTree.wellKeyed_of_lookup config.distinct (Config.section_eq_some.1 hsection))
    (hkey net hsection) (hwords net hsection) ((String.append_right_inj before).1 hnetwork)

/-- A heartbeat with a mode, and one that is a list with an empty map: the plain writer writes that as a stanza too. -/
def seedlessConfig : ConfigMap := ⟨[("network", .map [("heartbeat", .map [("mode", .leaf (.str "mesh"))])])], rfl⟩
def listedConfig : ConfigMap := ⟨[("network", .map [("heartbeat", .list [.map []])])], rfl⟩

theorem per_pod_extends_plain_seedless :
    ExtendsPlain seedlessConfig.entries "db" "default" 3002 "network {
	heartbeat {
		mode mesh
	}
}
" ∧
    ExtendsPlain listedConfig.entries "db" "default" 3002 "network {
	heartbeat {
	}
}
" := by
  have hseedless : ∀ net, seedlessConfig.entries.section "network" = some net →
      net = [("heartbeat", .map [("mode", .leaf (.str "mesh"))])] := fun net h => (Option.some.inj h).symm
  have hlisted : ∀ net, listedConfig.entries.section "network" = some net → net = [("heartbeat", .list [.map []])] :=
    fun net h => (Option.some.inj h).symm
  have hword : Worded "heartbeat" ∧ Worded "mode" := by
    unfold Worded
    decide
  constructor
  · refine ((per_pod_extends_plain seedlessConfig "db" "default" 3002 _ (by decide +kernel) fun net h => ?_).2
      fun net h => ?_).2 fun net h => ?_
    · rw [hseedless net h]
      rintro hb hhb e he
      cases List.mem_singleton.1 hhb
      cases List.mem_singleton.1 he
      decide
    · rw [hseedless net h]
      refine ⟨fun e he => ?_, fun hb hhb e he => ?_, fun v hv => ?_⟩
      · cases List.mem_singleton.1 he
        exact hword.1
      · cases List.mem_singleton.1 hhb
        cases List.mem_singleton.1 he
        exact hword.2
      · cases List.mem_singleton.1 hv
        trivial
    · rw [hseedless net h]
      refine ⟨fun e he hne => ?_, fun v hv => ?_⟩
      · cases List.mem_singleton.1 he
        exact absurd rfl hne
      · cases List.mem_singleton.1 hv
        intro e he
        cases List.mem_singleton.1 he
        rfl
  · refine (per_pod_extends_plain listedConfig "db" "default" 3002 _ (by decide +kernel) fun net h => ?_).1
      fun net h => ?_
    · rw [hlisted net h]
      intro hb hhb
      cases List.mem_singleton.1 hhb
    · rw [hlisted net h]
      refine ⟨fun e he hne => ?_, fun v hv => ?_⟩
      · cases List.mem_singleton.1 he
        exact absurd rfl hne
      · cases List.mem_singleton.1 hv
        exact ⟨_, rfl, fun _ he => by cases he⟩

/-- Addresses in a list: the plain file has a line for each of them, the file of a pod the list in brackets. -/
def addressList : ConfigMap :=
  ⟨[("network", .map [("heartbeat", .map [("address", .list [.leaf (.str "eth0"), .leaf (.str "eth1")])])])], rfl⟩

theorem per_pod_differs_from_plain :
    generateConfig addressList.entries =
      .ok "network {
	heartbeat {
		address eth0
		address eth1
	}
}
" ∧
    generateConfForPod addressList.entries "db" "default" [] 3002 =
      .ok "network {
	heartbeat {
		address [eth0 eth1]
	}
}
" := by
  decide +kernel

end Acko
