/-
Reading aerospike.conf back. The lines and braces of the file are the stanza tree of the config exactly if
each label of the tree fits its line: the key is one word, nothing but blanks follows a newline of the value,
a head has no newline at all, and no line looks like a brace. A newline in a text otherwise ends the line, and
what follows is read as a line of its own.
-/
import AckoProofs.Admission.Config
import AckoProofs.Conf.Plain

namespace Acko

open Stanza (words wordsFrom lineWords IsWord isBlank Piece pieces piecesAll mem_piecesAll)

/-! ## Labels -/

/-- Nothing but blanks after the first newline. -/
def OneLine (s : List Char) : Prop := ∀ c ∈ s.dropWhile (· ≠ '\n'), isBlank c = true

instance (s : List Char) : Decidable (OneLine s) := List.decidableBAll _ _

/-- A line is read as its key and the words of its value. -/
structure ConfLabel.FitsLine (label : ConfLabel) : Prop where
  key : IsWord label.key
  value : OneLine (label.value.getD "").toList
  closing : label.words ≠ ["\x7d"]
  opening : label.words.getLast? ≠ some "\x7b"

/-- The head of a block, which is followed by a brace on its line. -/
structure ConfLabel.FitsHead (label : ConfLabel) : Prop where
  key : IsWord label.key
  value : '\n' ∉ (label.value.getD "").toList

instance (label : ConfLabel) : Decidable label.FitsLine :=
  decidable_of_iff (IsWord label.key ∧ OneLine (label.value.getD "").toList ∧ label.words ≠ ["\x7d"] ∧
      label.words.getLast? ≠ some "\x7b")
    ⟨fun ⟨hkey, hvalue, hclose, hopen⟩ => ⟨hkey, hvalue, hclose, hopen⟩,
      fun h => ⟨h.key, h.value, h.closing, h.opening⟩⟩

instance (label : ConfLabel) : Decidable label.FitsHead :=
  decidable_of_iff (IsWord label.key ∧ '\n' ∉ (label.value.getD "").toList)
    ⟨fun ⟨hkey, hvalue⟩ => ⟨hkey, hvalue⟩, fun h => ⟨h.key, h.value⟩⟩

def FitsPiece : Piece ConfLabel → Prop
  | .line label => label.FitsLine
  | .opening head => head.FitsHead
  | .closing => True

instance : DecidablePred FitsPiece
  | .line label => inferInstanceAs (Decidable label.FitsLine)
  | .opening head => inferInstanceAs (Decidable head.FitsHead)
  | .closing => inferInstanceAs (Decidable True)

/-- The labels of a tree fit their lines. -/
def FitsLines (t : ConfTree) : Prop := ∀ p ∈ piecesAll t, FitsPiece p

instance (t : ConfTree) : Decidable (FitsLines t) := inferInstanceAs (Decidable (∀ p ∈ piecesAll t, FitsPiece p))

variable {key : String} {label : ConfLabel} {v : Value} {m : Config} {seeds : List String}

theorem dropWhile_newline : ∀ s : List Char, '\n' ∉ s ∧ s.dropWhile (· ≠ '\n') = [] ∨
    ∃ a b, '\n' ∉ a ∧ s = a ++ '\n' :: b ∧ s.dropWhile (· ≠ '\n') = '\n' :: b
  | [] => .inl ⟨List.not_mem_nil, rfl⟩
  | c :: s => by
    by_cases hc : c = '\n'
    · exact .inr ⟨[], s, List.not_mem_nil, by rw [hc]; rfl, by simp [hc]⟩
    · have hstep : (c :: s).dropWhile (· ≠ '\n') = s.dropWhile (· ≠ '\n') :=
        List.dropWhile_cons_of_pos (by simpa using hc)
      rw [hstep]
      rcases dropWhile_newline s with ⟨hs, hdrop⟩ | ⟨a, b, ha, rfl, hdrop⟩
      · exact .inl ⟨by simp [Ne.symm hc, hs], hdrop⟩
      · exact .inr ⟨c :: a, b, by simp [Ne.symm hc, ha], rfl, hdrop⟩

theorem oneLine_of_notMem {s : List Char} (h : '\n' ∉ s) : OneLine s := by
  rcases dropWhile_newline s with ⟨-, hdrop⟩ | ⟨a, b, -, rfl, -⟩
  · intro c hc
    rw [hdrop] at hc
    cases hc
  · exact absurd (List.mem_append_right _ List.mem_cons_self) h

/-- With a brace at the end of the line there is no room for a newline. -/
theorem oneLine_brace {s : List Char} : OneLine (s ++ [' ', '\x7b']) ↔ '\n' ∉ s := by
  refine ⟨fun h hmem => ?_, fun h => oneLine_of_notMem (by simp [h])⟩
  rcases dropWhile_newline (s ++ [' ', '\x7b']) with ⟨hnot, -⟩ | ⟨a, b, ha, heq, hdrop⟩
  · exact hnot (List.mem_append_left _ hmem)
  · rw [OneLine, hdrop] at h
    have hlast : '\x7b' ∈ '\n' :: b := by
      have hsuffix := congrArg List.getLast? heq
      rw [List.getLast?_append_of_ne_nil _ (by simp), List.getLast?_append_of_ne_nil _ (by simp)] at hsuffix
      exact List.mem_of_getLast? hsuffix.symm
    exact absurd (h _ hlast) (by decide)

/-- A word and what follows it are read as one line exactly if they are one. -/
theorem lineWords_word (hkey : IsWord key) (s : List Char) :
    lineWords (key.toList ++ ' ' :: s) = [key :: wordsFrom [] s] ↔ OneLine s := by
  have hnewline : '\n' ∉ key.toList := fun h => absurd (hkey.2 _ h) (by decide)
  have hfirst : ∀ a : List Char, '\n' ∉ a → lineWords (key.toList ++ ' ' :: a) = [key :: wordsFrom [] a] := by
    intro a ha
    have hwords : wordsFrom [] (key.toList ++ ' ' :: a) = key :: wordsFrom [] a := by
      rw [Stanza.wordsFrom_append (by decide), Stanza.words_of_isWord hkey, List.singleton_append]
    rw [Stanza.lineWords_of_notMem (by simp [hnewline, ha]) (by simp [hwords]), hwords]
  rcases dropWhile_newline s with ⟨hs, -⟩ | ⟨a, b, ha, rfl, hdrop⟩
  · exact iff_of_true (hfirst s hs) (oneLine_of_notMem hs)
  · have hlines : lineWords (key.toList ++ ' ' :: (a ++ '\n' :: b)) = (key :: wordsFrom [] a) :: lineWords b := by
      rw [← List.cons_append, ← List.append_assoc, Stanza.lineWords_append, hfirst a ha, List.singleton_append]
    rw [hlines, OneLine, hdrop, List.forall_mem_cons]
    constructor
    · intro h
      exact ⟨rfl, Stanza.lineWords_eq_nil.1 (List.cons.inj h).2⟩
    · rintro ⟨-, hblank⟩
      rw [Stanza.lineWords_eq_nil.2 hblank, Stanza.wordsFrom_append (by decide), Stanza.wordsFrom_eq_nil.2 hblank,
        List.append_nil]

theorem isWord_key {s : List Char} {rest : List String} (h : lineWords s = [key :: rest]) : IsWord key :=
  Stanza.isWord_of_mem_lineWords (by rw [h]; exact List.mem_singleton_self _) key List.mem_cons_self

theorem lineWords_key (hkey : IsWord key) : lineWords key.toList = [[key]] := by
  have hnewline : '\n' ∉ key.toList := fun h => absurd (hkey.2 _ h) (by decide)
  rw [Stanza.lineWords_of_notMem hnewline (by simp [Stanza.words_of_isWord hkey]), Stanza.words_of_isWord hkey]

theorem lineWords_text_iff : lineWords label.text.toList = [label.words] ↔
    IsWord label.key ∧ OneLine (label.value.getD "").toList := by
  obtain ⟨key, value⟩ := label
  cases value with
  | none => exact ⟨fun h => ⟨isWord_key h, oneLine_of_notMem List.not_mem_nil⟩, fun h => lineWords_key h.1⟩
  | some value =>
    have htext : (ConfLabel.text ⟨key, some value⟩).toList = key.toList ++ ' ' :: value.toList := by
      simp [ConfLabel.text, headText]
    rw [htext]
    exact ⟨fun h => ⟨isWord_key h, (lineWords_word (isWord_key h) _).1 h⟩, fun h => (lineWords_word h.1 _).2 h.2⟩

theorem fits_line_iff : Piece.Fits ConfLabel.text ConfLabel.words (.line label) ↔ label.FitsLine := by
  have hfits : Piece.Fits ConfLabel.text ConfLabel.words (.line label) ↔ lineWords label.text.toList = [label.words] ∧
      label.words ≠ ["\x7d"] ∧ label.words.getLast? ≠ some "\x7b" := Iff.rfl
  rw [hfits, lineWords_text_iff]
  exact ⟨fun ⟨⟨hkey, hvalue⟩, hclose, hopen⟩ => ⟨hkey, hvalue, hclose, hopen⟩, fun h =>
    ⟨⟨h.key, h.value⟩, h.closing, h.opening⟩⟩

theorem fits_opening_iff : Piece.Fits ConfLabel.text ConfLabel.words (.opening label) ↔ label.FitsHead := by
  obtain ⟨key, value⟩ := label
  have hfits : Piece.Fits ConfLabel.text ConfLabel.words (.opening ⟨key, value⟩) ↔
      lineWords (ConfLabel.text ⟨key, value⟩ ++ " \x7b").toList = [key :: (words (value.getD "") ++ ["\x7b"])] :=
    and_iff_left trivial
  -- what follows the key on the line of the head, and its words
  obtain ⟨s, htext, hwords, hone⟩ : ∃ s, (ConfLabel.text ⟨key, value⟩ ++ " \x7b").toList = key.toList ++ ' ' :: s ∧
      wordsFrom [] s = words (value.getD "") ++ ["\x7b"] ∧ (OneLine s ↔ '\n' ∉ (value.getD "").toList) := by
    cases value with
    | none => exact ⟨['\x7b'], by simp [ConfLabel.text, headText], rfl, by decide⟩
    | some value =>
      refine ⟨value.toList ++ [' ', '\x7b'], by simp [ConfLabel.text, headText], ?_, oneLine_brace⟩
      exact Stanza.wordsFrom_append (by decide) _ _ _
  rw [hfits, htext, ← hwords]
  exact ⟨fun h => ⟨isWord_key h, hone.1 ((lineWords_word (isWord_key h) s).1 h)⟩,
    fun h => (lineWords_word h.key s).2 (hone.2 h.value)⟩

theorem fits_iff : ∀ p : Piece ConfLabel, p.Fits ConfLabel.text ConfLabel.words ↔ FitsPiece p
  | .line _ => fits_line_iff
  | .opening _ => fits_opening_iff
  | .closing => iff_of_true ⟨by decide, trivial⟩ trivial

theorem read_layout {t : ConfTree} :
    Stanza.read (layout 0 t) = some (Stanza.mapAll ConfLabel.words t) ↔ FitsLines t := by
  have hkey : ∀ label : ConfLabel, (∀ w ∈ label.words, IsWord w) → lineWords label.text.toList ≠ [] := by
    intro label hwords hnil
    -- the key has a character, and that is not a blank
    obtain ⟨hne, hblank⟩ := hwords label.key List.mem_cons_self
    obtain ⟨c, hc⟩ := List.exists_mem_of_ne_nil _ hne
    have hmem : c ∈ label.text.toList := by
      unfold ConfLabel.text headText
      split <;> simp [hc]
    have hc' := Stanza.lineWords_eq_nil.1 hnil c hmem
    rw [hblank c hc] at hc'
    cases hc'
  rw [layout, Stanza.read_text_iff hkey]
  exact forall₂_congr fun p _ => fits_iff p

/-! ## What a stanza is written for -/

/-- The stanza is written for the key and its value: a line, a block of stanzas for the fields of a map, or a stanza
for an item of a list. -/
inductive WrittenFor : String → Value → Stanza ConfLabel → Prop
  | line (label : ConfLabel) (v : Value) : WrittenFor label.key v (.line label)
  | block {label : ConfLabel} {m : Config} {body : ConfTree} {origin : ∀ s ∈ body, String × Value}
      (hmem : ∀ s hs, origin s hs ∈ m) (hbody : ∀ s hs, WrittenFor (origin s hs).1 (origin s hs).2 s) :
      WrittenFor label.key (.map m) (.block label body)
  | item {key : String} {v : Value} {l : List Value} {s : Stanza ConfLabel} (hv : v ∈ l) (hs : WrittenFor key v s) :
      WrittenFor key (.list l) s

/-- Every stanza of the tree is written for a field of the map. -/
def WrittenIn (m : Config) (t : ConfTree) : Prop := ∀ s ∈ t, ∃ e ∈ m, WrittenFor e.1 e.2 s

variable {s : Stanza ConfLabel} {entries : List (String × ConfTree)}

theorem WrittenIn.block (label : ConfLabel) {body : ConfTree} (h : WrittenIn m body) :
    WrittenFor label.key (.map m) (.block label body) := by
  choose origin hmem hs using h
  exact .block hmem hs

theorem writtenFor_keyStanza (key : String) (v : Value) : WrittenFor key v (keyStanza key v) :=
  .line ⟨key, some (formatValue v)⟩ v

theorem mem_treeInOrder : s ∈ treeInOrder entries ↔ ∃ e ∈ entries, s ∈ e.2 := by
  have hsorted : ∀ e, e ∈ entries.insertionSort (·.1 ≤ ·.1) ↔ e ∈ entries :=
    fun e => (List.perm_insertionSort _ entries).mem_iff
  rw [treeInOrder, List.mem_flatten]
  simp only [List.mem_map, hsorted, exists_exists_and_eq_and]

theorem writtenIn_treeInOrder (h : ∀ e ∈ entries, ∀ s ∈ e.2, ∃ v, (e.1, v) ∈ m ∧ WrittenFor e.1 v s) :
    WrittenIn m (treeInOrder entries) := by
  intro s hs
  obtain ⟨e, he, hs⟩ := mem_treeInOrder.1 hs
  obtain ⟨v, hmem, hv⟩ := h e he s hs
  exact ⟨(e.1, v), hmem, hv⟩

theorem writtenFor_storageEngine (h : ∀ e ∈ entries, ∀ s ∈ e.2, ∃ v, (e.1, v) ∈ m ∧ WrittenFor e.1 v s) :
    WrittenFor "storage-engine" (.map m) (storageEngineTree m entries) := by
  unfold storageEngineTree
  dsimp only
  split
  · exact .line ⟨"storage-engine", _⟩ _
  · exact WrittenIn.block ⟨"storage-engine", _⟩ (writtenIn_treeInOrder fun e he => h e (List.mem_of_mem_filter he))

mutual
theorem writtenFor_entryTree : ∀ (ns : Bool) (key : String) (v : Value), ∀ s ∈ entryTree ns key v, WrittenFor key v s
  | ns, key, .leaf a, s, hs => by
    rw [entryTree] at hs
    split at hs
    · cases hs
    · rw [List.mem_singleton.1 hs]
      exact writtenFor_keyStanza key _
  | ns, key, .map m, s, hs => by
    have hfields := writtenFor_fieldsTree ns m
    rw [entryTree] at hs
    split at hs
    · rename_i hkey
      rw [List.mem_singleton.1 hs, hkey.2]
      exact writtenFor_storageEngine hfields
    · rw [List.mem_singleton.1 hs]
      exact WrittenIn.block ⟨key, none⟩ (writtenIn_treeInOrder hfields)
  | ns, key, .list l, s, hs => by
    rw [entryTree] at hs
    split at hs
    · rw [List.mem_singleton.1 hs]
      exact writtenFor_keyStanza key _
    · obtain ⟨v, hv, hs⟩ := writtenFor_itemsTree ns key l s hs
      exact .item hv hs
theorem writtenFor_itemsTree : ∀ (ns : Bool) (key : String) (l : List Value), ∀ s ∈ itemsTree ns key l,
    ∃ v ∈ l, WrittenFor key v s
  | ns, key, [], s, hs => by
    rw [itemsTree] at hs
    cases hs
  | ns, key, v :: l, s, hs => by
    rw [itemsTree, List.mem_cons] at hs
    rcases hs with rfl | hs
    · exact ⟨v, List.mem_cons_self, writtenFor_itemTree ns key v⟩
    · obtain ⟨w, hw, hs⟩ := writtenFor_itemsTree ns key l s hs
      exact ⟨w, List.mem_cons_of_mem _ hw, hs⟩
theorem writtenFor_itemTree : ∀ (ns : Bool) (key : String) (v : Value), WrittenFor key v (itemTree ns key v)
  | ns, key, .leaf a => by
    rw [itemTree]
    exact writtenFor_keyStanza key _
  | ns, key, .map m => by
    rw [itemTree]
    exact WrittenIn.block ⟨key, none⟩ (writtenIn_treeInOrder (writtenFor_fieldsTree ns m))
  | ns, key, .list l => by
    rw [itemTree]
    exact writtenFor_keyStanza key _
theorem writtenFor_fieldsTree : ∀ (ns : Bool) (m : List (String × Value)), ∀ e ∈ fieldsTree ns m, ∀ s ∈ e.2,
    ∃ v, (e.1, v) ∈ m ∧ WrittenFor e.1 v s
  | ns, [], e, he => by
    rw [fieldsTree] at he
    cases he
  | ns, (k, v) :: m, e, he => by
    intro s hs
    rw [fieldsTree, List.mem_cons] at he
    rcases he with rfl | he
    · exact ⟨v, List.mem_cons_self, writtenFor_entryTree ns k v s hs⟩
    · obtain ⟨w, hmem, hs⟩ := writtenFor_fieldsTree ns m e he s hs
      exact ⟨w, List.mem_cons_of_mem _ hmem, hs⟩
end

theorem writtenFor_mapBlock (key : String) (m : Config) : WrittenFor key (.map m) (.block ⟨key, none⟩ (mapTree m)) :=
  WrittenIn.block ⟨key, none⟩ (writtenIn_treeInOrder (writtenFor_fieldsTree false m))

theorem writtenFor_namespaceTree (hs : s ∈ namespaceTree v) : WrittenFor "namespace" v s := by
  unfold namespaceTree at hs
  split at hs
  · cases hs
  · rename_i nsMap hmap
    rw [Value.asMap_eq_some.1 hmap]
    split at hs
    · cases hs
    · rename_i name hname
      rw [List.mem_singleton.1 hs]
      refine WrittenIn.block ⟨"namespace", some name⟩ (writtenIn_treeInOrder fun e he => ?_)
      exact writtenFor_fieldsTree true nsMap e (List.mem_of_mem_filter he)

def sinkKinds : List String := ["console", "syslog", "file"]

theorem sinkHead_mem (name : String) : (sinkHead name).1 ∈ sinkKinds := by
  unfold sinkHead
  split
  · exact List.mem_cons_self
  · split
    · exact List.mem_cons_of_mem _ List.mem_cons_self
    · exact List.mem_cons_of_mem _ (List.mem_cons_of_mem _ List.mem_cons_self)

theorem writtenFor_sinkTree (hs : s ∈ sinkTree v) : ∃ kind ∈ sinkKinds, WrittenFor kind v s := by
  unfold sinkTree at hs
  split at hs
  · cases hs
  · rename_i logMap hmap
    rw [Value.asMap_eq_some.1 hmap]
    split at hs
    · cases hs
    · rename_i name hname
      rw [List.mem_singleton.1 hs]
      refine ⟨(sinkHead name).1, sinkHead_mem name, WrittenIn.block ⟨(sinkHead name).1, (sinkHead name).2⟩
        (writtenIn_treeInOrder fun e he s hs => ?_)⟩
      obtain ⟨⟨k, w⟩, hmem, rfl⟩ := List.mem_map.1 (List.mem_of_mem_filter he)
      rw [List.mem_singleton.1 hs]
      exact ⟨w, hmem, writtenFor_keyStanza k w⟩

theorem writtenFor_networkEntryTree (key : String) (v : Value) : WrittenFor key v (networkEntryTree key v) := by
  cases v with
  | leaf a => exact writtenFor_keyStanza key _
  | list l => exact writtenFor_keyStanza key _
  | map m => exact writtenFor_mapBlock key m

/-- The stanzas of the heartbeat subsection: those of its entries, and the mesh seeds. -/
theorem heartbeatTree_eq (hbConfig : Config) (seeds : List String) : ∃ body,
    heartbeatTree hbConfig seeds = .block ⟨"heartbeat", none⟩ body ∧ ∀ s ∈ body,
      (∃ e ∈ hbConfig, WrittenFor e.1 e.2 s) ∨ ∃ seed ∈ seeds, s = .line ⟨"mesh-seed-address-port", some seed⟩ := by
  refine ⟨_, rfl, fun s hs => ?_⟩
  rcases List.mem_append.1 hs with hs | hs
  · obtain ⟨e, he, hs⟩ := mem_treeInOrder.1 hs
    obtain ⟨⟨k, w⟩, hmem, rfl⟩ := List.mem_map.1 he
    rw [List.mem_singleton.1 hs]
    exact Or.inl ⟨(k, w), List.mem_of_mem_filter hmem, writtenFor_networkEntryTree k w⟩
  · obtain ⟨seed, hseed, rfl⟩ := List.mem_map.1 hs
    exact Or.inr ⟨seed, hseed, rfl⟩

theorem networkTree_eq (seeds : List String) (net : Config) : ∃ body,
    networkTree seeds net = .block ⟨"network", none⟩ body ∧ ∀ s ∈ body,
      (∃ e ∈ net, WrittenFor e.1 e.2 s) ∨ ∃ w, ("heartbeat", w) ∈ net ∧ s = heartbeatTree (w.asMap.getD []) seeds := by
  refine ⟨_, rfl, fun s hs => ?_⟩
  obtain ⟨e, he, hs⟩ := mem_treeInOrder.1 hs
  obtain ⟨⟨k, w⟩, hmem, rfl⟩ := List.mem_map.1 he
  rw [List.mem_singleton.1 hs]
  split
  · rename_i hk
    rw [hk] at hmem
    exact Or.inr ⟨w, hmem, rfl⟩
  · exact Or.inl ⟨(k, w), hmem, writtenFor_networkEntryTree k w⟩

/-- What the stanzas of a section are written for: its value; an item of `namespaces`; the sinks of `logging`; or it
is the network section, which has the mesh seeds. -/
theorem sectionTree_cases (hs : s ∈ sectionTree seeds key v) :
    WrittenFor key v s ∨ (key = "namespaces" ∧ ∃ w ∈ v.asList.getD [], WrittenFor "namespace" w s) ∨
    (key = "logging" ∧ ∃ body, s = .block ⟨"logging", none⟩ body ∧ ∀ sink ∈ body, ∃ w ∈ v.asList.getD [],
      ∃ kind ∈ sinkKinds, WrittenFor kind w sink) ∨
    (key = "network" ∧ ∃ net, v = .map net ∧ s = networkTree seeds net) := by
  unfold sectionTree at hs
  split at hs
  · cases hs
  · split at hs
    · rename_i hkey
      obtain ⟨w, hw, hs⟩ := List.mem_flatMap.1 hs
      exact Or.inr (Or.inl ⟨hkey, w, hw, writtenFor_namespaceTree hs⟩)
    · split at hs
      · rename_i hkey
        refine Or.inr (Or.inr (Or.inl ⟨hkey, _, List.mem_singleton.1 hs, fun sink hsink => ?_⟩))
        obtain ⟨w, hw, hsink⟩ := List.mem_flatMap.1 hsink
        exact ⟨w, hw, writtenFor_sinkTree hsink⟩
      · split at hs
        · cases hs
        · split at hs
          · split at hs
            · rename_i hkey
              exact Or.inr (Or.inr (Or.inr ⟨hkey, _, rfl, List.mem_singleton.1 hs⟩))
            · rw [List.mem_singleton.1 hs]
              exact Or.inl (writtenFor_mapBlock key _)
          · rw [List.mem_singleton.1 hs]
            exact Or.inl (writtenFor_keyStanza key v)

/-! ## Mesh seeds -/

def seedPiece (seed : String) : Piece ConfLabel := .line ⟨"mesh-seed-address-port", some seed⟩

/-- A tree that has pieces of its own and, besides them, at most the mesh seeds. -/
def SeedsApart (tree : List String → ConfTree) : Prop := ∀ seeds p,
  (p ∈ piecesAll (tree []) → p ∈ piecesAll (tree seeds)) ∧
    (p ∈ piecesAll (tree seeds) → p ∈ piecesAll (tree []) ∨ ∃ seed ∈ seeds, p = seedPiece seed)

theorem seedsApart_const (t : ConfTree) : SeedsApart fun _ => t := fun _ _ => ⟨id, Or.inl⟩

theorem mem_pieces_block {head : ConfLabel} {body : ConfTree} {p : Piece ConfLabel} :
    p ∈ piecesAll [.block head body] ↔ (p = .opening head ∨ p = .closing) ∨ p ∈ piecesAll body := by
  rw [Stanza.piecesAll_singleton, pieces, List.mem_cons, List.mem_append, List.mem_singleton, or_assoc,
    or_comm (a := p = .closing)]

theorem SeedsApart.block {body : List String → ConfTree} (h : SeedsApart body) (head : ConfLabel) :
    SeedsApart fun seeds => [.block head (body seeds)] := by
  intro seeds p
  simp only [mem_pieces_block]
  refine ⟨Or.imp_right (h seeds p).1, fun hp => ?_⟩
  rcases hp with hp | hp
  · exact .inl (.inl hp)
  · exact ((h seeds p).2 hp).imp_left .inr

theorem seedsApart_treeInOrder (tree : List String → String → Value → ConfTree)
    (h : ∀ k v, SeedsApart fun seeds => tree seeds k v) (m : Config) :
    SeedsApart fun seeds => treeInOrder (m.map fun e => (e.1, tree seeds e.1 e.2)) := by
  have hmem : ∀ seeds p, p ∈ piecesAll (treeInOrder (m.map fun e => (e.1, tree seeds e.1 e.2))) ↔
      ∃ e ∈ m, p ∈ piecesAll (tree seeds e.1 e.2) := by
    intro seeds p
    simp only [mem_piecesAll, mem_treeInOrder, List.mem_map, exists_exists_and_eq_and]
    exact ⟨fun ⟨s, ⟨e, he, hs⟩, hp⟩ => ⟨e, he, s, hs, hp⟩, fun ⟨e, he, s, hs, hp⟩ => ⟨s, ⟨e, he, hs⟩, hp⟩⟩
  intro seeds p
  simp only [hmem]
  refine ⟨fun ⟨e, he, hp⟩ => ⟨e, he, (h e.1 e.2 seeds p).1 hp⟩, fun ⟨e, he, hp⟩ => ?_⟩
  exact ((h e.1 e.2 seeds p).2 hp).imp_left fun hp => ⟨e, he, hp⟩

theorem seedsApart_heartbeatTree (hbConfig : Config) : SeedsApart fun seeds => [heartbeatTree hbConfig seeds] := by
  refine SeedsApart.block (fun seeds p => ?_) _
  rw [List.map_nil, List.append_nil, Stanza.piecesAll_append, List.mem_append]
  refine ⟨Or.inl, Or.imp_right fun hp => ?_⟩
  obtain ⟨s, hs, hp⟩ := mem_piecesAll.1 hp
  obtain ⟨seed, hseed, rfl⟩ := List.mem_map.1 hs
  rw [pieces, List.mem_singleton] at hp
  exact ⟨seed, hseed, hp⟩

theorem seedsApart_networkTree (net : Config) : SeedsApart fun seeds => [networkTree seeds net] := by
  refine SeedsApart.block (seedsApart_treeInOrder (fun seeds k v =>
    [if k = "heartbeat" then heartbeatTree (v.asMap.getD []) seeds else networkEntryTree k v]) (fun k v => ?_) net) _
  by_cases hk : k = "heartbeat"
  · simp only [if_pos hk]
    exact seedsApart_heartbeatTree _
  · simp only [if_neg hk]
    exact seedsApart_const _

theorem seedsApart_sectionTree (key : String) (val : Value) : SeedsApart fun seeds => sectionTree seeds key val := by
  unfold sectionTree
  split
  · exact seedsApart_const _
  · split
    · exact seedsApart_const _
    · split
      · exact seedsApart_const _
      · split
        · exact seedsApart_const _
        · split
          · split
            · exact seedsApart_networkTree _
            · exact seedsApart_const _
          · exact seedsApart_const _

theorem seedsApart_confTree (config : Config) : SeedsApart (confTree config) :=
  seedsApart_treeInOrder _ seedsApart_sectionTree config

theorem fitsLine_seed {seed : String} (h : plainText seed = true) :
    ConfLabel.FitsLine ⟨"mesh-seed-address-port", some seed⟩ where
  key := show IsWord "mesh-seed-address-port" by decide
  value := oneLine_of_notMem fun hmem => absurd (List.all_eq_true.1 h _ hmem) (by decide)
  closing := fun hwords => absurd (List.cons.inj hwords).1 (show "mesh-seed-address-port" ≠ "\x7d" by decide)
  opening := by
    intro hlast
    rcases List.mem_cons.1 (List.mem_of_getLast? hlast) with hkey | hword
    · exact absurd hkey (show "\x7b" ≠ "mesh-seed-address-port" by decide)
    · rcases Stanza.mem_of_mem_wordsFrom (c := '\x7b') (by decide) hword with hc | hc
      · cases hc
      · exact absurd (List.all_eq_true.1 h _ hc) (by decide)

/-- Seeds that are plain fit, so what counts is the tree of the config itself. -/
theorem fitsLines_confTree {config : Config} (hseeds : ∀ seed ∈ seeds, plainText seed = true) :
    FitsLines (confTree config seeds) ↔ FitsLines (confTree config []) := by
  have hapart := seedsApart_confTree config seeds
  refine ⟨fun h p hp => h p ((hapart p).1 hp), fun h p hp => ?_⟩
  rcases (hapart p).2 hp with hp | ⟨seed, hseed, rfl⟩
  · exact h p hp
  · exact fitsLine_seed (hseeds seed hseed)

end Acko
