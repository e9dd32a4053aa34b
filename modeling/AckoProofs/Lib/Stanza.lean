/-
Text made of lines and of blocks in braces: a line is indented by tabs, a block opens with a line that ends
in `{` and closes with a line that is `}`. Reading takes the words of each line that has any. What was laid
out is read back as a tree of words exactly if every label fits its line: its text gives the words of that
one line and nothing more, and no line looks like a brace.
-/
import Mathlib.Data.List.Basic

/-- A line, or a block with its head. -/
inductive Stanza (α : Type) : Type
  | line (a : α)
  | block (head : α) (body : List (Stanza α))

namespace Stanza

/-! ## Words and lines -/

def isBlank (c : Char) : Bool := c = ' ' || c = '\t' || c = '\r' || c = '\n'

def flush (cur : List Char) : List String := if cur = [] then [] else [String.ofList cur.reverse]

def wordsFrom (cur : List Char) : List Char → List String
  | [] => flush cur
  | c :: l => if isBlank c then flush cur ++ wordsFrom [] l else wordsFrom (c :: cur) l

def words (s : String) : List String := wordsFrom [] s.toList

def linesFrom (cur : List Char) : List Char → List (List Char)
  | [] => [cur.reverse]
  | c :: l => if c = '\n' then cur.reverse :: linesFrom [] l else linesFrom (c :: cur) l

/-- The words of each line that has any. -/
def lineWords (s : List Char) : List (List String) := ((linesFrom [] s).map (wordsFrom [])).filter (· ≠ [])

/-- What reading can give as a word. -/
def IsWord (w : String) : Prop := w.toList ≠ [] ∧ ∀ c ∈ w.toList, isBlank c = false

instance (w : String) : Decidable (IsWord w) := @instDecidableAnd _ _ _ (List.decidableBAll _ _)

theorem wordsFrom_append {c : Char} (hc : isBlank c = true) (b : List Char) : ∀ (cur a : List Char),
    wordsFrom cur (a ++ c :: b) = wordsFrom cur a ++ wordsFrom [] b
  | cur, [] => by
    show wordsFrom cur (c :: b) = flush cur ++ wordsFrom [] b
    rw [wordsFrom, if_pos hc]
  | cur, d :: a => by
    rw [List.cons_append, wordsFrom, wordsFrom]
    split
    · rw [wordsFrom_append hc b, List.append_assoc]
    · rw [wordsFrom_append hc b]

theorem wordsFrom_of_notBlank : ∀ {l cur : List Char}, (∀ c ∈ l, isBlank c = false) → cur ++ l ≠ [] →
    wordsFrom cur l = [String.ofList (cur.reverse ++ l)]
  | [], cur, _, hne => by
    rw [List.append_nil] at hne ⊢
    rw [wordsFrom, flush, if_neg hne]
  | c :: l, cur, h, _ => by
    rw [wordsFrom, if_neg (by rw [h c List.mem_cons_self]; exact Bool.false_ne_true),
      wordsFrom_of_notBlank (fun d hd => h d (List.mem_cons_of_mem _ hd)) (by simp)]
    simp

variable {w : String}

theorem words_of_isWord (h : IsWord w) : wordsFrom [] w.toList = [w] := by
  rw [wordsFrom_of_notBlank h.2 h.1]
  simp

theorem isWord_of_mem_flush {cur : List Char} (hcur : ∀ c ∈ cur, isBlank c = false) (h : w ∈ flush cur) :
    IsWord w := by
  unfold flush at h
  split at h
  · cases h
  · rename_i hne
    rw [List.mem_singleton.1 h, IsWord, String.toList_ofList]
    exact ⟨by simpa using hne, fun c hc => hcur c (List.mem_reverse.1 hc)⟩

theorem isWord_of_mem_wordsFrom : ∀ {l cur : List Char}, (∀ c ∈ cur, isBlank c = false) →
    w ∈ wordsFrom cur l → IsWord w
  | [], cur, hcur, h => isWord_of_mem_flush hcur h
  | c :: l, cur, hcur, h => by
    rw [wordsFrom] at h
    split at h
    · rcases List.mem_append.1 h with h | h
      · exact isWord_of_mem_flush hcur h
      · exact isWord_of_mem_wordsFrom (fun _ hc => by cases hc) h
    · rename_i hc
      refine isWord_of_mem_wordsFrom (fun d hd => ?_) h
      rcases List.mem_cons.1 hd with rfl | hd
      · exact Bool.eq_false_iff.2 hc
      · exact hcur d hd

theorem mem_of_mem_wordsFrom {c : Char} (hc : c ∈ w.toList) : ∀ {l cur : List Char},
    w ∈ wordsFrom cur l → c ∈ cur ∨ c ∈ l
  | [], cur, h => by
    unfold wordsFrom flush at h
    split at h
    · cases h
    · rw [List.mem_singleton.1 h, String.toList_ofList] at hc
      exact Or.inl (List.mem_reverse.1 hc)
  | d :: l, cur, h => by
    unfold wordsFrom flush at h
    split at h
    · rcases List.mem_append.1 h with h | h
      · split at h
        · cases h
        · rw [List.mem_singleton.1 h, String.toList_ofList] at hc
          exact Or.inl (List.mem_reverse.1 hc)
      · rcases mem_of_mem_wordsFrom hc h with h | h
        · cases h
        · exact Or.inr (List.mem_cons_of_mem _ h)
    · rcases mem_of_mem_wordsFrom hc h with h | h
      · rcases List.mem_cons.1 h with h | h
        · rw [h]
          exact Or.inr List.mem_cons_self
        · exact Or.inl h
      · exact Or.inr (List.mem_cons_of_mem _ h)

/-- A word that has been begun is not lost. -/
theorem wordsFrom_ne_nil : ∀ {l cur : List Char}, cur ≠ [] → wordsFrom cur l ≠ []
  | [], cur, h => by
    rw [wordsFrom, flush, if_neg h]
    exact List.cons_ne_nil _ _
  | c :: l, cur, h => by
    rw [wordsFrom]
    split
    · rw [flush, if_neg h]
      exact List.cons_ne_nil _ _
    · exact wordsFrom_ne_nil (List.cons_ne_nil _ _)

theorem wordsFrom_eq_nil : ∀ {l : List Char}, wordsFrom [] l = [] ↔ ∀ c ∈ l, isBlank c = true
  | [] => ⟨(fun _ _ hc => by cases hc), fun _ => rfl⟩
  | c :: l => by
    rw [List.forall_mem_cons, wordsFrom]
    split
    · rename_i hc
      rw [show flush [] = [] from rfl, List.nil_append, wordsFrom_eq_nil]
      exact ⟨fun h => ⟨hc, h⟩, And.right⟩
    · rename_i hc
      exact ⟨fun h => absurd h (wordsFrom_ne_nil (List.cons_ne_nil _ _)), fun h => absurd h.1 hc⟩

theorem linesFrom_append (b : List Char) : ∀ (cur a : List Char),
    linesFrom cur (a ++ '\n' :: b) = linesFrom cur a ++ linesFrom [] b
  | cur, [] => by
    show linesFrom cur ('\n' :: b) = [cur.reverse] ++ linesFrom [] b
    rw [linesFrom, if_pos rfl]
    rfl
  | cur, c :: a => by
    rw [List.cons_append, linesFrom, linesFrom]
    split
    · rw [linesFrom_append b, List.cons_append]
    · rw [linesFrom_append b]

theorem linesFrom_of_notMem : ∀ {l cur : List Char}, '\n' ∉ l → linesFrom cur l = [cur.reverse ++ l]
  | [], cur, _ => by rw [linesFrom, List.append_nil]
  | c :: l, cur, h => by
    rw [List.mem_cons, not_or] at h
    rw [linesFrom, if_neg (Ne.symm h.1), linesFrom_of_notMem h.2]
    simp

/-- What has been read of the first line stands before the rest of it. -/
theorem linesFrom_begun : ∀ (s cur : List Char), ∃ l ls, ∀ pre, linesFrom (cur ++ pre) s = (pre.reverse ++ l) :: ls
  | [], cur => ⟨cur.reverse, [], fun pre => by rw [linesFrom, List.reverse_append]⟩
  | c :: s, cur => by
    by_cases hc : c = '\n'
    · refine ⟨cur.reverse, linesFrom [] s, fun pre => ?_⟩
      rw [linesFrom, if_pos hc, List.reverse_append]
    · obtain ⟨l, ls, h⟩ := linesFrom_begun s (c :: cur)
      refine ⟨l, ls, fun pre => ?_⟩
      rw [linesFrom, if_neg hc]
      exact h pre

theorem lineWords_append (a b : List Char) : lineWords (a ++ '\n' :: b) = lineWords a ++ lineWords b := by
  rw [lineWords, linesFrom_append, List.map_append, List.filter_append]
  rfl

variable {s : List Char}

theorem lineWords_of_notMem (h : '\n' ∉ s) (hne : wordsFrom [] s ≠ []) :
    lineWords s = [wordsFrom [] s] := by
  rw [lineWords, linesFrom_of_notMem h]
  simp [hne]

theorem lineWords_tab (s : List Char) : lineWords ('\t' :: s) = lineWords s := by
  obtain ⟨l, ls, h⟩ := linesFrom_begun s []
  have htab := h ['\t']
  have hnone := h []
  rw [List.append_nil] at hnone
  rw [lineWords, lineWords, linesFrom, if_neg (by decide), show ['\t'] = [] ++ ['\t'] from rfl, htab, hnone]
  rfl

/-- The lines have all characters but the newlines. -/
theorem forall_linesFrom {P : Char → Prop} : ∀ {s cur : List Char},
    (∀ l ∈ linesFrom cur s, ∀ c ∈ l, P c) ↔ (∀ c ∈ cur, P c) ∧ ∀ c ∈ s, c ≠ '\n' → P c
  | [], cur => by simp [linesFrom]
  | d :: s, cur => by
    rw [linesFrom, List.forall_mem_cons]
    split
    · rename_i hd
      rw [List.forall_mem_cons, forall_linesFrom]
      simp [hd]
    · rename_i hd
      rw [forall_linesFrom, List.forall_mem_cons]
      simp only [ne_eq, hd, not_false_eq_true, forall_true_left]
      tauto

theorem lineWords_eq_nil : lineWords s = [] ↔ ∀ c ∈ s, isBlank c = true := by
  have hlines : lineWords s = [] ↔ ∀ l ∈ linesFrom [] s, ∀ c ∈ l, isBlank c = true := by
    rw [lineWords, List.filter_eq_nil_iff, List.forall_mem_map]
    refine forall₂_congr fun l _ => ?_
    rw [decide_eq_true_iff, not_not, wordsFrom_eq_nil]
  rw [hlines, forall_linesFrom]
  refine ⟨fun h c hc => ?_, fun h => ⟨(fun _ hc => by cases hc), fun c hc _ => h c hc⟩⟩
  by_cases hnewline : c = '\n'
  · rw [hnewline]
    rfl
  · exact h.2 c hc hnewline

theorem isWord_of_mem_lineWords {ws : List String} (h : ws ∈ lineWords s) : ∀ w ∈ ws, IsWord w := by
  obtain ⟨l, -, rfl⟩ := List.mem_map.1 (List.mem_of_mem_filter h)
  exact fun w hw => isWord_of_mem_wordsFrom (fun _ hc => by cases hc) hw

/-! ## Laying out -/

def tabs (n : Nat) : String := String.ofList (List.replicate n '\t')

mutual
def lines (n : Nat) : Stanza String → List String
  | .line s => [tabs n ++ s]
  | .block head body => (tabs n ++ head ++ " \x7b") :: (linesAll (n + 1) body ++ [tabs n ++ "\x7d"])
def linesAll (n : Nat) : List (Stanza String) → List String
  | [] => []
  | s :: l => lines n s ++ linesAll n l
end

def text (n : Nat) (l : List (Stanza String)) : String := String.join ((linesAll n l).map (· ++ "\n"))

theorem text_nil (n : Nat) : text n [] = "" := by
  rw [text, linesAll]
  rfl

theorem text_cons (n : Nat) (s : Stanza String) (l : List (Stanza String)) :
    text n (s :: l) = text n [s] ++ text n l := by
  rw [text, text, text, linesAll, linesAll, linesAll, List.append_nil, List.map_append, String.join_append]

theorem text_append (n : Nat) : ∀ l m : List (Stanza String), text n (l ++ m) = text n l ++ text n m
  | [], m => by rw [text_nil, List.nil_append, String.empty_append]
  | s :: l, m => by rw [List.cons_append, text_cons, text_append n l m, text_cons n s l, String.append_assoc]

theorem text_line (n : Nat) (s : String) : text n [.line s] = tabs n ++ s ++ "\n" := by
  simp [text, linesAll, lines]

theorem text_block (n : Nat) (head : String) (body : List (Stanza String)) :
    text n [.block head body] = tabs n ++ head ++ " \x7b\n" ++ text (n + 1) body ++ tabs n ++ "\x7d\n" := by
  have hopen : (" \x7b\n" : String) = " \x7b" ++ "\n" := rfl
  have hclose : ("\x7d\n" : String) = "\x7d" ++ "\n" := rfl
  rw [hopen, hclose]
  simp [text, linesAll, lines, String.append_assoc]

/-! ## Pieces -/

section Pieces

variable {α β : Type}

/-- What a line of the text is for: a line, or a block that opens or closes. -/
inductive Piece (α : Type) : Type
  | line (a : α)
  | opening (head : α)
  | closing

def Piece.map (f : α → β) : Piece α → Piece β
  | .line a => .line (f a)
  | .opening head => .opening (f head)
  | .closing => .closing

def Piece.text : Piece String → String
  | .line s => s
  | .opening head => head ++ " \x7b"
  | .closing => "\x7d"

def Piece.words : Piece (List String) → List String
  | .line ws => ws
  | .opening head => head ++ ["\x7b"]
  | .closing => ["\x7d"]

/-- A line is not taken for a brace. -/
def Piece.Proper : Piece (List String) → Prop
  | .line ws => ws ≠ ["\x7d"] ∧ ws.getLast? ≠ some "\x7b"
  | _ => True

mutual
def pieces : Stanza α → List (Piece α)
  | .line a => [.line a]
  | .block head body => .opening head :: (piecesAll body ++ [.closing])
def piecesAll : List (Stanza α) → List (Piece α)
  | [] => []
  | s :: l => pieces s ++ piecesAll l
end

mutual
def map (f : α → β) : Stanza α → Stanza β
  | .line a => .line (f a)
  | .block head body => .block (f head) (mapAll f body)
def mapAll (f : α → β) : List (Stanza α) → List (Stanza β)
  | [] => []
  | s :: l => map f s :: mapAll f l
end

/-- What stands in the block. -/
def body : Stanza α → List (Stanza α)
  | .line _ => []
  | .block _ body => body

/-- The heads of the blocks, at any depth. -/
def heads (l : List (Stanza α)) : List α :=
  (piecesAll l).filterMap fun
    | .opening head => some head
    | _ => none

theorem mapAll_append (f : α → β) : ∀ l m : List (Stanza α), mapAll f (l ++ m) = mapAll f l ++ mapAll f m
  | [], m => by
    rw [mapAll]
    rfl
  | s :: l, m => by rw [List.cons_append, mapAll, mapAll, mapAll_append f l m, List.cons_append]

theorem piecesAll_append : ∀ l m : List (Stanza α), piecesAll (l ++ m) = piecesAll l ++ piecesAll m
  | [], m => by
    rw [piecesAll]
    rfl
  | s :: l, m => by rw [List.cons_append, piecesAll, piecesAll, piecesAll_append l m, List.append_assoc]

theorem piecesAll_singleton (s : Stanza α) : piecesAll [s] = pieces s := by
  rw [piecesAll, piecesAll, List.append_nil]

theorem mem_piecesAll {p : Piece α} : ∀ {l : List (Stanza α)}, p ∈ piecesAll l ↔ ∃ s ∈ l, p ∈ pieces s
  | [] => by simp [piecesAll]
  | s :: l => by rw [piecesAll, List.mem_append, mem_piecesAll, List.exists_mem_cons_iff]

theorem mem_heads {head : α} {l : List (Stanza α)} : head ∈ heads l ↔ .opening head ∈ piecesAll l := by
  rw [heads, List.mem_filterMap]
  constructor
  · rintro ⟨p, hp, heq⟩
    cases p with
    | opening h => exact Option.some.inj heq ▸ hp
    | line a => cases heq
    | closing => cases heq
  · exact fun h => ⟨_, h, rfl⟩

mutual
theorem pieces_map (f : α → β) : ∀ s : Stanza α, pieces (map f s) = (pieces s).map (Piece.map f)
  | .line a => by
    rw [map, pieces, pieces]
    rfl
  | .block head body => by
    rw [map, pieces, pieces, piecesAll_mapAll f body, List.map_cons, List.map_append]
    rfl
theorem piecesAll_mapAll (f : α → β) : ∀ l : List (Stanza α), piecesAll (mapAll f l) = (piecesAll l).map (Piece.map f)
  | [] => by
    rw [mapAll, piecesAll, piecesAll]
    rfl
  | s :: l => by rw [mapAll, piecesAll, piecesAll, pieces_map f s, piecesAll_mapAll f l, List.map_append]
end

theorem mem_heads_mapAll {f : α → β} {head : β} {l : List (Stanza α)} :
    head ∈ heads (mapAll f l) ↔ ∃ a ∈ heads l, f a = head := by
  simp only [mem_heads, piecesAll_mapAll, List.mem_map]
  constructor
  · rintro ⟨p, hp, heq⟩
    cases p with
    | opening a => exact ⟨a, hp, Piece.opening.inj heq⟩
    | line a => cases heq
    | closing => cases heq
  · rintro ⟨a, ha, rfl⟩
    exact ⟨_, ha, rfl⟩

end Pieces

theorem lineWords_tabs (n : Nat) (s : String) : lineWords (tabs n ++ s).toList = lineWords s.toList := by
  rw [tabs, String.toList_append, String.toList_ofList]
  induction n with
  | zero => rfl
  | succ n ih => rw [List.replicate_succ, List.cons_append, lineWords_tab, ih]

theorem lineWords_join : ∀ ls : List String,
    lineWords (String.join (ls.map (· ++ "\n"))).toList = ls.flatMap fun l => lineWords l.toList
  | [] => rfl
  | l :: ls => by
    have hjoin : (String.join ((l :: ls).map (· ++ "\n"))).toList =
        l.toList ++ '\n' :: (String.join (ls.map (· ++ "\n"))).toList := by
      rw [List.map_cons, String.join_cons, String.toList_append, String.toList_append, List.append_assoc]
      rfl
    rw [hjoin, lineWords_append, lineWords_join ls, List.flatMap_cons]

mutual
theorem flatMap_lines : ∀ (n : Nat) (s : Stanza String), (lines n s).flatMap (fun l => lineWords l.toList) =
    (pieces s).flatMap fun p => lineWords p.text.toList
  | n, .line s => by
    rw [lines, pieces, List.flatMap_singleton, List.flatMap_singleton, lineWords_tabs]
    rfl
  | n, .block head body => by
    rw [lines, pieces, List.flatMap_cons, List.flatMap_cons, List.flatMap_append, List.flatMap_append,
      flatMap_linesAll (n + 1) body, List.flatMap_singleton, List.flatMap_singleton, String.append_assoc,
        lineWords_tabs,
      lineWords_tabs]
    rfl
theorem flatMap_linesAll :
    ∀ (n : Nat) (l : List (Stanza String)), (linesAll n l).flatMap (fun l => lineWords l.toList) =
    (piecesAll l).flatMap fun p => lineWords p.text.toList
  | n, [] => by
    rw [linesAll, piecesAll]
    rfl
  | n, s :: l => by
    rw [linesAll, piecesAll, List.flatMap_append, List.flatMap_append, flatMap_lines n s, flatMap_linesAll n l]
end

/-- The lines of a text are those of its pieces. -/
theorem lineWords_text (n : Nat) (l : List (Stanza String)) :
    lineWords (text n l).toList = (piecesAll l).flatMap fun p => lineWords p.text.toList := by
  rw [text, lineWords_join, flatMap_linesAll]

/-! ## Reading -/

/-- What has been read: the blocks that are open, each with what was before it, and the items of the
innermost one. -/
structure Reader where
  frames : List (List String × List (Stanza (List String)))
  items : List (Stanza (List String))

/-- Reads the words of one line; a `}` without an open block is an error. -/
def Reader.line (r : Reader) (ws : List String) : Option Reader :=
  if ws = ["\x7d"] then
    match r.frames with
    | [] => none
    | (head, before) :: frames => some ⟨frames, before ++ [.block head r.items]⟩
  else if ws.getLast? = some "\x7b" then some ⟨(ws.dropLast, r.items) :: r.frames, []⟩
  else some ⟨r.frames, r.items ++ [.line ws]⟩

def readWords (r : Reader) : List (List String) → Option Reader
  | [] => some r
  | ws :: l => (r.line ws).bind fun r => readWords r l

/-- The stanzas of a text, by their words; none where the braces do not match. -/
def read (s : String) : Option (List (Stanza (List String))) :=
  match readWords ⟨[], []⟩ (lineWords s.toList) with
  | some ⟨[], items⟩ => some items
  | _ => none

/-- The pieces that a reader has seen. -/
def Reader.seen (r : Reader) : List (Piece (List String)) :=
  (r.frames.reverse.flatMap fun frame => piecesAll frame.2 ++ [.opening frame.1]) ++ piecesAll r.items

theorem Reader.seen_line {r r' : Reader} {ws : List String} (h : r.line ws = some r') :
    ∃ p : Piece (List String), r'.seen = r.seen ++ [p] ∧ p.words = ws ∧ p.Proper := by
  unfold Reader.line at h
  split at h
  · rename_i hclose
    split at h
    · cases h
    · rename_i head before frames hframes
      cases h
      refine ⟨.closing, ?_, hclose.symm, trivial⟩
      simp [seen, hframes, piecesAll_append, piecesAll_singleton, pieces]
  · rename_i hclose
    split at h
    · rename_i hopen
      cases h
      refine ⟨.opening ws.dropLast, ?_, ?_, trivial⟩
      · simp [seen, piecesAll]
      · exact List.dropLast_append_getLast? _ hopen
    · rename_i hopen
      cases h
      exact ⟨.line ws, by simp [seen, piecesAll_append, piecesAll_singleton, pieces], rfl, hclose, hopen⟩

theorem seen_readWords : ∀ {l : List (List String)} {r r' : Reader}, readWords r l = some r' →
    ∃ ps : List (Piece (List String)), r'.seen = r.seen ++ ps ∧ ps.map Piece.words = l ∧ ∀ p ∈ ps, p.Proper
  | [], r, r', h => by
    cases h
    exact ⟨[], (List.append_nil _).symm, rfl, fun _ hp => by cases hp⟩
  | ws :: l, r, r', h => by
    obtain ⟨mid, hline, hrest⟩ := Option.bind_eq_some_iff.1 h
    obtain ⟨p, hp, hwords, hproper⟩ := Reader.seen_line hline
    obtain ⟨ps, hps, hmap, hall⟩ := seen_readWords hrest
    refine ⟨p :: ps, by rw [hps, hp, List.append_assoc, List.singleton_append], ?_,
      List.forall_mem_cons.2 ⟨hproper, hall⟩⟩
    rw [List.map_cons, hwords, hmap]

theorem readWords_append : ∀ (l m : List (List String)) (r : Reader),
    readWords r (l ++ m) = (readWords r l).bind fun r => readWords r m
  | [], _, _ => rfl
  | ws :: l, m, r => by
    rw [List.cons_append, readWords, readWords, Option.bind_assoc]
    exact Option.bind_congr fun r _ => readWords_append l m r

mutual
/-- Reading the pieces of a stanza appends it to the items of the open block. -/
theorem readWords_pieces : ∀ (s : Stanza (List String)) (r : Reader), (∀ p ∈ pieces s, p.Proper) →
    readWords r ((pieces s).map Piece.words) = some ⟨r.frames, r.items ++ [s]⟩
  | .line ws, r, h => by
    rw [pieces, List.forall_mem_singleton] at h
    rw [pieces, List.map_singleton, readWords, Piece.words, Reader.line, if_neg h.1, if_neg h.2]
    rfl
  | .block head body, r, h => by
    rw [pieces, List.forall_mem_cons, List.forall_mem_append] at h
    have hopen : r.line (head ++ ["\x7b"]) = some ⟨(head, r.items) :: r.frames, []⟩ := by
      have hne : head ++ ["\x7b"] ≠ ["\x7d"] := by
        intro heq
        have hlast := congrArg List.getLast? heq
        rw [List.getLast?_concat] at hlast
        exact absurd hlast (by decide)
      rw [Reader.line, if_neg hne, if_pos (by simp), List.dropLast_concat]
    rw [pieces, List.map_cons, readWords, Piece.words, hopen, Option.bind_some, List.map_append, readWords_append,
      readWords_piecesAll body _ h.2.1, Option.bind_some]
    rfl
theorem readWords_piecesAll : ∀ (l : List (Stanza (List String))) (r : Reader), (∀ p ∈ piecesAll l, p.Proper) →
    readWords r ((piecesAll l).map Piece.words) = some ⟨r.frames, r.items ++ l⟩
  | [], r, _ => by
    rw [piecesAll, List.append_nil]
    rfl
  | s :: l, r, h => by
    rw [piecesAll, List.forall_mem_append] at h
    rw [piecesAll, List.map_append, readWords_append, readWords_pieces s r h.1, Option.bind_some,
      readWords_piecesAll l _ h.2, List.append_assoc, List.singleton_append]
end

/-- The pieces of a tree determine it, so a text is read as a tree exactly if its lines are those of the tree. -/
theorem read_eq_some {s : String} {t : List (Stanza (List String))} :
    read s = some t ↔ lineWords s.toList = (piecesAll t).map Piece.words ∧ ∀ p ∈ piecesAll t, p.Proper := by
  constructor
  · intro h
    unfold read at h
    split at h
    · rename_i items hread
      cases h
      obtain ⟨ps, hseen, hmap, hproper⟩ := seen_readWords hread
      have hparts : piecesAll t = ps := hseen
      rw [hparts]
      exact ⟨hmap.symm, hproper⟩
    · cases h
  · rintro ⟨hlines, hproper⟩
    rw [read, hlines, readWords_piecesAll t _ hproper]
    rfl

/-! ## Reading back -/

section ReadBack

variable {α : Type} {f : α → String} {g : α → List String}

/-- The text of the part gives the words of one line, and no others. -/
def Piece.Fits (f : α → String) (g : α → List String) (p : Piece α) : Prop :=
  lineWords (p.map f).text.toList = [(p.map g).words] ∧ (p.map g).Proper

theorem length_le_flatMap {β γ : Type} {b : β → List γ} : ∀ {l : List β}, (∀ x ∈ l, b x ≠ []) →
    l.length ≤ (l.flatMap b).length
  | [], _ => Nat.le_refl _
  | x :: l, h => by
    rw [List.forall_mem_cons] at h
    have hx := List.length_pos_iff.2 h.1
    have hl := length_le_flatMap h.2
    rw [List.flatMap_cons, List.length_append, List.length_cons]
    omega

/-- Pieces that are not empty and together give one element each are those elements. -/
theorem eq_of_flatMap_eq {β γ : Type} {a : β → γ} {b : β → List γ} : ∀ {l : List β}, (∀ x ∈ l, b x ≠ []) →
    l.flatMap b = l.map a → ∀ x ∈ l, b x = [a x]
  | [], _, _, x, hx => by cases hx
  | y :: l, hne, h, x, hx => by
    rw [List.forall_mem_cons] at hne
    rw [List.flatMap_cons, List.map_cons] at h
    -- the rest is as long as its elements are many, so the first piece has one element
    have hone : (b y).length = [a y].length := by
      have hy := List.length_pos_iff.2 hne.1
      have hrest := length_le_flatMap hne.2
      have hlength := congrArg List.length h
      rw [List.length_append, List.length_cons, List.length_map] at hlength
      rw [List.length_singleton]
      omega
    obtain ⟨hhead, hrest⟩ := List.append_inj h hone
    rcases List.mem_cons.1 hx with rfl | hx
    · exact hhead
    · exact eq_of_flatMap_eq hne.2 hrest x hx

/-- What is laid out is read back exactly if every part fits. -/
theorem read_text_iff (hfg : ∀ a, (∀ w ∈ g a, IsWord w) → lineWords (f a).toList ≠ []) {t : List (Stanza α)} :
    read (text 0 (mapAll f t)) = some (mapAll g t) ↔ ∀ p ∈ piecesAll t, p.Fits f g := by
  rw [read_eq_some, lineWords_text, piecesAll_mapAll, piecesAll_mapAll, List.flatMap_map, List.map_map,
    List.forall_mem_map]
  constructor
  · rintro ⟨hlines, hproper⟩
    -- every word of the tree has been read, so no key is blank and every part has a line
    have hwords : ∀ p ∈ piecesAll t, ∀ w ∈ (p.map g).words, IsWord w := by
      intro p hp
      have hmem : (p.map g).words ∈ lineWords (text 0 (mapAll f t)).toList := by
        rw [lineWords_text, piecesAll_mapAll, List.flatMap_map, hlines]
        exact List.mem_map_of_mem (f := fun p => (p.map g).words) hp
      exact isWord_of_mem_lineWords hmem
    have hne : ∀ p ∈ piecesAll t, lineWords (p.map f).text.toList ≠ [] := by
      intro p hp
      cases p with
      | line a => exact hfg a (hwords _ hp)
      | opening head =>
        refine fun hnil => absurd (lineWords_eq_nil.1 hnil '\x7b' ?_) (by decide)
        show '\x7b' ∈ (f head ++ " \x7b").toList
        rw [String.toList_append]
        exact List.mem_append_right _ (by decide)
      | closing =>
        show lineWords ("\x7d" : String).toList ≠ []
        decide
    exact fun p hp => ⟨eq_of_flatMap_eq hne hlines p hp, hproper p hp⟩
  · intro h
    refine ⟨?_, fun p hp => (h p hp).2⟩
    rw [List.flatMap_congr fun p hp => (h p hp).1, List.map_eq_flatMap]
    rfl

end ReadBack

/-! ## Paths -/

section Paths

variable {α : Type}

def label : Stanza α → α
  | .line a => a
  | .block head _ => head

mutual
/-- The labels on the way to each line and block. -/
def paths : Stanza α → List (List α)
  | .line a => [[a]]
  | .block head body => [head] :: (pathsAll body).map (head :: ·)
def pathsAll : List (Stanza α) → List (List α)
  | [] => []
  | s :: l => paths s ++ pathsAll l
end

theorem mem_pathsAll {p : List α} : ∀ {l : List (Stanza α)}, p ∈ pathsAll l ↔ ∃ s ∈ l, p ∈ paths s
  | [] => by simp [pathsAll]
  | s :: l => by rw [pathsAll, List.mem_append, mem_pathsAll, List.exists_mem_cons_iff]

end Paths

/-! ## Looking up -/

/-- What stands in the blocks with this head. -/
def under [DecidableEq α] (head : α) (l : List (Stanza α)) : List (Stanza α) :=
  l.flatMap fun
    | .block h body => if h = head then body else []
    | .line _ => []

/-- What stands after the key on the lines that begin with it. -/
def valuesOf (key : String) (l : List (Stanza (List String))) : List (List String) :=
  l.flatMap fun
    | .line (k :: rest) => if k = key then [rest] else []
    | _ => []

theorem mapAll_eq_map (f : α → β) : ∀ l : List (Stanza α), mapAll f l = l.map (map f)
  | [] => by rw [mapAll, List.map_nil]
  | s :: l => by rw [mapAll, mapAll_eq_map f l, List.map_cons]

theorem under_mapAll [DecidableEq β] (head : β) (f : α → β) (l : List (Stanza α)) :
    under head (mapAll f l) = l.flatMap fun s => under head [s.map f] := by
  rw [mapAll_eq_map, under, List.flatMap_map]
  refine List.flatMap_congr fun s _ => ?_
  simp [under]

theorem valuesOf_mapAll (key : String) (f : α → List String) (l : List (Stanza α)) :
    valuesOf key (mapAll f l) = l.flatMap fun s => valuesOf key [s.map f] := by
  rw [mapAll_eq_map, valuesOf, List.flatMap_map]
  refine List.flatMap_congr fun s _ => ?_
  simp [valuesOf]

end Stanza
