/-
Cutting a list: in two at the first occurrence of an element, at the last occurrence of a pattern and
before its longest tail of elements with a property, and into the fields between separators.
-/
import Mathlib.Data.List.DropRight
import Mathlib.Data.List.Infix

namespace Cut

variable {α : Type}

/-! ## The first occurrence of an element -/

/-- What stands before the first occurrence, and what after it, where there is one. -/
def cut [DecidableEq α] (x : α) (l : List α) : List α × Option (List α) :=
  (l.takeWhile (· ≠ x), match l.dropWhile (· ≠ x) with
    | [] => none
    | _ :: rest => some rest)

theorem cut_append [DecidableEq α] {x : α} {a b : List α} (ha : x ∉ a) : cut x (a ++ x :: b) = (a, some b) := by
  have hne : ∀ y ∈ a, decide (y ≠ x) = true := fun y hy => decide_eq_true fun heq => ha (heq ▸ hy)
  rw [cut, List.takeWhile_append_of_pos hne, List.dropWhile_append_of_pos hne]
  simp

def splitN [DecidableEq α] (x : α) : Nat → List α → List (List α)
  | 0, _ => []
  | 1, l => [l]
  | n + 2, l =>
    match cut x l with
    | (part, none) => [part]
    | (part, some rest) => part :: splitN x (n + 1) rest

theorem head?_splitN [DecidableEq α] (x : α) (n : Nat) (l : List α) :
    (splitN x (n + 2) l).head? = some (cut x l).1 := by
  unfold splitN
  split
  case h_1 part h => rw [h]; rfl
  case h_2 part rest h => rw [h]; rfl

theorem append_cons_inj {x : α} : ∀ {a c b d : List α}, x ∉ a → x ∉ c → a ++ x :: b = c ++ x :: d → a = c ∧ b = d
  | [], [], b, d, _, _, h => by
    rw [List.nil_append, List.nil_append, List.cons.injEq] at h
    exact ⟨rfl, h.2⟩
  | [], y :: c, b, d, _, hc, h => by
    rw [List.nil_append, List.cons_append, List.cons.injEq] at h
    exact absurd (h.1 ▸ List.mem_cons_self) hc
  | y :: a, [], b, d, ha, _, h => by
    rw [List.nil_append, List.cons_append, List.cons.injEq] at h
    exact absurd (h.1 ▸ List.mem_cons_self) ha
  | y :: a, z :: c, b, d, ha, hc, h => by
    rw [List.cons_append, List.cons_append, List.cons.injEq] at h
    obtain ⟨rfl, htail⟩ := append_cons_inj (fun hx => ha (List.mem_cons_of_mem _ hx))
      (fun hx => hc (List.mem_cons_of_mem _ hx)) h.2
    exact ⟨by rw [h.1], htail⟩

theorem append_cons_inj_last {x : α} {a c b d : List α} (hb : x ∉ b) (hd : x ∉ d) (h : a ++ x :: b = c ++ x :: d) :
    a = c ∧ b = d := by
  have hrev := congrArg List.reverse h
  simp only [List.reverse_append, List.reverse_cons, List.append_assoc, List.singleton_append] at hrev
  obtain ⟨hback, hfront⟩ := append_cons_inj (mt List.mem_reverse.1 hb) (mt List.mem_reverse.1 hd) hrev
  exact ⟨List.reverse_inj.1 hfront, List.reverse_inj.1 hback⟩

/-! ## The last occurrence of a pattern -/

/-- What stands before and after the last occurrence. -/
def cutLast [BEq α] (pattern : List α) : List α → Option (List α × List α)
  | [] => none
  | c :: l =>
    match cutLast pattern l with
    | some (before, after) => some (c :: before, after)
    | none => if pattern.isPrefixOf (c :: l) then some ([], (c :: l).drop pattern.length) else none

section LastOccurrence

variable [BEq α] [LawfulBEq α]

theorem eq_append_of_cutLast {pattern before after : List α} :
    ∀ {l : List α}, cutLast pattern l = some (before, after) → l = before ++ pattern ++ after
  | [], h => nomatch h
  | c :: l, h => by
    unfold cutLast at h
    split at h
    case h_1 before' after' hl =>
      cases h
      rw [eq_append_of_cutLast hl]
      simp
    case h_2 =>
      split at h
      case isTrue hpre =>
        cases h
        obtain ⟨rest, hrest⟩ := List.isPrefixOf_iff_prefix.1 hpre
        rw [← hrest]
        simp
      case isFalse => cases h

theorem cutLast_append {front after : List α} {x : α} (hx : x ∉ after) :
    ∀ before : List α, cutLast (front ++ [x]) (before ++ (front ++ [x]) ++ after) = some (before, after)
  | [] => by
    obtain ⟨c, l, hl⟩ : ∃ c l, front ++ [x] = c :: l := by
      cases front with
      | nil => exact ⟨x, [], rfl⟩
      | cons c l => exact ⟨c, l ++ [x], rfl⟩
    have hwhole : front ++ [x] ++ after = c :: (l ++ after) := by rw [hl]; rfl
    rw [List.nil_append, hwhole]
    -- an occurrence further right would put `x` into `after`
    have hnone : cutLast (front ++ [x]) (l ++ after) = none := by
      cases hcut : cutLast (front ++ [x]) (l ++ after) with
      | none => rfl
      | some parts =>
        obtain ⟨b, a⟩ := parts
        have hother : front ++ [x] ++ after = c :: b ++ front ++ x :: a := by
          rw [hwhole, eq_append_of_cutLast hcut]
          simp
        have hlen : (front ++ [x]).length ≤ (c :: b ++ front).length := by
          simp only [List.length_append, List.length_cons, List.length_nil]
          omega
        have hafter := congrArg (List.drop (front ++ [x]).length) hother
        rw [List.drop_left, List.drop_append_of_le_length hlen] at hafter
        exact absurd (hafter ▸ List.mem_append_right _ (List.mem_cons_self ..)) hx
    rw [cutLast, hnone]
    simp only
    rw [if_pos (List.isPrefixOf_iff_prefix.2 ⟨after, hwhole⟩), ← hwhole, List.drop_left]
  | c :: before => by
    have ih : cutLast (front ++ [x]) (before ++ (front ++ [x]) ++ after) = some (before, after) :=
      cutLast_append hx before
    rw [List.cons_append, List.cons_append, cutLast, ih]

end LastOccurrence

/-! ## The longest tail with a property -/

variable {p : α → Bool}

theorem rdropWhile_append {front tail : List α} {x : α} (hx : p x = false) (htail : ∀ c ∈ tail, p c = true) :
    (front ++ [x] ++ tail).rdropWhile p = front ++ [x] := by
  have hrev : ∀ c ∈ tail.reverse, p c = true := fun c hc => htail c (List.mem_reverse.1 hc)
  rw [List.rdropWhile, List.reverse_append, List.dropWhile_append_of_pos hrev, List.reverse_append,
    List.reverse_singleton, List.singleton_append, List.dropWhile_cons_of_neg (by simp [hx])]
  simp

theorem rtakeWhile_append {front tail : List α} {x : α} (hx : p x = false) (htail : ∀ c ∈ tail, p c = true) :
    (front ++ [x] ++ tail).rtakeWhile p = tail := by
  have h := List.rdropWhile_append_rtakeWhile (p := p) (l := front ++ [x] ++ tail)
  rw [rdropWhile_append hx htail] at h
  exact List.append_cancel_left h

/-! ## The fields between separators -/

theorem mem_intercalate {c : α} {sep : List α} : ∀ {xs : List (List α)}, c ∈ sep.intercalate xs →
    c ∈ sep ∨ ∃ x ∈ xs, c ∈ x
  | [], h => by simp [List.intercalate] at h
  | [x], h => Or.inr ⟨x, List.mem_singleton_self x, by simpa [List.intercalate] using h⟩
  | x :: y :: xs, h => by
    have hcons : sep.intercalate (x :: y :: xs) = x ++ sep ++ sep.intercalate (y :: xs) := by
      simp [List.intercalate]
    rw [hcons, List.mem_append, List.mem_append] at h
    rcases h with (h | h) | h
    · exact Or.inr ⟨x, List.mem_cons_self, h⟩
    · exact Or.inl h
    · rcases mem_intercalate h with h | ⟨z, hz, h⟩
      · exact Or.inl h
      · exact Or.inr ⟨z, List.mem_cons_of_mem _ hz, h⟩

section Fields

variable [DecidableEq α] {sep : α}

/-- The parts between the separators; an empty part after the last separator is no field. -/
def fields (sep : α) (l : List α) : List (List α) :=
  if (l.splitOn sep).getLast? = some [] then (l.splitOn sep).dropLast else l.splitOn sep

theorem mem_of_mem_splitOn : ∀ {l part : List α}, part ∈ l.splitOn sep → ∀ x ∈ part, x ∈ l ∧ x ≠ sep
  | [], part, h, x, hx => by
    rw [List.splitOn_nil, List.mem_singleton] at h
    subst h
    cases hx
  | y :: l, part, h, x, hx => by
    have ih : ∀ part ∈ l.splitOn sep, ∀ x ∈ part, x ∈ y :: l ∧ x ≠ sep := fun part hpart x hx =>
      ⟨List.mem_cons_of_mem _ (mem_of_mem_splitOn hpart x hx).1, (mem_of_mem_splitOn hpart x hx).2⟩
    rw [List.splitOn, List.splitOnP_cons_eq_if_modifyHead] at h
    split at h
    case isTrue =>
      rcases List.mem_cons.1 h with rfl | h
      · cases hx
      · exact ih part h x hx
    case isFalse hy =>
      -- the element goes to the front of the first part
      obtain ⟨head, rest, hsplit⟩ := List.exists_cons_of_ne_nil (List.splitOnP_ne_nil (· == sep) l)
      rw [List.splitOn, hsplit] at ih
      rw [hsplit, List.modifyHead_cons] at h
      rcases List.mem_cons.1 h with rfl | h
      · rcases List.mem_cons.1 hx with rfl | hx
        · exact ⟨List.mem_cons_self, fun heq => hy (by simp [heq])⟩
        · exact ih head List.mem_cons_self x hx
      · exact ih part (List.mem_cons_of_mem _ h) x hx

theorem mem_of_mem_fields {l part : List α} (h : part ∈ fields sep l) : ∀ x ∈ part, x ∈ l ∧ x ≠ sep := by
  unfold fields at h
  split at h
  case isTrue => exact mem_of_mem_splitOn (List.mem_of_mem_dropLast h)
  case isFalse => exact mem_of_mem_splitOn h

theorem fields_intercalate {parts : List (List α)} (hsep : ∀ part ∈ parts, sep ∉ part)
    (hne : ∀ part ∈ parts, part ≠ []) : fields sep ([sep].intercalate parts) = parts := by
  by_cases hnil : parts = []
  · subst hnil
    rfl
  · rw [fields, List.splitOn_intercalate sep hsep hnil, if_neg]
    intro hlast
    exact hne [] (List.mem_of_getLast? hlast) rfl

theorem getD_fields_pair {a b : List α} (ha : sep ∉ a) (hb : sep ∉ b) :
    (fields sep (a ++ sep :: b)).getD 0 [] = a ∧ (fields sep (a ++ sep :: b)).getD 1 [] = b := by
  have hsplit : (a ++ sep :: b).splitOn sep = [a, b] := by
    have hparts : ∀ part ∈ [a, b], sep ∉ part := by
      simp [ha, hb]
    have h := List.splitOn_intercalate sep hparts (List.cons_ne_nil _ _)
    simpa [List.intercalate] using h
  rw [fields, hsplit]
  by_cases hnil : b = []
  · subst hnil
    exact ⟨rfl, rfl⟩
  · simp [hnil]

end Fields

end Cut
