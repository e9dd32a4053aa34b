/-
Streaks at the end of a history. A history lists marks, some of them breaks (`none`); a streak is a block of
marks that ends with the history, holds no break, and whose neighbours are all related. The longest streak is
found by one pass that extends the streak so far or starts a new one.
-/
import Mathlib.Data.List.Chain
import Mathlib.Data.List.Induction
import Mathlib.Data.Option.Basic

namespace Streak

variable {α : Type}

/-! ## Streaks -/

/-- The last marks of a history, without a break among them and each related to the next. -/
structure IsStreak (near : α → α → Prop) (history : List (Option α)) (marks : List α) : Prop where
  suffix : marks.map some <:+ history
  chain : marks.IsChain near

/-- A streak that no other one exceeds. -/
structure IsLongest (near : α → α → Prop) (history : List (Option α)) (marks : List α) : Prop where
  streak : IsStreak near history marks
  longest : ∀ other, IsStreak near history other → other.length ≤ marks.length

variable {history : List (Option α)} {marks : List α}

theorem IsLongest.unique {near : α → α → Prop} {other : List α} (h : IsLongest near history marks)
    (h' : IsLongest near history other) : marks = other := by
  have hlength : (marks.map some).length = (other.map some).length := by
    have hle := h'.longest marks h.streak
    have hge := h.longest other h'.streak
    rw [List.length_map, List.length_map]
    omega
  have hsuffix := List.suffix_of_suffix_length_le h.streak.suffix h'.streak.suffix (le_of_eq hlength)
  exact List.map_injective_iff.2 (Option.some_injective α) (hsuffix.eq_of_length hlength)

section Pass

variable (near : α → α → Prop) [DecidableRel near]

/-! ## The pass -/

/-- A mark that is near the last one extends the streak, any other starts a new one. -/
def extend (marks : List α) (mark : α) : List α :=
  match marks.getLast? with
  | some last => if near last mark then marks ++ [mark] else [mark]
  | none => [mark]

def step (marks : List α) : Option α → List α
  | some mark => extend near marks mark
  | none => []

def current (history : List (Option α)) : List α := history.foldl (step near) []

theorem current_concat (history : List (Option α)) (entry : Option α) :
    current near (history ++ [entry]) = step near (current near history) entry := by
  simp only [current, List.foldl_append, List.foldl_cons, List.foldl_nil]

variable {near}

theorem getLast_extend (marks : List α) (mark : α) : (extend near marks mark).getLast? = some mark := by
  unfold extend
  split
  · split <;> simp
  · rfl

end Pass

/-! ## The pass finds the longest streak -/

variable {near : α → α → Prop}

/-- A streak up to a mark is that mark alone or goes on from a streak before it. -/
theorem isStreak_concat_some {mark : α} :
    IsStreak near (history ++ [some mark]) marks ↔ marks = [] ∨ ∃ front, marks = front ++ [mark] ∧
      IsStreak near history front ∧ ∀ last ∈ front.getLast?, near last mark := by
  constructor
  · rintro ⟨hsuffix, hchain⟩
    rcases List.eq_nil_or_concat' marks with hnil | ⟨front, mark', rfl⟩
    · exact Or.inl hnil
    · rw [List.map_append, List.map_singleton, List.suffix_concat_iff] at hsuffix
      rcases hsuffix with hnil | ⟨t, heq, ht⟩
      · cases (List.append_eq_nil_iff.1 hnil).2
      · obtain ⟨hfront, hmark⟩ := List.append_inj' heq rfl
        cases hmark
        rw [List.isChain_append] at hchain
        refine Or.inr ⟨front, rfl, ⟨hfront ▸ ht, hchain.1⟩, ?_⟩
        intro last hlast
        exact hchain.2.2 last hlast mark rfl
  · rintro (rfl | ⟨front, rfl, hfront, hnear⟩)
    · exact ⟨List.nil_suffix, List.isChain_nil⟩
    · refine ⟨?_, ?_⟩
      · rw [List.map_append, List.map_singleton, List.suffix_concat_iff]
        exact Or.inr ⟨_, rfl, hfront.suffix⟩
      · rw [List.isChain_append]
        refine ⟨hfront.chain, List.isChain_singleton mark, ?_⟩
        intro last hlast next hnext
        cases hnext
        exact hnear last hlast

theorem isStreak_concat_none (h : IsStreak near (history ++ [none]) marks) : marks = [] := by
  rcases List.eq_nil_or_concat' marks with hnil | ⟨front, mark, rfl⟩
  · exact hnil
  · have hsuffix := h.suffix
    rw [List.map_append, List.map_singleton, List.suffix_concat_iff] at hsuffix
    rcases hsuffix with hnil | ⟨t, heq, -⟩
    · cases (List.append_eq_nil_iff.1 hnil).2
    · cases (List.append_inj' heq rfl).2

theorem IsStreak.getLast_history (h : IsStreak near history marks) {last : α} (hlast : marks.getLast? = some last) :
    history.getLast? = some (some last) := by
  obtain ⟨front, rfl⟩ := h.suffix
  rw [List.getLast?_append, List.getLast?_map, hlast]
  rfl

theorem isStreak_nil (history : List (Option α)) : IsStreak near history [] := ⟨List.nil_suffix, List.isChain_nil⟩

/-- A streak up to a mark is short, or goes on from one that the longest so far bounds. -/
theorem IsLongest.length_le_concat {other : List α} {mark : α} (h : IsLongest near history marks)
    (hother : IsStreak near (history ++ [some mark]) other) :
    other.length ≤ 1 ∨ ∃ last ∈ marks.getLast?, near last mark ∧ other.length ≤ marks.length + 1 := by
  rcases isStreak_concat_some.1 hother with rfl | ⟨front, rfl, hfront, hnear⟩
  · exact Or.inl (Nat.zero_le 1)
  have hle := h.longest front hfront
  rcases List.eq_nil_or_concat' front with rfl | ⟨init, last, rfl⟩
  · exact Or.inl (Nat.le_refl 1)
  have hlast : (init ++ [last]).getLast? = some last := List.getLast?_concat
  rcases List.eq_nil_or_concat' marks with rfl | ⟨init', last', rfl⟩
  · simp at hle
  have hlast' : (init' ++ [last']).getLast? = some last' := List.getLast?_concat
  have hsame := (hfront.getLast_history hlast).symm.trans (h.streak.getLast_history hlast')
  cases hsame
  refine Or.inr ⟨last, hlast', hnear last hlast, ?_⟩
  simp only [List.length_append, List.length_singleton] at hle ⊢
  omega

theorem IsLongest.extend [DecidableRel near] {mark : α} (h : IsLongest near history marks) :
    IsLongest near (history ++ [some mark]) (extend near marks mark) := by
  have hsingle : IsStreak near (history ++ [some mark]) [mark] := by
    refine isStreak_concat_some.2 (Or.inr ⟨[], rfl, isStreak_nil history, ?_⟩)
    rintro _ ⟨⟩
  unfold Streak.extend
  split
  · rename_i last hlast
    split
    · rename_i hnear
      refine ⟨isStreak_concat_some.2 (Or.inr ⟨_, rfl, h.streak, ?_⟩), ?_⟩
      · intro last' hlast'
        rw [Option.mem_def, hlast] at hlast'
        cases hlast'
        exact hnear
      · intro other hother
        rw [List.length_append, List.length_singleton]
        rcases h.length_le_concat hother with hone | ⟨-, -, -, hle⟩ <;> omega
    · rename_i hfar
      refine ⟨hsingle, ?_⟩
      intro other hother
      rcases h.length_le_concat hother with hone | ⟨last', hlast', hnear, -⟩
      · exact hone
      · rw [Option.mem_def, hlast] at hlast'
        cases hlast'
        exact absurd hnear hfar
  · rename_i hnone
    refine ⟨hsingle, ?_⟩
    intro other hother
    rcases h.length_le_concat hother with hone | ⟨last', hlast', -, -⟩
    · exact hone
    · rw [Option.mem_def, hnone] at hlast'
      cases hlast'

theorem isLongest_current [DecidableRel near] (history : List (Option α)) :
    IsLongest near history (current near history) := by
  induction history using List.reverseRecOn with
  | nil =>
    refine ⟨isStreak_nil [], ?_⟩
    intro other hother
    rw [List.map_eq_nil_iff.1 (List.suffix_nil.1 hother.suffix)]
    exact Nat.le_refl 0
  | append_singleton history entry ih =>
    rw [current_concat]
    cases entry with
    | none =>
      refine ⟨isStreak_nil _, ?_⟩
      intro other hother
      rw [isStreak_concat_none hother]
      exact Nat.le_refl 0
    | some mark => exact ih.extend

end Streak
