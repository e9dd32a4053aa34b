/-
The least measure of a list's members, found by a loop that starts at 0 and takes 0 for "none yet".
For measures of 1 and more the result says exactly that: it lies below a bound if a member does, and it
is 0 only for the empty list.
-/
import Mathlib.Order.Basic
import Mathlib.Data.List.Basic

namespace Least

variable {α : Type} {f : α → Int}

def step (f : α → Int) (least : Int) (x : α) : Int := if least = 0 ∨ f x < least then f x else least

def least (f : α → Int) (l : List α) : Int := l.foldl (step f) 0

theorem foldl_lt (hf : ∀ x, 1 ≤ f x) (n : Int) : ∀ {l : List α} {m : Int}, 1 ≤ m →
    1 ≤ l.foldl (step f) m ∧ (l.foldl (step f) m < n ↔ m < n ∨ ∃ x ∈ l, f x < n)
  | [], m, hm => by simpa using hm
  | x :: l, m, hm => by
    have hx := hf x
    have hstep : 1 ≤ step f m x ∧ (step f m x < n ↔ m < n ∨ f x < n) := by
      unfold step
      split <;> omega
    obtain ⟨hpos, hlt⟩ := foldl_lt hf n (l := l) hstep.1
    rw [List.foldl_cons, hlt, hstep.2, List.exists_mem_cons_iff, or_assoc]
    exact ⟨hpos, Iff.rfl⟩

theorem least_cons (hf : ∀ x, 1 ≤ f x) (n : Int) (x : α) (l : List α) :
    1 ≤ least f (x :: l) ∧ (least f (x :: l) < n ↔ ∃ y ∈ x :: l, f y < n) := by
  have hfirst : step f 0 x = f x := by simp [step]
  unfold least
  rw [List.foldl_cons, hfirst, List.exists_mem_cons_iff]
  exact foldl_lt hf n (hf x)

theorem least_lt (hf : ∀ x, 1 ≤ f x) {n : Int} : ∀ {l : List α}, l ≠ [] → (least f l < n ↔ ∃ x ∈ l, f x < n)
  | [], h => absurd rfl h
  | x :: l, _ => (least_cons hf n x l).2

theorem least_eq_zero (hf : ∀ x, 1 ≤ f x) : ∀ {l : List α}, least f l = 0 ↔ l = []
  | [] => ⟨fun _ => rfl, fun _ => rfl⟩
  | x :: l => by
    have hpos := (least_cons hf 0 x l).1
    constructor
    · intro h
      omega
    · intro h
      cases h

theorem least_nonneg (hf : ∀ x, 1 ≤ f x) : ∀ l : List α, 0 ≤ least f l
  | [] => Int.le_refl 0
  | x :: l => by
    have hpos := (least_cons hf 0 x l).1
    omega

end Least
