/-
Lists of keyed writes to a store. Writes can be taken back: a list of writes followed by one that
puts the original value back at every key it touched leaves the store as it was.
-/
import Mathlib.Logic.Function.Basic
import Mathlib.Data.List.Basic

namespace Writes

variable {κ β : Type} [DecidableEq κ]

def apply (s : κ → β) (ws : List (κ × β)) : κ → β := ws.foldl (fun s w => Function.update s w.1 w.2) s

theorem apply_append (s : κ → β) (ws vs : List (κ × β)) : apply s (ws ++ vs) = apply (apply s ws) vs :=
  List.foldl_append

theorem apply_eq (k : κ) : ∀ (ws : List (κ × β)) (s : κ → β),
    (k ∉ ws.map Prod.fst ∧ apply s ws k = s k) ∨ ∃ v, (k, v) ∈ ws ∧ apply s ws k = v
  | [], s => Or.inl ⟨by simp, rfl⟩
  | (j, v) :: ws, s => by
    rcases apply_eq k ws (Function.update s j v) with ⟨hk, h⟩ | ⟨w, hw, h⟩
    · by_cases hj : k = j
      · subst hj
        exact Or.inr ⟨v, List.mem_cons_self, h.trans (Function.update_self ..)⟩
      · refine Or.inl ⟨?_, h.trans (Function.update_of_ne hj ..)⟩
        rw [List.map_cons, List.mem_cons, not_or]
        exact ⟨hj, hk⟩
    · exact Or.inr ⟨w, List.mem_cons_of_mem _ hw, h⟩

variable {s : κ → β} {ws : List (κ × β)}

/-- Writes that are taken back: the second list puts the original value back at the key, if the
first one has touched it. -/
theorem apply_restored {vs : List (κ × β)} {k : κ} (hv : ∀ v, (k, v) ∈ vs → v = s k)
    (hk : k ∈ ws.map Prod.fst → k ∈ vs.map Prod.fst) : apply s (ws ++ vs) k = s k := by
  rw [apply_append]
  rcases apply_eq k vs (apply s ws) with ⟨hn, h⟩ | ⟨v, hm, h⟩
  · rw [h]
    rcases apply_eq k ws s with ⟨_, h⟩ | ⟨w, hm, _⟩
    · exact h
    · exact absurd (hk (List.mem_map.2 ⟨_, hm, rfl⟩)) hn
  · rw [h, hv v hm]

theorem apply_constant {k : κ} {v : β} (hv : ∀ w, (k, w) ∈ ws → w = v) (hk : k ∈ ws.map Prod.fst) :
    apply s ws k = v := by
  rcases apply_eq k ws s with ⟨hn, _⟩ | ⟨w, hm, h⟩
  · exact absurd hk hn
  · rw [h, hv w hm]

theorem apply_of_not_mem {k : κ} (hk : k ∉ ws.map Prod.fst) : apply s ws k = s k := by
  rcases apply_eq k ws s with ⟨_, h⟩ | ⟨v, hm, _⟩
  · exact h
  · exact absurd (List.mem_map.2 ⟨_, hm, rfl⟩) hk

/-- The last write to a key decides. -/
theorem apply_last {front back : List (κ × β)} {k : κ} (v : β) (hk : k ∉ back.map Prod.fst) :
    apply s (front ++ (k, v) :: back) k = v := by
  rw [apply_append,
    show apply (apply s front) ((k, v) :: back) = apply (Function.update (apply s front) k v) back from rfl,
    apply_of_not_mem hk, Function.update_self]

theorem apply_two {vs : List (κ × β)} {k : κ} {v w : β} (hw : ∀ x, (k, x) ∈ ws → x = w)
    (hv : ∀ x, (k, x) ∈ vs → x = v) :
    apply s (ws ++ vs) k = if k ∈ vs.map Prod.fst then v else if k ∈ ws.map Prod.fst then w else s k := by
  rw [apply_append]
  split
  · rename_i hk
    exact apply_constant hv hk
  · rename_i hk
    rw [apply_of_not_mem hk]
    split
    · rename_i hk
      exact apply_constant hw hk
    · rename_i hk
      exact apply_of_not_mem hk

end Writes
