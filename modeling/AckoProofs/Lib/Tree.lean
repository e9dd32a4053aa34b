/-
Trees of keyed maps, lists and leaves, as a decoded document holds them, and the deep merge of one
map over another. The fields of a map are an association list; the first entry of a key counts,
and the order of the list stands for the order in which a map is iterated.
-/
import Mathlib.Data.List.Basic

/-- A document: a leaf, a list, or a map given by its fields. -/
inductive DocTree (κ σ : Type) : Type
  | leaf (s : σ)
  | list (l : List (DocTree κ σ))
  | map (m : List (κ × DocTree κ σ))

namespace DocTree

/-! ## Fields -/

section Fields

variable {κ β : Type} [DecidableEq κ]

/-- Sets a key: in place where it is present, at the end otherwise. -/
def put : List (κ × β) → κ → β → List (κ × β)
  | [], k, v => [(k, v)]
  | (j, w) :: m, k, v => if j = k then (k, v) :: m else (j, w) :: put m k v

theorem lookup_cons_eq (k : κ) (v : β) (m : List (κ × β)) (j : κ) :
    ((k, v) :: m).lookup j = if j = k then some v else m.lookup j := by
  by_cases h : j = k
  · subst h; simp
  · simp [List.lookup_cons, beq_false_of_ne h, h]

variable {k : κ}

theorem isSome_lookup : ∀ {m : List (κ × β)}, (m.lookup k).isSome = true ↔ k ∈ m.map (·.1)
  | [] => by simp
  | (j, v) :: m => by
    rw [lookup_cons_eq, List.map_cons, List.mem_cons, ← isSome_lookup]
    by_cases h : k = j
    · simp [h]
    · simp [h]

theorem lookup_of_mem_nodup {v : β} : ∀ {m : List (κ × β)}, (m.map (·.1)).Nodup → (k, v) ∈ m →
    m.lookup k = some v
  | (j, w) :: m, hm, h => by
    rw [List.map_cons, List.nodup_cons] at hm
    rw [lookup_cons_eq]
    rcases List.mem_cons.1 h with heq | hrest
    · cases heq
      exact if_pos rfl
    · rw [if_neg, lookup_of_mem_nodup hm.2 hrest]
      intro hkj
      exact hm.1 (List.mem_map.2 ⟨(k, v), hrest, hkj⟩)

theorem lookup_put (k : κ) (v : β) (j : κ) :
    ∀ m : List (κ × β), (put m k v).lookup j = if j = k then some v else m.lookup j
  | [] => lookup_cons_eq k v [] j
  | (i, w) :: m => by
    unfold put
    split
    case isTrue h =>
      subst h
      rw [lookup_cons_eq, lookup_cons_eq]
      split <;> rfl
    case isFalse h =>
      rw [lookup_cons_eq, lookup_cons_eq, lookup_put k v j m]
      by_cases hj : j = i
      · subst hj
        rw [if_pos rfl, if_pos rfl, if_neg h]
      · rw [if_neg hj, if_neg hj]

theorem put_of_lookup_none (v : β) : ∀ {m : List (κ × β)}, m.lookup k = none → put m k v = m ++ [(k, v)]
  | [], _ => rfl
  | (j, w) :: m, h => by
    rw [lookup_cons_eq] at h
    split at h
    · cases h
    · rename_i hne
      rw [put, if_neg (Ne.symm hne), put_of_lookup_none v h, List.cons_append]

theorem mem_of_mem_put {j : κ} {v w : β} : ∀ {m : List (κ × β)}, (j, w) ∈ put m k v → (j = k ∧ w = v) ∨ (j, w) ∈ m
  | [], h => by simpa [put] using h
  | (i, u) :: m, h => by
    unfold put at h
    split at h
    · rcases List.mem_cons.1 h with h | h
      · cases h
        exact Or.inl ⟨rfl, rfl⟩
      · exact Or.inr (List.mem_cons_of_mem _ h)
    · rcases List.mem_cons.1 h with h | h
      · cases h
        exact Or.inr List.mem_cons_self
      · rcases mem_of_mem_put h with h | h
        · exact Or.inl h
        · exact Or.inr (List.mem_cons_of_mem _ h)

theorem mem_put_self (k : κ) (v : β) : ∀ m : List (κ × β), (k, v) ∈ put m k v
  | [] => List.mem_cons_self
  | (i, u) :: m => by
    unfold put
    split
    · exact List.mem_cons_self
    · exact List.mem_cons_of_mem _ (mem_put_self k v m)

theorem mem_put_of_ne {j : κ} {v w : β} (hne : j ≠ k) : ∀ {m : List (κ × β)}, (j, w) ∈ m → (j, w) ∈ put m k v
  | (i, u) :: m, h => by
    unfold put
    split
    · rename_i hi
      rcases List.mem_cons.1 h with h | h
      · cases h
        exact absurd hi hne
      · exact List.mem_cons_of_mem _ h
    · rcases List.mem_cons.1 h with h | h
      · rw [h]
        exact List.mem_cons_self
      · exact List.mem_cons_of_mem _ (mem_put_of_ne hne h)

theorem map_put_of_lookup {γ : Type} (f : β → γ) {v w : β} (hv : f v = f w) : ∀ {m : List (κ × β)},
    m.lookup k = some w → (put m k v).map (fun e => (e.1, f e.2)) = m.map fun e => (e.1, f e.2)
  | (j, u) :: m, h => by
    rw [lookup_cons_eq] at h
    unfold put
    by_cases hj : j = k
    · rw [if_pos hj.symm] at h
      cases h
      rw [if_pos hj, List.map_cons, List.map_cons, hv, hj]
    · rw [if_neg (Ne.symm hj)] at h
      rw [if_neg hj, List.map_cons, List.map_cons, map_put_of_lookup f hv h]

/-! ## Fields left out -/

theorem lookup_filter_key (p : κ → Bool) (k : κ) : ∀ m : List (κ × β),
    (m.filter fun e => p e.1).lookup k = if p k = true then m.lookup k else none
  | [] => by simp
  | (j, w) :: m => by
    rw [List.filter_cons]
    by_cases hj : p j = true
    · rw [if_pos hj, lookup_cons_eq, lookup_cons_eq, lookup_filter_key p k m]
      by_cases hk : k = j
      · rw [if_pos hk, if_pos hk, hk, if_pos hj]
      · rw [if_neg hk, if_neg hk]
    · rw [if_neg hj, lookup_cons_eq, lookup_filter_key p k m]
      by_cases hk : k = j
      · rw [hk, if_neg hj, if_neg hj]
      · rw [if_neg hk]

theorem lookup_filter_value (p : β → Bool) (k : κ) : ∀ {m : List (κ × β)}, (m.map (·.1)).Nodup →
    (m.filter fun e => p e.2).lookup k = (m.lookup k).filter p
  | [], _ => rfl
  | (j, w) :: m, h => by
    rw [List.map_cons, List.nodup_cons] at h
    rw [List.filter_cons, lookup_cons_eq]
    by_cases hk : k = j
    · have hrest : (m.filter fun e => p e.2).lookup k = none := by
        rw [List.lookup_eq_none_iff]
        intro e he
        refine bne_iff_ne.2 fun hke => h.1 ?_
        exact List.mem_map.2 ⟨e, List.mem_of_mem_filter he, by rw [← hke, hk]⟩
      rw [if_pos hk]
      by_cases hw : p w = true
      · rw [if_pos hw, lookup_cons_eq, if_pos hk, Option.filter_some_pos hw]
      · rw [if_neg hw, hrest, Option.filter_some_neg (Bool.eq_false_iff.2 hw)]
    · rw [if_neg hk, ← lookup_filter_value p k h.2]
      split
      · rw [lookup_cons_eq, if_neg hk]
      · rfl

theorem nodup_keys_put (k : κ) (v : β) : ∀ {m : List (κ × β)}, (m.map (·.1)).Nodup → ((put m k v).map (·.1)).Nodup
  | [], _ => by simp [put]
  | (j, w) :: m, h => by
    rw [List.map_cons, List.nodup_cons] at h
    unfold put
    split
    case isTrue hjk => rw [List.map_cons, List.nodup_cons]; exact ⟨hjk ▸ h.1, h.2⟩
    case isFalse hjk =>
      rw [List.map_cons, List.nodup_cons]
      refine ⟨?_, nodup_keys_put k v h.2⟩
      intro hmem
      obtain ⟨e, he, hej⟩ := List.mem_map.1 hmem
      rcases mem_of_mem_put he with ⟨hk, -⟩ | hin
      · exact hjk (hej.symm.trans hk)
      · exact h.1 (List.mem_map.2 ⟨e, hin, hej⟩)

omit [DecidableEq κ] in
theorem nodup_keys_filter {m : List (κ × β)} (p : κ × β → Bool) (h : (m.map (·.1)).Nodup) :
    ((m.filter p).map (·.1)).Nodup := h.sublist (List.filter_sublist.map _)

end Fields

/-! ## Merge -/

variable {κ σ : Type} [DecidableEq κ]

mutual
/-- The fields of `base` overridden, key by key, by those of the second list: maps on both sides
are merged, anything else is replaced. -/
def merge (base : List (κ × DocTree κ σ)) : List (κ × DocTree κ σ) → List (κ × DocTree κ σ)
  | [] => base
  | (k, v) :: rest => merge (put base k (mergeValue (base.lookup k) v)) rest
/-- The value an override leaves at a key that held `old`. -/
def mergeValue (old : Option (DocTree κ σ)) : DocTree κ σ → DocTree κ σ
  | .map m => match old with
    | some (.map b) => .map (merge b m)
    | _ => .map m
  | .leaf s => .leaf s
  | .list l => .list l
end

end DocTree
