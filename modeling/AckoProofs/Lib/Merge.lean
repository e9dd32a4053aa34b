/-
Laws of the deep merge. Merging the override once more changes nothing; a path that the override leaves by a missing
key reads the base, and what the override holds other than a map is found at its place.
-/
import AckoProofs.Lib.TreePath

namespace DocTree

variable {κ σ : Type} [DecidableEq κ] {k : κ} {base upper : List (κ × DocTree κ σ)}

theorem put_of_lookup {β : Type} {v : β} : ∀ {m : List (κ × β)}, m.lookup k = some v → put m k v = m
  | (j, w) :: m, h => by
    rw [lookup_cons_eq] at h
    unfold put
    by_cases hj : j = k
    · rw [if_pos hj.symm] at h
      cases h
      rw [if_pos hj, hj]
    · rw [if_neg (Ne.symm hj)] at h
      rw [if_neg hj, put_of_lookup h]

theorem merge_fixed : ∀ {upper : List (κ × DocTree κ σ)}, (∀ e ∈ upper, ∃ t, base.lookup e.1 = some t ∧
    mergeValue (some t) e.2 = t) → merge base upper = base
  | [], _ => by rw [merge]
  | (k, v) :: upper, h => by
    obtain ⟨t, ht, hv⟩ := h (k, v) List.mem_cons_self
    rw [merge, ht, hv, put_of_lookup ht]
    exact merge_fixed fun e he => h e (List.mem_cons_of_mem _ he)

/-- The override once more: what holds of its values holds of the maps. -/
theorem merge_again (hvalues : ∀ k v, upper.lookup k = some v →
    mergeValue (some (mergeValue (base.lookup k) v)) v = mergeValue (base.lookup k) v)
    (h : wellKeyedFields upper = true) : merge (merge base upper) upper = merge base upper := by
  refine merge_fixed fun e he => ?_
  have hfound := lookup_of_mem h he
  exact ⟨_, by rw [lookup_merge e.1 h, hfound], hvalues e.1 e.2 hfound⟩

theorem mergeValue_again (v : DocTree κ σ) (h : wellKeyed v = true) (old : Option (DocTree κ σ)) :
    mergeValue (some (mergeValue old v)) v = mergeValue old v := by
  cases v with
  | leaf s => rfl
  | list l => rfl
  | map n =>
    rw [wellKeyed] at h
    have hmaps : ∀ base, merge (merge base n) n = merge base n := by
      intro base
      refine merge_again (fun k v hv => ?_) h
      have hsize := sizeOf_lt_of_lookup hv
      exact mergeValue_again v (wellKeyed_of_lookup h hv) _
    have hself := hmaps []
    rw [merge_nil_left h] at hself
    rcases old with _ | (s | l | m)
    · exact congrArg DocTree.map hself
    · exact congrArg DocTree.map hself
    · exact congrArg DocTree.map hself
    · exact congrArg DocTree.map (hmaps m)
termination_by sizeOf v

theorem merge_merge_self (h : wellKeyedFields upper = true) : merge (merge base upper) upper = merge base upper :=
  merge_again (fun _ v hv => mergeValue_again v (wellKeyed_of_lookup h hv) _) h

/-! ## Places -/

/-- A step into a document: to a key of a map, or to an item of a list. -/
inductive Step (κ : Type)
  | key (k : κ)
  | item (i : Nat)
  deriving DecidableEq

/-- What stands at the end of a path. -/
def place : List (Step κ) → DocTree κ σ → Option (DocTree κ σ)
  | [], t => some t
  | .key k :: p, .map m => (m.lookup k).bind (place p)
  | .item i :: p, .list l => l[i]?.bind (place p)
  | _ :: _, _ => none

/-- The path goes through maps until a key is missing. -/
def Missing : List (Step κ) → DocTree κ σ → Prop
  | .key k :: p, .map m => ∀ t, m.lookup k = some t → Missing p t
  | _, _ => False

theorem place_of_missing : ∀ {p : List (Step κ)} {t : DocTree κ σ}, Missing p t → place p t = none
  | .key k :: p, .map m, h => by
    rw [Missing] at h
    rw [place]
    cases hk : m.lookup k with
    | none => rfl
    | some t => exact place_of_missing (h t hk)

theorem place_merge_of_missing : ∀ {p : List (Step κ)} {base upper : List (κ × DocTree κ σ)},
    wellKeyedFields upper = true → Missing p (.map upper) → place p (.map (merge base upper)) = place p (.map base)
  | .key k :: p, base, upper, h, hmissing => by
    rw [Missing] at hmissing
    rw [place, place, lookup_merge k h]
    cases hv : upper.lookup k with
    | none => rfl
    | some v =>
      -- the path goes on through a map of the override
      have hbelow := hmissing v hv
      match p, v, hbelow with
      | .key j :: p, .map n, hbelow =>
        have hn : wellKeyedFields n = true := by
          have hmap := wellKeyed_of_lookup h hv
          rwa [wellKeyed] at hmap
        rcases base.lookup k with _ | (s | l | m)
        · exact place_of_missing hbelow
        · exact place_of_missing hbelow
        · exact place_of_missing hbelow
        · exact place_merge_of_missing hn hbelow

/-- What the override holds, other than a map, is there after the merge. -/
theorem place_merge_of_place {v : DocTree κ σ} (hv : ∀ m, v ≠ .map m) : ∀ {p : List (Step κ)}
    {base upper : List (κ × DocTree κ σ)}, wellKeyedFields upper = true → place p (.map upper) = some v →
    place p (.map (merge base upper)) = some v
  | [], _, _, _, hp => by
    cases hp
    exact absurd rfl (hv _)
  | .key k :: p, base, upper, h, hp => by
    rw [place] at hp
    obtain ⟨t, ht, hp⟩ := Option.bind_eq_some_iff.1 hp
    rw [place, lookup_merge k h, ht]
    show place p (mergeValue (base.lookup k) t) = some v
    cases t with
    | leaf s => exact hp
    | list l => exact hp
    | map n =>
      have hn : wellKeyedFields n = true := by
        have hmap := wellKeyed_of_lookup h ht
        rwa [wellKeyed] at hmap
      rcases base.lookup k with _ | (s | l | m)
      · exact hp
      · exact hp
      · exact hp
      · exact place_merge_of_place hv hn hp

end DocTree
