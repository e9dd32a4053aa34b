/-
Documents of one shape: the same keys in every map, lists of the same length, and leaves that stand in a given
relation. With equality for the relation it is deep equality; a coarser relation compares documents up to the way
their leaves are written.
-/
import AckoProofs.Lib.TreePath
import Mathlib.Data.List.Nodup
import Mathlib.Data.List.Perm.Subperm

namespace DocTree

variable {κ σ : Type} [DecidableEq κ]

mutual
/-- The same shape with related leaves. -/
def alike (r : σ → σ → Bool) : DocTree κ σ → DocTree κ σ → Bool
  | .leaf a, .leaf b => r a b
  | .list l, .list l' => alikeList r l l'
  | .map m, .map n => m.length = n.length && alikeFields r m n
  | _, _ => false
def alikeList (r : σ → σ → Bool) : List (DocTree κ σ) → List (DocTree κ σ) → Bool
  | [], [] => true
  | t :: l, u :: l' => alike r t u && alikeList r l l'
  | _, _ => false
def alikeFields (r : σ → σ → Bool) : List (κ × DocTree κ σ) → List (κ × DocTree κ σ) → Bool
  | [], _ => true
  | (k, t) :: m, n =>
    (match n.lookup k with
     | some u => alike r t u
     | none => false) && alikeFields r m n
end

variable {r s : σ → σ → Bool}

/-! ## Lists and fields -/

theorem alikeList_iff : ∀ {l l' : List (DocTree κ σ)},
    alikeList r l l' = true ↔ List.Forall₂ (fun t u => alike r t u = true) l l'
  | [], [] => by simp [alikeList]
  | [], _ :: _ => by simp [alikeList]
  | _ :: _, [] => by simp [alikeList]
  | t :: l, u :: l' => by rw [alikeList, Bool.and_eq_true, List.forall₂_cons, alikeList_iff]

theorem alikeFields_iff {n : List (κ × DocTree κ σ)} : ∀ {m : List (κ × DocTree κ σ)},
    alikeFields r m n = true ↔ ∀ k t, (k, t) ∈ m → ∃ u, n.lookup k = some u ∧ alike r t u = true
  | [] => by simp [alikeFields]
  | (j, t) :: m => by
    have hhead : (match n.lookup j with
        | some u => alike r t u
        | none => false) = true ↔ ∃ u, n.lookup j = some u ∧ alike r t u = true := by
      cases n.lookup j <;> simp
    rw [alikeFields, Bool.and_eq_true, alikeFields_iff, hhead]
    constructor
    · rintro ⟨hfirst, hrest⟩ k v hmem
      rcases List.mem_cons.1 hmem with heq | hmem
      · cases heq
        exact hfirst
      · exact hrest k v hmem
    · intro h
      exact ⟨h j t List.mem_cons_self, fun k v hmem => h k v (List.mem_cons_of_mem _ hmem)⟩

theorem mem_keys_iff {β : Type} {k : κ} {m : List (κ × β)} : k ∈ m.map (·.1) ↔ ∃ v, m.lookup k = some v := by
  rw [← isSome_lookup, Option.isSome_iff_exists]

theorem alike_map_iff {m n : List (κ × DocTree κ σ)} (hm : wellKeyedFields m = true) (hn : wellKeyedFields n = true) :
    alike r (.map m) (.map n) = true ↔
      ∀ k, Option.Rel (fun t u => alike r t u = true) (m.lookup k) (n.lookup k) := by
  rw [alike, Bool.and_eq_true, decide_eq_true_eq, alikeFields_iff]
  constructor
  · rintro ⟨hlength, hfields⟩ k
    cases hk : m.lookup k with
    | some t =>
      obtain ⟨u, hu, halike⟩ := hfields k t (mem_of_lookup hk)
      rw [hu]
      exact .some halike
    | none =>
      cases hk' : n.lookup k with
      | none => exact .none
      | some u =>
        -- the keys of the one are among the keys of the other, and there are as many of them
        have hsub : m.map (·.1) ⊆ n.map (·.1) := by
          intro j hj
          obtain ⟨t, ht⟩ := mem_keys_iff.1 hj
          obtain ⟨u, hu, -⟩ := hfields j t (mem_of_lookup ht)
          exact mem_keys_iff.2 ⟨u, hu⟩
        have hperm := (List.subperm_of_subset (nodup_keys hm) hsub).perm_of_length_le (by simp [hlength])
        obtain ⟨t, ht⟩ := mem_keys_iff.1 (hperm.mem_iff.2 (mem_keys_iff.2 ⟨u, hk'⟩))
        rw [hk] at ht
        cases ht
  · intro h
    constructor
    · have hperm : (m.map (·.1)).Perm (n.map (·.1)) := by
        refine (List.perm_ext_iff_of_nodup (nodup_keys hm) (nodup_keys hn)).2 fun k => ?_
        have hk := h k
        rw [← isSome_lookup, ← isSome_lookup]
        generalize m.lookup k = found, n.lookup k = found' at hk ⊢
        cases hk <;> simp
      simpa using hperm.length_eq
    · intro k t hmem
      have hk := h k
      rw [lookup_of_mem hm hmem] at hk
      generalize hu : n.lookup k = found at hk
      cases hk with
      | some halike => exact ⟨_, rfl, halike⟩

/-! ## Two relations at once -/

mutual
theorem alike_and : ∀ {t u : DocTree κ σ}, alike (fun a b => r a b && s a b) t u = true ↔
    alike r t u = true ∧ alike s t u = true
  | .leaf a, .leaf b => by simp [alike]
  | .list l, .list l' => by simpa only [alike] using alikeList_and
  | .map m, .map n => by
    simp only [alike, Bool.and_eq_true, alikeFields_and]
    constructor
    · rintro ⟨hlength, hr, hs⟩
      exact ⟨⟨hlength, hr⟩, hlength, hs⟩
    · rintro ⟨⟨hlength, hr⟩, -, hs⟩
      exact ⟨hlength, hr, hs⟩
  | .leaf _, .list _ | .leaf _, .map _ | .list _, .leaf _ | .list _, .map _ | .map _, .leaf _ | .map _, .list _ => by
    simp [alike]
theorem alikeList_and : ∀ {l l' : List (DocTree κ σ)}, alikeList (fun a b => r a b && s a b) l l' = true ↔
    alikeList r l l' = true ∧ alikeList s l l' = true
  | [], [] => by simp [alikeList]
  | [], _ :: _ => by simp [alikeList]
  | _ :: _, [] => by simp [alikeList]
  | t :: l, u :: l' => by
    simp only [alikeList, Bool.and_eq_true, alikeList_and, alike_and]
    exact and_and_and_comm
theorem alikeFields_and {n : List (κ × DocTree κ σ)} : ∀ {m : List (κ × DocTree κ σ)},
    alikeFields (fun a b => r a b && s a b) m n = true ↔ alikeFields r m n = true ∧ alikeFields s m n = true
  | [] => by simp [alikeFields]
  | (k, t) :: m => by
    simp only [alikeFields, Bool.and_eq_true, alikeFields_and]
    cases n.lookup k with
    | none => simp
    | some u =>
      simp only [alike_and]
      exact and_and_and_comm
end

end DocTree
