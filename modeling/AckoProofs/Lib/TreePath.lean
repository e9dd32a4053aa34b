/-
Documents whose maps hold every key once, as decoded maps do: what a key and what a path reads after a
merge. A path that runs into a leaf or a list on its way, or ends at a map or a list, is blocked: no
document merged below can be seen through it.
-/
import AckoProofs.Lib.Tree

namespace DocTree

variable {κ σ : Type} [DecidableEq κ]

/-! ## Distinct keys -/

mutual
/-- Every map of the document holds a key once. -/
def wellKeyed : DocTree κ σ → Bool
  | .leaf _ => true
  | .list l => wellKeyedList l
  | .map m => wellKeyedFields m
def wellKeyedList : List (DocTree κ σ) → Bool
  | [] => true
  | t :: l => wellKeyed t && wellKeyedList l
def wellKeyedFields : List (κ × DocTree κ σ) → Bool
  | [] => true
  | (k, t) :: m => (m.lookup k).isNone && wellKeyed t && wellKeyedFields m
end

variable {k : κ} {t : DocTree κ σ} {upper : List (κ × DocTree κ σ)}

variable {m : List (κ × DocTree κ σ)}

theorem wellKeyedFields_cons :
    wellKeyedFields ((k, t) :: m) = true ↔ m.lookup k = none ∧ wellKeyed t = true ∧ wellKeyedFields m = true := by
  simp only [wellKeyedFields, Bool.and_eq_true, Option.isNone_iff_eq_none, and_assoc]

theorem wellKeyed_of_mem : ∀ {l : List (DocTree κ σ)}, wellKeyedList l = true → t ∈ l →
    wellKeyed t = true
  | u :: l, h, ht => by
    simp only [wellKeyedList, Bool.and_eq_true] at h
    rcases List.mem_cons.1 ht with rfl | ht
    · exact h.1
    · exact wellKeyed_of_mem h.2 ht

theorem wellKeyed_of_lookup : ∀ {m : List (κ × DocTree κ σ)}, wellKeyedFields m = true →
    m.lookup k = some t → wellKeyed t = true
  | (j, u) :: m, hm, h => by
    obtain ⟨-, hu, hrest⟩ := wellKeyedFields_cons.1 hm
    rw [lookup_cons_eq] at h
    split at h
    · cases h
      exact hu
    · exact wellKeyed_of_lookup hrest h

theorem mem_of_lookup {α : Type} {a : α} {m : List (κ × α)} (h : m.lookup k = some a) : (k, a) ∈ m := by
  obtain ⟨before, after, rfl, -⟩ := List.lookup_eq_some_iff.1 h
  exact List.mem_append_right _ List.mem_cons_self

theorem sizeOf_lt_of_lookup [SizeOf κ] [SizeOf σ] (h : m.lookup k = some t) :
    sizeOf t < sizeOf (DocTree.map m) := by
  have hmem := List.sizeOf_lt_of_mem (mem_of_lookup h)
  simp only [Prod.mk.sizeOf_spec] at hmem
  rw [DocTree.map.sizeOf_spec]
  omega

theorem wellKeyedFields_put {v : DocTree κ σ} (hv : wellKeyed v = true) : ∀ {m : List (κ × DocTree κ σ)},
    wellKeyedFields m = true → wellKeyedFields (put m k v) = true
  | [], _ => by
    rw [put, wellKeyedFields_cons]
    exact ⟨rfl, hv, rfl⟩
  | (j, w) :: m, hm => by
    obtain ⟨hj, hw, hrest⟩ := wellKeyedFields_cons.1 hm
    unfold put
    split
    case isTrue h =>
      rw [wellKeyedFields_cons, ← h]
      exact ⟨hj, hv, hrest⟩
    case isFalse h =>
      rw [wellKeyedFields_cons, lookup_put, if_neg h]
      exact ⟨hj, hw, wellKeyedFields_put hv hrest⟩

theorem wellKeyedFields_filter (p : κ × DocTree κ σ → Bool) : ∀ {m : List (κ × DocTree κ σ)},
    wellKeyedFields m = true → wellKeyedFields (m.filter p) = true
  | [], _ => rfl
  | (k, t) :: m, h => by
    obtain ⟨hk, ht, hm⟩ := wellKeyedFields_cons.1 h
    rw [List.filter_cons]
    split
    · refine wellKeyedFields_cons.2 ⟨?_, ht, wellKeyedFields_filter p hm⟩
      rw [List.lookup_eq_none_iff] at hk ⊢
      exact fun e he => hk e (List.mem_of_mem_filter he)
    · exact wellKeyedFields_filter p hm

theorem nodup_keys : ∀ {m : List (κ × DocTree κ σ)}, wellKeyedFields m = true → (m.map (·.1)).Nodup
  | [], _ => List.nodup_nil
  | (k, t) :: m, h => by
    obtain ⟨hk, -, hm⟩ := wellKeyedFields_cons.1 h
    rw [List.map_cons, List.nodup_cons]
    refine ⟨fun hmem => ?_, nodup_keys hm⟩
    obtain ⟨e, he, rfl⟩ := List.mem_map.1 hmem
    exact absurd rfl (bne_iff_ne.1 (List.lookup_eq_none_iff.1 hk e he))

theorem lookup_of_mem (hm : wellKeyedFields m = true) (h : (k, t) ∈ m) :
    m.lookup k = some t := lookup_of_mem_nodup (nodup_keys hm) h

/-! ## Merging -/

theorem lookup_merge (k : κ) : ∀ {base upper : List (κ × DocTree κ σ)}, wellKeyedFields upper = true →
    (merge base upper).lookup k = match upper.lookup k with
      | none => base.lookup k
      | some v => some (mergeValue (base.lookup k) v)
  | base, [], _ => by rw [merge]; rfl
  | base, (j, v) :: upper, h => by
    obtain ⟨hj, -, hrest⟩ := wellKeyedFields_cons.1 h
    rw [merge, lookup_merge k hrest, lookup_put, lookup_cons_eq]
    by_cases hk : k = j
    · subst hk
      rw [hj, if_pos rfl, if_pos rfl]
    · rw [if_neg hk, if_neg hk]

theorem lookup_merge_none {base : List (κ × DocTree κ σ)} (h : wellKeyedFields upper = true) :
    (merge base upper).lookup k = none ↔ base.lookup k = none ∧ upper.lookup k = none := by
  rw [lookup_merge k h]
  cases upper.lookup k <;> simp

theorem merge_eq_append : ∀ {base upper : List (κ × DocTree κ σ)}, wellKeyedFields upper = true →
    (∀ e ∈ upper, base.lookup e.1 = none) → merge base upper = base ++ upper
  | base, [], _, _ => by rw [merge, List.append_nil]
  | base, (k, v) :: upper, h, hnew => by
    obtain ⟨hk, -, hover⟩ := wellKeyedFields_cons.1 h
    have hbase : base.lookup k = none := hnew (k, v) List.mem_cons_self
    have hv : mergeValue none v = v := by cases v <;> rfl
    rw [merge, hbase, hv, put_of_lookup_none v hbase, merge_eq_append hover, List.append_assoc]
    · rfl
    · intro e he
      rw [← put_of_lookup_none v hbase, lookup_put, if_neg, hnew e (List.mem_cons_of_mem _ he)]
      rintro rfl
      exact absurd rfl (bne_iff_ne.1 (List.lookup_eq_none_iff.1 hk e he))

theorem merge_nil_left (h : wellKeyedFields upper = true) : merge [] upper = upper :=
  merge_eq_append h fun _ _ => rfl

mutual
theorem wellKeyedFields_merge : ∀ {base upper : List (κ × DocTree κ σ)}, wellKeyedFields base = true →
    wellKeyedFields upper = true → wellKeyedFields (merge base upper) = true
  | base, [], hb, _ => by rw [merge]; exact hb
  | base, (k, v) :: upper, hb, h => by
    obtain ⟨-, hv, hrest⟩ := wellKeyedFields_cons.1 h
    rw [merge]
    refine wellKeyedFields_merge (wellKeyedFields_put ?_ hb) hrest
    exact wellKeyed_mergeValue (fun t ht => wellKeyed_of_lookup hb ht) hv
theorem wellKeyed_mergeValue : ∀ {old : Option (DocTree κ σ)} {v : DocTree κ σ},
    (∀ t, old = some t → wellKeyed t = true) → wellKeyed v = true → wellKeyed (mergeValue old v) = true
  | _, .leaf _, _, hv => by rw [mergeValue]; exact hv
  | _, .list _, _, hv => by rw [mergeValue]; exact hv
  | some (.map b), .map m, ho, hv => by
    rw [mergeValue, wellKeyed]
    rw [wellKeyed] at hv
    have hb : wellKeyed (.map b) = true := ho _ rfl
    rw [wellKeyed] at hb
    exact wellKeyedFields_merge hb hv
  | some (.leaf _), .map m, _, hv => by rw [mergeValue]; exact hv; simp
  | some (.list _), .map m, _, hv => by rw [mergeValue]; exact hv; simp
  | none, .map m, _, hv => by rw [mergeValue]; exact hv; simp
end

/-! ## Paths -/

/-- What a path meets in a document. -/
inductive Hit (σ : Type)
  | absent
  | leaf (s : σ)
  | blocked
  deriving DecidableEq

def Hit.value : Hit σ → Option σ
  | .leaf s => some s
  | _ => none

/-- The first of two hits that meets anything. -/
def Hit.orElse : Hit σ → Hit σ → Hit σ
  | .absent, hit => hit
  | hit, _ => hit

omit [DecidableEq κ] in
theorem Hit.orElse_absent (hit : Hit σ) : hit.orElse .absent = hit := by
  cases hit <;> rfl

def walk : List κ → DocTree κ σ → Hit σ
  | [], .leaf s => .leaf s
  | [], _ => .blocked
  | k :: p, .map m => match m.lookup k with
    | none => .absent
    | some t => walk p t
  | _ :: _, _ => .blocked

def leafAt (p : List κ) (t : DocTree κ σ) : Option σ := (walk p t).value

theorem walk_cons_map (k : κ) (p : List κ) (m : List (κ × DocTree κ σ)) :
    walk (k :: p) (.map m) = match m.lookup k with
      | none => .absent
      | some t => walk p t := rfl

theorem leafAt_singleton {s : σ} :
    leafAt [k] (.map m) = some s ↔ m.lookup k = some (.leaf s) := by
  unfold leafAt
  rw [walk_cons_map]
  rcases m.lookup k with _ | (_ | _ | _) <;> simp [walk, Hit.value]

theorem leafAt_cons {j : κ} {p : List κ} {s : σ} :
    leafAt (k :: j :: p) (.map m) = some s ↔ ∃ n, m.lookup k = some (.map n) ∧ leafAt (j :: p) (.map n) = some s := by
  unfold leafAt
  rw [walk_cons_map]
  rcases m.lookup k with _ | (_ | _ | _) <;> simp [walk, Hit.value]

/-- A leaf read after a merge is the override's; where its path leaves the override's maps, the base's. -/
theorem leafAt_merge : ∀ (p : List κ) (k : κ) {base upper : List (κ × DocTree κ σ)}, wellKeyedFields upper = true →
    leafAt (k :: p) (.map (merge base upper)) = match walk (k :: p) (.map upper) with
      | .absent => leafAt (k :: p) (.map base)
      | .leaf s => some s
      | .blocked => none
  | p, k, base, upper, h => by
    unfold leafAt
    rw [walk_cons_map, walk_cons_map, walk_cons_map, lookup_merge k h]
    cases hv : upper.lookup k with
    | none => rfl
    | some v =>
      show (walk p (mergeValue (base.lookup k) v)).value = _
      match p, v with
      | [], .leaf s => rfl
      | [], .list l => rfl
      | [], .map m =>
        show (walk [] (mergeValue (base.lookup k) (.map m))).value = none
        unfold mergeValue
        split <;> rfl
      | j :: p, .leaf s => rfl
      | j :: p, .list l => rfl
      | j :: p, .map m =>
        have hm : wellKeyedFields m = true := wellKeyed_of_lookup h hv
        -- only a map below is merged into; anything else the override's map replaces, and the path reads nothing there
        have hreplaced : (walk (j :: p) (.map m)).value = match walk (j :: p) (.map m) with
            | .absent => none
            | .leaf s => some s
            | .blocked => none := by
          cases walk (j :: p) (.map m) <;> rfl
        cases base.lookup k with
        | none => exact hreplaced
        | some t =>
          cases t with
          | map b => exact leafAt_merge p j hm
          | leaf s => exact hreplaced
          | list l => exact hreplaced

theorem value_walk_merge (p : List κ) (k : κ) {base : List (κ × DocTree κ σ)} (h : wellKeyedFields upper = true) :
    (walk (k :: p) (.map (merge base upper))).value =
      ((walk (k :: p) (.map upper)).orElse (walk (k :: p) (.map base))).value := by
  have hleaf := @leafAt_merge κ σ _ p k base upper h
  unfold leafAt at hleaf
  rw [hleaf]
  cases walk (k :: p) (.map upper) <;> rfl

end DocTree
