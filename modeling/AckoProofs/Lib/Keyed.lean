/-
Lists compared by a key. An index of a list holds, for each key, the last element that has it, and what
one list has and another lacks is read off their indexes. Elements that share a key are not told apart, so
a list that is synchronised with a desired one this way may keep elements that nobody desires.
-/
import Mathlib.Data.List.AList
import Mathlib.Data.List.Induction

namespace Keyed

variable {α κ : Type} [DecidableEq κ] (key : α → κ)

omit [DecidableEq κ] in
/-- A list in which no element has the key of an earlier one. -/
theorem nodup_of_take {l : List α} (h : ∀ a i, l[i]? = some a → key a ∉ (l.take i).map key) : (l.map key).Nodup := by
  rw [List.Nodup, List.pairwise_map, List.pairwise_iff_getElem]
  intro i j hi hj hij heq
  refine h l[j] j (List.getElem?_eq_getElem hj) (List.mem_map.2 ⟨l[i], ?_, heq⟩)
  exact List.mem_take_iff_getElem.2 ⟨i, by omega, rfl⟩

/-! ## Indexes -/

/-- The last element for each key. -/
def index (l : List α) : AList fun _ : κ => α := l.foldl (fun m a => m.insert (key a) a) ∅

theorem lookup_index (k : κ) (l : List α) : (index key l).lookup k = l.reverse.find? fun a => key a = k := by
  induction l using List.reverseRecOn with
  | nil => rfl
  | append_singleton l a ih =>
    have hstep : index key (l ++ [a]) = (index key l).insert (key a) a := by simp [index]
    rw [hstep, List.reverse_concat, List.find?_cons]
    by_cases hk : key a = k
    · subst hk
      simp
    · rw [AList.lookup_insert_ne (Ne.symm hk), ih]
      simp [hk]

variable {key}

variable {l : List α} {a : α}

theorem mem_of_lookup_index {k : κ} (h : (index key l).lookup k = some a) : a ∈ l ∧ key a = k := by
  rw [lookup_index] at h
  exact ⟨List.mem_reverse.1 (List.mem_of_find?_eq_some h), by simpa using List.find?_some h⟩

theorem mem_index {k : κ} : k ∈ index key l ↔ ∃ a ∈ l, key a = k := by
  rw [← AList.lookup_isSome, lookup_index, List.find?_isSome]
  simp

theorem exists_lookup_index (key : α → κ) (ha : a ∈ l) : ∃ b, (index key l).lookup (key a) = some b :=
  Option.isSome_iff_exists.1 (AList.lookup_isSome.2 (mem_index.2 ⟨a, ha, rfl⟩))

theorem lookup_index_of_unique (ha : a ∈ l) (hone : ∀ b ∈ l, key b = key a → b = a) :
    (index key l).lookup (key a) = some a := by
  obtain ⟨b, hb⟩ := exists_lookup_index key ha
  obtain ⟨hmem, hkey⟩ := mem_of_lookup_index hb
  rw [hb, hone b hmem hkey]

/-! ## Differences -/

variable (key) in
/-- What the index of `l` has and that of `m` lacks. -/
def missing (l m : List α) : List α := ((index key l).entries.filter fun e => e.1 ∉ index key m).map fun e => e.2

theorem mem_missing {m : List α} :
    a ∈ missing key l m ↔ (index key l).lookup (key a) = some a ∧ ∀ b ∈ m, key b ≠ key a := by
  have hno : ∀ k, k ∉ index key m ↔ ∀ b ∈ m, key b ≠ k := by
    intro k
    rw [mem_index]
    simp
  constructor
  · intro h
    obtain ⟨e, he, rfl⟩ := List.mem_map.1 h
    obtain ⟨hentry, hnot⟩ := List.mem_filter.1 he
    have hlookup : (index key l).lookup e.1 = some e.2 := AList.mem_lookup_iff.2 hentry
    obtain ⟨_, hkey⟩ := mem_of_lookup_index hlookup
    rw [hkey]
    exact ⟨hlookup, (hno _).1 (by simpa using hnot)⟩
  · rintro ⟨hlookup, hnot⟩
    refine List.mem_map.2 ⟨⟨key a, a⟩, List.mem_filter.2 ⟨AList.mem_lookup_iff.1 hlookup, ?_⟩, rfl⟩
    simpa using (hno _).2 hnot

theorem mem_of_mem_missing {m : List α} (h : a ∈ missing key l m) : a ∈ l :=
  (mem_of_lookup_index (mem_missing.1 h).1).1

theorem missing_eq_nil {m : List α} : missing key l m = [] ↔ ∀ a ∈ l, ∃ b ∈ m, key b = key a := by
  constructor
  · intro hnil a ha
    by_contra hno
    obtain ⟨c, hc⟩ := exists_lookup_index key ha
    obtain ⟨_, hkey⟩ := mem_of_lookup_index hc
    have hmem : c ∈ missing key l m := by
      refine mem_missing.2 ⟨by rw [hkey]; exact hc, fun b hb heq => hno ⟨b, hb, ?_⟩⟩
      rw [heq, hkey]
    rw [hnil] at hmem
    cases hmem
  · intro h
    rw [List.eq_nil_iff_forall_not_mem]
    intro a ha
    obtain ⟨b, hb, hkey⟩ := h a (mem_of_mem_missing ha)
    exact (mem_missing.1 ha).2 b hb hkey

/-! ## Synchronising -/

section Sync

variable [DecidableEq α]

variable (key) in
/-- The current list with what it lacks added, and what is not desired taken away. -/
def synced (current desired : List α) : List α :=
  (current ++ (missing key desired current).filter (· ∉ current)).filter (· ∉ missing key current desired)

variable {current desired : List α}

theorem mem_synced {a : α} :
    a ∈ synced key current desired ↔
      (a ∈ current ∨ a ∈ missing key desired current) ∧ a ∉ missing key current desired := by
  simp only [synced, List.mem_filter, List.mem_append, decide_eq_true_eq]
  by_cases ha : a ∈ current <;> simp [ha]

variable (key) in
/-- The key tells each element that is not desired from the desired ones, and from the others. -/
def Separates (current desired : List α) : Prop :=
  ∀ a ∈ current, a ∉ desired → (∀ b ∈ desired, key b ≠ key a) ∧ ∀ b ∈ current, key b = key a → b = a

omit [DecidableEq κ] [DecidableEq α] in
theorem Separates.of_subset {next : List α} (h : Separates key current desired)
    (hnext : ∀ a ∈ next, a ∈ current ∨ a ∈ desired) : Separates key next desired := by
  intro a ha hno
  obtain ⟨hother, hone⟩ := h a ((hnext a ha).resolve_right hno) hno
  refine ⟨hother, fun b hb hkey => ?_⟩
  rcases hnext b hb with hb | hb
  · exact hone b hb hkey
  · exact absurd hkey (hother b hb)

/-- Nothing but the desired is left exactly where the key tells apart what is to go. -/
theorem synced_subset_iff : (∀ a ∈ synced key current desired, a ∈ desired) ↔ Separates key current desired := by
  constructor
  · intro h
    have hgone : ∀ a ∈ current, a ∉ desired → a ∈ missing key current desired := by
      intro a ha hno
      by_contra hkept
      exact hno (h a (mem_synced.2 ⟨Or.inl ha, hkept⟩))
    intro a ha hno
    obtain ⟨hlast, hother⟩ := mem_missing.1 (hgone a ha hno)
    refine ⟨hother, fun b hb hkey => ?_⟩
    have hnob : b ∉ desired := fun hdes => hother b hdes hkey
    have hlastb := (mem_missing.1 (hgone b hb hnob)).1
    rw [hkey, hlast] at hlastb
    exact (Option.some.inj hlastb).symm
  · intro h a ha
    obtain ⟨hfrom, hkept⟩ := mem_synced.1 ha
    by_contra hno
    rcases hfrom with hcur | hnew
    · obtain ⟨hother, hone⟩ := h a hcur hno
      exact hkept (mem_missing.2 ⟨lookup_index_of_unique hcur hone, hother⟩)
    · exact hno (mem_of_mem_missing hnew)

/-- Nothing desired is lost where the key tells the desired elements from all others. -/
theorem subset_synced (hcur : ∀ a ∈ desired, ∀ b ∈ current, key b = key a → b = a)
    (hdes : ∀ a ∈ desired, ∀ b ∈ desired, key b = key a → b = a) : ∀ a ∈ desired, a ∈ synced key current desired := by
  intro a ha
  refine mem_synced.2 ⟨?_, fun hgone => (mem_missing.1 hgone).2 a ha rfl⟩
  by_cases hkey : ∃ b ∈ current, key b = key a
  · obtain ⟨b, hb, hkey⟩ := hkey
    rw [← hcur a ha b hb hkey]
    exact Or.inl hb
  · refine Or.inr (mem_missing.2 ⟨lookup_index_of_unique ha (hdes a ha), fun b hb h => hkey ⟨b, hb, h⟩⟩)

end Sync

/-! ## Tables -/

/-- Changes the entry at a key, where there is one. -/
def alter (k : κ) (f : α → α) (m : AList fun _ : κ => α) : AList fun _ : κ => α :=
  match m.lookup k with
  | none => m
  | some a => m.insert k (f a)

theorem lookup_alter_self (k : κ) (f : α → α) (m : AList fun _ : κ => α) :
    (alter k f m).lookup k = (m.lookup k).map f := by
  unfold alter
  cases h : m.lookup k with
  | none => simpa using h
  | some a => simp

theorem lookup_alter_of_ne {j k : κ} (h : j ≠ k) (f : α → α) (m : AList fun _ : κ => α) :
    (alter k f m).lookup j = m.lookup j := by
  unfold alter
  split
  · rfl
  · exact AList.lookup_insert_ne h

/-! ## Objects by name -/

/-- What a server is asked to do with the object of a name. -/
inductive Change (α : Type)
  | create (a : α)
  | update (a : α)
  | delete

/-- The object after the request: what exists is not created again, and what is missing is not updated. -/
def Change.on : Change α → Option α → Option α
  | .create a, none => some a
  | .create _, some b => some b
  | .update _, none => none
  | .update a, some _ => some a
  | .delete, _ => none

theorem on_create_cases {b : α} {existing : Option α} (h : (Change.create a).on existing = some b) :
    existing = some b ∨ existing = none ∧ b = a := by
  cases existing with
  | none =>
    cases h
    exact Or.inr ⟨rfl, rfl⟩
  | some e => exact Or.inl h

def write (k : κ) (c : Change α) (m : AList fun _ : κ => α) : AList fun _ : κ => α :=
  match c.on (m.lookup k) with
  | some a => m.insert k a
  | none => m.erase k

theorem lookup_write_self (k : κ) (c : Change α) (m : AList fun _ : κ => α) :
    (write k c m).lookup k = c.on (m.lookup k) := by
  unfold write
  split
  · rename_i a h
    rw [AList.lookup_insert, h]
  · rename_i h
    rw [AList.lookup_erase, h]

theorem lookup_write_of_ne {j k : κ} (h : j ≠ k) (c : Change α) (m : AList fun _ : κ => α) :
    (write k c m).lookup j = m.lookup j := by
  unfold write
  split
  · exact AList.lookup_insert_ne h
  · exact AList.lookup_erase_ne h

/-! ## One key of a list -/

omit [DecidableEq κ] in
theorem flatMap_of_key {β : Type} {f : α → List β} : ∀ {l : List α}, (l.map key).Nodup → a ∈ l →
    (∀ b ∈ l, key b ≠ key a → f b = []) → l.flatMap f = f a
  | b :: l, hnodup, ha, hother => by
    rw [List.map_cons, List.nodup_cons] at hnodup
    rw [List.flatMap_cons]
    rcases List.mem_cons.1 ha with rfl | ha
    · have hrest : l.flatMap f = [] := by
        refine List.flatMap_eq_nil_iff.2 fun c hc => hother c (List.mem_cons_of_mem _ hc) fun hsame => ?_
        exact hnodup.1 (List.mem_map.2 ⟨c, hc, hsame⟩)
      rw [hrest, List.append_nil]
    · have hfirst : f b = [] :=
        hother b List.mem_cons_self fun hsame => hnodup.1 (List.mem_map.2 ⟨a, ha, hsame.symm⟩)
      rw [hfirst, List.nil_append]
      exact flatMap_of_key hnodup.2 ha fun c hc => hother c (List.mem_cons_of_mem _ hc)

omit [DecidableEq κ] in
/-- A walk along the list that may end early. -/
theorem flatMap_visited {β : Type} {f : α → List β} {visited : List α} (hp : visited <+: l)
    (hnodup : (l.map key).Nodup) (ha : a ∈ l) (hother : ∀ b, key b ≠ key a → f b = []) :
    visited.flatMap f = f a ∨ a ∉ visited ∧ visited.flatMap f = [] := by
  by_cases hv : a ∈ visited
  · exact Or.inl (flatMap_of_key (hnodup.sublist (hp.sublist.map _)) hv fun b _ => hother b)
  · refine Or.inr ⟨hv, List.flatMap_eq_nil_iff.2 fun b hb => hother b fun hsame => hv ?_⟩
    rwa [List.inj_on_of_nodup_map hnodup (hp.subset hb) ha hsame] at hb

end Keyed
