/-
Configs that differ in the Go types of their numbers only, as one written by the operator and the same one read back
from the API server do. `Diff` compares a number on its own by its value; a list, and a list or a map that is the
value of a namespace's parameter, it leaves to `reflect.DeepEqual`, which tells an `int` from a `float64`.
-/
import AckoProofs.Config.Diff
import AckoProofs.Config.Map
import AckoProofs.Lib.Alike

namespace Acko

open DocTree (alike alikeFields wellKeyedFields wellKeyed lookup_of_mem mem_of_lookup wellKeyed_of_lookup)

/-! ## Equality up to the type of numbers -/

def Scalar.sameNumber : Scalar → Scalar → Bool
  | .int i, .float m e => decide (0 ≤ e) && decide (m * 10 ^ e.toNat = i)
  | .float m e, .int i => decide (0 ≤ e) && decide (m * 10 ^ e.toNat = i)
  | a, b => decide (a = b)

def Scalar.sameType (a b : Scalar) : Bool := decide (Value.typeName (.leaf a) = Value.typeName (.leaf b))

def EqualNumbers (v w : Value) : Prop := alike Scalar.sameNumber v w = true

/-- Scalars of one Go type at every place. -/
def SameTypes (v w : Value) : Prop := alike Scalar.sameType v w = true

theorem Scalar.sameNumber_and_sameType (a b : Scalar) : (a.sameNumber b && a.sameType b) = decide (a = b) := by
  cases a <;> cases b <;> simp [sameNumber, sameType, Value.typeName]

mutual
theorem deepEqual_eq_alike : ∀ v w : Value, deepEqual v w = alike (fun a b => decide (a = b)) v w
  | .leaf a, .leaf b => by simp [deepEqual, alike]
  | .list l, .list l' => by simpa only [deepEqual, alike] using deepEqualList_eq_alike l l'
  | .map m, .map n => by simp only [deepEqual, alike, deepEqualFields_eq_alike m n]
  | .leaf _, .list _ | .leaf _, .map _ | .list _, .leaf _ | .list _, .map _ | .map _, .leaf _ | .map _, .list _ => by
    simp [deepEqual, alike]
theorem deepEqualList_eq_alike : ∀ l l' : List Value,
    deepEqualList l l' = DocTree.alikeList (fun a b => decide (a = b)) l l'
  | [], [] => rfl
  | [], _ :: _ => rfl
  | _ :: _, [] => rfl
  | v :: l, w :: l' => by
    simp only [deepEqualList, DocTree.alikeList, deepEqual_eq_alike v w, deepEqualList_eq_alike l l']
theorem deepEqualFields_eq_alike : ∀ m n : Config,
    deepEqualFields m n = alikeFields (fun a b => decide (a = b)) m n
  | [], _ => by simp [deepEqualFields, alikeFields]
  | (k, v) :: m, n => by
    simp only [deepEqualFields, alikeFields, deepEqualFields_eq_alike m n]
    cases n.lookup k with
    | none => rfl
    | some w => simp only [deepEqual_eq_alike v w]
end

variable {v w : Value} {m : Config}

/-- What `reflect.DeepEqual` asks beyond equality of the numbers. -/
theorem deepEqual_iff : deepEqual v w = true ↔ EqualNumbers v w ∧ SameTypes v w := by
  have hrel : (fun a b : Scalar => decide (a = b)) = fun a b => a.sameNumber b && a.sameType b := by
    funext a b
    rw [Scalar.sameNumber_and_sameType]
  rw [deepEqual_eq_alike, hrel, DocTree.alike_and]
  rfl

theorem numericValue_of_sameNumber {a b : Scalar} (h : a.sameNumber b = true) :
    numericValue (.leaf a) = numericValue (.leaf b) := by
  unfold Scalar.sameNumber at h
  split at h
  · rw [Bool.and_eq_true, decide_eq_true_eq, decide_eq_true_eq] at h
    simp [numericValue, h.1, h.2]
  · rw [Bool.and_eq_true, decide_eq_true_eq, decide_eq_true_eq] at h
    simp [numericValue, h.1, h.2]
  · rw [decide_eq_true_eq] at h
    rw [h]

/-- A value that is compared on its own: a scalar by its value, anything else with the types of the numbers in it. -/
def ComparesAlike : Value → Value → Prop
  | .leaf _, _ => True
  | v, w => SameTypes v w

theorem valuesEqual_of_equalNumbers (h : EqualNumbers v w) : valuesEqual v w = true ↔ ComparesAlike v w := by
  have hdeep : deepEqual v w = true ↔ SameTypes v w := by
    rw [deepEqual_iff]
    exact ⟨And.right, fun hs => ⟨h, hs⟩⟩
  cases v with
  | list l => exact hdeep
  | map m => exact hdeep
  | leaf a =>
    cases w with
    | list l => cases h
    | map m => cases h
    | leaf b =>
      have hsame : a.sameNumber b = true := h
      have hnum := numericValue_of_sameNumber hsame
      simp only [ComparesAlike, iff_true]
      unfold valuesEqual
      rw [hnum]
      cases hb : numericValue (.leaf b) with
      | some x => simp
      | none =>
        -- neither is a number, so they are the same scalar
        rw [hb] at hnum
        cases a <;> cases b <;> simp_all [numericValue, Scalar.sameNumber, deepEqual]

/-! ## Namespaces -/

theorem EqualNumbers.lookup {n : Config} (h : EqualNumbers (.map m) (.map n)) (hm : wellKeyedFields m = true)
    (hn : wellKeyedFields n = true) (key : String) : Option.Rel EqualNumbers (m.lookup key) (n.lookup key) :=
  (DocTree.alike_map_iff hm hn).1 h key

theorem equalNumbers_str_left {s : String} : EqualNumbers (.leaf (.str s)) w ↔ w = .leaf (.str s) := by
  cases w with
  | list l => simp [EqualNumbers, alike]
  | map m => simp [EqualNumbers, alike]
  | leaf b => cases b <;> simp [EqualNumbers, alike, Scalar.sameNumber, eq_comm]

theorem equalNumbers_str_right {s : String} : EqualNumbers v (.leaf (.str s)) ↔ v = .leaf (.str s) := by
  cases v with
  | list l => simp [EqualNumbers, alike]
  | map m => simp [EqualNumbers, alike]
  | leaf a => cases a <;> simp [EqualNumbers, alike, Scalar.sameNumber]

theorem keyedName_of_equalNumbers (hv : wellKeyed v = true) (hw : wellKeyed w = true)
    (h : EqualNumbers v w) :
    Option.Rel (fun a b => a.1 = b.1 ∧ EqualNumbers (.map a.2) (.map b.2)) (keyedName v) (keyedName w) := by
  have hname : ∀ {name m n}, v = .map m → w = .map n →
      (m.lookup "name" = some (.leaf (.str name)) ↔ n.lookup "name" = some (.leaf (.str name))) := by
    rintro name m n rfl rfl
    have hrel := EqualNumbers.lookup h hv hw "name"
    generalize m.lookup "name" = found, n.lookup "name" = found' at hrel ⊢
    cases hrel with
    | none => rfl
    | some hequal =>
      rw [Option.some_inj, Option.some_inj]
      constructor
      · rintro rfl
        exact equalNumbers_str_left.1 hequal
      · rintro rfl
        exact equalNumbers_str_right.1 hequal
  cases v with
  | leaf a => cases w <;> first | exact .none | cases h
  | list l => cases w <;> first | exact .none | cases h
  | map m =>
    cases w with
    | leaf b => cases h
    | list l => cases h
    | map n =>
      cases hkeyed : keyedName (.map m) with
      | some e =>
        obtain ⟨hmap, hm⟩ := keyedName_eq_some.1 hkeyed
        cases hmap
        rw [keyedName_eq_some.2 ⟨rfl, (hname rfl rfl).1 hm⟩]
        exact .some ⟨rfl, h⟩
      | none =>
        cases hkeyed' : keyedName (.map n) with
        | none => exact .none
        | some e =>
          obtain ⟨hmap, hn⟩ := keyedName_eq_some.1 hkeyed'
          cases hmap
          rw [keyedName_eq_some.2 ⟨rfl, (hname rfl rfl).2 hn⟩] at hkeyed
          cases hkeyed

theorem namespacesByName_of_equalNumbers {l l' : List Value} (hl : ∀ v ∈ l, wellKeyed v = true)
    (hl' : ∀ w ∈ l', wellKeyed w = true) (h : List.Forall₂ EqualNumbers l l') (name : String) :
    Option.Rel (fun m n => EqualNumbers (.map m) (.map n)) ((namespacesByName l).lookup name)
      ((namespacesByName l').lookup name) := by
  induction l using List.reverseRecOn generalizing l' with
  | nil =>
    cases h
    exact .none
  | append_singleton l v ih =>
    rcases List.eq_nil_or_concat' l' with rfl | ⟨l', w, rfl⟩
    · simp at h
    · rw [← List.forall₂_reverse_iff, List.reverse_append, List.reverse_append] at h
      obtain ⟨hvw, hrest⟩ := List.forall₂_cons.1 h
      have hearlier := ih (fun u hu => hl u (List.mem_append_left _ hu)) (fun u hu => hl' u (List.mem_append_left _ hu))
        (List.forall₂_reverse_iff.1 hrest)
      rw [namespacesByName_concat, namespacesByName_concat]
      have hkeyed := keyedName_of_equalNumbers (hl v (by simp)) (hl' w (by simp)) hvw
      generalize keyedName v = found, keyedName w = found' at hkeyed
      cases hkeyed with
      | none => exact hearlier
      | @some a b hab =>
        obtain ⟨hnames, hequal⟩ := hab
        dsimp only
        rw [DocTree.lookup_put, DocTree.lookup_put, ← hnames]
        split
        · exact .some hequal
        · exact hearlier

/-- The parameters of two namespaces compare alike; the name is not compared. -/
def ParamsCompareAlike (m n : Config) : Prop :=
  ∀ key v w, key ≠ "name" → m.lookup key = some v → n.lookup key = some w → ComparesAlike v w

theorem diffNamespacePair_eq_empty {name : String} {n : Config} (hm : wellKeyedFields m = true)
    (hn : wellKeyedFields n = true) (h : EqualNumbers (.map m) (.map n)) :
    ((∀ key newVal, (key, newVal) ∈ n → diffNamespaceKey name m key newVal = .empty) ∧
      diffNamespaceRemoved name m n = []) ↔ ParamsCompareAlike m n := by
  have hremoved : diffNamespaceRemoved name m n = [] := by
    rw [diffNamespaceRemoved_eq_nil]
    intro key oldVal hmem _ hnone
    have hrel := h.lookup hm hn key
    rw [lookup_of_mem hm hmem, hnone] at hrel
    cases hrel
  have hboth : ∀ key w, n.lookup key = some w → ∃ v, m.lookup key = some v ∧ EqualNumbers v w := by
    intro key w hw
    have hrel := h.lookup hm hn key
    rw [hw] at hrel
    generalize m.lookup key = found at hrel
    cases hrel with
    | some hequal => exact ⟨_, rfl, hequal⟩
  refine ⟨?_, fun halike => ⟨?_, hremoved⟩⟩
  · rintro ⟨hkeys, -⟩ key v w hkey hv hw
    obtain ⟨v', hv', hequal⟩ := hboth key w hw
    cases hv.symm.trans hv'
    have hempty := hkeys key w (mem_of_lookup hw)
    rw [diffNamespaceKey_eq_empty hv] at hempty
    exact (valuesEqual_of_equalNumbers hequal).1 (hempty hkey)
  · intro key newVal hmem
    have hw := lookup_of_mem hn hmem
    obtain ⟨v, hv, hequal⟩ := hboth key newVal hw
    rw [diffNamespaceKey_eq_empty hv]
    intro hkey
    exact (valuesEqual_of_equalNumbers hequal).2 (halike key v newVal hkey hv hw)

def NamespacesCompareAlike (oldNS newNS : List Value) : Prop :=
  ∀ name m n, (namespacesByName oldNS).lookup name = some m → (namespacesByName newNS).lookup name = some n →
    ParamsCompareAlike m n

theorem wellKeyed_of_namespacesByName {l : List Value} (hl : ∀ v ∈ l, wellKeyed v = true) {name : String}
    (h : (namespacesByName l).lookup name = some m) : wellKeyedFields m = true :=
  hl (.map m) (mem_of_namespacesByName (mem_of_lookup h)).1

theorem diffNamespaces_eq_empty {l l' : List Value} (hl : ∀ v ∈ l, wellKeyed v = true)
    (hl' : ∀ w ∈ l', wellKeyed w = true) (h : List.Forall₂ EqualNumbers l l') :
    diffNamespaces l l' = .empty ↔ NamespacesCompareAlike l l' := by
  have hrel := namespacesByName_of_equalNumbers hl hl' h
  have hpair : ∀ name n, (namespacesByName l').lookup name = some n →
      ∃ m, (namespacesByName l).lookup name = some m ∧ EqualNumbers (.map m) (.map n) := by
    intro name n hn
    have hname := hrel name
    rw [hn] at hname
    generalize (namespacesByName l).lookup name = found at hname
    cases hname with
    | some hequal => exact ⟨_, rfl, hequal⟩
  unfold diffNamespaces
  dsimp only
  rw [DiffResult.append_eq_empty, DiffResult.foldr_append_eq_empty, DiffResult.static_eq_empty, List.forall_mem_map,
    Prod.forall]
  constructor
  · rintro ⟨hchanged, -⟩ name m n hm hn
    have hempty := hchanged name n (mem_of_lookup hn)
    dsimp only at hempty
    rw [hm, DiffResult.append_eq_empty, DiffResult.foldr_append_eq_empty, DiffResult.static_eq_empty,
      List.forall_mem_map, Prod.forall] at hempty
    obtain ⟨m', hm', hequal⟩ := hpair name n hn
    cases hm.symm.trans hm'
    exact (diffNamespacePair_eq_empty (wellKeyed_of_namespacesByName hl hm) (wellKeyed_of_namespacesByName hl' hn)
      hequal).1 hempty
  · intro halike
    constructor
    · intro name n hmem
      have hn := DocTree.lookup_of_mem_nodup (nodup_namespacesByName l') hmem
      obtain ⟨m, hm, hequal⟩ := hpair name n hn
      dsimp only
      rw [hm, DiffResult.append_eq_empty, DiffResult.foldr_append_eq_empty, DiffResult.static_eq_empty,
        List.forall_mem_map, Prod.forall]
      exact (diffNamespacePair_eq_empty (wellKeyed_of_namespacesByName hl hm) (wellKeyed_of_namespacesByName hl' hn)
        hequal).2 (halike name m n hm hn)
    · -- no namespace has gone
      rw [List.filterMap_eq_nil_iff, Prod.forall]
      intro name m hmem
      have hname := hrel name
      rw [DocTree.lookup_of_mem_nodup (nodup_namespacesByName l) hmem] at hname
      dsimp only
      generalize (namespacesByName l').lookup name = found at hname
      cases hname
      rfl

/-! ## Sections -/

/-- Wherever the two configs are compared on the spot, they compare alike: at the keys of a section that are not
sections on both sides, and at the parameters of namespaces. -/
inductive ComparedAlike : Config → Config → Prop
  | intro {oldSection newSection : Config}
      (plain : ∀ key v w, key ≠ "namespaces" → oldSection.lookup key = some v → newSection.lookup key = some w →
        (Value.asMap v = none ∨ Value.asMap w = none) → ComparesAlike v w)
      (sections : ∀ key m n, key ≠ "namespaces" → oldSection.lookup key = some (.map m) →
        newSection.lookup key = some (.map n) → ComparedAlike m n)
      (namespaces : NamespacesCompareAlike (asSlice (oldSection.get "namespaces"))
        (asSlice (newSection.get "namespaces"))) :
      ComparedAlike oldSection newSection

theorem wellKeyed_asSlice {config : Config} (h : wellKeyedFields config = true) :
    ∀ v ∈ asSlice (config.get "namespaces"), wellKeyed v = true := by
  intro v hv
  unfold Config.get at hv
  cases hfound : config.lookup "namespaces" with
  | none =>
    rw [hfound] at hv
    cases hv
  | some ns =>
    rw [hfound] at hv
    cases ns with
    | leaf s => cases hv
    | map ns => cases hv
    | list l => exact DocTree.wellKeyed_of_mem (wellKeyed_of_lookup h hfound) hv

theorem asSlice_of_equalNumbers {n : Config} (h : EqualNumbers (.map m) (.map n))
    (hm : wellKeyedFields m = true) (hn : wellKeyedFields n = true) :
    List.Forall₂ EqualNumbers (asSlice (m.get "namespaces")) (asSlice (n.get "namespaces")) := by
  have hrel := h.lookup hm hn "namespaces"
  unfold Config.get
  generalize m.lookup "namespaces" = found, n.lookup "namespaces" = found' at hrel
  cases hrel with
  | none => exact .nil
  | @some v w hequal =>
    cases v <;> cases w <;> first | exact .nil | cases hequal | exact DocTree.alikeList_iff.1 hequal

theorem not_sections {oldSection : Config} {key : String} (hv : oldSection.lookup key = some v)
    (h : Value.asMap v = none ∨ Value.asMap w = none) :
    ∀ m n, oldSection.lookup key = some (.map m) → w ≠ .map n := by
  rintro m n hm rfl
  cases hv.symm.trans hm
  rcases h with h | h <;> cases h

/-- What `Diff` compares of two configs that are equal up to the types of numbers decides if it reports a change. -/
theorem diffSection_eq_empty (newSection oldSection : Config) (pre : List String)
    (hold : wellKeyedFields oldSection = true) (hnew : wellKeyedFields newSection = true)
    (h : EqualNumbers (.map oldSection) (.map newSection)) :
    diffSection pre oldSection newSection = .empty ↔ ComparedAlike oldSection newSection := by
  have hpair : ∀ key w, newSection.lookup key = some w → ∃ v, oldSection.lookup key = some v ∧ EqualNumbers v w := by
    intro key w hw
    have hrel := h.lookup hold hnew key
    rw [hw] at hrel
    generalize oldSection.lookup key = found at hrel
    cases hrel with
    | some hequal => exact ⟨_, rfl, hequal⟩
  have hremoved : diffRemoved pre oldSection newSection = [] := by
    rw [diffRemoved_eq_nil]
    intro key oldVal hmem _ hnone
    have hrel := h.lookup hold hnew key
    rw [lookup_of_mem hold hmem, hnone] at hrel
    cases hrel
  have hnamespaces := diffNamespaces_eq_empty (wellKeyed_asSlice hold) (wellKeyed_asSlice hnew)
    (asSlice_of_equalNumbers h hold hnew)
  -- the sections inside are smaller
  have hsection : ∀ key m n, oldSection.lookup key = some (.map m) → newSection.lookup key = some (.map n) →
      (diffSection (pre ++ [key]) m n = .empty ↔ ComparedAlike m n) := by
    intro key m n hm hn
    obtain ⟨v, hv, hequal⟩ := hpair key (.map n) hn
    cases hm.symm.trans hv
    have hsize : sizeOf n < sizeOf newSection := by
      simpa only [DocTree.map.sizeOf_spec, Nat.add_lt_add_iff_left] using DocTree.sizeOf_lt_of_lookup hn
    exact diffSection_eq_empty n m (pre ++ [key]) (wellKeyed_of_lookup hold hm)
      (wellKeyed_of_lookup hnew hn) hequal
  rw [diffSection, DiffResult.append_eq_empty, DiffResult.static_eq_empty, diffKeys_eq_empty]
  constructor
  · rintro ⟨hkeys, -⟩
    refine .intro ?_ ?_ ?_
    · intro key v w hkey hv hw hplain
      have hempty := hkeys key w (mem_of_lookup hw)
      obtain ⟨v', hv', hequal⟩ := hpair key w hw
      cases hv.symm.trans hv'
      rw [diffKey_plain hkey (not_sections hv hplain), diffPlain_eq_empty hkey hv] at hempty
      exact (valuesEqual_of_equalNumbers hequal).1 hempty
    · intro key m n hkey hm hn
      have hempty := hkeys key (.map n) (mem_of_lookup hn)
      rw [diffKey_section hkey hm, hsection key m n hm hn] at hempty
      exact hempty
    · intro name m n hm hn
      cases hw : newSection.lookup "namespaces" with
      | none =>
        rw [Config.get, hw] at hn
        cases hn
      | some w =>
        have hempty := hkeys "namespaces" w (mem_of_lookup hw)
        have hget : newSection.get "namespaces" = w := by rw [Config.get, hw, Option.getD_some]
        rw [diffKey_namespaces, ← hget, hnamespaces] at hempty
        exact hempty name m n hm hn
  · rintro ⟨hplain, hsections, hns⟩
    refine ⟨?_, hremoved⟩
    intro key w hmem
    have hw := lookup_of_mem hnew hmem
    by_cases hkey : key = "namespaces"
    · subst hkey
      have hget : newSection.get "namespaces" = w := by rw [Config.get, hw, Option.getD_some]
      rw [diffKey_namespaces, ← hget, hnamespaces]
      exact hns
    · obtain ⟨v, hv, hequal⟩ := hpair key w hw
      by_cases hmaps : Value.asMap v = none ∨ Value.asMap w = none
      · rw [diffKey_plain hkey (not_sections hv hmaps), diffPlain_eq_empty hkey hv, valuesEqual_of_equalNumbers hequal]
        exact hplain key v w hkey hv hw hmaps
      · rw [not_or, ← ne_eq, ← ne_eq, Option.ne_none_iff_exists', Option.ne_none_iff_exists'] at hmaps
        obtain ⟨⟨m, hm⟩, n, hn⟩ := hmaps
        rw [Value.asMap_eq_some] at hm hn
        subst hm hn
        rw [diffKey_section hkey hv, hsection key m n hv hw]
        exact hsections key m n hkey hv hw
termination_by sizeOf newSection

/-- Two configs that are equal up to the types of their numbers make no change exactly when they compare alike
wherever `Diff` leaves the comparison to `reflect.DeepEqual`. -/
theorem no_phantom_changes_iff {oldConfig newConfig : ConfigMap}
    (h : EqualNumbers (.map oldConfig.entries) (.map newConfig.entries)) :
    (Diff oldConfig.entries newConfig.entries).HasChanges = false ↔
      ComparedAlike oldConfig.entries newConfig.entries := by
  rw [DiffResult.hasChanges_eq_false]
  exact diffSection_eq_empty newConfig.entries oldConfig.entries [] oldConfig.distinct newConfig.distinct h

/-- A config with a number in a section, one in a namespace and one in its storage engine. -/
def numberedEntries (fdMax factor writeBlock : Scalar) : Config :=
  [("service", .map [("proto-fd-max", .leaf fdMax)]),
    ("namespaces", .list [.map [("name", .leaf (.str "test")), ("replication-factor", .leaf factor),
      ("storage-engine", .map [("write-block-size", .leaf writeBlock)])]])]

theorem wellKeyed_numberedEntries (fdMax factor writeBlock : Scalar) :
    wellKeyedFields (numberedEntries fdMax factor writeBlock) = true := rfl

def numbered (fdMax factor writeBlock : Scalar) : ConfigMap :=
  ⟨numberedEntries fdMax factor writeBlock, wellKeyed_numberedEntries fdMax factor writeBlock⟩

/-- Numbers on their own may change their types. -/
theorem no_phantom_changes_scalars :
    (Diff (numbered (.int 15000) (.int 2) (.int 1048576)).entries
      (numbered (.float 15 3) (.float 2 0) (.int 1048576)).entries).HasChanges = false ∧
    ComparedAlike (numbered (.int 15000) (.int 2) (.int 1048576)).entries
      (numbered (.float 15 3) (.float 2 0) (.int 1048576)).entries := by
  have hequal : EqualNumbers (.map (numbered (.int 15000) (.int 2) (.int 1048576)).entries)
      (.map (numbered (.float 15 3) (.float 2 0) (.int 1048576)).entries) := by
    unfold EqualNumbers
    decide +kernel
  have hsilent : (Diff (numbered (.int 15000) (.int 2) (.int 1048576)).entries
      (numbered (.float 15 3) (.float 2 0) (.int 1048576)).entries).HasChanges = false := by decide +kernel
  exact ⟨hsilent, (no_phantom_changes_iff hequal).1 hsilent⟩

/-- The number in the map that is the value of `storage-engine` may not, nor one in a list. -/
theorem phantom_storage_engine :
    EqualNumbers (.map (numbered (.int 15000) (.int 2) (.int 1048576)).entries)
      (.map (numbered (.int 15000) (.int 2) (.float 1048576 0)).entries) ∧
    (Diff (numbered (.int 15000) (.int 2) (.int 1048576)).entries
      (numbered (.int 15000) (.int 2) (.float 1048576 0)).entries).HasChanges = true ∧
    EqualNumbers (.map [("service", .list [.leaf (.int 1)])]) (.map [("service", .list [.leaf (.float 1 0)])]) ∧
    (Diff [("service", .list [.leaf (.int 1)])] [("service", .list [.leaf (.float 1 0)])]).HasChanges = true := by
  unfold EqualNumbers
  decide +kernel

end Acko
