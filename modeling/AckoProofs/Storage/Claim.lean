/-
PersistentVolumeClaims of StatefulSets. A claim is named `<volume>-<statefulset>-<ordinal>`, and the
operator reads the volume and the ordinal back from that name with two parsers: one takes the digits
at the end of the name (`extractOrdinal`), the other the last occurrence of the StatefulSet's name
(`extractVolumeName`). Where the first succeeds, both cut the name at the same place.
-/
import AckoProofs.Lib.Cut
import AckoProofs.Storage.Spec

namespace Acko

/-- A claim as far as the operator reads it; an owner is its UID. -/
structure PersistentVolumeClaim where
  name : String
  labels : Labels
  ownerReferences : List String
  storageClassName : Option String
  deriving DecidableEq, Repr

/-- The name a StatefulSet gives to the claim of a pod. -/
def pvcName (volumeName stsName : String) (ordinal : Nat) : String :=
  volumeName ++ "-" ++ stsName ++ "-" ++ toString ordinal

/-! ## Integers of 32 bits -/

def parseInt32 (s : String) : Option Int :=
  (atoi s).filter fun i => -2 ^ 31 ≤ i && i < 2 ^ 31

variable {l : List Char} {name stsName : String}

theorem isDigit_of_digitsValue {n : Nat} (h : digitsValue l = some n) : ∀ c ∈ l, c.isDigit = true := by
  unfold digitsValue at h
  split at h
  case isTrue hl => exact List.all_eq_true.1 hl.2
  case isFalse => cases h

theorem ne_nil_of_digitsValue {n : Nat} (h : digitsValue l = some n) : l ≠ [] := by
  unfold digitsValue at h
  split at h
  case isTrue hl => exact hl.1
  case isFalse => cases h

theorem atoi_digits (hl : ∀ c ∈ l, c.isDigit = true) :
    atoi (String.ofList l) = ((digitsValue l).map Int.ofNat).filter fun i => -2 ^ 63 ≤ i && i < 2 ^ 63 := by
  unfold atoi
  rw [String.toList_ofList]
  split
  · exact absurd (hl '+' (List.mem_cons_self ..)) (by decide)
  · exact absurd (hl '-' (List.mem_cons_self ..)) (by decide)
  · rfl

theorem parseInt32_digits (hl : ∀ c ∈ l, c.isDigit = true) {i : Int} :
    parseInt32 (String.ofList l) = some i ↔ ∃ n : Nat, digitsValue l = some n ∧ n < 2 ^ 31 ∧ i = n := by
  simp only [parseInt32, atoi_digits hl, Option.filter_eq_some_iff, Option.map_eq_some_iff, Bool.and_eq_true,
    decide_eq_true_eq]
  constructor
  · rintro ⟨⟨⟨n, hn, rfl⟩, -, -⟩, -, hlt⟩
    exact ⟨n, hn, by rw [Int.ofNat_eq_natCast] at hlt; omega, rfl⟩
  · rintro ⟨n, hn, hlt, rfl⟩
    refine ⟨⟨⟨n, hn, rfl⟩, ?_, ?_⟩, ?_, ?_⟩ <;> omega

/-! ## The parts of a claim's name -/

/-- The name is `<v>-<sts>-<n>`, where the digits of `n` may be preceded by zeros. -/
def ClaimName (name v stsName : String) (n : Nat) : Prop :=
  ∃ digits, name = v ++ "-" ++ stsName ++ "-" ++ digits ∧ digitsValue digits.toList = some n

def namePattern (stsName : String) : String := "-" ++ stsName ++ "-"

/-- The ordinal in a claim's name: the digits at its end, where they follow the StatefulSet's name. -/
def extractOrdinal (pvcName stsName : String) : Option Int :=
  let front := pvcName.toList.rdropWhile Char.isDigit
  let ordinal := pvcName.toList.rtakeWhile Char.isDigit
  if front = [] ∨ ordinal = [] then none
  else if (namePattern stsName).toList.isSuffixOf front then parseInt32 (String.ofList ordinal)
  else none

/-- The volume in a claim's name: the text before the last occurrence of the StatefulSet's name,
where a number follows it. -/
def extractVolumeName (pvcName stsName : String) : Option String :=
  match Cut.cutLast (namePattern stsName).toList pvcName.toList with
  | none => none
  | some (volume, suffix) =>
    if volume = [] then none
    else if suffix = [] then none
    else (parseInt32 (String.ofList suffix)).map fun _ => String.ofList volume

theorem toList_namePattern (stsName : String) : (namePattern stsName).toList = '-' :: stsName.toList ++ ['-'] := by
  simp [namePattern]

theorem claimName_iff {v : String} {n : Nat} :
    ClaimName name v stsName n ↔
      ∃ digits, name.toList = v.toList ++ ('-' :: stsName.toList ++ ['-']) ++ digits ∧ digitsValue digits = some n := by
  constructor
  · rintro ⟨digits, rfl, hvalue⟩
    exact ⟨digits.toList, by simp, hvalue⟩
  · rintro ⟨digits, hname, hvalue⟩
    refine ⟨String.ofList digits, String.toList_inj.1 ?_, by rwa [String.toList_ofList]⟩
    rw [hname]
    simp

theorem claimName_pvcName (v stsName : String) (n : Nat) : ClaimName (pvcName v stsName n) v stsName n :=
  ⟨toString n, rfl, by rw [← digitsValue_toDigits n, ← Nat.toList_repr]; rfl⟩

theorem extractOrdinal_eq_some {i : Int} :
    extractOrdinal name stsName = some i ↔ ∃ v n, ClaimName name v stsName n ∧ n < 2 ^ 31 ∧ i = n := by
  constructor
  · intro h
    unfold extractOrdinal at h
    simp only at h
    split at h
    case isTrue => cases h
    case isFalse hne =>
      split at h
      case isTrue hsuffix =>
        obtain ⟨v, hv⟩ := List.isSuffixOf_iff_suffix.1 hsuffix
        obtain ⟨n, hn, hlt, rfl⟩ := (parseInt32_digits fun c hc => List.mem_rtakeWhile_imp hc).1 h
        refine ⟨String.ofList v, n, claimName_iff.2 ⟨_, ?_, hn⟩, hlt, rfl⟩
        rw [String.toList_ofList, ← toList_namePattern, hv, List.rdropWhile_append_rtakeWhile]
      case isFalse => cases h
  · rintro ⟨v, n, hname, hlt, rfl⟩
    obtain ⟨digits, hname, hvalue⟩ := claimName_iff.1 hname
    have hdigits := isDigit_of_digitsValue hvalue
    have hdash : Char.isDigit '-' = false := by decide
    have hcut : name.toList = v.toList ++ '-' :: stsName.toList ++ ['-'] ++ digits := by
      rw [hname]
      simp
    unfold extractOrdinal
    rw [hcut, Cut.rdropWhile_append hdash hdigits, Cut.rtakeWhile_append hdash hdigits]
    simp only
    rw [if_neg (by simp [ne_nil_of_digitsValue hvalue]), if_pos, parseInt32_digits hdigits]
    · exact ⟨n, hvalue, hlt, rfl⟩
    · exact List.isSuffixOf_iff_suffix.2 ⟨v.toList, by rw [toList_namePattern]; simp⟩

/-- The second parser cuts a name where the first one does; it refuses an empty volume. -/
theorem extractVolumeName_claimName {v : String} {n : Nat} (h : ClaimName name v stsName n) (hn : n < 2 ^ 31) :
    extractVolumeName name stsName = if v = "" then none else some v := by
  obtain ⟨digits, hname, hvalue⟩ := claimName_iff.1 h
  have hdash : '-' ∉ digits := fun hmem => absurd (isDigit_of_digitsValue hvalue '-' hmem) (by decide)
  have hparse : parseInt32 (String.ofList digits) = some (n : Int) :=
    (parseInt32_digits (isDigit_of_digitsValue hvalue)).2 ⟨n, hvalue, hn, rfl⟩
  unfold extractVolumeName
  rw [hname, toList_namePattern, Cut.cutLast_append hdash]
  simp only [if_neg (ne_nil_of_digitsValue hvalue), hparse, Option.map_some, String.ofList_toList,
    String.toList_eq_nil_iff]

/-- A name that reads as a claim of two StatefulSets has one ordinal, and the same text before it. -/
theorem claimName_inj {v v' stsName' : String} {n n' : Nat} (h : ClaimName name v stsName n)
    (h' : ClaimName name v' stsName' n') : v ++ "-" ++ stsName = v' ++ "-" ++ stsName' ∧ n = n' := by
  have hdash : Char.isDigit '-' = false := by decide
  have hcut : ∀ {v stsName n}, ClaimName name v stsName n →
      name.toList.rdropWhile Char.isDigit = (v ++ "-" ++ stsName).toList ++ ['-'] ∧
        digitsValue (name.toList.rtakeWhile Char.isDigit) = some n := by
    intro v stsName n h
    obtain ⟨digits, hname, hvalue⟩ := claimName_iff.1 h
    have hdigits := isDigit_of_digitsValue hvalue
    have hname : name.toList = (v ++ "-" ++ stsName).toList ++ ['-'] ++ digits := by
      rw [hname]
      simp
    rw [hname, Cut.rdropWhile_append hdash hdigits, Cut.rtakeWhile_append hdash hdigits]
    exact ⟨rfl, hvalue⟩
  obtain ⟨hfront, hvalue⟩ := hcut h
  obtain ⟨hfront', hvalue'⟩ := hcut h'
  rw [hfront] at hfront'
  rw [hvalue] at hvalue'
  exact ⟨String.toList_inj.1 (List.append_cancel_right hfront'), Option.some.inj hvalue'⟩

/-! ## The two parsers on any name -/

/-- One of the parsers takes the name for a claim of the StatefulSet. -/
def Parses (name stsName : String) : Prop :=
  (extractOrdinal name stsName).isSome = true ∨ (extractVolumeName name stsName).isSome = true

def trailingDigits (name : String) : String := String.ofList (name.toList.rtakeWhile Char.isDigit)

theorem atoi_shape {s : String} (h : (atoi s).isSome = true) :
    ∃ sign digits, s.toList = sign ++ digits ∧ (sign = [] ∨ ∃ c, sign = [c] ∧ c.isDigit = false) ∧
      ∀ c ∈ digits, c.isDigit = true := by
  unfold atoi at h
  obtain ⟨i, hi⟩ := Option.isSome_iff_exists.1 h
  obtain ⟨hi, -⟩ := Option.filter_eq_some_iff.1 hi
  split at hi
  case h_1 digits hs =>
    obtain ⟨n, hn, -⟩ := Option.map_eq_some_iff.1 hi
    exact ⟨['+'], digits, hs, Or.inr ⟨'+', rfl, by decide⟩, isDigit_of_digitsValue hn⟩
  case h_2 digits hs =>
    obtain ⟨n, hn, -⟩ := Option.map_eq_some_iff.1 hi
    exact ⟨['-'], digits, hs, Or.inr ⟨'-', rfl, by decide⟩, isDigit_of_digitsValue hn⟩
  case h_3 =>
    obtain ⟨n, hn, -⟩ := Option.map_eq_some_iff.1 hi
    exact ⟨[], _, rfl, Or.inl rfl, isDigit_of_digitsValue hn⟩

theorem shape_of_parses (h : Parses name stsName) :
    ∃ v sign digits, name.toList = v ++ '-' :: stsName.toList ++ '-' :: sign ++ digits ∧
      (sign = [] ∨ ∃ c, sign = [c] ∧ c.isDigit = false) ∧ ∀ c ∈ digits, c.isDigit = true := by
  rcases h with h | h
  · obtain ⟨i, hi⟩ := Option.isSome_iff_exists.1 h
    obtain ⟨v, n, hname, -, -⟩ := extractOrdinal_eq_some.1 hi
    obtain ⟨digits, hname, hvalue⟩ := claimName_iff.1 hname
    exact ⟨v.toList, [], digits, by rw [hname]; simp, Or.inl rfl, isDigit_of_digitsValue hvalue⟩
  · unfold extractVolumeName at h
    split at h
    case h_1 => cases h
    case h_2 volume suffix hcut =>
      have hname := Cut.eq_append_of_cutLast hcut
      split at h
      case isTrue => cases h
      split at h
      case isTrue => cases h
      rw [Option.isSome_map] at h
      have hatoi : (atoi (String.ofList suffix)).isSome = true := by
        obtain ⟨i, hi⟩ := Option.isSome_iff_exists.1 h
        exact Option.isSome_iff_exists.2 ⟨i, (Option.filter_eq_some_iff.1 hi).1⟩
      obtain ⟨sign, digits, hsuffix, hsign, hdigits⟩ := atoi_shape hatoi
      rw [String.toList_ofList] at hsuffix
      exact ⟨volume, sign, digits, by rw [hname, hsuffix, toList_namePattern]; simp, hsign, hdigits⟩

/-- The rack's id stands in the name behind the last digits but the ordinal's own. -/
theorem rack_of_parses {c : String} {i : Int} (hi : 0 ≤ i) (h : Parses name (statefulSetName c i)) :
    ∃ v, (name.toList.rdropWhile Char.isDigit).rdropWhile (fun c => !c.isDigit) =
      (v ++ '-' :: c.toList) ++ '-' :: Nat.toDigits 10 i.natAbs := by
  obtain ⟨v, sign, digits, hname, hsign, hdigits⟩ := shape_of_parses h
  have hdash : Char.isDigit '-' = false := by decide
  have hsts : (statefulSetName c i).toList = c.toList ++ '-' :: Nat.toDigits 10 i.natAbs := by
    rw [statefulSetName, String.toList_append, String.toList_append, toList_toString_int, if_neg (not_lt.2 hi)]
    simp
  -- the id ends in a digit, and what follows it up to the ordinal has none
  obtain hnil | ⟨init, last, hlast⟩ := List.eq_nil_or_concat (Nat.toDigits 10 i.natAbs)
  · exact absurd hnil Nat.toDigits_ne_nil
  have hdigit : (!last.isDigit) = false := by
    have hmem : last ∈ Nat.toDigits 10 i.natAbs := by simp [hlast]
    rw [Nat.isDigit_of_mem_toDigits (by omega) (le_refl _) hmem]
    rfl
  refine ⟨v, ?_⟩
  rcases hsign with rfl | ⟨x, rfl, hx⟩
  · rw [hname, hsts, Cut.rdropWhile_append hdash hdigits, hlast]
    have htail : ∀ x ∈ ['-'], (!x.isDigit) = true := by simp [hdash]
    have hdrop := @Cut.rdropWhile_append _ _ (v ++ '-' :: c.toList ++ '-' :: init) _ _ hdigit htail
    simpa using hdrop
  · have hcut : name.toList = (v ++ '-' :: (statefulSetName c i).toList ++ ['-']) ++ [x] ++ digits := by
      rw [hname]
      simp
    rw [hcut, hsts, Cut.rdropWhile_append hx hdigits, hlast]
    have htail : ∀ y ∈ ['-', x], (!y.isDigit) = true := by simp [hdash, hx]
    have hdrop := @Cut.rdropWhile_append _ _ (v ++ '-' :: c.toList ++ '-' :: init) _ _ hdigit htail
    simpa using hdrop

/-- The parsers read back the name of every claim, agree on every name, and take no name for the
claim of two racks. -/
theorem claim_name_parsing :
    (∀ v stsName n, v ≠ "" → n < 2 ^ 31 → extractOrdinal (pvcName v stsName n) stsName = some (n : Int) ∧
      extractVolumeName (pvcName v stsName n) stsName = some v) ∧
    (∀ name stsName, (extractOrdinal name stsName).isSome = true →
      (namePattern stsName ++ trailingDigits name).length < name.length →
      ∃ volume, extractVolumeName name stsName = some volume ∧
        name = volume ++ "-" ++ stsName ++ "-" ++ trailingDigits name) ∧
    ∀ name clusterName (i j : Int), 0 ≤ i → 0 ≤ j → Parses name (statefulSetName clusterName i) →
      Parses name (statefulSetName clusterName j) → i = j := by
  refine ⟨?_, ?_, ?_⟩
  · intro v stsName n hv hn
    have hname := claimName_pvcName v stsName n
    exact ⟨extractOrdinal_eq_some.2 ⟨v, n, hname, hn, rfl⟩, by rw [extractVolumeName_claimName hname hn, if_neg hv]⟩
  · intro name stsName h hlong
    obtain ⟨i, hi⟩ := Option.isSome_iff_exists.1 h
    obtain ⟨v, n, hname, hn, -⟩ := extractOrdinal_eq_some.1 hi
    have hread := extractVolumeName_claimName hname hn
    obtain ⟨digits, heq, hvalue⟩ := hname
    have htrail : trailingDigits name = digits := by
      have hcut : name.toList = (v ++ "-" ++ stsName).toList ++ ['-'] ++ digits.toList := by
        rw [heq]
        simp
      rw [trailingDigits, hcut, Cut.rtakeWhile_append (by decide) (isDigit_of_digitsValue hvalue), String.ofList_toList]
    have hv : v ≠ "" := by
      rintro rfl
      rw [htrail, heq] at hlong
      simp [namePattern] at hlong
    exact ⟨v, by rw [hread, if_neg hv], by rw [htrail]; exact heq⟩
  · intro name clusterName i j hi hj h h'
    obtain ⟨v, hv⟩ := rack_of_parses hi h
    obtain ⟨v', hv'⟩ := rack_of_parses hj h'
    rw [hv] at hv'
    have hdash : ∀ n : Nat, '-' ∉ Nat.toDigits 10 n := fun n hmem => (toDigits_ne_sign hmem).2 rfl
    have hdigits := (Cut.append_cons_inj_last (hdash _) (hdash _) hv').2
    have habs := toDigits_injective hdigits
    omega

theorem claim_name_parsing_data : extractOrdinal (pvcName "data" "db-1" 12) "db-1" = some 12 ∧
    extractVolumeName (pvcName "data" "db-1" 12) "db-1" = some "data" :=
  claim_name_parsing.1 "data" "db-1" 12 (by decide) (by decide)

example : extractOrdinal "data-db-1-12" "db-1" = some 12 ∧ extractVolumeName "data-db-1-12" "db-1" = some "data" ∧
    extractOrdinal "data-db-1-x" "db-1" = none ∧ extractVolumeName "-db-1-3" "db-1" = none := by
  decide +kernel

end Acko
