/-
Names of Kubernetes objects and the numbers read back from them, and the integer-or-percentage
fields of the spec.
-/
import Mathlib.Algebra.Group.Int.Defs
import Mathlib.Algebra.Group.Nat.Defs
import Mathlib.Data.String.Basic

namespace Acko

/-! ## Integers in texts -/

/-- The number a non-empty list of decimal digits stands for. -/
def digitsValue (l : List Char) : Option Nat :=
  if l ≠ [] ∧ l.all Char.isDigit then some (Nat.ofDigitChars 10 l 0) else none

/-- `strconv.Atoi`: an optional sign and decimal digits, within 64 bits. -/
def atoi (s : String) : Option Int :=
  let signed : Option Int := match s.toList with
    | '+' :: l => (digitsValue l).map Int.ofNat
    | '-' :: l => (digitsValue l).map fun n => -Int.ofNat n
    | l => (digitsValue l).map Int.ofNat
  signed.filter fun i => -2 ^ 63 ≤ i && i < 2 ^ 63

def afterLastDash (name : String) : Option String :=
  if '-' ∈ name.toList then
    some (String.ofList (name.toList.reverse.takeWhile (· ≠ '-')).reverse)
  else none

/-- The ordinal of a StatefulSet's pod by its name; 0 where the name has none. -/
def podOrdinal (podName : String) : Int :=
  match afterLastDash podName with
  | none => 0
  | some suffix => (atoi suffix).getD 0

def statefulSetName (clusterName : String) (rackID : Int) : String :=
  clusterName ++ "-" ++ toString rackID

def configMapName (clusterName : String) (rackID : Int) : String :=
  clusterName ++ "-" ++ toString rackID ++ "-config"

def trimPrefix (s pre : String) : String :=
  if pre.toList.isPrefixOf s.toList then String.ofList (s.toList.drop pre.length) else s

variable (stsName : String)

def podName (ordinal : Nat) : String := stsName ++ "-" ++ toString ordinal

def isLowerAlnum (c : Char) : Bool := c.isLower || c.isDigit

/-- An RFC 1123 label: lower-case letters, digits and dashes, at most 63 of them, no dash at either end. -/
def isDNSLabel (s : String) : Bool :=
  s.toList.all (fun c => isLowerAlnum c || c = '-') && s.toList.head?.any isLowerAlnum &&
    s.toList.getLast?.any isLowerAlnum && s.length ≤ 63

theorem digitsValue_toDigits (n : Nat) : digitsValue (Nat.toDigits 10 n) = some n := by
  have hall : (Nat.toDigits 10 n).all Char.isDigit = true := by
    rw [List.all_eq_true]
    intro c hc
    exact Nat.isDigit_of_mem_toDigits (by omega) (le_refl _) hc
  rw [digitsValue, if_pos ⟨Nat.toDigits_ne_nil, hall⟩, Nat.ofDigitChars_toDigits (by omega) (le_refl _)]

theorem toDigits_injective {n m : Nat} (h : Nat.toDigits 10 n = Nat.toDigits 10 m) : n = m := by
  have hvalue := digitsValue_toDigits n
  rw [h, digitsValue_toDigits] at hvalue
  exact (Option.some.inj hvalue).symm

theorem podName_injective : Function.Injective (podName stsName) := by
  intro i j h
  have h : (stsName ++ "-" ++ toString i).toList = (stsName ++ "-" ++ toString j).toList := congrArg String.toList h
  simp only [String.toList_append, List.append_cancel_left_eq] at h
  refine toDigits_injective ?_
  rw [← Nat.toList_repr, ← Nat.toList_repr]
  exact h

theorem toDigits_ne_sign {n : Nat} {c : Char} (hc : c ∈ Nat.toDigits 10 n) : c ≠ '+' ∧ c ≠ '-' := by
  have hd := Nat.isDigit_of_mem_toDigits (by omega) (le_refl _) hc
  constructor <;> rintro rfl <;> exact absurd hd (by decide)

theorem atoi_toDigits {n : Nat} (h : n < 2 ^ 63) : atoi (String.ofList (Nat.toDigits 10 n)) = some (n : Int) := by
  have hvalue := digitsValue_toDigits n
  have hsign := fun c => @toDigits_ne_sign n c
  have hrange : ((-2 ^ 63 ≤ (n : Int)) && ((n : Int) < 2 ^ 63)) = true := by
    rw [Bool.and_eq_true, decide_eq_true_eq, decide_eq_true_eq]
    omega
  unfold atoi
  rw [String.toList_ofList]
  generalize Nat.toDigits 10 n = l at hvalue hsign ⊢
  split
  · exact absurd rfl (hsign '+' (List.mem_cons_self ..)).1
  · exact absurd rfl (hsign '-' (List.mem_cons_self ..)).2
  · rw [hvalue, Option.map_some]
    exact Option.filter_some_pos hrange

theorem atoi_neg_toDigits {n : Nat} (h : n ≤ 2 ^ 63) :
    atoi ("-" ++ String.ofList (Nat.toDigits 10 n)) = some (-(n : Int)) := by
  have hrange : ((-2 ^ 63 ≤ -(n : Int)) && (-(n : Int) < 2 ^ 63)) = true := by
    rw [Bool.and_eq_true, decide_eq_true_eq, decide_eq_true_eq]
    omega
  have hchars : ("-" ++ String.ofList (Nat.toDigits 10 n)).toList = '-' :: Nat.toDigits 10 n := by simp
  unfold atoi
  rw [hchars]
  split
  · rename_i hsign
    cases hsign
  · rename_i l hsign
    rw [← (List.cons.inj hsign).2, digitsValue_toDigits, Option.map_some]
    exact Option.filter_some_pos hrange
  · rename_i l hminus hsign
    exact absurd rfl (hsign _)

theorem atoi_toString {i : Int} (h : -2 ^ 63 ≤ i ∧ i < 2 ^ 63) : atoi (toString i) = some i := by
  cases i with
  | ofNat n =>
    have hprint : toString (Int.ofNat n) = String.ofList (Nat.toDigits 10 n) := rfl
    rw [hprint, atoi_toDigits (by have := h.2; rw [Int.ofNat_eq_natCast] at this; omega)]
    rfl
  | negSucc n =>
    have hprint : toString (Int.negSucc n) = "-" ++ String.ofList (Nat.toDigits 10 (n + 1)) := rfl
    rw [hprint, atoi_neg_toDigits (by have := h.1; rw [Int.negSucc_eq] at this; omega)]
    rfl

theorem toList_toString_int (i : Int) :
    (toString i).toList = (if i < 0 then ['-'] else []) ++ Nat.toDigits 10 i.natAbs := by
  cases i with
  | ofNat n =>
    have hprint : toString (Int.ofNat n) = String.ofList (Nat.toDigits 10 n) := rfl
    have hsign : ¬ Int.ofNat n < 0 := by simp
    rw [hprint, if_neg hsign, String.toList_ofList]
    rfl
  | negSucc n =>
    have hprint : toString (Int.negSucc n) = "-" ++ String.ofList (Nat.toDigits 10 (n + 1)) := rfl
    have habs : (Int.negSucc n).natAbs = n + 1 := rfl
    rw [hprint, if_pos (Int.negSucc_lt_zero n), habs, String.toList_append, String.toList_ofList, String.toList_ofList]

theorem isDigit_of_mem_toString_int {i : Int} {c : Char} (h : c ∈ (toString i).toList) :
    c = '-' ∨ c.isDigit = true := by
  rw [toList_toString_int] at h
  rcases List.mem_append.1 h with hsign | hdigit
  · split at hsign
    · exact Or.inl (List.mem_singleton.1 hsign)
    · cases hsign
  · exact Or.inr (Nat.isDigit_of_mem_toDigits (by omega) (le_refl _) hdigit)

theorem toString_int_injective {i j : Int} (h : toString i = toString j) : i = j := by
  have hsign : ∀ {n m : Nat}, Nat.toDigits 10 n ≠ '-' :: Nat.toDigits 10 m := by
    intro n m heq
    exact absurd rfl (@toDigits_ne_sign n '-' (heq ▸ List.mem_cons_self)).2
  have hlist := congrArg String.toList h
  rw [toList_toString_int, toList_toString_int] at hlist
  by_cases hi : i < 0 <;> by_cases hj : j < 0 <;> simp only [hi, hj, if_true, if_false, List.nil_append,
    List.singleton_append] at hlist
  · have habs := toDigits_injective (List.cons.inj hlist).2
    omega
  · exact absurd hlist.symm hsign
  · exact absurd hlist hsign
  · have habs := toDigits_injective hlist
    omega

theorem slash_not_mem_toString_int (i : Int) : '/' ∉ (toString i).toList := by
  intro h
  rcases isDigit_of_mem_toString_int h with hc | hc
  · cases hc
  · exact absurd hc (by decide)

theorem afterLastDash_podName (n : Nat) :
    afterLastDash (podName stsName n) = some (String.ofList (Nat.toDigits 10 n)) := by
  have hname : (podName stsName n).toList = stsName.toList ++ '-' :: Nat.toDigits 10 n := by
    rw [podName, String.toList_append, String.toList_append, List.append_assoc, ← Nat.toList_repr]
    rfl
  have hdigits : ∀ c ∈ (Nat.toDigits 10 n).reverse, decide (c ≠ '-') = true := by
    intro c hc
    exact decide_eq_true (toDigits_ne_sign (List.mem_reverse.1 hc)).2
  rw [afterLastDash, hname, if_pos (by simp), List.reverse_append, List.reverse_cons, List.append_assoc,
    List.takeWhile_append_of_pos hdigits]
  simp

theorem podOrdinal_podName {n : Nat} (h : n < 2 ^ 63) : podOrdinal (podName stsName n) = n := by
  rw [podOrdinal, afterLastDash_podName]
  simp only [atoi_toDigits h, Option.getD_some]

example : podOrdinal "db-1-12" = 12 ∧ podOrdinal "db" = 0 ∧ podOrdinal "db-x" = 0 := by decide

/-! ## Integers or percentages -/

/-- `intstr.IntOrString`. -/
inductive IntOrString
  | int (v : Int)
  | str (s : String)
  deriving DecidableEq, Repr

/-- A text without its `%` sign, where it ends in one (`strings.CutSuffix(s, "%")`). -/
def cutPercent (s : String) : Option String :=
  if s.toList.getLast? = some '%' then some (String.ofList s.toList.dropLast) else none

/-- `intstr.GetScaledValueFromIntOrPercent` rounding up: the integer itself, or the percentage of
the total; an error for a text that is not a percentage. -/
def getScaledValueFromIntOrPercent (val : IntOrString) (total : Int) : Option Int :=
  match val with
  | .int v => some v
  | .str s => do
    let n ← cutPercent s
    let v ← atoi n
    some ((v * total + 99) / 100)

/-- `resolveIntOrPercent`: at least 1, also for an unset or a malformed value. -/
def resolveIntOrPercent (val : Option IntOrString) (total : Int) : Int :=
  match val with
  | none => 1
  | some (.int v) => if v < 1 then 1 else v
  | some (.str s) =>
    match getScaledValueFromIntOrPercent (.str s) total with
    | none => 1
    | some pct => if pct < 1 then 1 else pct

theorem one_le_resolveIntOrPercent (val : Option IntOrString) (total : Int) :
    1 ≤ resolveIntOrPercent val total := by
  unfold resolveIntOrPercent
  split
  · exact le_refl _
  · split <;> omega
  · split
    · exact le_refl _
    · split <;> omega

/-- An explicit zero: the integer 0 or the text `0%`. -/
def isExplicitZeroIntOrPercent : IntOrString → Bool
  | .int v => v = 0
  | .str s => match cutPercent s with
    | none => false
    | some n => atoi n = some 0

example : resolveIntOrPercent (some (.str "25%")) 6 = 2 ∧ resolveIntOrPercent (some (.str "x")) 6 = 1 := by
  decide

end Acko
