/-
Config maps with distinct keys, the type tests that the code makes on their values, and the numbers in
them. A number that a JSON decoder has produced is a `float64`; the integers are those the operator
writes itself.
-/
import AckoProofs.Config.Value
import AckoProofs.Lib.TreePath
import Mathlib.Algebra.Group.Int.Defs
import Mathlib.Algebra.Group.Nat.Defs

namespace Acko

/-! ## Maps -/

/-- `map[string]any` as Go holds it: every map in it has distinct keys. -/
structure ConfigMap where
  entries : Config
  distinct : DocTree.wellKeyedFields entries = true

def ConfigMap.empty : ConfigMap := ⟨[], rfl⟩

/-- The override wins, maps are merged. -/
def ConfigMap.deepMerge (base override : ConfigMap) : ConfigMap :=
  ⟨DeepMerge base.entries override.entries, DocTree.wellKeyedFields_merge base.distinct override.distinct⟩

/-- The type assertions `.(map[string]any)`, `.([]any)` and `.(string)`. -/
def Value.asMap : Value → Option Config
  | .map m => some m
  | _ => none
def Value.asList : Value → Option (List Value)
  | .list l => some l
  | _ => none
def Value.asString : Value → Option String
  | .leaf (.str s) => some s
  | _ => none

theorem Value.asMap_eq_some {v : Value} {m : Config} : v.asMap = some m ↔ v = .map m := by
  cases v <;> simp [asMap]

theorem Value.asList_eq_some {v : Value} {l : List Value} : v.asList = some l ↔ v = .list l := by
  cases v <;> simp [asList]

theorem Value.asString_eq_some {v : Value} {s : String} : v.asString = some s ↔ v = .leaf (.str s) := by
  unfold asString
  split <;> simp_all

def Config.section (m : Config) (k : String) : Option Config := (m.lookup k).bind Value.asMap

theorem Config.section_eq_some {m s : Config} {k : String} : m.section k = some s ↔ m.lookup k = some (.map s) := by
  unfold Config.section
  cases m.lookup k <;> simp [Value.asMap_eq_some]

theorem wellKeyed_section {m s : Config} {k : String} (hm : DocTree.wellKeyedFields m = true)
    (h : m.section k = some s) : DocTree.wellKeyedFields s = true :=
  DocTree.wellKeyed_of_lookup hm (Config.section_eq_some.1 h)

/-- A section after a merge: the override's map, merged over the base's where that is a map too; the base's
where the override says nothing. -/
theorem section_merge {base upper : Config} (k : String) (h : DocTree.wellKeyedFields upper = true) :
    Config.section (DocTree.merge base upper) k = match upper.lookup k with
      | none => base.section k
      | some (.map m) => some (match base.section k with
        | some b => DocTree.merge b m
        | none => m)
      | some _ => none := by
  unfold Config.section
  rw [DocTree.lookup_merge k h]
  cases upper.lookup k with
  | none => rfl
  | some v =>
    cases v with
    | leaf s => rfl
    | list l => rfl
    | map m =>
      cases base.lookup k with
      | none => rfl
      | some b => cases b <;> rfl

def namespaceMaps (config : Config) : List Config :=
  (((config.lookup "namespaces").bind Value.asList).getD []).filterMap Value.asMap

def Value.typeName : Value → String
  | .leaf .nil => "<nil>"
  | .leaf (.bool _) => "bool"
  | .leaf (.str _) => "string"
  | .leaf (.int _) => "int"
  | .leaf (.float ..) => "float64"
  | .list _ => "[]interface \x7b\x7d"
  | .map _ => "map[string]interface \x7b\x7d"

/-! ## Numbers -/

/-- The mantissa of a shortest decimal form has no trailing zero. -/
def ShortestForm (mantissa exponent : Int) : Prop := (mantissa = 0 ∧ exponent = 0) ∨ mantissa % 10 ≠ 0

/-- The integer part of `mantissa · 10^exponent`. -/
def floatTrunc (mantissa exponent : Int) : Int :=
  if 0 ≤ exponent then mantissa * (10 ^ exponent.toNat : Nat) else mantissa.tdiv (10 ^ (-exponent).toNat : Nat)

/-- `int(x)` of a `float64`; out of the range of 64 bits it is the least integer, as on amd64. -/
def intOfFloat (mantissa exponent : Int) : Int :=
  let i := floatTrunc mantissa exponent
  if -2 ^ 63 ≤ i ∧ i < 2 ^ 63 then i else -2 ^ 63

/-- The float has no digits after the point. -/
def floatWhole (mantissa exponent : Int) : Bool :=
  decide (0 ≤ exponent) || decide (mantissa.tmod (10 ^ (-exponent).toNat : Nat) = 0)

def floatIsInt (mantissa exponent : Int) : Bool :=
  floatWhole mantissa exponent && decide (intOfFloat mantissa exponent = floatTrunc mantissa exponent)

def floatLt (mantissa exponent n : Int) : Bool :=
  if 0 ≤ exponent then mantissa * (10 ^ exponent.toNat : Nat) < n else mantissa < n * (10 ^ (-exponent).toNat : Nat)
def ltFloat (n mantissa exponent : Int) : Bool :=
  if 0 ≤ exponent then n < mantissa * (10 ^ exponent.toNat : Nat) else n * (10 ^ (-exponent).toNat : Nat) < mantissa

def Value.asInt : Value → Option Int
  | .leaf (.int i) => some i
  | .leaf (.float m e) => if floatIsInt m e then some (floatTrunc m e) else none
  | _ => none

theorem intOfFloat_of_isInt {m e : Int} (h : floatIsInt m e = true) : intOfFloat m e = floatTrunc m e := by
  rw [floatIsInt, Bool.and_eq_true, decide_eq_true_eq] at h
  exact h.2

example : floatIsInt 3 3 = true ∧ floatTrunc 30005 (-1) = 3000 ∧ floatIsInt 30005 (-1) = false ∧
    floatLt 25 (-1) 3 = true ∧ ltFloat 2 25 (-1) = true := by decide

end Acko
