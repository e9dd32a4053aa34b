/-
The values a decoded `aerospikeConfig` holds (`map[string]any` over maps, lists and scalars) and
the text that fmt's `%v` prints for them, which is what a set-config command carries.
-/
import AckoProofs.Lib.Tree
import Mathlib.Data.List.Sort

namespace Acko

/-! ## Values -/

/-- A scalar of a decoded config. A `float64` is given by its shortest decimal form
`mantissa · 10^exponent`. -/
inductive Scalar
  | nil
  | bool (b : Bool)
  | str (s : String)
  | int (i : Int)
  | float (mantissa exponent : Int)
  deriving DecidableEq, Repr

/-- `any` as a config holds it. -/
abbrev Value := DocTree String Scalar

/-- `map[string]any`. -/
abbrev Config := List (String × Value)

namespace Value

/-- Go's `nil` interface: an absent value and a JSON null read alike. -/
def nil : Value := .leaf .nil

def isNil : Value → Bool
  | .leaf .nil => true
  | _ => false

end Value

/-- `m[k]` on a `map[string]any`: nil where the key is absent. -/
def Config.get (m : Config) (k : String) : Value := (m.lookup k).getD Value.nil

/-- `DeepMerge`: the override's values count, and maps on both sides are merged. -/
def DeepMerge (base override : Config) : Config := DocTree.merge base override

/-! ## Printing with `%v` -/

/-- A decimal with the point after `dp` digits (`fmtF`). -/
def fmtF (digits : String) (dp : Int) : String :=
  let n := digits.length
  if dp ≤ 0 then "0." ++ String.ofList (List.replicate (-dp).toNat '0') ++ digits
  else if dp.toNat < n then
    String.ofList (digits.toList.take dp.toNat) ++ "." ++ String.ofList (digits.toList.drop dp.toNat)
  else digits ++ String.ofList (List.replicate (dp.toNat - n) '0')

/-- The exponent form `d.ddde±dd` (`fmtE`). -/
def fmtE (digits : String) (exp : Int) : String :=
  let frac := String.ofList (digits.toList.drop 1)
  let e := toString exp.natAbs
  String.ofList (digits.toList.take 1) ++ (if frac = "" then "" else "." ++ frac) ++ "e" ++
    (if exp < 0 then "-" else "+") ++ (if e.length < 2 then "0" ++ e else e)

/-- `%v` of a `float64` is `%g` with the shortest precision: the exponent form below `1e-4` and
from `1e6` on. -/
def fmtFloat (mantissa exponent : Int) : String :=
  if mantissa = 0 then "0" else
  let digits := toString mantissa.natAbs
  let dp := (digits.length : Int) + exponent
  (if mantissa < 0 then "-" else "") ++
    (if dp - 1 < -4 ∨ 6 ≤ dp - 1 then fmtE digits (dp - 1) else fmtF digits dp)

def Scalar.fmtV : Scalar → String
  | .nil => "<nil>"
  | .bool b => if b then "true" else "false"
  | .str s => s
  | .int i => toString i
  | .float m e => fmtFloat m e

namespace Value

mutual
/-- `fmt.Sprintf("%v", v)`; the entries of a map come out sorted by key. -/
def fmtV : Value → String
  | .leaf s => s.fmtV
  | .list l => "[" ++ " ".intercalate (fmtList l) ++ "]"
  | .map m => "map[" ++ " ".intercalate (((fmtFields m).insertionSort (·.1 ≤ ·.1)).map
      fun e => e.1 ++ ":" ++ e.2) ++ "]"
def fmtList : List Value → List String
  | [] => []
  | v :: l => fmtV v :: fmtList l
def fmtFields : List (String × Value) → List (String × String)
  | [] => []
  | (k, v) :: m => (k, fmtV v) :: fmtFields m
end

end Value

example : fmtFloat 1 6 = "1e+06" ∧ fmtFloat 15 3 = "15000" ∧ fmtFloat 25 (-1) = "2.5" := by decide

end Acko
