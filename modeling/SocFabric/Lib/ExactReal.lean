import Mathlib.Analysis.Real.Sqrt
import SocFabric.Lib.PyNum

/-!
# Exact arithmetic

`ExactReal` says that the operations of a Python arithmetic on the reals are the mathematical ones
and never raise, apart from a division by zero. How other values convert to numbers, and how a
number is rounded for display, stays open.
-/

class ExactReal [PyNum ℝ] : Prop where
  ofInt (n : Int) : PyNum.ofInt n = (n : ℝ)
  lit (q : Rat) : PyNum.lit q = (q : ℝ)
  add (x y : ℝ) : PyNum.add x y = some (x + y)
  sub (x y : ℝ) : PyNum.sub x y = some (x - y)
  mul (x y : ℝ) : PyNum.mul x y = some (x * y)
  div (x y : ℝ) : y ≠ 0 → PyNum.div x y = some (x / y)
  square (x : ℝ) : PyNum.square x = some (x ^ 2)
  sqrt (x : ℝ) : PyNum.sqrt x = √x
  le (x y : ℝ) : PyNum.le x y = true ↔ x ≤ y
  lt (x y : ℝ) : PyNum.lt x y = true ↔ x < y
  isZero (x : ℝ) : PyNum.isZero x = true ↔ x = 0

namespace ExactReal

noncomputable section
open Classical

/-- Texts convert as decimal integers. -/
instance pyNumReal : PyNum ℝ where
  ofInt n := n
  lit q := q
  float n := some n
  textFloat s := (decimalInt s).map fun n => (n : ℝ)
  toInt x := some (if 0 ≤ x then ⌊x⌋ else ⌈x⌉)
  textInt := decimalInt
  add x y := some (x + y)
  sub x y := some (x - y)
  mul x y := some (x * y)
  div x y := if y = 0 then none else some (x / y)
  square x := some (x ^ 2)
  sqrt x := √x
  round2 x := (round (x * 100) : ℝ) / 100
  le x y := decide (x ≤ y)
  lt x y := decide (x < y)
  isZero x := decide (x = 0)

instance : ExactReal where
  ofInt _ := rfl
  lit _ := rfl
  add _ _ := rfl
  sub _ _ := rfl
  mul _ _ := rfl
  div _ _ h := if_neg h
  square _ := rfl
  sqrt _ := rfl
  le _ _ := decide_eq_true_iff
  lt _ _ := decide_eq_true_iff
  isZero _ := decide_eq_true_iff

end

end ExactReal
