import SocFabric.Lib.Float64

/-!
# Python's ints and finite floats

`RoundingPyNum` says how Python compares numbers and divides ints: comparison is exact, and `a / b`
is the double nearest to the quotient, or an `OverflowError` where there is none. `PyNumber` is the
arithmetic with these laws: an int stays exact, a float is rounded after each operation.
-/

class RoundingPyNum (R : Type) [PyNum R] : Prop where
  le_ofInt (m n : Int) : PyNum.le (PyNum.ofInt m : R) (PyNum.ofInt n) = decide (m ≤ n)
  lt_ofInt (m n : Int) : PyNum.lt (PyNum.ofInt m : R) (PyNum.ofInt n) = decide (m < n)
  le_lit {x y : Rat} (hx : Float64.round x = some x) (hy : Float64.round y = some y) :
    PyNum.le (PyNum.lit x : R) (PyNum.lit y) = decide (x ≤ y)
  div_ofInt {m n : Int} (hm : 0 < m) (hn : 0 < n) :
    PyNum.div (PyNum.ofInt m : R) (PyNum.ofInt n) =
      (Float64.round ((m : Rat) / n)).map PyNum.lit

inductive PyNumber
  | int (n : Int)
  | float (x : Rat)
deriving DecidableEq, Repr

namespace PyNumber

def val : PyNumber → Rat
  | int n => n
  | float x => x

/-- The float nearest to a number; without infinities an overflow has no answer. -/
def ofRat (x : Rat) : Option PyNumber := (Float64.round x).map float

/-- An operation that is exact on ints. -/
def lift (onInts : Int → Int → Int) (onFloats : Rat → Rat → Rat) : PyNumber → PyNumber →
    Option PyNumber
  | int m, int n => some (int (onInts m n))
  | x, y => ofRat (onFloats x.val y.val)

instance : PyNum PyNumber where
  ofInt n := int n
  lit x := float ((Float64.round x).getD x)
  float n := ofRat n
  textFloat s := (decimalInt s).bind fun n => ofRat n
  toInt x := some (if 0 ≤ x.val then x.val.floor else x.val.ceil)
  textInt := decimalInt
  add := lift (· + ·) (· + ·)
  sub := lift (· - ·) (· - ·)
  mul := lift (· * ·) (· * ·)
  div x y := if y.val = 0 then none else ofRat (x.val / y.val)
  square x := lift (· * ·) (· * ·) x x
  sqrt x := float (((x.val * 10 ^ 32).floor.toNat.sqrt : Rat) / 10 ^ 16)
  round2
    | int n => int n
    | float x => float ((Float64.round ((roundEven (x * 100) : Rat) / 100)).getD x)
  le x y := x.val ≤ y.val
  lt x y := x.val < y.val
  isZero x := x.val = 0

instance : RoundingPyNum PyNumber where
  le_ofInt m n := by simp [PyNum.le, PyNum.ofInt, val]
  lt_ofInt m n := by simp [PyNum.lt, PyNum.ofInt, val]
  le_lit hx hy := by simp [PyNum.le, PyNum.lit, val, hx, hy]
  div_ofInt {m n} hm hn := by
    have hne : (int n).val ≠ 0 := Int.cast_ne_zero.mpr hn.ne'
    have hdiv : PyNum.div (int m) (int n) = (Float64.round ((m : Rat) / n)).map float := if_neg hne
    change PyNum.div (int m) (int n) = _
    rw [hdiv]
    cases hround : Float64.round ((m : Rat) / n) with
    | none => rfl
    | some x => simp [PyNum.lit, Float64.round_round hround]

end PyNumber
