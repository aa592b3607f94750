import Mathlib.Data.Rat.Floor

/-!
# Python numbers

`PyNum R` is an arithmetic of Python's ints and floats: `R` holds the numbers, and an operation that
may raise (an `OverflowError`, a `ValueError` of a conversion) answers an option. Nothing is assumed
of the operations, so rounding floats are an instance as well as exact rationals.
-/

class PyNum (R : Type) where
  ofInt : Int → R -- an int object
  lit : Rat → R -- a float literal
  float : Int → Option R -- `float(n)` of an int
  textFloat : String → Option R -- `float(text)`
  toInt : R → Option Int -- `int(x)` of a float
  textInt : String → Option Int -- `int(text)`
  add : R → R → Option R
  sub : R → R → Option R
  mul : R → R → Option R
  div : R → R → Option R
  square : R → Option R -- `x ** 2`
  sqrt : R → R
  round2 : R → R -- `round(x, 2)`
  le : R → R → Bool
  lt : R → R → Bool
  isZero : R → Bool

/-- Comparison is a preorder and a division returns unless it is by zero, as for Python's numbers
without NaN. -/
class LawfulPyNum (R : Type) [PyNum R] : Prop where
  le_refl (x : R) : PyNum.le x x = true
  le_trans (x y z : R) : PyNum.le x y = true → PyNum.le y z = true → PyNum.le x z = true
  div (x y : R) : PyNum.isZero y = false → (PyNum.div x y).isSome

/-- A value of a decoded document, or a `datetime` that a caller has put in; `other` is a list or a
dict. -/
inductive PyVal (R : Type)
  | none
  | bool (b : Bool)
  | int (n : Int)
  | num (x : R)
  | str (s : String)
  | datetime (micros : Int) (aware : Bool)
  | other (empty : Bool)
deriving DecidableEq, Repr

namespace PyVal

variable {R : Type} [PyNum R]

/-- `int(v or 0)`. -/
def toInt : PyVal R → Option Int
  | none => some 0
  | bool b => some (if b then 1 else 0)
  | int n => some n
  | num x => if PyNum.isZero x then some 0 else PyNum.toInt x
  | str s => if s = "" then some 0 else PyNum.textInt R s
  | datetime _ _ => Option.none
  | other empty => if empty then some 0 else Option.none

/-- `float(v or 0)`. -/
def toFloat : PyVal R → Option R
  | none => PyNum.float 0
  | bool b => PyNum.float (if b then 1 else 0)
  | int n => PyNum.float n
  | num x => if PyNum.isZero x then PyNum.float 0 else some x
  | str s => if s = "" then PyNum.float 0 else PyNum.textFloat s
  | datetime _ _ => Option.none
  | other empty => if empty then PyNum.float 0 else Option.none

/-- Python truth. -/
def truth : PyVal R → Bool
  | none => false
  | bool b => b
  | int n => n ≠ 0
  | num x => !PyNum.isZero x
  | str s => s ≠ ""
  | datetime _ _ => true
  | other empty => !empty

/-- The number that a comparison with a number looks at; other values raise there. -/
def number : PyVal R → Option R
  | bool b => some (PyNum.ofInt (if b then 1 else 0))
  | int n => some (PyNum.ofInt n)
  | num x => some x
  | none | str _ | datetime _ _ | other _ => Option.none

/-- `v == 0`. -/
def eqZero : PyVal R → Bool
  | bool b => !b
  | int n => n = 0
  | num x => PyNum.isZero x
  | none | str _ | datetime _ _ | other _ => false

/-- The string; other values have no string methods. -/
def text : PyVal R → Option String
  | str s => some s
  | none | bool _ | int _ | num _ | datetime _ _ | other _ => Option.none

end PyVal

/-! ### Exact arithmetic -/

/-- The number that a decimal text denotes. -/
def decimalInt (s : String) : Option Int :=
  if s ≠ "" ∧ s.toList.all (fun c => '0' ≤ c ∧ c ≤ '9') then
    some (s.toList.foldl (fun n c => n * 10 + (c.toNat - 48)) 0)
  else none

/-- The nearest integer, the even one of two. -/
def roundEven (x : Rat) : Int :=
  if x - x.floor < 1 / 2 ∨ (x - x.floor = 1 / 2 ∧ x.floor % 2 = 0) then x.floor else x.floor + 1

/-- Rationals; the square root is cut off after sixteen decimals. -/
instance : PyNum Rat where
  ofInt n := n
  lit x := x
  float n := some n
  textFloat s := (decimalInt s).map fun n => (n : Rat)
  toInt x := some (if 0 ≤ x then x.floor else x.ceil)
  textInt := decimalInt
  add x y := some (x + y)
  sub x y := some (x - y)
  mul x y := some (x * y)
  div x y := if y = 0 then none else some (x / y)
  square x := some (x * x)
  sqrt x := ((x * 10 ^ 32).floor.toNat.sqrt : Rat) / 10 ^ 16
  round2 x := (roundEven (x * 100) : Rat) / 100
  le x y := x ≤ y
  lt x y := x < y
  isZero x := x = 0

instance : LawfulPyNum Rat where
  le_refl x := decide_eq_true (le_refl x)
  le_trans x y z hxy hyz := decide_eq_true ((of_decide_eq_true hxy).trans (of_decide_eq_true hyz))
  div x y hy := by
    have hne : y ≠ 0 := of_decide_eq_false hy
    simp [PyNum.div, hne]
