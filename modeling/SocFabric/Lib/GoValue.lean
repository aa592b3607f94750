import Mathlib.Data.Rat.Floor

/-!
# Values of Go's `interface{}`

The dynamic values a `map[string]interface{}` holds, with their types: an `int` is not a `float64`.
Finite floats are rational numbers. What Go leaves to the implementation, and the text of a float,
is a `GoPlatform`.
-/

inductive GoValue
  | nil
  | bool (b : Bool)
  | int (n : Int)
  | float64 (x : Rat)
  | string (s : String)
  | slice (elems : List GoValue)
  | map (entries : List (String × GoValue))

/-- The result of an integer conversion whose value does not fit, and `strconv` of a float. -/
structure GoPlatform where
  uint16OutOfRange : Rat → UInt16
  uint64OutOfRange : Rat → UInt64
  formatFloat : Rat → String

namespace GoPlatform

variable (go : GoPlatform)

def trunc (x : Rat) : Int := if 0 ≤ x then x.floor else x.ceil

def uint16 (x : Rat) : UInt16 :=
  if 0 ≤ trunc x ∧ trunc x < 65536 then .ofNat (trunc x).toNat else go.uint16OutOfRange x

def uint64 (x : Rat) : UInt64 :=
  if 0 ≤ trunc x ∧ trunc x < 18446744073709551616 then .ofNat (trunc x).toNat
  else go.uint64OutOfRange x

@[simp] theorem uint16_zero : go.uint16 0 = 0 := rfl

mutual

/-- `fmt.Sprintf("%v", v)`; the entries of a map in key order. -/
def format : GoValue → String
  | .nil => "<nil>"
  | .bool b => toString b
  | .int n => toString n
  | .float64 x => go.formatFloat x
  | .string s => s
  | .slice elems => "[" ++ " ".intercalate (formatAll elems) ++ "]"
  | .map entries =>
    "map[" ++ " ".intercalate (((formatEntries entries).mergeSort (·.1 ≤ ·.1)).map
      fun e => e.1 ++ ":" ++ e.2) ++ "]"

def formatAll : List GoValue → List String
  | [] => []
  | v :: vs => format v :: formatAll vs

def formatEntries : List (String × GoValue) → List (String × String)
  | [] => []
  | (k, v) :: es => (k, format v) :: formatEntries es

end

end GoPlatform
