import Mathlib.Data.Rat.Defs

/-!
# JSON values

A decoded JSON document, as Python dicts and Go `interface{}` values hold it; the members of an
object are listed in order.
-/

inductive Json
  | null
  | bool (b : Bool)
  | num (n : Rat)
  | str (s : String)
  | arr (elems : List Json)
  | obj (members : List (String × Json))

namespace Json

/-- Python truth. -/
def truth : Json → Bool
  | null => false
  | bool b => b
  | num n => n ≠ 0
  | str s => s ≠ ""
  | arr elems => !elems.isEmpty
  | obj members => !members.isEmpty

/-- JavaScript truth: lists and objects are always true. -/
def jsTruth : Json → Bool
  | null => false
  | bool b => b
  | num n => n ≠ 0
  | str s => s ≠ ""
  | arr _ | obj _ => true

theorem jsTruth_of_truth {v : Json} (h : v.truth = true) : v.jsTruth = true := by
  cases v <;> first | exact h | rfl

/-- `d.get(key)` with a Python truth test on the result. -/
def getTrue (members : List (String × Json)) (key : String) : Option Json :=
  match members.lookup key with
  | some v => if v.truth then some v else none
  | none => none

theorem truth_getTrue {members : List (String × Json)} {key : String} {v : Json}
    (h : getTrue members key = some v) : v.truth = true := by
  unfold getTrue at h
  split at h
  · split_ifs at h with htrue
    cases h
    exact htrue
  · cases h

end Json
