import Mathlib.Data.List.Basic
import SocFabric.Lib.Joined
import SocFabric.Lib.Text

/-!
# Patterns with groups

A pattern is a list of tokens: one character of a class, a run of at least one character of a class
(greedy), any text up to the next token (lazy), and the brackets of a group; groups do not nest.
`digit`, `word` and `space` are the classes `\d`, `\w` and `\s`. `find` is `FindStringSubmatch`
under the leftmost-first rule, without the whole match: the texts of the groups in order.
-/

namespace Regex

inductive Token
  | one (cls : Char → Bool)
  | many (cls : Char → Bool)
  | lazyAny (cls : Char → Bool)
  | groupStart
  | groupEnd

def lit (s : String) : List Token := s.toList.map fun c => .one (· = c)

def digit (c : Char) : Bool := '0' ≤ c ∧ c ≤ '9'

def word (c : Char) : Bool := digit c || ('a' ≤ c ∧ c ≤ 'z') || ('A' ≤ c ∧ c ≤ 'Z') || c = '_'

def space (c : Char) : Bool := [' ', '\t', '\n', '\x0c', '\r'].contains c

def hex (c : Char) : Bool := digit c || ('a' ≤ c ∧ c ≤ 'f') || ('A' ≤ c ∧ c ≤ 'F')

def group (ts : List Token) : List Token := .groupStart :: ts ++ [.groupEnd]

/-- The groups of a match of `ts` at the start of `s`. `cur` is the text of the group being read;
of several matches the first one is taken, longer runs first (shorter first if lazy). -/
def matchAt : List Token → Option (List Char) → List Char → Option (List String)
  | [], _, _ => some []
  | .one cls :: ts, cur, s =>
    match s with
    | [] => none
    | c :: s => if cls c then matchAt ts (cur.map (· ++ [c])) s else none
  | .many cls :: ts, cur, s =>
    ((List.range (s.takeWhile cls).length).reverse.map (· + 1)).findSome? fun n =>
      matchAt ts (cur.map (· ++ s.take n)) (s.drop n)
  | .lazyAny cls :: ts, cur, s =>
    (List.range ((s.takeWhile cls).length + 1)).findSome? fun n =>
      matchAt ts (cur.map (· ++ s.take n)) (s.drop n)
  | .groupStart :: ts, _, s => matchAt ts (some []) s
  | .groupEnd :: ts, cur, s => (matchAt ts none s).map (.ofList (cur.getD []) :: ·)

def findIn (ts : List Token) : List Char → Option (List String)
  | [] => matchAt ts none []
  | c :: s => (matchAt ts none (c :: s)).or (findIn ts s)

def find (ts : List Token) (s : String) : Option (List String) := findIn ts s.toList

def find1 (ts : List Token) (s : String) : Option String := (find ts s).bind (·[0]?)

example : find (lit "SRC=" ++ group [.many fun c => hex c || c = '.']) "IN=eth0 SRC=10.0.0.7 DST=1" =
    some ["10.0.0.7"] := by decide +kernel

/-! ### Groups -/

def groups : List Token → Nat
  | [] => 0
  | .groupEnd :: ts => groups ts + 1
  | _ :: ts => groups ts

section
variable {ts : List Token} {cur : Option (List Char)} {s : List Char} {r : List String}

theorem length_of_matchAt (h : matchAt ts cur s = some r) : r.length = groups ts := by
  induction ts generalizing cur s r with
  | nil =>
    cases h
    rfl
  | cons t ts ih =>
    cases t with
    | one cls =>
      cases s with
      | nil => cases h
      | cons c s =>
        rw [matchAt] at h
        split_ifs at h
        exact ih h
    | many cls =>
      obtain ⟨n, -, hn⟩ := List.exists_of_findSome?_eq_some h
      exact ih hn
    | lazyAny cls =>
      obtain ⟨n, -, hn⟩ := List.exists_of_findSome?_eq_some h
      exact ih hn
    | groupStart => exact ih h
    | groupEnd =>
      obtain ⟨r, hr, rfl⟩ := Option.map_eq_some_iff.mp h
      exact congrArg Nat.succ (ih hr)

/-- A match has a text for every group. -/
theorem length_of_findIn (h : findIn ts s = some r) : r.length = groups ts := by
  induction s with
  | nil => exact length_of_matchAt h
  | cons c s ih =>
    rcases Option.or_eq_some_iff.mp h with h | ⟨-, h⟩
    · exact length_of_matchAt h
    · exact ih h

end

/-! ### A key and the run behind it -/

variable {ts : List Token} {cls : Char → Bool} {s x v : List Char}

theorem matchAt_lit (key : String) :
    matchAt (lit key ++ ts) none s = (Text.afterPrefix key.toList s).bind (matchAt ts none) := by
  unfold lit
  induction key.toList generalizing s with
  | nil => rfl
  | cons a k ih =>
    cases s with
    | nil => rfl
    | cons b s =>
      by_cases hab : a = b
      · simp [matchAt, Text.afterPrefix, hab, ih]
      · simp [matchAt, Text.afterPrefix, hab, Ne.symm hab]

theorem matchAt_lit_eq_none {key : String} (h : ¬key.toList <+: s) :
    matchAt (lit key ++ ts) none s = none := by
  rw [← Text.afterPrefix_isSome_iff, Option.not_isSome_iff_eq_none] at h
  rw [matchAt_lit, h, Option.bind_none]

/-- A run takes all it can. -/
theorem matchAt_group_many (hs : s.takeWhile cls = v) (hv : v ≠ []) :
    matchAt (group [.many cls]) none s = some [.ofList v] := by
  obtain ⟨n, hn⟩ := Nat.exists_eq_succ_of_ne_zero (List.length_pos_of_ne_nil hv).ne'
  have htake : s.take (n + 1) = v := by
    rw [← Nat.succ_eq_add_one, ← hn]
    exact (List.prefix_iff_eq_take.mp (hs ▸ List.takeWhile_prefix cls)).symm
  simp [group, matchAt, hs, hn, List.range_succ, htake]

theorem findIn_of_matchAt {r : List String} (h : matchAt ts none s = some r) : findIn ts s = some r := by
  cases s with
  | nil => exact h
  | cons c s => rw [findIn, h, Option.some_or]

/-- A search for a key passes a text without the key, up to a separator that is not in the key. -/
theorem findIn_lit_append {key : String} {c : Char} (hc : c ∉ key.toList) (hx : ¬key.toList <:+: x) :
    findIn (lit key ++ ts) (x ++ c :: s) = findIn (lit key ++ ts) s := by
  have hskip : ∀ y, ¬key.toList <:+: y → matchAt (lit key ++ ts) none (y ++ c :: s) = none :=
    fun y hy => matchAt_lit_eq_none fun h => hy (Joined.prefix_left h hc).isInfix
  induction x with
  | nil =>
    show (matchAt (lit key ++ ts) none ([] ++ c :: s)).or _ = _
    rw [hskip [] hx, Option.none_or]
  | cons d x ih =>
    show (matchAt (lit key ++ ts) none (d :: x ++ c :: s)).or _ = _
    rw [hskip (d :: x) hx, Option.none_or]
    exact ih fun h => hx (h.trans (List.suffix_cons d x).isInfix)

end Regex
