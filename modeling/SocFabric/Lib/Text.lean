import Mathlib.Data.List.Infix
import Mathlib.Data.List.TakeWhile
import Mathlib.Tactic.SplitIfs

/-!
# Text primitives

The string operations of Python and Go that the models share, over the characters of a `String`
and structurally recursive, so that they evaluate on closed text.
-/

namespace Text

/-- Python truth of an optional string: `some` of it if it is present and not empty. -/
def truthy : Option String → Option String
  | some s => if s = "" then none else some s
  | none => none

theorem truthy_eq_some {o : Option String} {s : String} (h : truthy o = some s) : o = some s := by
  unfold truthy at h
  split at h
  · split_ifs at h
    exact h
  · cases h

theorem ne_empty_of_truthy {o : Option String} {s : String} (h : truthy o = some s) : s ≠ "" := by
  rintro rfl
  unfold truthy at h
  split at h
  · split_ifs at h with he
    exact he (Option.some.inj h)
  · cases h

/-- Python `a or b` on an optional string and a default. -/
def pyOr (a : Option String) (b : String) : String := (truthy a).getD b

theorem truthy_some {s : String} (h : s ≠ "") : truthy (some s) = some s := if_neg h

theorem pyOr_some {s : String} (h : s ≠ "") (b : String) : pyOr (some s) b = s := by
  rw [pyOr, truthy_some h, Option.getD_some]

/-- The rest of `s` after `p`, if `s` starts with `p`. -/
def afterPrefix : (p s : List Char) → Option (List Char)
  | [], s => some s
  | _ :: _, [] => none
  | a :: p, b :: s => if a = b then afterPrefix p s else none

theorem afterPrefix_eq_some {p s t : List Char} (h : afterPrefix p s = some t) : s = p ++ t := by
  induction p, s using afterPrefix.induct with
  | case1 s => exact Option.some.inj h
  | case2 a p => cases h
  | case3 a p s ih =>
    rw [afterPrefix, if_pos rfl] at h
    rw [List.cons_append, ← ih h]
  | case4 a p b s hne =>
    rw [afterPrefix, if_neg hne] at h
    cases h

theorem afterPrefix_append (p t : List Char) : afterPrefix p (p ++ t) = some t := by
  induction p with
  | nil => rfl
  | cons a p ih => rw [List.cons_append, afterPrefix, if_pos rfl, ih]

theorem afterPrefix_isSome_iff {p s : List Char} : (afterPrefix p s).isSome ↔ p <+: s := by
  constructor
  · intro h
    obtain ⟨t, ht⟩ := Option.isSome_iff_exists.mp h
    exact ⟨t, (afterPrefix_eq_some ht).symm⟩
  · rintro ⟨t, rfl⟩
    rw [afterPrefix_append]
    rfl

/-- `s` starts with `p` (Python `startswith`, Go `strings.HasPrefix`). -/
def startsWith (s p : String) : Bool := (afterPrefix p.toList s.toList).isSome

theorem startsWith_iff {s p : String} : startsWith s p = true ↔ p.toList <+: s.toList :=
  afterPrefix_isSome_iff

/-- `needle` occurs in `s` (Python `in`, Go `strings.Contains`). -/
def occurs (needle : List Char) : List Char → Bool
  | [] => needle.isEmpty
  | c :: s => (afterPrefix needle (c :: s)).isSome || occurs needle s

def contains (s needle : String) : Bool := occurs needle.toList s.toList

theorem occurs_iff {needle s : List Char} : occurs needle s = true ↔ needle <:+: s := by
  induction s with
  | nil => simp [occurs]
  | cons c s ih =>
    rw [occurs, Bool.or_eq_true, ih, afterPrefix_isSome_iff]
    exact List.infix_cons_iff.symm

theorem contains_iff {s needle : String} :
    contains s needle = true ↔ needle.toList <:+: s.toList :=
  occurs_iff

/-- ASCII lower case. -/
def lower (s : String) : String := .ofList (s.toList.map Char.toLower)

/-- Go `strings.ToLower`, up to letters whose lower case is not ASCII: the Kelvin sign and the
dotted capital I are the letters outside ASCII that it takes to ASCII. -/
def goLower (s : String) : String :=
  .ofList (s.toList.map fun c => if c = '\u212A' then 'k' else if c = '\u0130' then 'i' else c.toLower)

/-- Go `strings.ToUpper`, up to letters whose upper case is not ASCII: the dotless i and the long s
are the letters outside ASCII that it takes to ASCII. -/
def goUpper (s : String) : String :=
  .ofList (s.toList.map fun c => if c = '\u0131' then 'I' else if c = '\u017F' then 'S' else c.toUpper)

/-- Python `str.lower`, up to letters whose lower case is not ASCII: the Kelvin sign becomes a `k`,
and the dotted capital I an `i` before a combining dot. -/
def pyLower (s : String) : String :=
  .ofList (s.toList.flatMap fun c =>
    if c = '\u212A' then ['k'] else if c = '\u0130' then ['i', '\u0307'] else [c.toLower])

theorem pyLower_eq_empty_iff {s : String} : pyLower s = "" ↔ s = "" := by
  have hempty : s = "" ↔ s.toList = "".toList := String.toList_inj.symm
  rw [pyLower, ← String.toList_inj, String.toList_ofList, hempty]
  cases s.toList with
  | nil => rfl
  | cons c l =>
    refine iff_of_false (fun h => ?_) (List.cons_ne_nil _ _)
    rw [List.flatMap_cons, String.toList_empty, List.append_eq_nil_iff] at h
    split_ifs at h <;> cases h.1

/-- Python `str.replace` of one character. -/
def replaceChar (old new : Char) (s : String) : String :=
  .ofList (s.toList.map fun c => if c = old then new else c)

/-- Python `str.rstrip(chars)`. -/
def rstrip (p : Char → Bool) (s : String) : String := .ofList (s.toList.reverse.dropWhile p).reverse

/-- Python `str.strip(chars)`. -/
def strip (p : Char → Bool) (s : String) : String := rstrip p (.ofList (s.toList.dropWhile p))

/-- Python `str.isspace`, which is what `str.strip()` removes. -/
def pySpace (c : Char) : Bool :=
  [9, 10, 11, 12, 13, 28, 29, 30, 31, 32, 0x85, 0xA0, 0x1680, 0x2028, 0x2029, 0x202F, 0x205F, 0x3000].contains c.toNat ||
    0x2000 ≤ c.toNat && c.toNat ≤ 0x200A

/-- The parts between the characters of a class; the first list is what of the current part is read. -/
def splitBy (p : Char → Bool) : List Char → List Char → List (List Char)
  | cur, [] => [cur]
  | cur, c :: s => if p c then cur :: splitBy p [] s else splitBy p (cur ++ [c]) s

/-- Python `str.split(c)` of one character. -/
def splitChar (c : Char) (s : String) : List String := (splitBy (· = c) [] s.toList).map .ofList

/-- Python `str.split()`. -/
def split (s : String) : List String := ((splitBy pySpace [] s.toList).filter (· ≠ [])).map .ofList

def lineBreak (c : Char) : Bool := [10, 11, 12, 13, 28, 29, 30, 0x85, 0x2028, 0x2029].contains c.toNat

def splitLinesFrom : List Char → List Char → List (List Char)
  | cur, [] => if cur = [] then [] else [cur]
  | cur, '\r' :: '\n' :: s => cur :: splitLinesFrom [] s
  | cur, c :: s => if lineBreak c then cur :: splitLinesFrom [] s else splitLinesFrom (cur ++ [c]) s

/-- Python `str.splitlines()`. -/
def splitLines (s : String) : List String := (splitLinesFrom [] s.toList).map .ofList

theorem splitBy_append {p : Char → Bool} {cur a s : List Char} {c : Char} (ha : ∀ d ∈ a, p d = false)
    (hc : p c = true) : splitBy p cur (a ++ c :: s) = (cur ++ a) :: splitBy p [] s := by
  induction a generalizing cur with
  | nil => rw [List.nil_append, List.append_nil, splitBy, if_pos hc]
  | cons d a ih =>
    obtain ⟨hd, ha⟩ := List.forall_mem_cons.mp ha
    rw [List.cons_append, splitBy, hd, if_neg Bool.false_ne_true, ih ha, List.append_assoc]
    rfl

theorem strip_toList_eq_nil_iff {p : Char → Bool} {s : String} :
    (strip p s).toList = [] ↔ ∀ c ∈ s.toList, p c := by
  have hr : ∀ l : List Char, (l.reverse.dropWhile p).reverse = [] ↔ ∀ c ∈ l, p c := by
    intro l
    rw [List.reverse_eq_nil_iff, List.dropWhile_eq_nil_iff]
    simp only [List.mem_reverse]
  rw [strip, rstrip, String.toList_ofList, String.toList_ofList, hr]
  refine ⟨fun h c hc => ?_, fun h c hc => h c ((List.dropWhile_sublist p).subset hc)⟩
  rw [← List.takeWhile_append_dropWhile (p := p) (l := s.toList), List.mem_append] at hc
  rcases hc with hc | hc
  · exact List.mem_takeWhile_imp hc
  · exact h c hc

end Text
