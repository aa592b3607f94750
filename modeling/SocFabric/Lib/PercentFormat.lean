import Mathlib.Algebra.Ring.Int.Defs
import Mathlib.Algebra.Ring.Nat
import Mathlib.Data.List.Basic
import Mathlib.Tactic.SplitIfs

/-!
# Formatting with `%`

Python's `template % args` with a tuple of arguments, over characters that may carry more than their
value (`Glyph`). `percent` reads the template once, with the conversion that it is in as its mode, and
is `none` where Python raises. What a string is turned into is defined here; another object is known
by what each conversion makes of it and, for the `*` of a width or a precision, by its value if it is
an int.
-/

namespace PercentFormat

/-- Characters with a value, if it can be read. -/
class Glyph (α : Type) where
  view : α → Option Char
  ofChar : Char → α

open Glyph

instance : Glyph Char := ⟨some, id⟩

/-! ### Conversions -/

inductive Size
  | fixed (n : Nat)
  | star
deriving DecidableEq, Repr

/-- A conversion as the template has it. -/
structure Spec where
  flags : List Char := []
  width : Option Size := none
  precision : Option Size := none
  kind : Char := 's'
deriving DecidableEq, Repr

/-- A conversion with its sizes. -/
structure Conversion where
  flags : List Char
  width : Option Nat
  precision : Option Nat
  kind : Char
deriving DecidableEq, Repr

/-- The part of a conversion that is being read. `point` is behind a width `*`, `modifier` behind a
precision `*`, and `kind` behind a length modifier. -/
inductive Stage
  | flags
  | width (n : Nat)
  | point
  | precision
  | digits (n : Nat)
  | modifier
  | kind
deriving DecidableEq, Repr

inductive Step
  | more (stage : Stage) (sp : Spec)
  | done (sp : Spec)
deriving DecidableEq, Repr

def flagChars : List Char := ['-', '+', ' ', '#', '0']

def kinds : List Char := ['d', 'i', 'o', 'u', 'x', 'X', 'e', 'E', 'f', 'F', 'g', 'G', 'c', 'r', 's', 'a']

/-- The largest width and the largest precision. -/
def maxWidth : Nat := 2 ^ 63 - 1

def maxPrecision : Nat := 2 ^ 31 - 1

def digitValue (c : Char) : Nat := c.toNat - 48

/-- A tuple is no mapping, so that a key in brackets raises like a kind that does not exist. -/
def Spec.finish (sp : Spec) (c : Char) : Option Step :=
  if c ∈ kinds then some (.done { sp with kind := c }) else none

def Spec.afterPrecision (sp : Spec) (c : Char) : Option Step :=
  if c = 'h' ∨ c = 'l' ∨ c = 'L' then some (.more .kind sp) else sp.finish c

def Spec.afterWidth (sp : Spec) (c : Char) : Option Step :=
  if c = '.' then some (.more .precision { sp with precision := some (.fixed 0) }) else sp.afterPrecision c

def Spec.next (sp : Spec) (stage : Stage) (c : Char) : Option Step :=
  match stage with
  | .flags =>
    -- a percent sign is written for two of them in a row, and no kind behind flags or sizes
    if c = '%' ∧ sp.flags = [] then some (.done { sp with kind := c })
    else if c ∈ flagChars then some (.more .flags { sp with flags := sp.flags ++ [c] })
    else if c = '*' then some (.more .point { sp with width := some .star })
    else if c.isDigit then
      some (.more (.width (digitValue c)) { sp with width := some (.fixed (digitValue c)) })
    else sp.afterWidth c
  | .width n =>
    if c.isDigit then
      let n := 10 * n + digitValue c
      if n ≤ maxWidth then some (.more (.width n) { sp with width := some (.fixed n) }) else none
    else sp.afterWidth c
  | .point => sp.afterWidth c
  | .precision =>
    if c = '*' then some (.more .modifier { sp with precision := some .star })
    else if c.isDigit then
      some (.more (.digits (digitValue c)) { sp with precision := some (.fixed (digitValue c)) })
    else sp.afterPrecision c
  | .digits n =>
    if c.isDigit then
      let n := 10 * n + digitValue c
      if n ≤ maxPrecision then some (.more (.digits n) { sp with precision := some (.fixed n) }) else none
    else sp.afterPrecision c
  | .modifier => sp.afterPrecision c
  | .kind => sp.finish c

/-! ### `repr` -/

def hexDigits (n width : Nat) : List Char :=
  (List.range width).reverse.map fun i => Nat.digitChar (n / 16 ^ i % 16)

/-- What stands for `c` in a `repr`, if it is not `c` itself. `printable` is about the characters
outside ASCII. -/
def escape (printable : Char → Bool) (quote c : Char) : Option (List Char) :=
  if c = quote ∨ c = '\\' then some ['\\', c]
  else if c = '\t' then some ['\\', 't']
  else if c = '\n' then some ['\\', 'n']
  else if c = '\r' then some ['\\', 'r']
  else if c.toNat < 32 ∨ c.toNat = 127 then some ('\\' :: 'x' :: hexDigits c.toNat 2)
  else if c.toNat < 127 ∨ printable c then none
  else if c.toNat < 256 then some ('\\' :: 'x' :: hexDigits c.toNat 2)
  else if c.toNat < 65536 then some ('\\' :: 'u' :: hexDigits c.toNat 4)
  else some ('\\' :: 'U' :: hexDigits c.toNat 8)

section
variable {α : Type} [Glyph α] (printable : Char → Bool)

def holds (s : List α) (c : Char) : Bool := s.any fun a => view a = some c

def quoteOf (s : List α) : Char := if holds s '\'' ∧ ¬ holds s '"' then '"' else '\''

def escaped (quote : Char) (a : α) : List α :=
  match (view a).bind (escape printable quote) with
  | some e => e.map ofChar
  | none => [a]

def repr (s : List α) : List α :=
  ofChar (quoteOf s) :: s.flatMap (escaped printable (quoteOf s)) ++ [ofChar (quoteOf s)]

/-- `ascii` leaves no character outside ASCII as it is. -/
def ascii (s : List α) : List α := repr (fun _ => false) s

/-! ### Arguments -/

/-- An object other than a string: its value if it is an int, and what conversions make of it. -/
structure Object where
  int : Option Int
  format : Conversion → Option (List Char)

inductive Arg (α : Type)
  | str (s : List α)
  | other (o : Object)

def Conversion.pad (c : Conversion) (s : List α) : List α :=
  let blanks := List.replicate (c.width.getD 0 - s.length) (ofChar ' ')
  if '-' ∈ c.flags then s ++ blanks else blanks ++ s

def Conversion.cut (c : Conversion) (s : List α) : List α :=
  match c.precision with
  | some n => s.take n
  | none => s

def Conversion.text (c : Conversion) (s : List α) : Option (List α) :=
  if c.kind = 's' then some (c.pad (c.cut s))
  else if c.kind = 'r' then some (c.pad (c.cut (repr printable s)))
  else if c.kind = 'a' then some (c.pad (c.cut (ascii s)))
  else if c.kind = 'c' ∧ s.length = 1 then some (c.pad s)
  else none

def Arg.format (c : Conversion) : Arg α → Option (List α)
  | .other o => (o.format c).map (·.map ofChar)
  | .str s => c.text printable s

def takeInt : List (Arg α) → Option (Int × List (Arg α))
  | .other o :: args => o.int.map (·, args)
  | _ => none

/-- The width, with the flag that a negative one stands for, and the arguments behind it. -/
def takeWidth (sp : Spec) (args : List (Arg α)) : Option (Option Nat × List Char × List (Arg α)) :=
  match sp.width with
  | none => some (none, sp.flags, args)
  | some (.fixed n) => some (some n, sp.flags, args)
  | some .star =>
    (takeInt args).bind fun r =>
      if r.1.natAbs ≤ maxWidth then
        some (some r.1.natAbs, if r.1 < 0 then sp.flags ++ ['-'] else sp.flags, r.2)
      else none

def takePrecision (sp : Spec) (args : List (Arg α)) : Option (Option Nat × List (Arg α)) :=
  match sp.precision with
  | none => some (none, args)
  | some (.fixed n) => some (some n, args)
  | some .star =>
    (takeInt args).bind fun r =>
      if -2 ^ 31 ≤ r.1 ∧ r.1 < 2 ^ 31 then some (some r.1.toNat, r.2) else none

/-- What a conversion writes, and the arguments behind those that it uses. -/
def convert (sp : Spec) (args : List (Arg α)) : Option (List α × List (Arg α)) :=
  (takeWidth sp args).bind fun w =>
    (takePrecision sp w.2.2).bind fun p =>
      if sp.kind = '%' then some ([ofChar '%'], p.2)
      else
        match p.2 with
        | [] => none
        | a :: args => (a.format printable ⟨w.2.1, w.1, p.1, sp.kind⟩).map (·, args)

/-! ### Templates -/

/-- `template % args`. The mode is the conversion that is being read. -/
def percent : Option (Stage × Spec) → List α → List (Arg α) → Option (List α)
  | none, [], [] => some []
  | _, [], _ => none
  | none, a :: t, args =>
    if view a = some '%' then percent (some (.flags, {})) t args
    else (percent none t args).map (a :: ·)
  | some (stage, sp), a :: t, args =>
    match (view a).bind (sp.next stage) with
    | none => none
    | some (.more stage sp) => percent (some (stage, sp)) t args
    | some (.done sp) =>
      (convert printable sp args).bind fun r => (percent none t r.2).map (r.1 ++ ·)

end

example : percent (fun _ => false) none "%-4s|%5.2s|%r|%%".toList
    [.str "ab".toList, .str "xyz".toList, .str "it's".toList] = some "ab  |   xy|\"it's\"|%".toList := by
  decide +kernel

/-! ### Literal text -/

section
variable {α : Type} [Glyph α] {printable : Char → Bool} {args : List (Arg α)}

theorem percent_append {b t : List α} (hb : ∀ a ∈ b, view a ≠ some '%') :
    percent printable none (b ++ t) args = (percent printable none t args).map (b ++ ·) := by
  induction b with
  | nil => exact Option.map_id'.symm
  | cons a b ih =>
    rw [List.cons_append, percent, if_neg (hb a List.mem_cons_self),
      ih fun x hx => hb x (List.mem_cons_of_mem a hx), Option.map_map]
    rfl

theorem percent_s {s t : List Char} {args : List (Arg Char)} :
    percent printable none ('%' :: 's' :: t) (.str s :: args) =
      (percent printable none t args).map (s ++ ·) := by
  have htext : Conversion.text printable ⟨[], none, none, 's'⟩ s = some s := by
    show some (List.replicate (0 - s.length) (ofChar ' ') ++ s) = some s
    rw [Nat.zero_sub]
    rfl
  show (((Conversion.text printable ⟨[], none, none, 's'⟩ s).map (·, args)).bind fun r =>
    (percent printable none t r.2).map (r.1 ++ ·)) = _
  rw [htext]
  rfl

theorem percent_d {o : Object} {t txt : List Char} {args : List (Arg Char)}
    (htxt : o.format ⟨[], none, none, 'd'⟩ = some txt) :
    percent printable none ('%' :: 'd' :: t) (.other o :: args) =
      (percent printable none t args).map (txt ++ ·) := by
  show ((((o.format ⟨[], none, none, 'd'⟩).map (List.map id)).map (·, args)).bind fun r =>
    (percent printable none t r.2).map (r.1 ++ ·)) = _
  rw [htxt, Option.map_some, List.map_id]
  rfl

end

/-! ### Arguments that are used up -/

section
variable {α : Type} {args : List (Arg α)}

theorem takeInt_suffix {r : Int × List (Arg α)} (h : takeInt args = some r) : r.2 <:+ args := by
  unfold takeInt at h
  split at h
  · obtain ⟨n, -, rfl⟩ := Option.map_eq_some_iff.mp h
    exact List.suffix_cons _ _
  · cases h

theorem takeWidth_suffix {sp : Spec} {w : Option Nat × List Char × List (Arg α)}
    (h : takeWidth sp args = some w) : w.2.2 <:+ args := by
  unfold takeWidth at h
  split at h
  · cases h
    exact List.suffix_rfl
  · cases h
    exact List.suffix_rfl
  · obtain ⟨r, hr, hif⟩ := Option.bind_eq_some_iff.mp h
    split at hif
    · cases hif
      exact takeInt_suffix hr
    · cases hif

theorem takePrecision_suffix {sp : Spec} {q : Option Nat × List (Arg α)}
    (h : takePrecision sp args = some q) : q.2 <:+ args := by
  unfold takePrecision at h
  split at h
  · cases h
    exact List.suffix_rfl
  · cases h
    exact List.suffix_rfl
  · obtain ⟨r, hr, hif⟩ := Option.bind_eq_some_iff.mp h
    split at hif
    · cases hif
      exact takeInt_suffix hr
    · cases hif

variable [Glyph α] {printable : Char → Bool}

/-- A conversion writes a percent sign or what one of the arguments is formatted to. -/
theorem convert_cases {sp : Spec} {r : List α × List (Arg α)} (h : convert printable sp args = some r) :
    r.2 <:+ args ∧ (r.1 = [ofChar '%'] ∨ ∃ a ∈ args, ∃ c, a.format printable c = some r.1) := by
  obtain ⟨w, hw, h⟩ := Option.bind_eq_some_iff.mp h
  obtain ⟨q, hq, h⟩ := Option.bind_eq_some_iff.mp h
  have hsuffix : q.2 <:+ args := (takePrecision_suffix hq).trans (takeWidth_suffix hw)
  split at h
  · cases h
    exact ⟨hsuffix, .inl rfl⟩
  · split at h
    · cases h
    · rename_i a rest hargs
      obtain ⟨txt, htxt, rfl⟩ := Option.map_eq_some_iff.mp h
      rw [hargs] at hsuffix
      exact ⟨(List.suffix_cons a rest).trans hsuffix,
        .inr ⟨a, hsuffix.subset List.mem_cons_self, _, htxt⟩⟩

end

/-! ### Formatting after a change of characters -/

def Arg.map {α β : Type} (f : α → β) : Arg α → Arg β
  | .str s => .str (s.map f)
  | .other o => .other o

section
variable {α β : Type} {f : α → β} {args : List (Arg α)}

theorem cut_map (c : Conversion) (s : List α) : c.cut (s.map f) = (c.cut s).map f := by
  unfold Conversion.cut
  cases c.precision with
  | none => rfl
  | some n => exact List.map_take.symm

theorem takeInt_map :
    takeInt (args.map (Arg.map f)) = (takeInt args).map fun r => (r.1, r.2.map (Arg.map f)) := by
  cases args with
  | nil => rfl
  | cons a args =>
    cases a with
    | str s => rfl
    | other o => cases h : o.int <;> simp [takeInt, Arg.map, h]

theorem takeWidth_map (sp : Spec) :
    takeWidth sp (args.map (Arg.map f)) =
      (takeWidth sp args).map fun w => (w.1, w.2.1, w.2.2.map (Arg.map f)) := by
  unfold takeWidth
  split
  · rfl
  · rfl
  · rw [takeInt_map, Option.bind_map, Option.map_bind]
    refine congrArg (Option.bind _) (funext fun r => ?_)
    simp only [Function.comp_apply]
    split
    · rfl
    · rfl

theorem takePrecision_map (sp : Spec) :
    takePrecision sp (args.map (Arg.map f)) =
      (takePrecision sp args).map fun q => (q.1, q.2.map (Arg.map f)) := by
  unfold takePrecision
  split
  · rfl
  · rfl
  · rw [takeInt_map, Option.bind_map, Option.map_bind]
    refine congrArg (Option.bind _) (funext fun r => ?_)
    simp only [Function.comp_apply]
    split
    · rfl
    · rfl

variable [Glyph α] [Glyph β] {printable : Char → Bool}

/-- The `repr` of a string changes as its characters do. -/
def ReprMap (f : α → β) (s : List α) : Prop :=
  ∀ printable, repr printable (s.map f) = (repr printable s).map f

theorem pad_map (hf : ∀ c, f (ofChar c) = ofChar c) (c : Conversion) (s : List α) :
    c.pad (s.map f) = (c.pad s).map f := by
  have hblanks : ∀ n, List.replicate n (ofChar ' ') = (List.replicate n (ofChar ' ')).map f := by
    intro n
    rw [List.map_replicate, hf]
  unfold Conversion.pad
  rw [List.length_map]
  split
  · rw [hblanks, ← List.map_append]
  · rw [hblanks, ← List.map_append]

theorem text_map (hf : ∀ c, f (ofChar c) = ofChar c) {s : List α} (hs : ReprMap f s) (c : Conversion) :
    c.text printable (s.map f) = (c.text printable s).map (List.map f) := by
  unfold Conversion.text ascii
  rw [hs, hs, List.length_map]
  split_ifs
  · rw [cut_map, pad_map hf]
    rfl
  · rw [cut_map, pad_map hf]
    rfl
  · rw [cut_map, pad_map hf]
    rfl
  · rw [pad_map hf]
    rfl
  · rfl

theorem format_map (hf : ∀ c, f (ofChar c) = ofChar c) {a : Arg α} (ha : ∀ s, a = .str s → ReprMap f s)
    (c : Conversion) : (a.map f).format printable c = (a.format printable c).map (List.map f) := by
  cases a with
  | str s => exact text_map hf (ha s rfl) c
  | other o =>
    have hof : (f ∘ ofChar : Char → β) = ofChar := funext hf
    show (o.format c).map _ = ((o.format c).map _).map _
    rw [Option.map_map]
    refine congrArg (Option.map · _) (funext fun txt => ?_)
    rw [Function.comp_apply, List.map_map, hof]

theorem convert_map (hf : ∀ c, f (ofChar c) = ofChar c)
    (hargs : ∀ a ∈ args, ∀ s, a = .str s → ReprMap f s) (sp : Spec) :
    convert printable sp (args.map (Arg.map f)) =
      (convert printable sp args).map fun r => (r.1.map f, r.2.map (Arg.map f)) := by
  unfold convert
  rw [takeWidth_map]
  cases hw : takeWidth sp args with
  | none => rfl
  | some w =>
    rw [Option.map_some, Option.bind_some, Option.bind_some, takePrecision_map]
    cases hq : takePrecision sp w.2.2 with
    | none => rfl
    | some q =>
      rw [Option.map_some, Option.bind_some, Option.bind_some]
      split
      · rw [Option.map_some, List.map_singleton, hf]
      · cases hrest : q.2 with
        | nil => rfl
        | cons a rest =>
          have hsuffix : q.2 <:+ args := (takePrecision_suffix hq).trans (takeWidth_suffix hw)
          have hmem : a ∈ args := hsuffix.subset (hrest ▸ List.mem_cons_self)
          show ((a.map f).format printable _).map _ = ((a.format printable _).map _).map _
          rw [format_map hf (hargs a hmem), Option.map_map, Option.map_map]
          rfl

end

end PercentFormat
