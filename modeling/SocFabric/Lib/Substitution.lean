import Mathlib.Data.List.Basic
import Mathlib.Data.List.TakeWhile
import Mathlib.Tactic.SplitIfs

/-!
# Substituting the matches of a pattern

A pattern is a list of items: a greedy run of characters of a class, a word boundary, the start of
the text. `matchAt` is the match at one place, with the text of each item; of several the one with
the longer first run is taken. `split` cuts a text at the matches that a search from the left finds
one behind the other, and `sub` puts something else in their places (`re.sub`). A pattern is taken to
match no empty text.
-/

namespace Substitution

inductive Item
  | run (cls : Char → Bool) (least : Nat) (most : Option Nat)
  | boundary (word : Char → Bool)
  | start

def one (cls : Char → Bool) : Item := .run cls 1 (some 1)

def lit (s : String) : List Item := s.toList.map fun c => one (· = c)

/-- The lengths that a run can have at the start of `s`, longest first. -/
def lengths (cls : Char → Bool) (least : Nat) (most : Option Nat) (s : List Char) : List Nat :=
  (List.range ((s.takeWhile cls).length + 1)).reverse.filter fun n => least ≤ n && most.all (n ≤ ·)

/-- The texts of the items in a match at the start of `s`, which `prev` stands before. -/
def matchAt : List Item → Option Char → List Char → Option (List (List Char))
  | [], _, _ => some []
  | .run cls least most :: p, prev, s =>
    (lengths cls least most s).findSome? fun n =>
      (matchAt p ((s.take n).getLast?.or prev) (s.drop n)).map (s.take n :: ·)
  | .boundary word :: p, prev, s =>
    if prev.any word = s.head?.any word then none else (matchAt p prev s).map ([] :: ·)
  | .start :: p, prev, s => if prev.isSome then none else (matchAt p prev s).map ([] :: ·)

/-- A text cut at matches: what stands before the first, and each match with what stands behind it. -/
abbrev Cut := List Char × List (List (List Char) × List Char)

/-- The search. The next `skip` characters belong to a match that has been found. -/
def splitFrom (p : List Item) : Nat → Option Char → List Char → Cut
  | _, _, [] => ([], [])
  | skip + 1, _, c :: s => splitFrom p skip (some c) s
  | 0, prev, c :: s =>
    match matchAt p prev (c :: s) with
    | some ws =>
      let r := splitFrom p (ws.flatten.length - 1) (some c) s
      ([], (ws, r.1) :: r.2)
    | none =>
      let r := splitFrom p 0 (some c) s
      (c :: r.1, r.2)

def split (p : List Item) (s : List Char) : Cut := splitFrom p 0 none s

def assemble {β : Type} (keep : List Char → List β) (replace : List (List Char) → List β) (r : Cut) :
    List β :=
  keep r.1 ++ r.2.flatMap fun m => replace m.1 ++ keep m.2

def sub (p : List Item) (replace : List (List Char) → List Char) (s : List Char) : List Char :=
  assemble id replace (split p s)

/-- The stretches between the matches. -/
def gaps (r : Cut) : List (List Char) := r.1 :: r.2.map (·.2)

example : sub (lit "a" ++ [.run Char.isDigit 1 (some 2)]) (fun ws => 'b' :: ws.getLast?.getD [])
    "xa1a123".toList = "xb1b123".toList := by decide

/-! ### What matches -/

/-- `ws` are texts of the items between `prev` and `v`. -/
def Fits : List Item → Option Char → List (List Char) → List Char → Prop
  | [], _, ws, _ => ws = []
  | _ :: _, _, [], _ => False
  | .run cls least most :: p, prev, w :: ws, v =>
    (∀ c ∈ w, cls c = true) ∧ least ≤ w.length ∧ (∀ n ∈ most, w.length ≤ n) ∧
      Fits p (w.getLast?.or prev) ws v
  | .boundary word :: p, prev, w :: ws, v =>
    w = [] ∧ prev.any word ≠ (ws.flatten ++ v).head?.any word ∧ Fits p prev ws v
  | .start :: p, prev, w :: ws, v => w = [] ∧ prev = none ∧ Fits p prev ws v

section
variable {cls : Char → Bool} {least n : Nat} {most : Option Nat} {s : List Char}

theorem mem_lengths_iff :
    n ∈ lengths cls least most s ↔
      n ≤ (s.takeWhile cls).length ∧ least ≤ n ∧ ∀ m ∈ most, n ≤ m := by
  rw [lengths, List.mem_filter, List.mem_reverse, List.mem_range, Nat.lt_succ_iff, Bool.and_eq_true,
    decide_eq_true_iff, Option.all_eq_true]
  simp only [decide_eq_true_eq, Option.mem_def]

theorem forall_mem_take (h : n ≤ (s.takeWhile cls).length) : ∀ c ∈ s.take n, cls c = true := by
  intro c hc
  rw [← List.takeWhile_append_dropWhile (p := cls) (l := s), List.take_append_of_le_length h] at hc
  exact List.mem_takeWhile_imp (List.mem_of_mem_take hc)

theorem length_le_takeWhile {w v : List Char} (h : ∀ c ∈ w, cls c = true) :
    w.length ≤ ((w ++ v).takeWhile cls).length := by
  rw [List.takeWhile_append_of_pos h, List.length_append]
  exact Nat.le_add_right ..

end

section
variable {p : List Item} {prev : Option Char} {s v : List Char} {ws : List (List Char)}

theorem fits_of_matchAt (h : matchAt p prev s = some ws) : ∃ v, s = ws.flatten ++ v ∧ Fits p prev ws v := by
  induction p generalizing prev s ws with
  | nil =>
    cases h
    exact ⟨s, rfl, rfl⟩
  | cons item p ih =>
    cases item with
    | run cls least most =>
      obtain ⟨n, hn, hmatch⟩ := List.exists_of_findSome?_eq_some h
      obtain ⟨hlen, hleast, hmost⟩ := mem_lengths_iff.mp hn
      obtain ⟨ws, hws, rfl⟩ := Option.map_eq_some_iff.mp hmatch
      obtain ⟨v, hv, hfits⟩ := ih hws
      have htake : (s.take n).length = n :=
        List.length_take_of_le (hlen.trans (List.takeWhile_prefix cls).length_le)
      refine ⟨v, ?_, forall_mem_take hlen, ?_, ?_, hfits⟩
      · rw [List.flatten_cons, List.append_assoc, ← hv, List.take_append_drop]
      · rwa [htake]
      · rwa [htake]
    | boundary word =>
      rw [matchAt] at h
      split_ifs at h with hword
      obtain ⟨ws, hws, rfl⟩ := Option.map_eq_some_iff.mp h
      obtain ⟨v, rfl, hfits⟩ := ih hws
      exact ⟨v, rfl, rfl, hword, hfits⟩
    | start =>
      rw [matchAt] at h
      split_ifs at h with hprev
      obtain ⟨ws, hws, rfl⟩ := Option.map_eq_some_iff.mp h
      obtain ⟨v, rfl, hfits⟩ := ih hws
      exact ⟨v, rfl, rfl, Option.not_isSome_iff_eq_none.mp hprev, hfits⟩

/-- Where texts of the items stand, there is a match (perhaps another one). -/
theorem matchAt_isSome_of_fits (h : Fits p prev ws v) : (matchAt p prev (ws.flatten ++ v)).isSome := by
  induction p generalizing prev ws with
  | nil => rfl
  | cons item p ih =>
    cases ws with
    | nil => cases item <;> exact h.elim
    | cons w ws =>
      cases item with
      | run cls least most =>
        obtain ⟨hcls, hleast, hmost, hfits⟩ := h
        rw [List.flatten_cons, List.append_assoc, matchAt, List.findSome?_isSome_iff]
        refine ⟨w.length, mem_lengths_iff.mpr ⟨length_le_takeWhile hcls, hleast, hmost⟩, ?_⟩
        rw [List.take_left, List.drop_left, Option.isSome_map]
        exact ih hfits
      | boundary word =>
        obtain ⟨rfl, hword, hfits⟩ := h
        rw [List.flatten_cons, List.nil_append, matchAt, if_neg hword, Option.isSome_map]
        exact ih hfits
      | start =>
        obtain ⟨rfl, rfl, hfits⟩ := h
        rw [List.flatten_cons, List.nil_append, matchAt, Option.isSome_none, if_neg Bool.false_ne_true,
          Option.isSome_map]
        exact ih hfits

theorem Fits.flatten_ne_nil {cls : Char → Bool} {least : Nat} {most : Option Nat} (h : Fits p prev ws v)
    (hmem : .run cls (least + 1) most ∈ p) : ws.flatten ≠ [] := by
  induction p generalizing prev ws with
  | nil => cases hmem
  | cons item p ih =>
    cases ws with
    | nil => cases item <;> exact h.elim
    | cons w ws =>
      rw [List.flatten_cons]
      rcases List.mem_cons.mp hmem with rfl | htail
      · have hpos : 0 < w.length := Nat.lt_of_lt_of_le (Nat.succ_pos least) h.2.1
        exact List.append_ne_nil_of_left_ne_nil (List.ne_nil_of_length_pos hpos) _
      · refine List.append_ne_nil_of_right_ne_nil _ ?_
        cases item with
        | run cls least most => exact ih h.2.2.2 htail
        | boundary word => exact ih h.2.2 htail
        | start => exact ih h.2.2 htail

theorem Fits.drop {q : List Item} (h : Fits (p ++ q) prev ws v) :
    ∃ prev', Fits q prev' (ws.drop p.length) v := by
  induction p generalizing prev ws with
  | nil => exact ⟨prev, h⟩
  | cons item p ih =>
    cases ws with
    | nil => cases item <;> exact h.elim
    | cons w ws =>
      cases item with
      | run cls least most => exact ih h.2.2.2
      | boundary word => exact ih h.2.2
      | start => exact ih h.2.2

theorem eq_of_fits_one {c : Char} {w : List Char} (h : Fits (one (· = c) :: p) prev (w :: ws) v) :
    w = [c] := by
  obtain ⟨hcls, hleast, hmost, -⟩ := h
  obtain ⟨x, rfl⟩ := List.length_eq_one_iff.mp (Nat.le_antisymm (hmost 1 rfl) hleast)
  rw [of_decide_eq_true (hcls x List.mem_cons_self)]

end

/-! ### The gaps between the matches -/

/-- The pattern matches nowhere in `g`, which stands between `prev` and `rest`. -/
def Clean (p : List Item) (prev : Option Char) (g rest : List Char) : Prop :=
  ∀ a c b, g = a ++ c :: b → matchAt p (a.getLast?.or prev) (c :: b ++ rest) = none

/-- No match of the pattern is empty. -/
def Proper (p : List Item) : Prop := ∀ prev s ws, matchAt p prev s = some ws → ws.flatten ≠ []

section
variable {p : List Item} {prev : Option Char} {s : List Char}

theorem getLast?_cons_or (c : Char) (a : List Char) : (c :: a).getLast?.or prev = a.getLast?.or (some c) := by
  cases a with
  | nil => rfl
  | cons d a => rw [List.getLast?_cons_cons, List.getLast?_cons, Option.some_or, Option.some_or]

theorem proper_of_mem {cls : Char → Bool} {least : Nat} {most : Option Nat}
    (h : .run cls (least + 1) most ∈ p) : Proper p := by
  intro prev s ws hws
  obtain ⟨v, -, hfits⟩ := fits_of_matchAt hws
  exact hfits.flatten_ne_nil h

theorem clean_nil (rest : List Char) : Clean p prev [] rest := by
  intro a c b h
  cases a <;> cases h

theorem Clean.cons {c : Char} {g rest : List Char} (hc : matchAt p prev (c :: g ++ rest) = none)
    (h : Clean p (some c) g rest) : Clean p prev (c :: g) rest := by
  intro a d b hg
  cases a with
  | nil =>
    obtain ⟨rfl, rfl⟩ := List.cons.inj hg
    exact hc
  | cons c' a =>
    obtain ⟨rfl, rfl⟩ := List.cons.inj hg
    rw [getLast?_cons_or]
    exact h a d b rfl

theorem getLast?_match {c : Char} {ws : List (List Char)} (hp : Proper p)
    (h : matchAt p prev (c :: s) = some ws) :
    ws.flatten.getLast? = (s.take (ws.flatten.length - 1)).getLast?.or (some c) := by
  obtain ⟨v, hv, -⟩ := fits_of_matchAt h
  cases hws : ws.flatten with
  | nil => exact absurd hws (hp _ _ _ h)
  | cons d w =>
    rw [hws, List.cons_append] at hv
    obtain ⟨rfl, rfl⟩ := List.cons.inj hv
    rw [List.length_cons, Nat.add_sub_cancel, List.take_left, ← getLast?_cons_or, Option.or_none]

/-- Behind a match the search goes on with what is left. -/
theorem drop_match {c : Char} {ws : List (List Char)} {v : List Char} (hp : Proper p)
    (h : matchAt p prev (c :: s) = some ws) (hv : c :: s = ws.flatten ++ v) :
    s.drop (ws.flatten.length - 1) = v := by
  cases hws : ws.flatten with
  | nil => exact absurd hws (hp _ _ _ h)
  | cons d w =>
    rw [hws] at hv
    obtain ⟨-, rfl⟩ := List.cons.inj hv
    exact List.drop_left

/-- The pattern matches nowhere between its matches: not before the first one, and not behind any. -/
theorem clean_splitFrom (hp : Proper p) (skip : Nat) (prev : Option Char) :
    (∃ rest, s.drop skip = (splitFrom p skip prev s).1 ++ rest ∧
      Clean p ((s.take skip).getLast?.or prev) (splitFrom p skip prev s).1 rest) ∧
    ∀ m ∈ (splitFrom p skip prev s).2, ∃ rest, Clean p m.1.flatten.getLast? m.2 rest := by
  induction s generalizing skip prev with
  | nil => exact ⟨⟨[], List.drop_nil, clean_nil []⟩, fun m hm => absurd hm List.not_mem_nil⟩
  | cons c s ih =>
    cases skip with
    | succ skip =>
      rw [List.drop_succ_cons, List.take_succ_cons, getLast?_cons_or]
      exact ih skip (some c)
    | zero =>
      rw [splitFrom]
      cases hmatch : matchAt p prev (c :: s) with
      | none =>
        obtain ⟨⟨rest, hrest, hclean⟩, hgaps⟩ := ih 0 (some c)
        refine ⟨⟨rest, congrArg (c :: ·) hrest, hclean.cons ?_⟩, hgaps⟩
        rwa [List.cons_append, ← hrest]
      | some ws =>
        obtain ⟨⟨rest, -, hclean⟩, hgaps⟩ := ih (ws.flatten.length - 1) (some c)
        refine ⟨⟨c :: s, rfl, clean_nil _⟩, fun m hm => ?_⟩
        rcases List.mem_cons.mp hm with rfl | hm
        · refine ⟨rest, ?_⟩
          rw [getLast?_match hp hmatch]
          exact hclean
        · exact hgaps m hm

theorem fits_of_mem_splitFrom {m : List (List Char) × List Char} {skip : Nat}
    (hm : m ∈ (splitFrom p skip prev s).2) : ∃ prev' v, Fits p prev' m.1 v := by
  induction s generalizing skip prev with
  | nil => cases skip <;> cases hm
  | cons c s ih =>
    cases skip with
    | succ skip => exact ih hm
    | zero =>
      rw [splitFrom] at hm
      cases hmatch : matchAt p prev (c :: s) with
      | none =>
        rw [hmatch] at hm
        exact ih hm
      | some ws =>
        rw [hmatch] at hm
        rcases List.mem_cons.mp hm with rfl | hm
        · obtain ⟨v, -, hfits⟩ := fits_of_matchAt hmatch
          exact ⟨prev, v, hfits⟩
        · exact ih hm

end

/-! ### Patterns of runs -/

/-- The items are runs, and none of them takes the first character of `v`. -/
def Stops (v : List Char) (p : List Item) : Prop :=
  ∀ item ∈ p, ∃ cls least most, item = .run cls least most ∧ ∀ x ∈ v.head?, cls x = false

section
variable {p : List Item} {prev : Option Char} {u v : List Char}

theorem Stops.append {q : List Item} (hp : Stops v p) (hq : Stops v q) : Stops v (p ++ q) :=
  fun item hitem => (List.mem_append.mp hitem).elim (hp item) (hq item)

theorem stops_run {cls : Char → Bool} {least : Nat} {most : Option Nat} (h : ∀ x ∈ v.head?, cls x = false) :
    Stops v [.run cls least most] := by
  intro item hitem
  exact ⟨cls, least, most, List.mem_singleton.mp hitem, h⟩

theorem stops_lit {s : String} (h : ∀ x ∈ v.head?, x ∉ s.toList) : Stops v (lit s) := by
  intro item hitem
  obtain ⟨c, hc, rfl⟩ := List.mem_map.mp hitem
  exact ⟨_, 1, some 1, rfl, fun x hx => decide_eq_false fun heq => h x hx (heq ▸ hc)⟩

theorem takeWhile_append_of_head {cls : Char → Bool} (hv : ∀ x ∈ v.head?, cls x = false) :
    (u ++ v).takeWhile cls = u.takeWhile cls := by
  induction u with
  | nil =>
    cases v with
    | nil => rfl
    | cons x v => exact List.takeWhile_cons_of_neg (Bool.not_eq_true _ ▸ hv x rfl)
  | cons c u ih => rw [List.cons_append, List.takeWhile_cons, List.takeWhile_cons, ih]

theorem findSome?_congr {α β : Type} {f g : α → Option β} {l : List α} (h : ∀ a ∈ l, f a = g a) :
    l.findSome? f = l.findSome? g := by
  induction l with
  | nil => rfl
  | cons a l ih =>
    rw [List.findSome?_cons, List.findSome?_cons, h a List.mem_cons_self,
      ih fun b hb => h b (List.mem_cons_of_mem a hb)]

/-- Neither what stands before the text counts nor what stands behind the character that stops it. -/
theorem matchAt_append (h : Stops v p) (prev' : Option Char) :
    matchAt p prev (u ++ v) = matchAt p prev' u := by
  induction p generalizing prev prev' u with
  | nil => rfl
  | cons item p ih =>
    obtain ⟨cls, least, most, rfl, hcls⟩ := h item List.mem_cons_self
    have hlengths : lengths cls least most (u ++ v) = lengths cls least most u := by
      rw [lengths, takeWhile_append_of_head hcls, lengths]
    rw [matchAt, matchAt, hlengths]
    refine findSome?_congr fun n hn => ?_
    have hle : n ≤ u.length := (mem_lengths_iff.mp hn).1.trans (List.takeWhile_prefix cls).length_le
    rw [List.take_append_of_le_length hle, List.drop_append_of_le_length hle,
      ih (fun item hitem => h item (List.mem_cons_of_mem _ hitem)) ((u.take n).getLast?.or prev')]

theorem matchAt_nil (hp : Proper p) : matchAt p prev [] = none := by
  by_contra hsome
  obtain ⟨ws, hws⟩ := Option.ne_none_iff_exists'.mp hsome
  obtain ⟨v, hv, -⟩ := fits_of_matchAt hws
  exact hp _ _ _ hws (List.append_eq_nil_iff.mp hv.symm).1

theorem splitFrom_prev (h : Stops [] p) (skip : Nat) (prev' : Option Char) :
    splitFrom p skip prev u = splitFrom p skip prev' u := by
  cases u with
  | nil =>
    cases skip
    · rfl
    · rfl
  | cons c u =>
    cases skip with
    | succ skip => rfl
    | zero =>
      have hmatch : matchAt p prev (c :: u) = matchAt p prev' (c :: u) := by
        rw [← List.append_nil (c :: u)]
        exact (matchAt_append h none).trans (matchAt_append h none).symm
      rw [splitFrom, splitFrom, hmatch]

end

/-! ### Putting the pieces together -/

section
variable {β γ : Type} {keep : List Char → List β} {replace : List (List Char) → List β}

theorem map_assemble (f : β → γ) (r : Cut) :
    (assemble keep replace r).map f =
      assemble (fun g => (keep g).map f) (fun ws => (replace ws).map f) r := by
  rw [assemble, List.map_append, List.map_flatMap, assemble]
  simp only [List.map_append]

/-- What holds of all the pieces, and of two texts put together, holds of the result. -/
theorem assemble_induction {P : List β → Prop} (happend : ∀ l l', P l → P l' → P (l ++ l')) (hnil : P [])
    (hkeep : ∀ g, P (keep g)) (hreplace : ∀ ws, P (replace ws)) (r : Cut) : P (assemble keep replace r) := by
  obtain ⟨g, ms⟩ := r
  refine happend _ _ (hkeep g) ?_
  induction ms with
  | nil => exact hnil
  | cons m ms ih => exact happend _ _ (happend _ _ (hreplace m.1) (hkeep m.2)) ih

variable {p : List Item} {prev : Option Char} {f : Char → β} {s : List Char} {c : Char}

theorem assemble_cons (hkeep : ∀ c g, keep (c :: g) = f c :: keep g)
    (h : matchAt p prev (c :: s) = none) :
    assemble keep replace (splitFrom p 0 prev (c :: s)) =
      f c :: assemble keep replace (splitFrom p 0 (some c) s) := by
  rw [splitFrom, h]
  show keep (c :: _) ++ _ = _
  rw [hkeep, List.cons_append]
  rfl

theorem assemble_match (hnil : keep [] = []) {ws : List (List Char)}
    (h : matchAt p prev (c :: s) = some ws) :
    assemble keep replace (splitFrom p 0 prev (c :: s)) =
      replace ws ++ assemble keep replace (splitFrom p (ws.flatten.length - 1) (some c) s) := by
  rw [splitFrom, h]
  show keep [] ++ List.flatMap _ (_ :: _) = _
  rw [hnil, List.nil_append, List.flatMap_cons, List.append_assoc]
  rfl

end

section
variable {p : List Item} {replace : List (List Char) → List Char} {prev : Option Char} {u v : List Char}
  {x : Char}

theorem assemble_id_cons {c : Char} (h : matchAt p prev (c :: u) = none) :
    assemble id replace (splitFrom p 0 prev (c :: u)) =
      c :: assemble id replace (splitFrom p 0 (some c) u) := by
  have hkeep : ∀ (c : Char) (g : List Char), id (c :: g) = id c :: id g := fun _ _ => rfl
  exact assemble_cons hkeep h

/-- Where no character can begin a match, nothing is replaced. -/
theorem sub_eq_self (h : ∀ prev, ∀ c ∈ u, ∀ t, matchAt p prev (c :: t) = none) : sub p replace u = u := by
  have hfrom : ∀ prev, assemble id replace (splitFrom p 0 prev u) = u := by
    induction u with
    | nil => exact fun _ => rfl
    | cons c u ih =>
      intro prev
      rw [assemble_id_cons (h prev c List.mem_cons_self u),
        ih (fun prev d hd => h prev d (List.mem_cons_of_mem c hd))]
  exact hfrom none

/-- A pattern that is tied to the start matches nowhere behind it. -/
theorem assemble_start (skip : Nat) (d : Char) :
    assemble id replace (splitFrom (.start :: p) skip (some d) u) = u.drop skip := by
  induction u generalizing skip d with
  | nil => cases skip <;> rfl
  | cons c u ih =>
    cases skip with
    | succ skip => exact ih skip c
    | zero => rw [assemble_id_cons rfl, ih 0 c, List.drop_zero, List.drop_zero]

/-- A character that no item takes parts the matches before it from those behind it. -/
theorem assemble_append_cons (hp : Proper p) (hx : Stops (x :: v) p) {skip : Nat} (hskip : skip ≤ u.length) :
    assemble id replace (splitFrom p skip prev (u ++ x :: v)) =
      assemble id replace (splitFrom p skip prev u) ++
        x :: assemble id replace (splitFrom p 0 (some x) v) := by
  induction u generalizing skip prev with
  | nil =>
    obtain rfl : skip = 0 := Nat.le_zero.mp hskip
    have hnone : matchAt p prev (x :: v) = none :=
      (matchAt_append (u := []) hx none).trans (matchAt_nil hp)
    exact assemble_id_cons hnone
  | cons c u ih =>
    cases skip with
    | succ skip => exact ih (Nat.le_of_succ_le_succ hskip)
    | zero =>
      have hmatch : matchAt p prev (c :: (u ++ x :: v)) = matchAt p prev (c :: u) :=
        matchAt_append (u := c :: u) hx prev
      cases hws : matchAt p prev (c :: u) with
      | none =>
        rw [List.cons_append, assemble_id_cons (hmatch.trans hws), assemble_id_cons hws, ih (Nat.zero_le _),
          List.cons_append]
      | some ws =>
        obtain ⟨w, hw, -⟩ := fits_of_matchAt hws
        have hlen : ws.flatten.length ≤ u.length + 1 := by
          rw [← List.length_cons, hw, List.length_append]
          exact Nat.le_add_right ..
        rw [List.cons_append, assemble_match rfl (hmatch.trans hws), assemble_match rfl hws,
          ih (Nat.sub_le_of_le_add hlen), List.append_assoc]

theorem sub_append_cons (hp : Proper p) (hx : Stops (x :: v) p) (hruns : Stops [] p) :
    sub p replace (u ++ x :: v) = sub p replace u ++ x :: sub p replace v := by
  rw [sub, split, assemble_append_cons hp hx (Nat.zero_le _), splitFrom_prev (u := v) hruns 0 none]
  rfl

/-- Text that the first item does not take is passed over. -/
theorem sub_append_of_forall {cls : Char → Bool} {least : Nat} {most : Option Nat}
    (hruns : Stops [] (.run cls (least + 1) most :: p)) (hu : ∀ c ∈ u, cls c = false) :
    sub (.run cls (least + 1) most :: p) replace (u ++ v) =
      u ++ sub (.run cls (least + 1) most :: p) replace v := by
  induction u with
  | nil => rfl
  | cons c u ih =>
    have hnone : matchAt (.run cls (least + 1) most :: p) none (c :: (u ++ v)) = none := by
      rw [matchAt, List.findSome?_eq_none_iff]
      intro n hn
      obtain ⟨hlen, hleast, -⟩ := mem_lengths_iff.mp hn
      rw [List.takeWhile_cons_of_neg (Bool.not_eq_true _ ▸ hu c List.mem_cons_self)] at hlen
      exact absurd (hleast.trans hlen) (Nat.not_succ_le_zero least)
    rw [sub, split, List.cons_append, assemble_id_cons hnone, splitFrom_prev hruns 0 none, List.cons_append,
      ← ih fun d hd => hu d (List.mem_cons_of_mem c hd)]
    rfl

end

end Substitution
