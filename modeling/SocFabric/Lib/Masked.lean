import SocFabric.Lib.Joined
import SocFabric.Lib.PercentFormat

/-!
# Formatting texts with masks

A cell is a character of a template, a character that came with a conversion, or a character of a
mask, which stands for text that is hidden. A mask is written with stars, and with dots that have a
star before them, so that hidden and visible text do not run together: what a reader sees in the
formatted text is what `percent` makes of the cells (`percent_map_char`), and a stretch of it without
stars that does not begin with a dot is a stretch of visible cells (`Sealed.visible`).
-/

namespace Masked
open PercentFormat Glyph

inductive Cell
  | template (c : Char)
  | argument (c : Char)
  | mask (c : Char)
deriving DecidableEq, Repr

namespace Cell

def char : Cell → Char
  | template c | argument c | mask c => c

def visible : Cell → Bool
  | template _ | argument _ => true
  | mask _ => false

instance : Glyph Cell where
  view
    | template c | argument c => some c
    | mask _ => none
  ofChar := argument

theorem char_ofChar (c : Char) : (ofChar c : Cell).char = ofChar c := rfl

theorem view_of_visible {x : Cell} (h : x.visible = true) : view x = some x.char := by
  cases x with
  | template c => rfl
  | argument c => rfl
  | mask c => cases h

end Cell

open Cell

/-- Every mask is written with stars, and with dots that have a star before them. -/
inductive Sealed : List Cell → Prop
  | nil : Sealed []
  | seen {x : Cell} {l : List Cell} : x.visible = true → Sealed l → Sealed (x :: l)
  | star {l : List Cell} : Sealed l → Sealed (mask '*' :: l)
  | dot {l : List Cell} : Sealed l → Sealed (mask '*' :: mask '.' :: l)

namespace Sealed
variable {l l' : List Cell}

theorem append (h : Sealed l) (h' : Sealed l') : Sealed (l ++ l') := by
  induction h with
  | nil => exact h'
  | seen hx _ ih => exact ih.seen hx
  | star _ ih => exact ih.star
  | dot _ ih => exact ih.dot

theorem of_forall_visible (h : ∀ x ∈ l, x.visible = true) : Sealed l := by
  induction l with
  | nil => exact nil
  | cons x l ih => exact (ih fun y hy => h y (List.mem_cons_of_mem x hy)).seen (h x List.mem_cons_self)

theorem map_ofChar (s : List Char) : Sealed (s.map ofChar) :=
  of_forall_visible fun _ hx => by
    obtain ⟨c, -, rfl⟩ := List.mem_map.mp hx
    rfl

theorem stars {b : List Char} (h : ∀ c ∈ b, c = '*') : Sealed (b.map mask) := by
  induction b with
  | nil => exact nil
  | cons c b ih =>
    obtain rfl := h c List.mem_cons_self
    exact (ih fun d hd => h d (List.mem_cons_of_mem _ hd)).star

theorem map_argument (s : List Char) : Sealed (s.map argument) := map_ofChar s

theorem take (h : Sealed l) (n : Nat) : Sealed (l.take n) := by
  induction h generalizing n with
  | nil =>
    rw [List.take_nil]
    exact nil
  | seen hx _ ih =>
    cases n with
    | zero => exact nil
    | succ n => exact (ih n).seen hx
  | star _ ih =>
    cases n with
    | zero => exact nil
    | succ n => exact (ih n).star
  | dot _ ih =>
    cases n with
    | zero => exact nil
    | succ n =>
      cases n with
      | zero => exact nil.star
      | succ n => exact (ih n).dot

theorem behind_star_cons {a : List Cell} (x : Cell) :
    (∃ a', a = a' ++ [mask '*']) → ∃ a', x :: a = a' ++ [mask '*'] := by
  rintro ⟨a', rfl⟩
  exact ⟨x :: a', rfl⟩

/-- A cell that is not visible is a star, or a dot behind a star. -/
theorem of_mask {a b : List Cell} {c : Char} (h : Sealed (a ++ mask c :: b)) :
    c = '*' ∨ c = '.' ∧ ∃ a', a = a' ++ [mask '*'] := by
  generalize hl : a ++ mask c :: b = l at h
  induction h generalizing a with
  | nil => exact absurd hl (List.append_ne_nil_of_right_ne_nil _ (List.cons_ne_nil _ _))
  | seen hx _ ih =>
    cases a with
    | nil =>
      obtain ⟨rfl, -⟩ := List.cons.inj hl
      cases hx
    | cons y a => exact (ih (List.cons.inj hl).2).imp_right (.imp_right (behind_star_cons y))
  | star _ ih =>
    cases a with
    | nil => exact .inl (Cell.mask.inj (List.cons.inj hl).1)
    | cons y a => exact (ih (List.cons.inj hl).2).imp_right (.imp_right (behind_star_cons y))
  | dot _ ih =>
    cases a with
    | nil => exact .inl (Cell.mask.inj (List.cons.inj hl).1)
    | cons y a =>
      obtain ⟨rfl, htail⟩ := List.cons.inj hl
      cases a with
      | nil => exact .inr ⟨Cell.mask.inj (List.cons.inj htail).1, [], rfl⟩
      | cons z a =>
        have hcases := ih (List.cons.inj htail).2
        exact hcases.imp_right (.imp_right fun ha => behind_star_cons _ (behind_star_cons z ha))

/-! ### What is formatted -/

variable {printable : Char → Bool}

theorem cut (h : Sealed l) (c : Conversion) : Sealed (c.cut l) := by
  unfold Conversion.cut
  cases c.precision with
  | none => exact h
  | some n => exact h.take n

theorem replicate (n : Nat) (c : Char) : Sealed (List.replicate n (ofChar c)) :=
  of_forall_visible fun _ hx => by rw [List.eq_of_mem_replicate hx]; rfl

theorem pad (h : Sealed l) (c : Conversion) : Sealed (c.pad l) := by
  unfold Conversion.pad
  split
  · exact h.append (replicate _ _)
  · exact (replicate _ _).append h

theorem escaped_visible {x : Cell} (hx : x.visible = true) (quote : Char) :
    Sealed (escaped printable quote x) := by
  unfold escaped
  split
  · exact map_ofChar _
  · exact nil.seen hx

theorem flatMap_escaped (h : Sealed l) (quote : Char) : Sealed (l.flatMap (escaped printable quote)) := by
  induction h with
  | nil => exact nil
  | seen hx _ ih => exact (escaped_visible hx quote).append ih
  | star _ ih => exact ih.star
  | dot _ ih => exact ih.dot

theorem repr (h : Sealed l) : Sealed (PercentFormat.repr printable l) :=
  ((h.flatMap_escaped _).append (nil.seen rfl)).seen rfl

theorem text (h : Sealed l) {c : Conversion} {txt : List Cell} (htxt : c.text printable l = some txt) :
    Sealed txt := by
  unfold Conversion.text at htxt
  split_ifs at htxt
  · cases htxt
    exact (h.cut c).pad c
  · cases htxt
    exact (h.repr.cut c).pad c
  · cases htxt
    exact (Sealed.repr h).cut c |>.pad c
  · cases htxt
    exact h.pad c

theorem format {a : Arg Cell} (ha : ∀ s, a = .str s → Sealed s) {c : Conversion} {txt : List Cell}
    (htxt : a.format printable c = some txt) : Sealed txt := by
  cases a with
  | str s => exact (ha s rfl).text htxt
  | other o =>
    obtain ⟨t, -, rfl⟩ := Option.map_eq_some_iff.mp htxt
    exact map_ofChar t

/-! ### `repr` of what a reader sees -/

theorem holds_map_char (h : Sealed l) {c : Char} (hstar : c ≠ '*') (hdot : c ≠ '.') :
    holds (l.map char) c = holds l c := by
  have hmask : ∀ d : Char, c ≠ d → ∀ l : List Char, holds (d :: l) c = holds l c := by
    intro d hd l
    have hne : decide (some d = some c) = false := decide_eq_false fun heq => hd (Option.some.inj heq).symm
    show (decide (some d = some c) || holds l c) = holds l c
    rw [hne, Bool.false_or]
  induction h with
  | nil => rfl
  | @seen x l hx _ ih =>
    show (decide (some x.char = some c) || holds (l.map char) c) = (decide (view x = some c) || holds l c)
    rw [view_of_visible hx, ih]
  | star _ ih => exact (hmask '*' hstar _).trans ih
  | dot _ ih => exact (hmask '*' hstar _).trans ((hmask '.' hdot _).trans ih)

theorem quoteOf_map_char (h : Sealed l) : quoteOf (l.map char) = quoteOf l := by
  rw [quoteOf, quoteOf, h.holds_map_char (by decide) (by decide), h.holds_map_char (by decide) (by decide)]

theorem flatMap_escaped_map_char (h : Sealed l) {quote : Char} (hquote : quote = '\'' ∨ quote = '"') :
    (l.map char).flatMap (escaped printable quote) = (l.flatMap (escaped printable quote)).map char := by
  have hseen : ∀ x : Cell, x.visible = true →
      escaped printable quote x.char = (escaped printable quote x).map char := by
    intro x hx
    have hview : view x.char = view x := (view_of_visible hx).symm
    unfold escaped
    rw [hview]
    cases (view x).bind (escape printable quote) with
    | none => rfl
    | some e =>
      show e.map id = (e.map argument).map char
      rw [List.map_map]
      rfl
  have hstar : escaped printable quote '*' = ['*'] := by
    rcases hquote with rfl | rfl
    · rfl
    · rfl
  have hdot : escaped printable quote '.' = ['.'] := by
    rcases hquote with rfl | rfl
    · rfl
    · rfl
  induction h with
  | nil => rfl
  | seen hx _ ih => rw [List.map_cons, List.flatMap_cons, ih, hseen _ hx, List.flatMap_cons, List.map_append]
  | @star l _ ih =>
    show escaped printable quote '*' ++ (l.map char).flatMap _ = _
    rw [hstar, ih]
    rfl
  | @dot l _ ih =>
    show escaped printable quote '*' ++ (escaped printable quote '.' ++ (l.map char).flatMap _) = _
    rw [hstar, hdot, ih]
    rfl

theorem reprMap (h : Sealed l) : ReprMap char l := by
  intro printable
  have hquote : quoteOf l = '\'' ∨ quoteOf l = '"' := by
    unfold quoteOf
    split
    · exact .inr rfl
    · exact .inl rfl
  rw [PercentFormat.repr, h.quoteOf_map_char, h.flatMap_escaped_map_char hquote, PercentFormat.repr,
    List.map_append, List.map_cons]
  rfl

/-! ### What a reader can tell -/

/-- Text without stars that does not begin with a dot is visible text. -/
theorem visible (h : Sealed l) {a w b : List Char} (hl : l.map char = a ++ w ++ b) (hstar : '*' ∉ w)
    (hdot : w.head? ≠ some '.') :
    ∃ a' w' b', l = a' ++ w' ++ b' ∧ a'.map char = a ∧ w'.map char = w ∧ b'.map char = b ∧
      ∀ x ∈ w', x.visible = true := by
  obtain ⟨aw, b', rfl, haw, rfl⟩ := List.map_eq_append_iff.mp hl
  obtain ⟨a', w', rfl, rfl, rfl⟩ := List.map_eq_append_iff.mp haw
  refine ⟨a', w', b', rfl, rfl, rfl, rfl, fun x hx => ?_⟩
  cases x with
  | template c => rfl
  | argument c => rfl
  | mask c =>
    exfalso
    obtain ⟨u, v, rfl⟩ := List.append_of_mem hx
    have hsplit : a' ++ (u ++ mask c :: v) ++ b' = (a' ++ u) ++ mask c :: (v ++ b') := by simp
    rcases of_mask (hsplit ▸ h) with rfl | ⟨rfl, u', hu'⟩
    · exact hstar (List.mem_map.mpr ⟨_, hx, rfl⟩)
    · rcases List.eq_nil_or_concat u with rfl | ⟨u₀, y, rfl⟩
      · exact hdot rfl
      · rw [List.concat_eq_append, ← List.append_assoc] at hu'
        obtain ⟨-, hy⟩ := List.append_inj' hu' rfl
        obtain ⟨rfl, -⟩ := List.cons.inj hy
        exact hstar (List.mem_map.mpr ⟨mask '*', by simp, rfl⟩)

end Sealed

/-- A visible cell does not stand in a mask. -/
theorem eq_append_of_masks {b l x y : List Cell} {d : Cell} (hb : ∀ m ∈ b, m.visible = false)
    (hd : d.visible = true) (h : b ++ l = x ++ d :: y) : ∃ x', x = b ++ x' ∧ l = x' ++ d :: y := by
  induction b generalizing x with
  | nil => exact ⟨x, rfl, h⟩
  | cons m b ih =>
    cases x with
    | nil =>
      obtain ⟨rfl, -⟩ := List.cons.inj h
      exact absurd hd (Bool.not_eq_true _ ▸ hb _ List.mem_cons_self)
    | cons z x =>
      obtain ⟨rfl, htail⟩ := List.cons.inj h
      obtain ⟨x', rfl, hl⟩ := ih (fun n hn => hb n (List.mem_cons_of_mem _ hn)) htail
      exact ⟨x', rfl, hl⟩

/-- Visible cells stand on one side of a mask or on the other. -/
theorem append_masks_cases {a b l x w y : List Cell} (hb : ∀ m ∈ b, m.visible = false) (hne : b ≠ [])
    (hw : ∀ z ∈ w, z.visible = true) (hw' : w ≠ []) (h : a ++ (b ++ l) = x ++ (w ++ y)) :
    (∃ y', a = x ++ (w ++ y')) ∨ ∃ x', x = a ++ (b ++ x') ∧ l = x' ++ (w ++ y) := by
  obtain ⟨d, w, rfl⟩ := List.exists_cons_of_ne_nil hw'
  obtain ⟨m, b, rfl⟩ := List.exists_cons_of_ne_nil hne
  have hm : m ∉ d :: w := fun hmem => absurd (hw m hmem) (Bool.not_eq_true _ ▸ hb m List.mem_cons_self)
  rcases Joined.stretch_left_or_right h hm hw' with ⟨y', rfl, -⟩ | ⟨x', rfl, hl⟩
  · exact .inl ⟨y', rfl⟩
  · obtain ⟨x'', rfl, hrest⟩ :=
      eq_append_of_masks (fun n hn => hb n (List.mem_cons_of_mem _ hn)) (hw d List.mem_cons_self) hl
    exact .inr ⟨x'', rfl, hrest⟩

/-! ### Templates with masks -/

/-- A template in which every mask begins with two stars. -/
inductive Covered : List Cell → Prop
  | nil : Covered []
  | seen {x : Cell} {l : List Cell} : x.visible = true → Covered l → Covered (x :: l)
  | hide {b : List Char} {l : List Cell} : Sealed (('*' :: '*' :: b).map mask) → Covered l →
      Covered (('*' :: '*' :: b).map mask ++ l)

namespace Covered
variable {l l' : List Cell}

theorem append (h : Covered l) (h' : Covered l') : Covered (l ++ l') := by
  induction h with
  | nil => exact h'
  | seen hx _ ih => exact ih.seen hx
  | hide hb _ ih =>
    rw [List.append_assoc]
    exact ih.hide hb

theorem map_template (s : List Char) : Covered (s.map template) := by
  induction s with
  | nil => exact nil
  | cons c s ih => exact ih.seen rfl

theorem mask {b : List Char} (h : Sealed (('*' :: '*' :: b).map Cell.mask)) :
    Covered (('*' :: '*' :: b).map Cell.mask) := by
  rw [← List.append_nil (List.map _ _)]
  exact nil.hide h

theorem toSealed (h : Covered l) : Sealed l := by
  induction h with
  | nil => exact .nil
  | seen hx _ ih => exact ih.seen hx
  | hide hb _ ih => exact hb.append ih

end Covered

section
variable {printable : Char → Bool} {stage : Stage} {sp : Spec} {args : List (Arg Cell)} {l : List Cell}

/-- No conversion has two stars in a row. -/
theorem percent_stars (t : List Char) (args : List (Arg Char)) :
    percent printable (some (stage, sp)) ('*' :: '*' :: t) args = none := by
  cases stage <;> rfl

theorem view_mask_ne {b : List Char} (c : Char) : ∀ a ∈ b.map mask, view a ≠ some c := by
  intro a ha heq
  obtain ⟨d, -, rfl⟩ := List.mem_map.mp ha
  cases heq

theorem ne_percent_of_mask {b : List Char} (h : Sealed (b.map mask)) : '%' ∉ b := by
  intro hmem
  obtain ⟨u, v, rfl⟩ := List.append_of_mem hmem
  rw [List.map_append, List.map_cons] at h
  rcases h.of_mask with hc | ⟨hc, -⟩
  · exact absurd hc (by decide)
  · exact absurd hc (by decide)

/-- What a reader sees is what the template and the strings that they see are formatted to. -/
theorem percent_map_char {t : List Cell} (ht : Covered t) (mode : Option (Stage × Spec))
    (hargs : ∀ a ∈ args, ∀ s, a = .str s → Sealed s) :
    percent printable mode (t.map char) (args.map (Arg.map char)) =
      (percent printable mode t args).map (List.map char) := by
  induction ht generalizing mode args with
  | nil =>
    cases mode with
    | none =>
      cases args with
      | nil => rfl
      | cons a args => rfl
    | some m => rfl
  | @seen x t hx _ ih =>
    have hview : view x.char = view x := (view_of_visible hx).symm
    cases mode with
    | none =>
      rw [List.map_cons, percent, percent, hview]
      split
      · exact ih _ hargs
      · rw [ih _ hargs, Option.map_map, Option.map_map]
        rfl
    | some m =>
      obtain ⟨stage, sp⟩ := m
      rw [List.map_cons, percent, percent, hview]
      cases (view x).bind (sp.next stage) with
      | none => rfl
      | some step =>
        cases step with
        | more stage sp => exact ih _ hargs
        | done sp =>
          show (convert printable sp (args.map (Arg.map char))).bind _ =
            ((convert printable sp args).bind _).map _
          rw [convert_map char_ofChar fun a ha s hs => (hargs a ha s hs).reprMap]
          cases hconv : convert printable sp args with
          | none => rfl
          | some r =>
            have hrest : ∀ a ∈ r.2, ∀ s, a = .str s → Sealed s :=
              fun a ha => hargs a ((convert_cases hconv).1.subset ha)
            rw [Option.map_some, Option.bind_some, Option.bind_some, ih _ hrest, Option.map_map,
              Option.map_map]
            refine congrArg (Option.map · _) (funext fun m => ?_)
            exact List.map_append.symm
  | @hide b t hb _ ih =>
    cases mode with
    | some m =>
      obtain ⟨stage, sp⟩ := m
      rw [List.map_append]
      exact percent_stars _ _
    | none =>
      have hb' : ∀ a ∈ (('*' :: '*' :: b).map mask).map char, view a ≠ some '%' := by
        intro a ha heq
        obtain ⟨x, hx, rfl⟩ := List.mem_map.mp ha
        obtain ⟨c, hc, rfl⟩ := List.mem_map.mp hx
        exact ne_percent_of_mask hb (Option.some.inj heq ▸ hc)
      rw [List.map_append, percent_append hb', percent_append (view_mask_ne '%'), ih _ hargs, Option.map_map,
        Option.map_map]
      refine congrArg (Option.map · _) (funext fun m => ?_)
      exact List.map_append.symm

theorem sealed_percent {t m : List Cell} (ht : Covered t) {mode : Option (Stage × Spec)}
    (hargs : ∀ a ∈ args, ∀ s, a = .str s → Sealed s) (hm : percent printable mode t args = some m) :
    Sealed m := by
  induction ht generalizing mode args m with
  | nil =>
    cases mode with
    | some mode => cases hm
    | none =>
      cases args with
      | cons a args => cases hm
      | nil =>
        cases hm
        exact .nil
  | @seen x t hx _ ih =>
    cases mode with
    | none =>
      rw [percent] at hm
      split at hm
      · exact ih hargs hm
      · obtain ⟨m, htail, rfl⟩ := Option.map_eq_some_iff.mp hm
        exact (ih hargs htail).seen hx
    | some mode =>
      obtain ⟨stage, sp⟩ := mode
      rw [percent] at hm
      split at hm
      · cases hm
      · exact ih hargs hm
      · obtain ⟨r, hr, hm⟩ := Option.bind_eq_some_iff.mp hm
        obtain ⟨m, htail, rfl⟩ := Option.map_eq_some_iff.mp hm
        obtain ⟨hsuffix, htxt⟩ := convert_cases hr
        refine Sealed.append ?_ (ih (fun a ha => hargs a (hsuffix.subset ha)) htail)
        rcases htxt with htxt | ⟨a, ha, c, htxt⟩
        · rw [htxt]
          exact .seen rfl .nil
        · exact Sealed.format (hargs a ha) htxt
  | @hide b t hb _ ih =>
    cases mode with
    | some mode => cases hm
    | none =>
      rw [percent_append (view_mask_ne '%')] at hm
      obtain ⟨m, htail, rfl⟩ := Option.map_eq_some_iff.mp hm
      exact hb.append (ih hargs htail)

end

end Masked
