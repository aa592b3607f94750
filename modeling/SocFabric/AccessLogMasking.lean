import SocFabric.AccessLogFilter

/-!
# Addresses in the access log (`interfaces/main.py`)

Of the addresses in a template those that stay in sight directly follow a word character
(`glued_of_quad`), but no pattern sees the arguments behind the first one, the first one behind its
start, or the formatted message. `filter_anonymous_iff` says exactly when a message shows an address.
-/

namespace SocFabric
namespace AccessLog
open Masked PercentFormat Substitution

/-! ### Addresses -/

def digitsValue (n : List Char) : Nat := n.foldl (fun v c => 10 * v + digitValue c) 0

/-- One to three digits for a number below 256. -/
def Octet (n : List Char) : Prop :=
  (∀ c ∈ n, c.isDigit = true) ∧ 1 ≤ n.length ∧ n.length ≤ 3 ∧ digitsValue n ≤ 255

instance (n : List Char) : Decidable (Octet n) := inferInstanceAs (Decidable (_ ∧ _))

/-- A dotted quad. -/
def Quad (w : List Char) : Prop :=
  ∃ n₁ n₂ n₃ n₄, Octet n₁ ∧ Octet n₂ ∧ Octet n₃ ∧ Octet n₄ ∧
    w = n₁ ++ '.' :: (n₂ ++ '.' :: (n₃ ++ '.' :: n₄))

/-- No digit stands directly before or behind. -/
def Apart (a b : List Char) : Prop :=
  (∀ c ∈ a.getLast?, c.isDigit = false) ∧ ∀ c ∈ b.head?, c.isDigit = false

instance (a b : List Char) : Decidable (Apart a b) := inferInstanceAs (Decidable (_ ∧ _))

/-- The message has a dotted quad with all four numbers in it. -/
def ShowsAddress (m : List Char) : Prop := ∃ a w b, m = a ++ w ++ b ∧ Quad w ∧ Apart a b

def Anonymous (U : Unicode) (r : LogRecord) : Prop := ∀ m, r.getMessage U = some m → ¬ ShowsAddress m

/-! ### Addresses in a template -/

section
variable {U : Unicode} {prev : Option Char} {w a b g rest : List Char}

theorem isDigit_lt {c : Char} (h : c.isDigit = true) : c.toNat < 128 := by
  rw [Char.isDigit_iff_toNat] at h
  exact Nat.lt_of_le_of_lt h.2 (by decide)

theorem Unicode.decimal_of_isDigit {c : Char} (h : c.isDigit = true) : U.decimal c = true :=
  (U.decimal_ascii c (isDigit_lt h)).trans h

theorem Unicode.word_of_isDigit {c : Char} (h : c.isDigit = true) : U.word c = true := by
  rw [Unicode.word, U.alnum_ascii c (isDigit_lt h), Char.isAlphanum, h, Bool.or_true, Bool.true_or]

theorem Unicode.word_dot : U.word '.' = false := by
  rw [Unicode.word, U.alnum_ascii '.' (by decide)]
  rfl

theorem Quad.head_isDigit (hw : Quad w) : ∃ d w', w = d :: w' ∧ d.isDigit = true := by
  obtain ⟨n₁, n₂, n₃, n₄, ⟨hdigits, hpos, -⟩, -, -, -, rfl⟩ := hw
  cases n₁ with
  | nil => cases hpos
  | cons d n₁ => exact ⟨d, _, rfl, hdigits d List.mem_cons_self⟩

theorem Quad.eq_dot_or_isDigit {w : List Char} (hw : Quad w) : ∀ c ∈ w, c = '.' ∨ c.isDigit = true := by
  obtain ⟨n₁, n₂, n₃, n₄, h₁, h₂, h₃, h₄, rfl⟩ := hw
  intro c hc
  simp only [List.mem_append, List.mem_cons] at hc
  rcases hc with hc | hc | hc | hc | hc | hc | hc
  · exact .inr (h₁.1 c hc)
  · exact .inl hc
  · exact .inr (h₂.1 c hc)
  · exact .inl hc
  · exact .inr (h₃.1 c hc)
  · exact .inl hc
  · exact .inr (h₄.1 c hc)

theorem Quad.dot_mem (hw : Quad w) : '.' ∈ w := by
  obtain ⟨n₁, n₂, n₃, n₄, -, -, -, -, rfl⟩ := hw
  exact List.mem_append_right _ List.mem_cons_self

theorem Quad.ne_nil (hw : Quad w) : w ≠ [] := by
  obtain ⟨d, w', rfl, -⟩ := hw.head_isDigit
  exact List.cons_ne_nil _ _

theorem fits_threeOctets {n₁ n₂ n₃ v : List Char} (h₁ : Octet n₁) (h₂ : Octet n₂) (h₃ : Octet n₃) :
    Fits (threeOctets U) prev [n₁, ['.'], n₂, ['.'], n₃, ['.']] v := by
  have hone : ∀ c ∈ ['.'], decide (c = '.') = true := by decide
  have hoctet : ∀ n, Octet n →
      (∀ c ∈ n, U.decimal c = true) ∧ 1 ≤ n.length ∧ ∀ m ∈ some 3, n.length ≤ m := by
    rintro n ⟨hdigits, hleast, hmost, -⟩
    exact ⟨fun c hc => Unicode.decimal_of_isDigit (hdigits c hc), hleast,
      fun m hm => Option.mem_some.mp hm ▸ hmost⟩
  exact ⟨(hoctet _ h₁).1, (hoctet _ h₁).2.1, (hoctet _ h₁).2.2, hone, le_rfl, by decide,
    (hoctet _ h₂).1, (hoctet _ h₂).2.1, (hoctet _ h₂).2.2, hone, le_rfl, by decide,
    (hoctet _ h₃).1, (hoctet _ h₃).2.1, (hoctet _ h₃).2.2, hone, le_rfl, by decide, rfl⟩

/-- Behind a character that is no word character the inline pattern matches an address. -/
theorem matchAt_inlinePattern (hw : Quad w) (hprev : prev.any U.word = false) (b : List Char) :
    (matchAt (inlinePattern U) prev (w ++ b)).isSome := by
  obtain ⟨d, w', hd, hdigit⟩ := hw.head_isDigit
  obtain ⟨n₁, n₂, n₃, n₄, h₁, h₂, h₃, -, hquad⟩ := hw
  have hsplit : w ++ b = [n₁, ['.'], n₂, ['.'], n₃, ['.']].flatten ++ (n₄ ++ b) := by
    rw [hquad]
    simp
  have hword : ((w ++ b).head?).any U.word = true := by
    rw [hd]
    exact Unicode.word_of_isDigit hdigit
  have hfits : Fits (inlinePattern U) prev [[], n₁, ['.'], n₂, ['.'], n₃, ['.']] (n₄ ++ b) := by
    refine ⟨rfl, ?_, fits_threeOctets h₁ h₂ h₃⟩
    rw [hprev, ← hsplit, hword]
    exact Bool.false_ne_true
  have hsome := matchAt_isSome_of_fits hfits
  rwa [List.flatten_cons, List.nil_append, ← hsplit] at hsome

/-- So an address that stays in sight between two matches is behind a word character. -/
theorem word_before_quad (hclean : Clean (inlinePattern U) prev g rest) (hprev : prev.any U.word = false)
    (hw : Quad w) (hg : g = a ++ (w ++ b)) : ∃ a' c, a = a' ++ [c] ∧ U.word c = true := by
  obtain ⟨d, w', hd, -⟩ := hw.head_isDigit
  have hnone := hclean a d (w' ++ b) (by rw [hg, hd]; rfl)
  rw [List.cons_append, List.append_assoc, ← List.cons_append, ← hd] at hnone
  by_contra hno
  have hany : (a.getLast?.or prev).any U.word = false := by
    rcases List.eq_nil_or_concat a with rfl | ⟨a', c, rfl⟩
    · exact hprev
    · rw [List.concat_eq_append, List.getLast?_concat]
      exact Bool.not_eq_true _ ▸ fun hc => hno ⟨a', c, List.concat_eq_append, hc⟩
  have hsome := matchAt_inlinePattern hw hany (b ++ rest)
  rw [hnone] at hsome
  cases hsome

theorem proper_inlinePattern : Proper (inlinePattern U) :=
  proper_of_mem (List.mem_cons_of_mem _ List.mem_cons_self)

theorem proper_headPattern : Proper (headPattern U) :=
  proper_of_mem (List.mem_cons_of_mem _ List.mem_cons_self)

/-- What the inline pattern matches ends with a dot. -/
theorem getLast?_inlinePattern {t : List Char} {m : List (List Char) × List Char}
    (hm : m ∈ (split (inlinePattern U) t).2) : m.1.flatten.getLast? = some '.' := by
  obtain ⟨prev, v, hfits⟩ := fits_of_mem_splitFrom hm
  obtain ⟨prev', hlast⟩ : ∃ prev', Fits [one (· = '.')] prev' (m.1.drop 6) v :=
    Fits.drop (p := (inlinePattern U).take 6) hfits
  rw [← List.take_append_drop 6 m.1, List.flatten_append]
  cases hws : m.1.drop 6 with
  | nil =>
    rw [hws] at hlast
    exact False.elim hlast
  | cons w ws =>
    rw [hws] at hlast
    obtain rfl : ws = [] := hlast.2.2.2
    rw [eq_of_fits_one hlast]
    exact List.getLast?_concat

/-- The pattern matches nowhere in the gaps between its matches, and a gap does not begin behind a
word character. -/
theorem clean_gap {t : List Char} (hg : g ∈ gaps (split (inlinePattern U) t)) :
    ∃ prev rest, prev.any U.word = false ∧ Clean (inlinePattern U) prev g rest := by
  obtain ⟨⟨rest, -, hclean⟩, hgaps⟩ := clean_splitFrom (s := t) (proper_inlinePattern (U := U)) 0 none
  rcases List.mem_cons.mp hg with rfl | hg
  · exact ⟨none, rest, rfl, hclean⟩
  · obtain ⟨m, hm, rfl⟩ := List.mem_map.mp hg
    obtain ⟨rest, hclean⟩ := hgaps m hm
    rw [getLast?_inlinePattern hm] at hclean
    exact ⟨some '.', rest, Unicode.word_dot, hclean⟩

end

/-! ### The hosts of URLs -/

/-- The cells show the text except for stretches that a dot stands behind. -/
inductive Hides : List Char → List Cell → Prop
  | nil : Hides [] []
  | keep (c : Char) {s : List Char} {l : List Cell} : Hides s l → Hides (c :: s) (.template c :: l)
  | hide (u : List Char) {b : List Cell} {s : List Char} {l : List Cell} : b ≠ [] →
      (∀ x ∈ b, x.visible = false) → Hides ('.' :: s) l → Hides (u ++ '.' :: s) (b ++ l)

namespace Hides
variable {s : List Char} {l : List Cell}

theorem append (u : List Char) (h : Hides s l) : Hides (u ++ s) (u.map .template ++ l) := by
  induction u with
  | nil => exact h
  | cons c u ih => exact ih.keep c

theorem split_nil {w : List Char} {y : List Cell} (h : Hides s l) (hl : l = w.map .template ++ y) :
    ∃ b, s = w ++ b := by
  induction h generalizing w with
  | nil =>
    obtain ⟨hw, -⟩ := List.append_eq_nil_iff.mp hl.symm
    exact ⟨[], by rw [List.map_eq_nil_iff.mp hw]; rfl⟩
  | keep c h ih =>
    cases w with
    | nil => exact ⟨_, rfl⟩
    | cons d w =>
      obtain ⟨hcd, htail⟩ := List.cons.inj hl
      obtain ⟨b, rfl⟩ := ih htail
      exact ⟨b, by rw [Cell.template.inj hcd]; rfl⟩
  | hide u hb hmask _ _ =>
    cases w with
    | nil => exact ⟨_, rfl⟩
    | cons d w =>
      obtain ⟨x, b, rfl⟩ := List.exists_cons_of_ne_nil hb
      obtain ⟨rfl, -⟩ := List.cons.inj hl
      cases hmask _ List.mem_cons_self

/-- Where text that does not begin with a dot is shown, it stands in the text behind the same
character as in the cells. -/
theorem split {d : Char} {w : List Char} {x y : List Cell} (h : Hides s l)
    (hl : l = x ++ ((d :: w).map .template ++ y)) (hd : d ≠ '.') :
    ∃ a b, s = a ++ (d :: w ++ b) ∧
      (a = [] ∧ x = [] ∨ ∃ a' x' c, a = a' ++ [c] ∧ x = x' ++ [Cell.template c]) := by
  induction h generalizing x with
  | nil => exact absurd hl.symm (List.append_ne_nil_of_right_ne_nil _ (List.cons_ne_nil _ _))
  | keep c h ih =>
    cases x with
    | nil =>
      obtain ⟨b, hb⟩ := split_nil (h.keep c) hl
      exact ⟨[], b, hb, .inl ⟨rfl, rfl⟩⟩
    | cons z x =>
      obtain ⟨rfl, htail⟩ := List.cons.inj hl
      obtain ⟨a, b, hs, hax⟩ := ih htail
      refine ⟨c :: a, b, congrArg (c :: ·) hs, .inr ?_⟩
      rcases hax with ⟨rfl, rfl⟩ | ⟨a', x', e, rfl, rfl⟩
      · exact ⟨[], [], c, rfl, rfl⟩
      · exact ⟨c :: a', _ :: x', e, rfl, rfl⟩
  | @hide u bs s l hb hmask _ ih =>
    obtain ⟨x, rfl, htail⟩ := eq_append_of_masks hmask rfl hl
    obtain ⟨a, b, hs, hax⟩ := ih htail
    refine ⟨u ++ a, b, by rw [hs, List.append_assoc], .inr ?_⟩
    rcases hax with ⟨rfl, -⟩ | ⟨a', x', e, rfl, rfl⟩
    · exact absurd (List.cons.inj hs).1.symm hd
    · exact ⟨u ++ a', bs ++ x', e, (List.append_assoc ..).symm, (List.append_assoc ..).symm⟩

end Hides

/-- What stands for a match of the URL pattern hides the host up to its last dot. -/
theorem hides_match {prev : Option Char} {ws : List (List Char)} {v : List Char} {l : List Cell}
    (hfits : Fits urlPattern prev ws v) (h : Hides v l) : Hides (ws.flatten ++ v) (coverMatch ws ++ l) := by
  obtain ⟨prev', hdomain⟩ := Fits.drop (p := scheme ++ host) (q := domain) hfits
  have hflat : ws.flatten = (ws.take scheme.length).flatten ++
      (((ws.drop scheme.length).take host.length).flatten ++ (ws.drop (scheme ++ host).length).flatten) := by
    rw [← List.append_assoc, ← List.flatten_append, ← List.flatten_append, ← List.take_add,
      List.length_append, List.take_append_drop]
  rw [coverMatch, hflat]
  cases hlast : ws.drop (scheme ++ host).length with
  | nil =>
    rw [hlast] at hdomain
    exact False.elim hdomain
  | cons w label =>
    rw [hlast] at hdomain
    obtain rfl : w = ['.'] := eq_of_fits_one hdomain
    have hshown := h.append (['.'] :: label).flatten
    rw [List.append_assoc, List.append_assoc, List.append_assoc, List.append_assoc]
    exact Hides.append _ (.hide _ (by decide) (by decide) hshown)

theorem hides_splitFrom (skip : Nat) (prev : Option Char) (s : List Char) :
    Hides (s.drop skip) (assemble (List.map .template) coverMatch (splitFrom urlPattern skip prev s)) := by
  induction s generalizing skip prev with
  | nil =>
    rw [List.drop_nil]
    cases skip with
    | zero => exact .nil
    | succ skip => exact .nil
  | cons c s ih =>
    cases skip with
    | succ skip => exact ih skip (some c)
    | zero =>
      cases hmatch : matchAt urlPattern prev (c :: s) with
      | none =>
        rw [assemble_cons (fun _ _ => List.map_cons) hmatch]
        exact (ih 0 (some c)).keep c
      | some ws =>
        obtain ⟨v, hv, hfits⟩ := fits_of_matchAt hmatch
        have htail := ih (ws.flatten.length - 1) (some c)
        rw [drop_match proper_urlPattern hmatch hv] at htail
        rw [assemble_match rfl hmatch, List.drop_zero, hv]
        exact hides_match hfits htail

theorem hides_coverUrl (g : List Char) : Hides g (coverUrl g) := hides_splitFrom 0 none g

section
variable {U : Unicode} {t : List Char} {w : List Cell}

/-- Visible cells of a template stand in one of its gaps. -/
theorem exists_gap (hw : ∀ z ∈ w, z.visible = true) (hne : w ≠ []) {x y : List Cell} {r : Cut}
    (h : assemble coverUrl (fun _ => octetMask.map .mask) r = x ++ (w ++ y)) :
    ∃ g ∈ gaps r, ∃ x₀ x' y', x = x₀ ++ x' ∧ coverUrl g = x' ++ (w ++ y') := by
  obtain ⟨g, ms⟩ := r
  induction ms generalizing g x with
  | nil => exact ⟨g, List.mem_cons_self, [], x, y, rfl, (List.append_nil _).symm.trans h⟩
  | cons m ms ih =>
    have hsplit : coverUrl g ++ (octetMask.map .mask ++
        assemble coverUrl (fun _ => octetMask.map .mask) (m.2, ms)) = x ++ (w ++ y) := by
      rw [← h, assemble, assemble, List.flatMap_cons, List.append_assoc]
    have hmask : ∀ z ∈ octetMask.map Cell.mask, z.visible = false := by decide
    rcases append_masks_cases hmask (by decide) hw hne hsplit with ⟨y', hg⟩ | ⟨x', rfl, hrest⟩
    · exact ⟨g, List.mem_cons_self, [], x, y', rfl, hg⟩
    · obtain ⟨g', hg', x₀, x'', y', rfl, hcover⟩ := ih m.2 hrest
      refine ⟨g', List.mem_cons_of_mem _ hg', coverUrl g ++ (octetMask.map .mask ++ x₀), x'', y', ?_, hcover⟩
      rw [List.append_assoc, List.append_assoc]

/-- No cell of a template came with an argument. -/
def FromTemplate (l : List Cell) : Prop := ∀ x ∈ l, x.visible = true → x = .template x.char

theorem FromTemplate.append {l l' : List Cell} (h : FromTemplate l) (h' : FromTemplate l') :
    FromTemplate (l ++ l') :=
  fun x hx => (List.mem_append.mp hx).elim (h x) (h' x)

theorem fromTemplate_map (s : List Char) : FromTemplate (s.map .template) := by
  intro x hx _
  obtain ⟨c, -, rfl⟩ := List.mem_map.mp hx
  rfl

theorem fromTemplate_mask (s : List Char) : FromTemplate (s.map .mask) := by
  intro x hx hvisible
  obtain ⟨c, -, rfl⟩ := List.mem_map.mp hx
  cases hvisible

theorem fromTemplate_coverUrl (g : List Char) : FromTemplate (coverUrl g) :=
  assemble_induction (fun _ _ => .append) (fromTemplate_map []) fromTemplate_map
    (fun _ => ((fromTemplate_map _).append (fromTemplate_mask _)).append (fromTemplate_map _)) _

theorem fromTemplate_coverMsg : FromTemplate (coverMsg U t) :=
  assemble_induction (fun _ _ => .append) (fromTemplate_map []) fromTemplate_coverUrl
    (fun _ => fromTemplate_mask octetMask) _

/-- `w` stands in the template directly behind a word character. -/
def Glued (U : Unicode) (t : List Char) (w : List Cell) : Prop :=
  ∃ c, U.word c = true ∧ .template c :: w <:+: coverMsg U t

/-- Of the addresses of a template only those stay in sight that a word character stands directly before. -/
theorem glued_of_quad (hw : ∀ z ∈ w, z.visible = true) (hquad : Quad (w.map Cell.char))
    (hw_in : w <:+: coverMsg U t) : Glued U t w := by
  obtain ⟨x, y, hxy⟩ := hw_in
  rw [List.append_assoc] at hxy
  obtain ⟨d, w', hd, hdigit⟩ := hquad.head_isDigit
  have hne : w ≠ [] := fun hnil => hquad.ne_nil (congrArg (List.map Cell.char) hnil)
  have htemplate : w = (w.map Cell.char).map .template := by
    rw [List.map_map]
    refine (List.map_congr_left fun z hz => ?_).symm.trans (List.map_id w) |>.symm
    exact fromTemplate_coverMsg z (hxy ▸ List.mem_append_right _ (List.mem_append_left _ hz)) (hw z hz)
  obtain ⟨g, hg, x₀, x', y', rfl, hcover⟩ := exists_gap hw hne hxy.symm
  obtain ⟨prev, rest, hprev, hclean⟩ := clean_gap hg
  rw [htemplate, hd] at hcover
  obtain ⟨a, b, hgap, hax⟩ := (hides_coverUrl g).split hcover fun hdot => by
    rw [hdot] at hdigit
    exact absurd hdigit (by decide)
  obtain ⟨a', c, rfl, hword⟩ := word_before_quad hclean hprev hquad (hd ▸ hgap)
  rcases hax with ⟨hnil, -⟩ | ⟨a'', x'', c', ha, rfl⟩
  · exact absurd hnil (List.append_ne_nil_of_right_ne_nil _ (List.cons_ne_nil _ _))
  · obtain ⟨-, hc⟩ := List.append_inj' ha rfl
    obtain ⟨rfl, -⟩ := List.cons.inj hc
    refine ⟨c, hword, x₀ ++ x'', y, ?_⟩
    rw [← hxy]
    simp

end

/-! ### Addresses in a message -/

section
variable {U : Unicode} {t : List Char} {args : List (Arg Char)}

/-- `w` is an address that can be read although what the patterns match is masked. -/
def Readable (m w : List Cell) : Prop :=
  ∃ a b, m = a ++ w ++ b ∧ (∀ z ∈ w, z.visible = true) ∧ Quad (w.map Cell.char) ∧
    Apart (a.map Cell.char) (b.map Cell.char)

/-- An address can be read in the message that takes in text of an argument or reaches over a
conversion, or that stands in the template directly behind a word character. -/
def Leaks (U : Unicode) (t : List Char) (args : List (Arg Char)) : Prop :=
  ∃ m, layout U t args = some m ∧ ∃ w, Readable m w ∧ (¬ w <:+: coverMsg U t ∨ Glued U t w)

theorem Readable.leaks {m w : List Cell} (hm : layout U t args = some m) (h : Readable m w) :
    Leaks U t args := by
  refine ⟨m, hm, w, h, ?_⟩
  obtain ⟨-, -, -, hw, hquad, -⟩ := h
  by_cases hw_in : w <:+: coverMsg U t
  · exact .inr (glued_of_quad hw hquad hw_in)
  · exact .inl hw_in

theorem Quad.star_notMem {w : List Char} (hw : Quad w) : '*' ∉ w :=
  fun hmem => (hw.eq_dot_or_isDigit '*' hmem).elim (by decide) (by decide)

theorem Quad.head_ne_dot {w : List Char} (hw : Quad w) : w.head? ≠ some '.' := by
  obtain ⟨d, w', rfl, hdigit⟩ := hw.head_isDigit
  rintro hdot
  obtain rfl := Option.some.inj hdot
  exact absurd hdigit (by decide)

theorem showsAddress_iff {m : List Cell} (hm : Sealed m) :
    ShowsAddress (m.map Cell.char) ↔ ∃ w, Readable m w := by
  constructor
  · rintro ⟨a, w, b, hsplit, hquad, hapart⟩
    obtain ⟨a', w', b', rfl, rfl, rfl, rfl, hw⟩ := hm.visible hsplit hquad.star_notMem hquad.head_ne_dot
    exact ⟨w', a', b', rfl, hw, hquad, hapart⟩
  · rintro ⟨w, a, b, rfl, -, hquad, hapart⟩
    exact ⟨_, _, _, by rw [List.map_append, List.map_append], hquad, hapart⟩

theorem filter_anonymous_iff (U : Unicode) (t : List Char) (args : List (Arg Char)) :
    Anonymous U (filter U ⟨.str t, .tuple args⟩).1 ↔ ¬ Leaks U t args := by
  have hmessage : (filter U ⟨.str t, .tuple args⟩).1.getMessage U =
      (layout U t args).map (List.map Cell.char) := layout_char t args
  rw [Anonymous, hmessage]
  constructor
  · rintro hanon ⟨m, hm, w, hread, -⟩
    exact hanon _ (by rw [hm]; rfl) ((showsAddress_iff (sealed_layout hm)).mpr ⟨w, hread⟩)
  · intro hleaks m hm hshows
    obtain ⟨cells, hcells, rfl⟩ := Option.map_eq_some_iff.mp hm
    obtain ⟨w, hread⟩ := (showsAddress_iff (sealed_layout hcells)).mp hshows
    exact hleaks (hread.leaks hcells)

end

def requestTemplate : List Char := "%s - \"%s %s HTTP/%s\" %d".toList

/-- The record of a request (`uvicorn.access`). -/
def accessRecord (client method path version : String) (status : Object) : LogRecord where
  msg := .str requestTemplate
  args := .tuple
    [.str client.toList, .str method.toList, .str path.toList, .str version.toList, .other status]

/-- The int 404, for `%d` without sizes. -/
def notFound : Object where
  int := some 404
  format c := if c = ⟨[], none, none, 'd'⟩ then some "404".toList else none

/-- The address of the caller is masked, the one in the path is not. -/
theorem path_address_shown :
    ¬ Anonymous .ascii (filter .ascii
      (accessRecord "172.18.0.1:53412" "GET" "/api/endpoints/10.0.0.33" "1.1" notFound)).1 := by
  have hmessage : (filter .ascii
      (accessRecord "172.18.0.1:53412" "GET" "/api/endpoints/10.0.0.33" "1.1" notFound)).1.getMessage .ascii =
        some "***.***.***.1:53412 - \"GET /api/endpoints/10.0.0.33 HTTP/1.1\" 404".toList := by
    decide +kernel
  have hquad : Quad "10.0.0.33".toList :=
    ⟨['1', '0'], ['0'], ['0'], ['3', '3'], by decide, by decide, by decide, by decide, rfl⟩
  have hsplit : "***.***.***.1:53412 - \"GET /api/endpoints/10.0.0.33 HTTP/1.1\" 404".toList =
      "***.***.***.1:53412 - \"GET /api/endpoints/".toList ++ "10.0.0.33".toList ++
        " HTTP/1.1\" 404".toList := by
    decide +kernel
  exact fun hanon => hanon _ hmessage ⟨_, _, _, hsplit, hquad, by decide +kernel⟩

end AccessLog
end SocFabric
