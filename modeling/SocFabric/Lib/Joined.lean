import Mathlib.Data.List.Infix

/-!
# Texts joined by a separator

`a ++ c :: x` reads back as `a` and `x` if the separator `c` does not occur in `a`. Without that,
two readings of one text differ only if one left part, with the separator, starts the other. A text
without the separator occurs in a joined text only within one of its parts.
-/

namespace Joined

variable {α : Type*} {c : α} {a b x y : List α}

/-- Two left parts of one joined text are equal, or one of them, with the separator, starts the
other. -/
theorem left_eq_or_prefix (h : a ++ c :: x = b ++ c :: y) : a = b ∨ a ++ [c] <+: b ∨ b ++ [c] <+: a := by
  rcases List.append_eq_append_iff.mp h with ⟨l, rfl, hl⟩ | ⟨l, rfl, hl⟩
  · cases l with
    | nil => exact .inl (List.append_nil a).symm
    | cons d l =>
      obtain ⟨rfl, -⟩ := List.cons_eq_cons.mp hl
      exact .inr (.inl ⟨l, by simp⟩)
  · cases l with
    | nil => exact .inl (List.append_nil b)
    | cons d l =>
      obtain ⟨rfl, -⟩ := List.cons_eq_cons.mp hl
      exact .inr (.inr ⟨l, by simp⟩)

theorem left_injective (h : a ++ c :: x = b ++ c :: y) (ha : c ∉ a) (hb : c ∉ b) : a = b ∧ x = y := by
  have hab : a = b := by
    rcases left_eq_or_prefix h with hab | ⟨l, rfl⟩ | ⟨l, rfl⟩
    · exact hab
    · exact absurd (by simp) hb
    · exact absurd (by simp) ha
  subst hab
  exact ⟨rfl, (List.cons_eq_cons.mp (List.append_cancel_left h)).2⟩

/-- What starts a joined text and does not hold the separator starts its left part. -/
theorem prefix_left (h : b <+: a ++ c :: x) (hc : c ∉ b) : b <+: a := by
  obtain ⟨t, ht⟩ := h
  rcases List.append_eq_append_iff.mp ht with ⟨l, rfl, -⟩ | ⟨l, rfl, hl⟩
  · exact List.prefix_append b l
  · cases l with
    | nil => exact ⟨[], by simp⟩
    | cons d l =>
      obtain ⟨rfl, -⟩ := List.cons_eq_cons.mp hl
      exact absurd (by simp) hc

theorem infix_left_or_right (h : b <:+: a ++ c :: x) (hc : c ∉ b) : b <:+: a ∨ b <:+: x := by
  induction a with
  | nil =>
    rcases List.infix_cons_iff.mp h with h | h
    · exact .inl (prefix_left (a := []) h hc).isInfix
    · exact .inr h
  | cons d a ih =>
    rcases List.infix_cons_iff.mp h with h | h
    · exact .inl (prefix_left (a := d :: a) h hc).isInfix
    · exact (ih h).imp_left (·.trans (List.suffix_cons d a).isInfix)

/-- A stretch without the separator stands on one side of it. -/
theorem stretch_left_or_right {w z : List α} (h : a ++ c :: x = b ++ (w ++ z)) (hc : c ∉ w) (hw : w ≠ []) :
    (∃ t, a = b ++ (w ++ t) ∧ z = t ++ c :: x) ∨ ∃ t, b = a ++ c :: t ∧ x = t ++ (w ++ z) := by
  rcases List.append_eq_append_iff.mp h with ⟨l, rfl, hl⟩ | ⟨l, rfl, hl⟩
  · cases l with
    | nil =>
      obtain ⟨d, w, rfl⟩ := List.exists_cons_of_ne_nil hw
      obtain ⟨rfl, -⟩ := List.cons_eq_cons.mp hl
      exact absurd List.mem_cons_self hc
    | cons d t =>
      obtain ⟨rfl, rfl⟩ := List.cons_eq_cons.mp hl
      exact .inr ⟨t, rfl, rfl⟩
  · rcases List.append_eq_append_iff.mp hl with ⟨t, rfl, rfl⟩ | ⟨t, rfl, ht⟩
    · exact .inl ⟨t, rfl, rfl⟩
    · cases t with
      | nil => exact .inl ⟨[], by simp, ht.symm⟩
      | cons d t =>
        obtain ⟨rfl, -⟩ := List.cons_eq_cons.mp ht
        exact absurd (List.mem_append_right l List.mem_cons_self) hc

/-- With one separator in the text, what ends in the separator ends its left part. -/
theorem suffix_left (h : b ++ [c] <:+: a ++ c :: x) (ha : c ∉ a) (hx : c ∉ x) : b <:+ a := by
  obtain ⟨l, r, h⟩ := h
  have hl : (l ++ b) ++ c :: r = a ++ c :: x := by
    rw [← h]
    simp
  rcases left_eq_or_prefix hl with rfl | ⟨t, rfl⟩ | ⟨t, ht⟩
  · exact List.suffix_append l b
  · exact absurd (by simp) ha
  · rw [← ht, List.append_assoc, List.append_assoc] at hl
    obtain ⟨-, rfl⟩ := List.cons_eq_cons.mp (List.append_cancel_left hl)
    exact absurd (by simp) hx

end Joined
