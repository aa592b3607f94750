import Mathlib.Algebra.BigOperators.Ring.Finset
import Mathlib.Algebra.Order.BigOperators.Ring.Finset
import Mathlib.Algebra.Order.Field.Basic
import Mathlib.Tactic.Linarith
import Mathlib.Tactic.Ring

/-!
# Weighted mean and variance

`Weighted n w x m v` says that the weights `w` of the first `n` samples `x` add up to one, and that
`m` and `v` are the mean and the variance of the samples under these weights. Adding a sample with
the weight `a` scales the other weights by `1 - a`; `Weighted.add` gives mean and variance from
those before.
-/

variable {K : Type*} [Field K]

structure Weighted (n : Nat) (w x : Nat → K) (m v : K) : Prop where
  total : ∑ i ∈ Finset.range n, w i = 1
  mean : m = ∑ i ∈ Finset.range n, w i * x i
  variance : v = ∑ i ∈ Finset.range n, w i * (x i - m) ^ 2

namespace Weighted

variable {n : Nat} {w w' x y : Nat → K} {m v a : K}

/-- The mean square deviation from any point. -/
theorem deviation (h : Weighted n w x m v) (c : K) :
    ∑ i ∈ Finset.range n, w i * (x i - c) ^ 2 = v + (m - c) ^ 2 := by
  have hsplit : ∀ i ∈ Finset.range n, w i * (x i - c) ^ 2 =
      w i * (x i - m) ^ 2 + (2 * (m - c) * (w i * x i) -
        (2 * (m - c) * m - (m - c) ^ 2) * w i) := by
    intro i _
    ring
  rw [Finset.sum_congr rfl hsplit, Finset.sum_add_distrib, Finset.sum_sub_distrib, ← Finset.mul_sum,
    ← Finset.mul_sum, ← h.variance, ← h.mean, h.total]
  ring

theorem single (w x : Nat → K) (h : w 0 = 1) : Weighted 1 w x (x 0) 0 where
  total := by simp [h]
  mean := by simp [h]
  variance := by simp

theorem add (h : Weighted n w x m v) (hw : ∀ i < n, w' i = (1 - a) * w i) (hlast : w' n = a)
    (hx : ∀ i < n, y i = x i) :
    Weighted (n + 1) w' y (m + a * (y n - m)) ((1 - a) * (v + a * (y n - m) ^ 2)) := by
  have hscale (f : K → K) :
      ∑ i ∈ Finset.range n, w' i * f (y i) = (1 - a) * ∑ i ∈ Finset.range n, w i * f (x i) := by
    rw [Finset.mul_sum]
    refine Finset.sum_congr rfl fun i hi => ?_
    rw [hw i (Finset.mem_range.mp hi), hx i (Finset.mem_range.mp hi), mul_assoc]
  refine ⟨?_, ?_, ?_⟩
  · have htotal := hscale fun _ => 1
    simp only [mul_one] at htotal
    rw [Finset.sum_range_succ, htotal, h.total, hlast]
    ring
  · rw [Finset.sum_range_succ, hscale fun y => y, ← h.mean, hlast]
    ring
  · rw [Finset.sum_range_succ, hscale fun z => (z - (m + a * (y n - m))) ^ 2, h.deviation, hlast]
    ring

section
variable [LinearOrder K] [IsStrictOrderedRing K]

theorem variance_nonneg (h : Weighted n w x m v) (hw : ∀ i < n, 0 ≤ w i) : 0 ≤ v := by
  rw [h.variance]
  exact Finset.sum_nonneg fun i hi => mul_nonneg (hw i (Finset.mem_range.mp hi)) (sq_nonneg _)

theorem le_mean (h : Weighted n w x m v) (hw : ∀ i < n, 0 ≤ w i) {lo : K}
    (hlo : ∀ i < n, lo ≤ x i) : lo ≤ m := by
  calc lo = ∑ i ∈ Finset.range n, w i * lo := by rw [← Finset.sum_mul, h.total, one_mul]
    _ ≤ ∑ i ∈ Finset.range n, w i * x i := by
      refine Finset.sum_le_sum fun i hi => ?_
      exact mul_le_mul_of_nonneg_left (hlo i (Finset.mem_range.mp hi))
        (hw i (Finset.mem_range.mp hi))
    _ = m := h.mean.symm

theorem mean_le (h : Weighted n w x m v) (hw : ∀ i < n, 0 ≤ w i) {hi : K}
    (hhi : ∀ i < n, x i ≤ hi) : m ≤ hi := by
  calc m = ∑ i ∈ Finset.range n, w i * x i := h.mean
    _ ≤ ∑ i ∈ Finset.range n, w i * hi := by
      refine Finset.sum_le_sum fun i hmem => ?_
      exact mul_le_mul_of_nonneg_left (hhi i (Finset.mem_range.mp hmem))
        (hw i (Finset.mem_range.mp hmem))
    _ = hi := by rw [← Finset.sum_mul, h.total, one_mul]

end

end Weighted
