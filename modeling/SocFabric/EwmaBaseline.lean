import SocFabric.DDoSSustained
import SocFabric.Lib.Weighted

/-!
# The closed form of a baseline

`EWMABaseline.update` moves the mean by a fraction `alpha` of the deviation and mixes the squared
deviation into the variance. Over the rationals this is the mean and the variance of all samples
under exponential weights (`ewma_closed_form`): the first sample has the weight
`(1 - alpha)^(n - 1)`, a later one `alpha * (1 - alpha)^k` if `k` samples came after it.
-/

namespace SocFabric
namespace DDoS

/-! ### A sequence of updates -/

section
variable {R : Type} [PyNum R]

namespace EWMABaseline

/-- Calls of `update` one after the other, up to one that raises. -/
def updates (b : EWMABaseline R) : List R → EWMABaseline R × Bool
  | [] => (b, true)
  | x :: xs =>
    match b.update x with
    | (b', true) => b'.updates xs
    | (b', false) => (b', false)

theorem updates_concat {b : EWMABaseline R} {xs : List R} (h : (b.updates xs).2 = true) (x : R) :
    b.updates (xs ++ [x]) = (b.updates xs).1.update x := by
  induction xs generalizing b with
  | nil =>
    rcases hx : b.update x with ⟨b', _ | _⟩ <;> simp [updates, hx]
  | cons y xs ih =>
    rw [List.cons_append, updates, updates]
    rw [updates] at h
    rcases hy : b.update y with ⟨b', _ | _⟩
    · rw [hy] at h
      cases h
    · rw [hy] at h
      exact ih h

end EWMABaseline

/-- `seed_baseline` makes these calls. -/
theorem seedBaseline_eq (b : HostBaselines R) (metric : String) (values : List R) :
    (seedBaseline b metric values).1 metric = ((b metric).updates values).1 ∧
      (seedBaseline b metric values).2 = ((b metric).updates values).2 := by
  induction values generalizing b with
  | nil => exact ⟨rfl, rfl⟩
  | cons v values ih =>
    rw [seedBaseline, List.map_cons, updateBaseline, EWMABaseline.updates]
    rcases (b metric).update v with ⟨b', _ | _⟩
    · exact ⟨Function.update_self .., rfl⟩
    · have hrest := ih (Function.update b metric b')
      rw [Function.update_self] at hrest
      exact hrest

end

/-! ### The closed form -/

/-- The weight of sample `i` of `n`, counted from zero. -/
def ewmaWeight (alpha : Rat) (n i : Nat) : Rat :=
  if i = 0 then (1 - alpha) ^ (n - 1) else alpha * (1 - alpha) ^ (n - 1 - i)

section
variable {alpha : Rat}

theorem ewmaWeight_succ {n i : Nat} (hi : i < n) :
    ewmaWeight alpha (n + 1) i = (1 - alpha) * ewmaWeight alpha n i := by
  unfold ewmaWeight
  split
  · rw [← pow_succ', show n - 1 + 1 = n + 1 - 1 by omega]
  · rw [show n + 1 - 1 - i = n - 1 - i + 1 by omega, pow_succ']
    ring

theorem ewmaWeight_last {n : Nat} (hn : n ≠ 0) : ewmaWeight alpha (n + 1) n = alpha := by
  rw [ewmaWeight, if_neg hn, Nat.add_sub_cancel, Nat.sub_self, pow_zero, mul_one]

theorem ewmaWeight_nonneg (h₀ : 0 < alpha) (h₁ : alpha < 1) (n i : Nat) :
    0 ≤ ewmaWeight alpha n i := by
  have hpos : 0 ≤ 1 - alpha := by linarith
  unfold ewmaWeight
  split
  · positivity
  · positivity

theorem update_first (b : EWMABaseline Rat) (hm : b.mean = none) (x : Rat) :
    b.update x = ({ b with mean := some x, var := some 0, n := b.n + 1 }, true) := by
  rw [EWMABaseline.update, hm]
  rfl

theorem update_next (b : EWMABaseline Rat) {m v : Rat} (hm : b.mean = some m) (hv : b.var = some v)
    (x : Rat) :
    b.update x =
      ({ b with
          mean := some (m + b.alpha * (x - m))
          var := some ((1 - b.alpha) * (v + b.alpha * (x - m) ^ 2))
          n := b.n + 1 }, true) := by
  simp only [EWMABaseline.update, EWMABaseline.nextMean, EWMABaseline.nextVar, hm, hv, PyNum.add,
    PyNum.sub, PyNum.mul, PyNum.square, PyNum.ofInt, Option.bind_eq_bind, Option.bind_some,
    Option.pure_def, Int.cast_one, sq]

/-- The baseline of a non-empty sequence of samples. -/
theorem updates_weighted (alpha : Rat) (xs : List Rat) (hne : xs ≠ []) :
    ∃ m v, ({ alpha := alpha } : EWMABaseline Rat).updates xs =
        (⟨alpha, some m, some v, xs.length⟩, true) ∧
      Weighted xs.length (ewmaWeight alpha xs.length) (xs.getD · 0) m v := by
  induction xs using List.reverseRecOn with
  | nil => exact absurd rfl hne
  | append_singleton xs x ih =>
    by_cases hxs : xs = []
    · subst hxs
      exact ⟨x, 0, by rw [List.nil_append, EWMABaseline.updates, update_first _ rfl]; rfl,
        Weighted.single _ (([x] : List Rat).getD · 0) (by simp [ewmaWeight])⟩
    · obtain ⟨m, v, hupdates, hweighted⟩ := ih hxs
      have hlast : (xs ++ [x]).getD xs.length 0 = x := by simp
      have hstep := hweighted.add (a := alpha) (y := ((xs ++ [x]).getD · 0))
        (fun i hi => ewmaWeight_succ hi) (ewmaWeight_last (List.length_pos_iff.mpr hxs).ne')
        fun i hi => by simp [List.getElem?_append_left hi]
      rw [hlast] at hstep
      refine ⟨_, _, ?_, by simpa using hstep⟩
      rw [EWMABaseline.updates_concat (by rw [hupdates]), hupdates, update_next _ rfl rfl]
      simp

/-- After one or more samples, mean and variance are those of the samples under the exponential
weights, which add up to one; so the variance is not negative and the mean lies between the least
and the greatest sample. -/
theorem ewma_closed_form (alpha : Rat) (h₀ : 0 < alpha) (h₁ : alpha < 1) (xs : List Rat)
    (hne : xs ≠ []) :
    ∃ m v, ({ alpha := alpha } : EWMABaseline Rat).updates xs =
        (⟨alpha, some m, some v, xs.length⟩, true) ∧
      ∑ i ∈ Finset.range xs.length, ewmaWeight alpha xs.length i = 1 ∧
      m = ∑ i ∈ Finset.range xs.length, ewmaWeight alpha xs.length i * xs.getD i 0 ∧
      v = ∑ i ∈ Finset.range xs.length, ewmaWeight alpha xs.length i * (xs.getD i 0 - m) ^ 2 ∧
      0 ≤ v ∧ ∃ least ∈ xs, ∃ greatest ∈ xs,
        (∀ x ∈ xs, least ≤ x ∧ x ≤ greatest) ∧ least ≤ m ∧ m ≤ greatest := by
  obtain ⟨m, v, hupdates, hw⟩ := updates_weighted alpha xs hne
  have hpos : ∀ i < xs.length, 0 ≤ ewmaWeight alpha xs.length i :=
    fun i _ => ewmaWeight_nonneg h₀ h₁ _ i
  have hsample : ∀ i < xs.length, xs.getD i 0 ∈ xs := by
    intro i hi
    rw [List.getD_eq_getElem?_getD, List.getElem?_eq_getElem hi, Option.getD_some]
    exact List.getElem_mem hi
  have hnonempty : xs.toFinset.Nonempty := List.toFinset_nonempty_iff xs |>.mpr hne
  obtain ⟨least, hleast, hle⟩ := xs.toFinset.exists_min_image id hnonempty
  obtain ⟨greatest, hgreatest, hge⟩ := xs.toFinset.exists_max_image id hnonempty
  simp only [List.mem_toFinset, id] at hleast hle hgreatest hge
  refine ⟨m, v, hupdates, hw.total, hw.mean, hw.variance, hw.variance_nonneg hpos, least, hleast,
    greatest, hgreatest, fun x hx => ⟨hle x hx, hge x hx⟩, ?_, ?_⟩
  · exact hw.le_mean hpos fun i hi => hle _ (hsample i hi)
  · exact hw.mean_le hpos fun i hi => hge _ (hsample i hi)

/-- Two samples, 10 and 20, under the smoothing factor of the detector. -/
theorem two_samples_closed_form :
    ({ alpha := 1 / 5 } : EWMABaseline Rat).updates [10, 20] =
        (⟨1 / 5, some 12, some 16, 2⟩, true) ∧
      (12 : Rat) = ∑ i ∈ Finset.range 2, ewmaWeight (1 / 5) 2 i * [10, 20].getD i 0 := by
  obtain ⟨m, v, hupdates, -, hmean, -⟩ :=
    ewma_closed_form (1 / 5) (by norm_num) (by norm_num) [10, 20] (by simp)
  have hrun : ({ alpha := 1 / 5 } : EWMABaseline Rat).updates [10, 20] =
      (⟨1 / 5, some 12, some 16, 2⟩, true) := by
    decide +kernel
  cases hrun.symm.trans hupdates
  exact ⟨hrun, hmean⟩

end

end DDoS
end SocFabric
