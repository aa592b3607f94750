import Mathlib.Logic.Function.Basic
import Mathlib.Tactic.ByCases
import Mathlib.Tactic.SplitIfs

/-!
# Slots

A table `κ → Option ν` with one slot for each key, of which one is written at a time: filled,
emptied, or its value changed by a function. The lemmas say where a value found after the write
comes from.
-/

namespace Slots

variable {κ ν : Type*} [DecidableEq κ] {slots : κ → Option ν} {k j : κ} {v : ν}

/-- A value found after a write of `o` is the one written, or was there before. -/
theorem update_cases {o : Option ν} (h : Function.update slots k o j = some v) :
    j = k ∧ o = some v ∨ j ≠ k ∧ slots j = some v := by
  by_cases hjk : j = k
  · rw [hjk, Function.update_self] at h
    exact .inl ⟨hjk, h⟩
  · rw [Function.update_of_ne hjk] at h
    exact .inr ⟨hjk, h⟩

/-- A value found after `f` was applied to slot `k` is the changed one, or was there before. -/
theorem modify_cases {f : ν → ν} (h : Function.update slots k ((slots k).map f) j = some v) :
    j = k ∧ (∃ w, slots k = some w ∧ v = f w) ∨ j ≠ k ∧ slots j = some v := by
  rcases update_cases h with ⟨hj, hv⟩ | h
  · obtain ⟨w, hw, rfl⟩ := Option.map_eq_some_iff.mp hv
    exact .inl ⟨hj, w, hw, rfl⟩
  · exact .inr h

theorem modify_of_none {f : ν → ν} (h : slots j = none) :
    Function.update slots k ((slots k).map f) j = none := by
  by_cases hjk : j = k
  · rw [← hjk, Function.update_self, h]
    rfl
  · exact (Function.update_of_ne hjk ..).trans h

/-- Emptying the only slot that is filled. -/
theorem update_none (h : ∀ i, i ≠ k → slots i = none) (j : κ) :
    Function.update slots k none j = none := by
  by_cases hjk : j = k
  · rw [hjk]
    exact Function.update_self ..
  · exact (Function.update_of_ne hjk ..).trans (h j hjk)

end Slots
