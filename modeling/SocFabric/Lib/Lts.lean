import Mathlib.Data.List.Induction
import Mathlib.Tactic.SplitIfs

/-!
# Runs of a labelled transition function

`step : σ → α → Option σ` takes a state and a label to the next state, or to `none` when the label
is not enabled. A *guard* `σ → α → Prop` restricts which steps a run may take, judged in the state
the step is taken from; `free` is the guard that allows every step, so `Reach step free` is plain
reachability over all interleavings. A property of runs is proved by one step lemma and
`Reach.invariant`; `run` is a run along given labels, `run_invariant` the rule for properties that
look at these labels too. `forall_reached_iff` and `guard_iff_forall_reach` are the rules for a guard
that is as weak as it can be.
-/

namespace Lts

variable {σ α : Type*} {step : σ → α → Option σ} {guard guard' : σ → α → Prop} {s t u : σ} {a : α}

/-- The guard that allows every step. -/
def free : σ → α → Prop := fun _ _ => True

/-- `t` is reached from `s` by enabled steps that all meet `guard`. -/
inductive Reach (step : σ → α → Option σ) (guard : σ → α → Prop) (s : σ) : σ → Prop
  | refl : Reach step guard s s
  | tail {t u : σ} {a : α} : Reach step guard s t → guard t a → step t a = some u →
      Reach step guard s u

namespace Reach

/-- The invariant rule: what holds at the start and is kept by every guarded step holds on every
state of every guarded run. -/
theorem invariant {I : σ → Prop} (h : Reach step guard s t) (h0 : I s)
    (hstep : ∀ {t u : σ} {a : α}, guard t a → step t a = some u → I t → I u) : I t := by
  induction h with
  | refl => exact h0
  | tail _ hg hs ih => exact hstep hg hs ih

theorem mono (h : Reach step guard s t) (hg : ∀ s a, guard s a → guard' s a) :
    Reach step guard' s t := by
  induction h with
  | refl => exact .refl
  | tail _ hga hs ih => exact ih.tail (hg _ _ hga) hs

theorem trans (h : Reach step guard s t) (h' : Reach step guard t u) : Reach step guard s u := by
  induction h' with
  | refl => exact h
  | tail _ hg hs ih => exact ih.tail hg hs

theorem toFree (h : Reach step guard s t) : Reach step free s t :=
  h.mono fun _ _ _ => trivial

end Reach

/-- The state after the labels `as`, if each of them in turn meets the guard and is enabled. -/
def run (step : σ → α → Option σ) (guard : σ → α → Prop) [∀ s a, Decidable (guard s a)] :
    σ → List α → Option σ
  | s, [] => some s
  | s, a :: as => if guard s a then (step s a).bind (run step guard · as) else none

instance : Decidable ((free : σ → α → Prop) s a) := .isTrue trivial

theorem Reach.of_run [∀ s a, Decidable (guard s a)] (as : List α)
    (h : run step guard s as = some t) : Reach step guard s t := by
  induction as generalizing s with
  | nil =>
    cases h
    exact .refl
  | cons a as ih =>
    rw [run] at h
    split_ifs at h with hg
    obtain ⟨s', hs, h⟩ := Option.bind_eq_some_iff.mp h
    exact (Reach.refl.tail hg hs).trans (ih h)

theorem Reach.get_run [∀ s a, Decidable (guard s a)] (as : List α) (h : (run step guard s as).isSome) :
    Reach step guard s ((run step guard s as).get h) :=
  .of_run as (Option.some_get h).symm

theorem run_append [∀ s a, Decidable (guard s a)] (as bs : List α) :
    run step guard s (as ++ bs) = (run step guard s as).bind (run step guard · bs) := by
  induction as generalizing s with
  | nil => rfl
  | cons a as ih =>
    rw [List.cons_append, run, run]
    split_ifs
    · rw [Option.bind_assoc]
      simp only [ih]
    · rfl

theorem run_concat_eq_some [∀ s a, Decidable (guard s a)] {as : List α} :
    run step guard s (as ++ [a]) = some u ↔
      ∃ t, run step guard s as = some t ∧ guard t a ∧ step t a = some u := by
  have hone (t : σ) : run step guard t [a] = some u ↔ guard t a ∧ step t a = some u := by
    rw [run]
    split_ifs with hg
    · simp [run, hg]
    · simp [hg]
  rw [run_append, Option.bind_eq_some_iff]
  simp only [hone]

theorem run_split [∀ s a, Decidable (guard s a)] {as bs : List α}
    (h : run step guard s (as ++ a :: bs) = some u) :
    ∃ t t', run step guard s as = some t ∧ guard t a ∧ step t a = some t' ∧ run step guard t' bs = some u := by
  rw [run_append, Option.bind_eq_some_iff] at h
  obtain ⟨t, ht, h⟩ := h
  rw [run] at h
  split_ifs at h with hg
  obtain ⟨t', ht', h⟩ := Option.bind_eq_some_iff.mp h
  exact ⟨t, t', ht, hg, ht', h⟩

/-- The invariant rule for a property of the state and the labels that led to it. -/
theorem run_invariant [∀ s a, Decidable (guard s a)] {I : List α → σ → Prop} {as : List α}
    (h : run step guard s as = some t) (h0 : I [] s)
    (hstep : ∀ {as : List α} {t u : σ} {a : α}, guard t a → step t a = some u → I as t → I (as ++ [a]) u) :
    I as t := by
  induction as using List.reverseRecOn generalizing t with
  | nil =>
    cases h
    exact h0
  | append_singleton as a ih =>
    obtain ⟨t', ht', hg, hs⟩ := run_concat_eq_some.mp h
    exact hstep hg hs (ih ht')

/-- If a step from a good state leads to a good one exactly if it meets the guard, then all states
of a run are good exactly if all its steps meet the guard. -/
theorem forall_reached_iff {I : σ → Prop} {as : List α} (h : run step free s as = some u) (h0 : I s)
    (hstep : ∀ {t v : σ} {a : α}, step t a = some v → I t → (I v ↔ guard t a)) :
    (∀ past rest t, as = past ++ rest → run step free s past = some t → I t) ↔
      ∀ past a rest t, as = past ++ a :: rest → run step free s past = some t → guard t a := by
  constructor
  · intro hI past a rest t has ht
    obtain ⟨t₁, v, ht₁, hfree, hv, -⟩ := run_split (has ▸ h)
    obtain rfl : t₁ = t := Option.some.inj (ht₁.symm.trans ht)
    have hpast := hI past (a :: rest) t₁ has ht
    have hnext := hI (past ++ [a]) rest v (by rw [has]; simp) (run_concat_eq_some.mpr ⟨t₁, ht, hfree, hv⟩)
    exact (hstep hv hpast).mp hnext
  · intro hguard past
    induction past using List.reverseRecOn with
    | nil =>
      intro rest t _ ht
      cases ht
      exact h0
    | append_singleton past a ih =>
      intro rest t has ht
      have has' : as = past ++ a :: rest := by
        rw [has]
        simp
      obtain ⟨t', ht', -, hs⟩ := run_concat_eq_some.mp ht
      exact (hstep hs (ih _ t' has' ht')).mpr (hguard past a rest t' has' ht')

/-- If a step from a state with `J` keeps it where it meets the guard, and leads to a bad state where
it does not, then all states of a run are good exactly if all its steps meet the guard. -/
theorem forall_reached_iff_of_invariant {J P : σ → Prop} {as : List α} (h : run step free s as = some u)
    (h0 : J s) (hP : ∀ {t : σ}, J t → P t)
    (hkeep : ∀ {t v : σ} {a : α}, step t a = some v → J t → guard t a → J v)
    (hbad : ∀ {t v : σ} {a : α}, step t a = some v → J t → ¬ guard t a → ¬ P v) :
    (∀ past rest t, as = past ++ rest → run step free s past = some t → P t) ↔
      ∀ past a rest t, as = past ++ a :: rest → run step free s past = some t → guard t a := by
  have hJ := forall_reached_iff (I := J) h h0 fun hv hJ =>
    ⟨fun hnext => by_contra fun hg => hbad hv hJ hg (hP hnext), hkeep hv hJ⟩
  refine ⟨fun hgood => hJ.mp fun past => ?_, fun hguard past rest t has ht => hP (hJ.mpr hguard past rest t has ht)⟩
  induction past using List.reverseRecOn with
  | nil =>
    intro rest t _ ht
    cases ht
    exact h0
  | append_singleton past a ih =>
    intro rest t has ht
    obtain ⟨t', ht', -, hs⟩ := run_concat_eq_some.mp ht
    have hprev : J t' := ih (a :: rest) t' (by rw [has]; simp) ht'
    by_cases hg : guard t' a
    · exact hkeep hs hprev hg
    · exact absurd (hgood (past ++ [a]) rest t has ht) (hbad hs hprev hg)

/-- Where the steps that meet `guard'` keep `J`, and can go on from a step against `guard` to a bad
state, a step from a state with `J` meets `guard` exactly if they lead to good states alone. -/
theorem guard_iff_forall_reach {J P : σ → Prop} (hs : step s a = some t) (h : J s) (hP : ∀ {t : σ}, J t → P t)
    (hkeep : ∀ {t v : σ} {a : α}, guard t a → step t a = some v → J t → J v)
    (hguard : ∀ (t : σ) (a : α), guard' t a → guard t a)
    (hbad : ¬ guard s a → ∃ u, Reach step guard' t u ∧ ¬ P u) :
    guard s a ↔ ∀ u, Reach step guard' t u → P u := by
  constructor
  · intro hg u hu
    have ht : J t := hkeep hg hs h
    exact hP ((hu.mono hguard).invariant ht hkeep)
  · intro hgood
    by_contra hg
    obtain ⟨u, hu, hnot⟩ := hbad hg
    exact hnot (hgood u hu)

end Lts
