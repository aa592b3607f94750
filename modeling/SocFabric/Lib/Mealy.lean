import Mathlib.Data.List.Basic

/-!
# Machines with outputs

`f : σ → α → σ × β` takes a state and an input to the next state and an output. `outputs` is the
list of answers to a history of inputs, each with the input it answers. `forall_outputs_iff` reads a
property of all answers off the inputs; `outputs_filter_eq` is the unwinding rule of
noninterference: inputs outside a view leave no trace in the answers to the inputs of the view.
-/

namespace Mealy

variable {σ α β : Type*} {f : σ → α → σ × β} {s t : σ} {as : List α}

def outputs (f : σ → α → σ × β) : σ → List α → List (α × β)
  | _, [] => []
  | s, a :: as => (a, (f s a).2) :: outputs f (f s a).1 as

theorem outputs_concat (s : σ) (as : List α) (a : α) :
    outputs f s (as ++ [a]) = outputs f s as ++ [(a, (f (as.foldl (fun s a => (f s a).1) s) a).2)] := by
  induction as generalizing s with
  | nil => rfl
  | cons b as ih => rw [List.cons_append, outputs, ih, outputs, List.cons_append, List.foldl_cons]

/-- If, on the states of an invariant, the answer to an input is good exactly if the input meets
`C`, then all answers of a history are good exactly if all its inputs meet `C`. -/
theorem forall_outputs_iff (I : σ → Prop) {P : α → β → Prop} {C : α → Prop}
    (hI : ∀ s a, I s → I (f s a).1) (hP : ∀ s a, I s → (P a (f s a).2 ↔ C a)) (hs : I s) :
    (∀ x ∈ outputs f s as, P x.1 x.2) ↔ ∀ a ∈ as, C a := by
  induction as generalizing s with
  | nil => simp [outputs]
  | cons a as ih =>
    simp only [outputs, List.forall_mem_cons, ih (hI s a hs), hP s a hs]

/-! ### Unwinding -/

variable (view : α → Bool)

/-- `guard later a` holds of every input `a` outside the view, where `later` are the inputs of the
view that follow it. -/
def Guarded (guard : List α → α → Prop) : List α → Prop
  | [] => True
  | a :: as => (view a = false → guard (as.filter view) a) ∧ Guarded guard as

/-- The unwinding rule. `R later s t` says that `s` and `t` cannot be told apart by the inputs
`later` of the view. -/
theorem outputs_filter_eq {guard : List α → α → Prop} {R : List α → σ → σ → Prop}
    (hidden : ∀ {later s t a}, view a = false → guard later a → R later s t → R later (f s a).1 t)
    (seen : ∀ {later s t a}, view a = true → R (a :: later) s t →
      (f s a).2 = (f t a).2 ∧ R later (f s a).1 (f t a).1)
    (hg : Guarded view guard as) (hR : R (as.filter view) s t) :
    (outputs f s as).filter (fun x => view x.1) = outputs f t (as.filter view) := by
  induction as generalizing s t with
  | nil => rfl
  | cons a as ih =>
    cases hv : view a with
    | false =>
      rw [List.filter_cons_of_neg (by simp [hv])] at hR ⊢
      rw [outputs, List.filter_cons_of_neg (by simp [hv])]
      exact ih hg.2 (hidden hv (hg.1 hv) hR)
    | true =>
      rw [List.filter_cons_of_pos hv] at hR ⊢
      obtain ⟨heq, hR'⟩ := seen hv hR
      simp only [outputs, List.filter_cons, hv, if_true, heq, ih hg.2 hR']

theorem guarded_true (as : List α) : Guarded view (fun _ _ => True) as := by
  induction as with
  | nil => trivial
  | cons a as ih => exact ⟨fun _ => trivial, ih⟩

/-- The rule where an input outside the view never matters. -/
theorem outputs_filter_eq_of_rel {R : σ → σ → Prop}
    (hidden : ∀ {s t a}, view a = false → R s t → R (f s a).1 t)
    (seen : ∀ {s t a}, view a = true → R s t → (f s a).2 = (f t a).2 ∧ R (f s a).1 (f t a).1) (hR : R s t) :
    (outputs f s as).filter (fun x => view x.1) = outputs f t (as.filter view) :=
  outputs_filter_eq view (R := fun _ => R) (fun hv _ => hidden hv) seen (guarded_true view as) hR

end Mealy
