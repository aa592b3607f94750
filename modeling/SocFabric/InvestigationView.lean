import Mathlib.Logic.Function.Basic
import SocFabric.Lib.Lts

/-!
# The selected alert and its investigation (`features/investigations/store/InvestigationContext.tsx`)

`viewInvestigation` selects an alert, clears what is shown, and shows the response when it comes,
whichever alert is selected by then; `setSelectedAlert` leaves what is shown. A run interleaves
these calls and the responses in any order. `shows_selection_iff` says in which runs the
investigation shown is always the one of the selected alert.
-/

namespace SocFabric
namespace InvestigationView
open Lts

-- the alerts, their ids, which the backend knows them by, and the investigations
variable {A K D : Type}

/-- What is shown, and the alert that it was requested for. -/
structure Shown (A D : Type) where
  data : D
  alert : A
deriving DecidableEq, Repr

/-- `pending` are the requests on their way, by their number. -/
structure View (A D : Type) where
  selectedAlert : Option A := none
  investigation : Option (Shown A D) := none
  pending : Nat → Option A := fun _ => none
  started : Nat := 0

inductive Act (A D : Type)
  | viewInvestigation (alert : A)
  -- `res.data` of request `i`, which may be null
  | respond (i : Nat) (data : Option D)
  | fail (i : Nat)
  | setSelectedAlert (alert : Option A)
deriving DecidableEq, Repr

def step (s : View A D) : Act A D → Option (View A D)
  | .viewInvestigation alert =>
    some { s with
      selectedAlert := some alert
      investigation := none
      pending := Function.update s.pending s.started (some alert)
      started := s.started + 1 }
  | .respond i data =>
    (s.pending i).map fun alert =>
      { s with investigation := data.map (⟨·, alert⟩), pending := Function.update s.pending i none }
  | .fail i => (s.pending i).map fun _ => { s with pending := Function.update s.pending i none }
  | .setSelectedAlert alert => some { s with selectedAlert := alert }

section
variable (id : A → K)

/-- What is shown was requested for the alert that is selected. -/
def ShowsSelection (s : View A D) : Prop :=
  ∀ shown, s.investigation = some shown → s.selectedAlert.map id = some (id shown.alert)

/-- A response comes while its alert is selected, and the selection is not set to another alert, or
to none, while an investigation is shown. -/
def KeepsSelection (s : View A D) : Act A D → Prop
  | .respond i (some _) => ∀ alert, s.pending i = some alert → s.selectedAlert.map id = some (id alert)
  | .setSelectedAlert alert => s.investigation ≠ none → alert.map id = s.selectedAlert.map id
  | _ => True

variable {id} {s t : View A D} {a : Act A D}

theorem showsSelection_step (h : step s a = some t) (hs : ShowsSelection id s) :
    ShowsSelection id t ↔ KeepsSelection id s a := by
  cases a with
  | viewInvestigation alert =>
    cases h
    refine iff_of_true ?_ trivial
    intro shown hshown
    cases hshown
  | respond i data =>
    obtain ⟨alert, hi, rfl⟩ := Option.map_eq_some_iff.mp h
    cases data with
    | none =>
      refine iff_of_true ?_ trivial
      intro shown hshown
      cases hshown
    | some d =>
      constructor
      · intro ht alert' hi'
        cases hi.symm.trans hi'
        exact ht ⟨d, alert⟩ rfl
      · intro hk shown hshown
        cases hshown
        exact hk alert hi
  | fail i =>
    obtain ⟨alert, -, rfl⟩ := Option.map_eq_some_iff.mp h
    exact iff_of_true hs trivial
  | setSelectedAlert alert =>
    cases h
    constructor
    · intro ht hne
      obtain ⟨shown, hshown⟩ := Option.ne_none_iff_exists'.mp hne
      exact (ht shown hshown).trans (hs shown hshown).symm
    · intro hk shown hshown
      have hne : s.investigation ≠ none := Option.ne_none_iff_exists'.mpr ⟨shown, hshown⟩
      exact (hk hne).trans (hs shown hshown)

end

/-- In a run, what is shown is always of the selected alert exactly if every response comes while
its alert is selected and no other selection is set while an investigation is shown. -/
theorem shows_selection_iff (id : A → K) (acts : List (Act A D)) (s : View A D)
    (h : run step free {} acts = some s) :
    (∀ past rest t, acts = past ++ rest → run step free {} past = some t → ShowsSelection id t) ↔
      ∀ past a rest t, acts = past ++ a :: rest → run step free {} past = some t → KeepsSelection id t a := by
  refine forall_reached_iff h ?_ showsSelection_step
  intro shown hshown
  cases hshown

/-- One alert is viewed and its response comes. -/
def singleView : List (Act Nat String) := [.viewInvestigation 7, .respond 0 (some "seven")]

theorem single_view_shows_selection :
    ∃ s, run step free {} singleView = some s ∧ s.investigation = some ⟨"seven", 7⟩ ∧
      ShowsSelection (fun alert => alert) s := by
  refine ⟨_, rfl, rfl, (shows_selection_iff (fun alert => alert) singleView _ rfl).mpr ?_ singleView [] _ rfl rfl⟩
  intro past a rest t hacts ht
  match past, hacts with
  | [], hacts =>
    cases hacts
    trivial
  | [_], hacts =>
    cases hacts
    cases ht
    intro alert halert
    exact halert
  | _ :: _ :: past, hacts => simp [singleView] at hacts

/-- The response for the first alert comes after the second was selected. -/
def lateResponse : List (Act Nat String) := [.viewInvestigation 1, .viewInvestigation 2, .respond 0 (some "one")]

theorem late_response_shown :
    ¬ ∀ (acts : List (Act Nat String)) (s : View Nat String), run step free {} acts = some s →
        ShowsSelection (fun alert => alert) s := by
  intro h
  have hshows := h lateResponse _ rfl ⟨"one", 1⟩ rfl
  revert hshows
  decide

end InvestigationView
end SocFabric
