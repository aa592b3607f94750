import Mathlib.Data.List.Sort
import Mathlib.Data.Rat.Defs
import Mathlib.Algebra.Order.Ring.Unbundled.Rat
import Mathlib.Logic.Function.Basic
import SocFabric.Lib.Lts

/-!
# The alerts of the command center (`features/investigations/ui/CommandCenter.tsx`)

Alerts from the websocket are merged into the list and acknowledged ones are taken out, but the
response of the initial fetch replaces the whole list, whatever has happened since it was sent. A
run interleaves these in any order. `alerts_kept_iff` says in which runs no alert is lost and none
comes back.
-/

namespace SocFabric
namespace CommandCenter
open Lts

structure Alert where
  id : String
  type : String
  severity : Rat
deriving DecidableEq, Repr

/-- The page. `pending` are the acknowledgements on their way, by their number. The last three
fields are not in the code: what the fetch brought, the alerts that the websocket brought and that
have not been acknowledged since, and the other way round. -/
structure Center where
  alerts : List Alert := []
  loading : Bool := true
  pending : Nat → Option String := fun _ => none
  started : Nat := 0
  served : Option (List Alert) := none
  due : List String := []
  acknowledged : List String := []

inductive Act
  -- `res.data` of the initial fetch, unless it is no array
  | loaded (data : Option (List Alert))
  | loadFailed
  | websocket (newAlert : Option Alert)
  | acknowledge (alertID : String)
  | acknowledged (i : Nat)
  | acknowledgeFailed (i : Nat)
deriving DecidableEq, Repr

def ids (alerts : List Alert) : List String := alerts.map Alert.id

/-- `sort` is stable, and puts the greatest severity first. -/
def sortBySeverity (alerts : List Alert) : List Alert :=
  alerts.insertionSort fun a b => b.severity ≤ a.severity

def merge (newAlert : Alert) (prev : List Alert) : List Alert :=
  if newAlert.id ∈ ids prev then prev else sortBySeverity (newAlert :: prev)

namespace Center

def load (s : Center) : Option (List Alert) → Center
  | some data => { s with loading := false, alerts := data, served := some data }
  | none => { s with loading := false }

def receive (s : Center) : Option Alert → Center
  | none => s
  | some newAlert =>
    if newAlert.id = "" then s
    else
      { s with
        alerts := merge newAlert s.alerts
        due := newAlert.id :: s.due
        acknowledged := s.acknowledged.filter (· ≠ newAlert.id) }

def remove (s : Center) (i : Nat) (alertID : String) : Center :=
  { s with
    alerts := s.alerts.filter (·.id ≠ alertID)
    pending := Function.update s.pending i none
    due := s.due.filter (· ≠ alertID)
    acknowledged := alertID :: s.acknowledged }

end Center

def step (s : Center) : Act → Option Center
  | .loaded data => if s.loading then some (s.load data) else none
  | .loadFailed => if s.loading then some { s with loading := false } else none
  | .websocket newAlert => some (s.receive newAlert)
  -- the button is that of an alert in the list
  | .acknowledge alertID =>
    if alertID ∈ ids s.alerts then
      some { s with
        pending := Function.update s.pending s.started (some alertID)
        started := s.started + 1 }
    else none
  | .acknowledged i => (s.pending i).map (s.remove i)
  | .acknowledgeFailed i =>
    (s.pending i).map fun _ => { s with pending := Function.update s.pending i none }

/-! ### What a run is to keep -/

/-- Ids are distinct, unless the server listed one twice; what the websocket brought is there until
it is acknowledged, and from then on it is not. -/
structure Kept (s : Center) : Prop where
  distinct : (∀ data, s.served = some data → (ids data).Nodup) → (ids s.alerts).Nodup
  due : ∀ x ∈ s.due, x ∈ ids s.alerts
  acknowledged : ∀ x ∈ s.acknowledged, x ∉ ids s.alerts

/-- The response of the initial fetch has every alert that is still due, and none that has been
acknowledged. -/
def LoadsCurrent (s : Center) : Act → Prop
  | .loaded (some data) => (∀ x ∈ s.due, x ∈ ids data) ∧ ∀ x ∈ s.acknowledged, x ∉ ids data
  | _ => True

/-! ### One step -/

section
variable {s t : Center} {a : Act}

theorem mem_ids_merge {newAlert : Alert} {prev : List Alert} {x : String} :
    x ∈ ids (merge newAlert prev) ↔ x = newAlert.id ∨ x ∈ ids prev := by
  unfold merge
  split_ifs with hknown
  · constructor
    · exact .inr
    · rintro (rfl | hx)
      · exact hknown
      · exact hx
  · have hperm := (List.perm_insertionSort (fun a b : Alert => b.severity ≤ a.severity)
        (newAlert :: prev)).map Alert.id
    exact hperm.mem_iff.trans List.mem_cons

theorem nodup_ids_merge {newAlert : Alert} {prev : List Alert} (h : (ids prev).Nodup) :
    (ids (merge newAlert prev)).Nodup := by
  unfold merge
  split_ifs with hknown
  · exact h
  · have hperm := (List.perm_insertionSort (fun a b : Alert => b.severity ≤ a.severity)
        (newAlert :: prev)).map Alert.id
    exact hperm.nodup_iff.mpr (List.nodup_cons.mpr ⟨hknown, h⟩)

theorem mem_ids_filter {alerts : List Alert} {alertID x : String} :
    x ∈ ids (alerts.filter (·.id ≠ alertID)) ↔ x ∈ ids alerts ∧ x ≠ alertID := by
  simp only [ids, List.mem_map, List.mem_filter, decide_eq_true_eq]
  constructor
  · rintro ⟨alert, ⟨halert, hne⟩, rfl⟩
    exact ⟨⟨alert, halert, rfl⟩, hne⟩
  · rintro ⟨⟨alert, halert, rfl⟩, hne⟩
    exact ⟨alert, ⟨halert, hne⟩, rfl⟩

theorem Kept.receive (h : Kept s) (newAlert : Option Alert) : Kept (s.receive newAlert) := by
  unfold Center.receive
  split
  · exact h
  · split_ifs
    · exact h
    · refine ⟨fun hserved => nodup_ids_merge (h.distinct hserved), ?_, ?_⟩
      · intro x hx
        exact mem_ids_merge.mpr ((List.mem_cons.mp hx).imp_right (h.due x))
      · intro x hx hmem
        obtain ⟨hacknowledged, hne⟩ := List.mem_filter.mp hx
        rcases mem_ids_merge.mp hmem with rfl | hmem
        · simp at hne
        · exact h.acknowledged x hacknowledged hmem

theorem Kept.remove (h : Kept s) (i : Nat) (alertID : String) : Kept (s.remove i alertID) := by
  refine ⟨fun hserved => ?_, ?_, ?_⟩
  · exact (h.distinct hserved).sublist (List.filter_sublist.map _)
  · intro x hx
    obtain ⟨hdue, hne⟩ := List.mem_filter.mp hx
    exact mem_ids_filter.mpr ⟨h.due x hdue, by simpa using hne⟩
  · intro x hx hmem
    obtain ⟨hmem, hne⟩ := mem_ids_filter.mp hmem
    exact h.acknowledged x ((List.mem_cons.mp hx).resolve_left hne) hmem

theorem kept_load {data : List Alert} :
    Kept (s.load (some data)) ↔ LoadsCurrent s (.loaded (some data)) := by
  constructor
  · exact fun h => ⟨h.due, h.acknowledged⟩
  · exact fun h => ⟨fun hserved => hserved data rfl, h.1, h.2⟩

theorem kept_step (h : step s a = some t) (hs : Kept s) : Kept t ↔ LoadsCurrent s a := by
  cases a with
  | loaded data =>
    obtain ⟨-, h⟩ := Option.ite_none_right_eq_some.mp h
    cases h
    cases data with
    | none => exact iff_of_true ⟨hs.distinct, hs.due, hs.acknowledged⟩ trivial
    | some data => exact kept_load
  | loadFailed =>
    obtain ⟨-, h⟩ := Option.ite_none_right_eq_some.mp h
    cases h
    exact iff_of_true ⟨hs.distinct, hs.due, hs.acknowledged⟩ trivial
  | websocket newAlert =>
    cases h
    exact iff_of_true (hs.receive newAlert) trivial
  | acknowledge alertID =>
    obtain ⟨-, h⟩ := Option.ite_none_right_eq_some.mp h
    cases h
    exact iff_of_true ⟨hs.distinct, hs.due, hs.acknowledged⟩ trivial
  | acknowledged i =>
    obtain ⟨alertID, -, rfl⟩ := Option.map_eq_some_iff.mp h
    exact iff_of_true (hs.remove i alertID) trivial
  | acknowledgeFailed i =>
    obtain ⟨alertID, -, rfl⟩ := Option.map_eq_some_iff.mp h
    exact iff_of_true ⟨hs.distinct, hs.due, hs.acknowledged⟩ trivial

end

/-! ### Runs -/

/-- In a run, alerts are kept in every state exactly if the response of the initial fetch is current
when it comes. -/
theorem alerts_kept_iff (acts : List Act) (s : Center) (h : run step free {} acts = some s) :
    (∀ past rest t, acts = past ++ rest → run step free {} past = some t → Kept t) ↔
      ∀ past a rest t, acts = past ++ a :: rest → run step free {} past = some t →
        LoadsCurrent t a :=
  forall_reached_iff h ⟨fun _ => List.nodup_nil, by simp, by simp⟩ kept_step

def beaconAlert : Alert := ⟨"alert-9", "Anomalous_Network_Activity", 1⟩

/-- The websocket brings an alert before the list comes, which has it. -/
def currentLoad : List Act := [.websocket (some beaconAlert), .loaded (some [beaconAlert])]

theorem current_load_keeps_alerts :
    ∃ s, run step free {} currentLoad = some s ∧ ids s.alerts = ["alert-9"] ∧ Kept s := by
  refine ⟨_, rfl, rfl, (alerts_kept_iff currentLoad _ rfl).mpr ?_ currentLoad [] _ rfl rfl⟩
  intro past a rest t hacts ht
  match past, hacts with
  | [], hacts =>
    cases hacts
    trivial
  | [_], hacts =>
    cases hacts
    cases ht
    exact ⟨by decide, by decide⟩
  | _ :: _ :: past, hacts => simp [currentLoad] at hacts

/-- The server took its list before it sent the alert. -/
def staleLoad : List Act := [.websocket (some beaconAlert), .loaded (some [])]

theorem stale_load_loses_alert :
    ¬ ∀ (acts : List Act) (s : Center), run step free {} acts = some s → Kept s := by
  intro h
  have hdue := (h staleLoad _ rfl).due "alert-9"
  revert hdue
  decide

end CommandCenter
end SocFabric
