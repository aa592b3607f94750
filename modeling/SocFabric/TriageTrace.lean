import SocFabric.Triage

/-!
# The step trace of a triage call

The stepper follows the node events of `execute_triage`: a node starts, may raise alerts, and
completes before the next one starts (`WellBracketed`). The coordinator completes the detector node
only when neither detector has found anything, and an analysis that raises leaves its node open, so
the trace is well bracketed exactly in the other calls (`trace_wellBracketed_iff`).
-/

namespace SocFabric
namespace Triage

variable {R : Type}

abbrev NodeEvent := Node × StepStatus

/-- The event as the stepper sees it; other events of the bus are not about a node. -/
def BusEvent.nodeEvent : BusEvent R → Option NodeEvent
  | .step _ _ node status _ => some (node, status)
  | .clientSiteVisit .. | .suspiciousFlow .. => none

def nodeTrace (events : List (BusEvent R)) : List NodeEvent := events.filterMap BusEvent.nodeEvent

/-! ### Brackets -/

/-- One bracket after the other: a node starts, alerts some times and completes. -/
inductive WellBracketed : List NodeEvent → Prop
  | nil : WellBracketed []
  | bracket (n : Node) (alerts : Nat) {rest : List NodeEvent} : WellBracketed rest →
    WellBracketed ((n, .started) :: (List.replicate alerts (n, .alert) ++ (n, .completed) :: rest))

/-- The stepper's own reading, with the node that is open. -/
def bracketed : Option Node → List NodeEvent → Bool
  | none, [] => true
  | none, (n, .started) :: rest => bracketed (some n) rest
  | none, (_, .alert) :: _ => false
  | none, (_, .completed) :: _ => false
  | some _, [] => false
  | some _, (_, .started) :: _ => false
  | some m, (n, .alert) :: rest => n = m && bracketed (some m) rest
  | some m, (n, .completed) :: rest => n = m && bracketed none rest

theorem bracketed_alerts (n : Node) (alerts : Nat) (rest : List NodeEvent) :
    bracketed (some n) (List.replicate alerts (n, .alert) ++ rest) = bracketed (some n) rest := by
  induction alerts with
  | zero => rfl
  | succ k ih => simp [List.replicate_succ, bracketed, ih]

/-- Inside a bracket there are alerts of its node, then its end. -/
def Closes (n : Node) (events : List NodeEvent) : Prop :=
  ∃ alerts rest, events = List.replicate alerts (n, .alert) ++ (n, .completed) :: rest ∧
    WellBracketed rest

theorem wellBracketed_of_bracketed (events : List NodeEvent) :
    (bracketed none events = true → WellBracketed events) ∧
      ∀ m, bracketed (some m) events = true → Closes m events := by
  induction events with
  | nil => exact ⟨fun _ => .nil, fun m h => by cases h⟩
  | cons e events ih =>
    obtain ⟨n, status⟩ := e
    cases status with
    | started =>
      refine ⟨fun h => ?_, fun m h => by cases h⟩
      obtain ⟨alerts, rest, rfl, hrest⟩ := ih.2 n h
      exact .bracket n alerts hrest
    | completed =>
      refine ⟨fun h => (by cases h), fun m h => ?_⟩
      simp only [bracketed, Bool.and_eq_true, decide_eq_true_eq] at h
      obtain ⟨rfl, hrest⟩ := h
      exact ⟨0, events, rfl, ih.1 hrest⟩
    | alert =>
      refine ⟨fun h => (by cases h), fun m h => ?_⟩
      simp only [bracketed, Bool.and_eq_true, decide_eq_true_eq] at h
      obtain ⟨rfl, hrest⟩ := h
      obtain ⟨alerts, rest, rfl, hclosed⟩ := ih.2 n hrest
      exact ⟨alerts + 1, rest, rfl, hclosed⟩

theorem wellBracketed_iff {events : List NodeEvent} :
    WellBracketed events ↔ bracketed none events = true := by
  refine ⟨fun h => ?_, (wellBracketed_of_bracketed events).1⟩
  induction h with
  | nil => rfl
  | bracket n alerts _ ih => simp [bracketed, bracketed_alerts, ih]

/-! ### The trace of a call -/

theorem nodeTrace_append (events events' : List (BusEvent R)) :
    nodeTrace (events ++ events') = nodeTrace events ++ nodeTrace events' :=
  List.filterMap_append

theorem nodeTrace_alerts (c : Context) (alerts : List String) :
    nodeTrace (alerts.map (c.step (R := R) .detectorSubagents .alert)) =
      List.replicate alerts.length (.detectorSubagents, .alert) := by
  induction alerts with
  | nil => rfl
  | cons a alerts ih =>
    rw [List.map_cons, List.length_cons, List.replicate_succ, ← ih]
    rfl

/-- Every finding has its alert. -/
theorem length_detect (v : Verdict) (rat ddos : Outcome) :
    (detect v rat ddos).alerts.length = rat.found.toNat + ddos.found.toNat ∧
      (detect v rat ddos).findings.length = rat.found.toNat + ddos.found.toNat := by
  cases rat <;> cases ddos <;> exact ⟨rfl, rfl⟩

section
variable [PyNum R]

theorem nodeTrace_forensicEvents (f : FlowFindings R) : nodeTrace (forensicEvents f) = [] := by
  unfold forensicEvents
  rw [nodeTrace_append]
  cases f.site <;> split_ifs <;> rfl

/-- The events of the detector node, by the number of findings. -/
def detectorTrace (found : Nat) : List NodeEvent :=
  (.detectorSubagents, .started) :: List.replicate found (.detectorSubagents, .alert) ++
    if found = 0 then [(.detectorSubagents, .completed)] else []

theorem nodeTrace_executeTriage {c : Context} {t : Telemetry R} {f : FlowFindings R}
    (h : analyzeFlowFeatures t = some f) (rat ddos : Outcome) (ledger : Ledger) :
    nodeTrace (executeTriage c t rat ddos ledger).events =
      ([(.ingest, .started), (.ingest, .completed), (.deobfuscation, .started),
        (.deobfuscation, .completed), (.llmTriage, .started), (.llmTriage, .completed)] : List NodeEvent) ++
      detectorTrace (rat.found.toNat + ddos.found.toNat) ++
      ([(.action, .started), (.action, .completed)] : List NodeEvent) := by
  obtain ⟨halerts, hfindings⟩ := length_detect (initialVerdict f) rat ddos
  have hnil : (detect (initialVerdict f) rat ddos).findings = [] ↔
      rat.found.toNat + ddos.found.toNat = 0 := by rw [← hfindings, List.length_eq_zero_iff]
  unfold executeTriage
  rw [h]
  simp only [triageEvents, nodeTrace_append, nodeTrace_forensicEvents, nodeTrace_alerts, halerts,
    hnil, detectorTrace]
  split_ifs <;> rfl

theorem trace_wellBracketed_iff (c : Context) (t : Telemetry R) (rat ddos : Outcome)
    (ledger : Ledger) :
    WellBracketed (nodeTrace (executeTriage c t rat ddos ledger).events) ↔
      analyzeFlowFeatures t ≠ none ∧ rat.found = false ∧ ddos.found = false := by
  rw [wellBracketed_iff]
  cases h : analyzeFlowFeatures t with
  | none =>
    unfold executeTriage
    rw [h]
    simp [ingestEvents, nodeTrace, Context.step, BusEvent.nodeEvent, bracketed]
  | some f =>
    rw [nodeTrace_executeTriage h]
    cases rat.found <;> cases ddos.found <;>
      simp [detectorTrace, bracketed, List.replicate_succ]

def beaconFinding : SecurityFinding :=
  { category := .rat
    score := 80
    triggers := ["beacon_pattern"]
    sourceIP := some (some "192.168.1.105")
    endpointID := none
    recommendedAction := .isolateLanClient }

/-- A finding of the RAT detector leaves its node open. -/
theorem finding_leaves_detectors_open :
    ¬ WellBracketed (nodeTrace (executeTriage (R := Rat) ⟨"c-1", "inv-1", "system"⟩
      [("source_ip", .str "192.168.1.105")] (.finding beaconFinding) .none []).events) := by
  rw [wellBracketed_iff]
  decide

end

end Triage
end SocFabric
