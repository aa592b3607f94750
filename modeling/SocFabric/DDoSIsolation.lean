import SocFabric.DDoSDetector
import SocFabric.Lib.Mealy

/-!
# Tenants of the shared DDoS detector

`ddos_detector` is one object for all tenants, and its baselines are keyed by host alone. A call
reads and writes the baselines of its own hosts (`analyze_of_not_mem`, `analyze_eqOn`). So the
findings of one tenant do not depend on the calls of the others as long as these never touch a host
that the tenant still asks about (`findings_eq_of_disjoint`); two tenants with the same private
address are enough to break it (`findings_depend_on_other_tenant`).
-/

namespace SocFabric
namespace DDoS

variable {R : Type} [PyNum R] {s t : Baselines R} {c : Call R} {threshold : Nat}

def Call.hosts (c : Call R) : List HostId :=
  c.flowEvents.map Flow.source ++ c.containerMetrics.map ContainerMetric.id

theorem analyze_of_not_mem {k : HostId} (h : k ∉ c.hosts) : (analyze threshold s c).1 k = s k := by
  rw [Call.hosts, List.mem_append, not_or] at h
  have hflows : (analyzeFlows s c.flowEvents).1 k = s k :=
    KeyedStore.groupLoop_of_not_mem collects_aggregateFlow h.1
  unfold analyze
  split
  · rename_i s' heq
    rw [heq] at hflows
    exact hflows
  · rename_i s' flow heq
    rw [heq] at hflows
    have hmetrics : (analyzeContainerMetrics s' c.containerMetrics).1 k = s' k :=
      KeyedStore.groupLoop_of_not_mem collects_aggregateMetric h.2
    split <;> rename_i heq' <;> rw [heq'] at hmetrics <;> exact hmetrics.trans hflows

/-- The answer of a call, and the baselines it leaves on a set with its hosts, depend on the
baselines of that set. -/
theorem analyze_eqOn {H : Set HostId} (h : Set.EqOn s t H) (hc : ∀ k ∈ c.hosts, k ∈ H) :
    (analyze threshold s c).2 = (analyze threshold t c).2 ∧
      Set.EqOn (analyze threshold s c).1 (analyze threshold t c).1 H := by
  have hflow : ∀ f ∈ c.flowEvents, f.source ∈ H := fun f hf =>
    hc _ (List.mem_append_left _ (List.mem_map_of_mem hf))
  have hmetric : ∀ m ∈ c.containerMetrics, m.id ∈ H := fun m hm =>
    hc _ (List.mem_append_right _ (List.mem_map_of_mem hm))
  have hflows : (analyzeFlows s c.flowEvents).2 = (analyzeFlows t c.flowEvents).2 ∧
      Set.EqOn (analyzeFlows s c.flowEvents).1 (analyzeFlows t c.flowEvents).1 H :=
    KeyedStore.groupLoop_eqOn collects_aggregateFlow h hflow
  unfold analyze
  rcases hs : analyzeFlows s c.flowEvents with ⟨s', flow⟩
  rcases ht : analyzeFlows t c.flowEvents with ⟨t', flow'⟩
  rw [hs, ht] at hflows
  obtain ⟨rfl, hst⟩ := hflows
  cases flow with
  | none => exact ⟨rfl, hst⟩
  | some flow =>
    have hmetrics : (analyzeContainerMetrics s' c.containerMetrics).2 =
        (analyzeContainerMetrics t' c.containerMetrics).2 ∧
        Set.EqOn (analyzeContainerMetrics s' c.containerMetrics).1
          (analyzeContainerMetrics t' c.containerMetrics).1 H :=
      KeyedStore.groupLoop_eqOn collects_aggregateMetric hst hmetric
    rcases hs' : analyzeContainerMetrics s' c.containerMetrics with ⟨s'', container⟩
    rcases ht' : analyzeContainerMetrics t' c.containerMetrics with ⟨t'', container'⟩
    rw [hs', ht'] at hmetrics
    simp only [hs', ht']
    obtain ⟨rfl, hst'⟩ := hmetrics
    cases container with
    | none => exact ⟨rfl, hst'⟩
    | some container => exact ⟨rfl, hst'⟩

/-! ### Whole histories -/

/-- The answers that the calls of one tenant get in a history of the detector. -/
def findingsOf (threshold : Nat) (tenantID : String) (history : List (Call R)) : List (Call R × Result R) :=
  (Mealy.outputs (analyze threshold) freshBaselines history).filter fun x => x.1.tenantID = tenantID

def callsOf (tenantID : String) (history : List (Call R)) : List (Call R) :=
  history.filter fun c => c.tenantID = tenantID

/-- No call of another tenant has a host that a later call of the tenant has. -/
def HostsApart (tenantID : String) (history : List (Call R)) : Prop :=
  Mealy.Guarded (fun c : Call R => c.tenantID = tenantID)
    (fun later c => ∀ c' ∈ later, ∀ k ∈ c.hosts, k ∉ c'.hosts) history

def hostsOf (later : List (Call R)) : Set HostId := {k | ∃ c ∈ later, k ∈ c.hosts}

omit [PyNum R] in
theorem hostsOf_subset_cons (c : Call R) (later : List (Call R)) : hostsOf later ⊆ hostsOf (c :: later) := by
  rintro k ⟨c', hc', hk⟩
  exact ⟨c', List.mem_cons_of_mem _ hc', hk⟩

/-- The tenant's answers are those of a detector of its own. -/
theorem findingsOf_eq_outputs {tenantID : String} {history : List (Call R)}
    (h : HostsApart tenantID history) :
    findingsOf threshold tenantID history =
      Mealy.outputs (analyze threshold) freshBaselines (callsOf tenantID history) := by
  -- two states are alike for the calls to come if they agree on the hosts of these calls
  refine Mealy.outputs_filter_eq (R := fun later s t => Set.EqOn s t (hostsOf later)) _ ?_ ?_ h
    fun _ _ => rfl
  · intro later s t c _ hapart heq k hk
    obtain ⟨c', hc', hk'⟩ := hk
    have hout : k ∉ c.hosts := fun hmem => hapart c' hc' k hmem hk'
    exact (analyze_of_not_mem hout).trans (heq ⟨c', hc', hk'⟩)
  · intro later s t c _ heq
    have hown : ∀ k ∈ c.hosts, k ∈ hostsOf (c :: later) := fun k hk => ⟨c, List.mem_cons_self .., hk⟩
    obtain ⟨hout, hafter⟩ := analyze_eqOn heq hown
    exact ⟨hout, hafter.mono (hostsOf_subset_cons c later)⟩

/-- Two histories with the same calls of a tenant give it the same findings, if in both of them the
other tenants keep off the hosts that the tenant asks about later. -/
theorem findings_eq_of_disjoint (threshold : Nat) (tenantID : String) (h₁ h₂ : List (Call R))
    (hcalls : callsOf tenantID h₁ = callsOf tenantID h₂) (ha₁ : HostsApart tenantID h₁)
    (ha₂ : HostsApart tenantID h₂) : findingsOf threshold tenantID h₁ = findingsOf threshold tenantID h₂ := by
  rw [findingsOf_eq_outputs ha₁, findingsOf_eq_outputs ha₂, hcalls]

def windowOf (tenantID source : String) (pps : Rat) (bytes : Int) : Call Rat :=
  { flowEvents := [{ sourceIP := some (some source), bytesOut := .int bytes, ppsTx := .num pps }]
    tenantID := tenantID }

theorem findings_eq_on_other_host :
    findingsOf scoreThreshold "acme-corp"
        [windowOf "globex" "10.0.0.9" 10 100, windowOf "acme-corp" "10.0.0.7" 6000 100] =
      findingsOf scoreThreshold "acme-corp" [windowOf "acme-corp" "10.0.0.7" 6000 100] :=
  findings_eq_of_disjoint _ _ _ _ (by decide +kernel)
    ⟨fun _ => by decide +kernel, fun h => absurd h (by decide), trivial⟩
    ⟨fun h => absurd h (by decide), trivial⟩

/-- Five quiet windows of another tenant's `10.0.0.7` make the tenant's own `10.0.0.7` anomalous. -/
theorem findings_depend_on_other_tenant :
    ¬ ∀ (R : Type) [PyNum R] (tenantID : String) (h₁ h₂ : List (Call R)),
      callsOf tenantID h₁ = callsOf tenantID h₂ →
        findingsOf scoreThreshold tenantID h₁ = findingsOf scoreThreshold tenantID h₂ := by
  intro h
  have hsame := h Rat "acme-corp"
    (List.replicate 5 (windowOf "globex" "10.0.0.7" 10 100) ++ [windowOf "acme-corp" "10.0.0.7" 1000 100000])
    [windowOf "acme-corp" "10.0.0.7" 1000 100000] (by decide +kernel)
  exact absurd hsame (by decide +kernel)

end DDoS
end SocFabric
