import SocFabric.DDoSTarget

/-!
# The evidence of a DDoS finding

`analyze` adds up the scores of its two analyses, but `evidence.update` replaces the triggers of the
first by those of the second. The triggers of a finding explain its score (`ExplainsScore`) exactly
if one of the two analyses found nothing (`explainsScore_iff`).
-/

namespace SocFabric
namespace DDoS

variable {R : Type} [PyNum R] {threshold : Nat} {s : Baselines R} {c : Call R} {f : Finding R}

omit [PyNum R] in
/-- The weights of the triggers add up to the total, and the score is the total cut off at 100. -/
def ExplainsScore (f : Finding R) : Prop :=
  f.totalScore = totalScore f.evidence.triggers ∧ f.score = min 100 (totalScore f.evidence.triggers)

instance : Decidable (ExplainsScore f) := inferInstanceAs (Decidable (_ ∧ _))

/-! ### Hosts and containers without a trigger -/

/-- The source of the flows crosses no threshold. -/
structure HostQuiet (b : HostBaselines R) (h : HostAgg R) : Prop where
  pps : PyNum.le ppsHardThreshold h.ppsTx = false
  ppsBaseline : (b "pps_tx").anomalous h.ppsTx = false
  bytesBaseline : (b "bytes_out").anomalous (PyNum.ofInt h.bytesOut) = false
  bytesMultiple : (b "bytes_out").bursts (PyNum.ofInt h.bytesOut) = false
  uniqueDsts : h.uniqueDsts.length < uniqueDstScanThreshold

structure ContainerQuiet (b : HostBaselines R) (a : ContainerAgg R) : Prop where
  restarts : a.restarts < containerRestartStorm
  ooms : a.ooms < containerOomThreshold
  pps : PyNum.le ppsHardThreshold a.ppsTx = false
  ppsBaseline : (b "pps_tx").anomalous a.ppsTx = false
  uniqueDsts : a.uniqueDstCount < uniqueDstScanThreshold

def FlowsQuiet (s : Baselines R) (flows : List (Flow R)) : Prop :=
  ∀ hosts, flows.foldlM aggregateFlow [] = some hosts → ∀ x ∈ hosts, HostQuiet (s x.1) x.2

def MetricsQuiet (s : Baselines R) (metrics : List (ContainerMetric R)) : Prop :=
  ∀ containers, metrics.foldlM aggregateMetric [] = some containers → ∀ x ∈ containers,
    ContainerQuiet (s x.1) x.2

theorem Trigger.when_eq_nil {t : Trigger} {p : Bool} : t.when p = [] ↔ p = false := by
  cases p <;> simp

theorem hostTriggers_eq_nil {b : HostBaselines R} {h : HostAgg R} :
    hostTriggers b h = [] ↔ HostQuiet b h := by
  simp only [hostTriggers, List.append_eq_nil_iff, Trigger.when_eq_nil, decide_eq_false_iff_not]
  constructor
  · rintro ⟨hpps, ⟨hbl, hbytes, hburst⟩, hext, hscan⟩
    exact ⟨hpps, hbl, hbytes, hburst, by omega⟩
  · rintro ⟨hpps, hbl, hbytes, hburst, hdsts⟩
    have hlt : uniqueDstScanThreshold < uniqueDstExtremeThreshold := by decide
    exact ⟨hpps, ⟨hbl, hbytes, hburst⟩, by omega, by omega⟩

theorem containerTriggers_eq_nil {b : HostBaselines R} {a : ContainerAgg R} :
    containerTriggers b a = [] ↔ ContainerQuiet b a := by
  simp only [containerTriggers, List.append_eq_nil_iff, Trigger.when_eq_nil,
    decide_eq_false_iff_not, not_le]
  constructor
  · rintro ⟨hrestarts, hooms, hpps, hbl, hdsts⟩
    exact ⟨hrestarts, hooms, hpps, hbl, hdsts⟩
  · rintro ⟨hrestarts, hooms, hpps, hbl, hdsts⟩
    exact ⟨hrestarts, hooms, hpps, hbl, hdsts⟩

theorem raised_flowTriggers_eq_nil {flows : List (Flow R)} {hosts : List (HostId × HostAgg R)}
    (h : flows.foldlM aggregateFlow [] = some hosts) :
    raised (flowTriggers s flows) = [] ↔ FlowsQuiet s flows := by
  rw [raised, flowTriggers, h, Option.getD_some, List.flatMap_map, List.flatMap_eq_nil_iff,
    FlowsQuiet]
  simp [h, hostTriggers_eq_nil]

theorem raised_metricTriggers_eq_nil {metrics : List (ContainerMetric R)}
    {containers : List (HostId × ContainerAgg R)}
    (h : metrics.foldlM aggregateMetric [] = some containers) :
    raised (metricTriggers s metrics) = [] ↔ MetricsQuiet s metrics := by
  rw [raised, metricTriggers, h, Option.getD_some, List.flatMap_map, List.flatMap_eq_nil_iff,
    MetricsQuiet]
  simp [h, containerTriggers_eq_nil]

/-! ### What a finding is built from -/

theorem totalScore_eq_zero {ts : List Trigger} : totalScore ts = 0 ↔ ts = [] := by
  cases ts with
  | nil => simp [totalScore]
  | cons t ts =>
    have hpos : 0 < t.score := by cases t <;> decide
    simp only [totalScore, List.map_cons, List.sum_cons]
    simp
    omega

omit [PyNum R] in
theorem triggers_updateFrom {e : Evidence R} {a : Acc R} :
    (e.updateFrom a).triggers = if 0 < a.score then a.evidence.triggers else e.triggers := by
  unfold Evidence.updateFrom
  split <;> rfl

/-- The two analyses that a finding comes from. -/
theorem analyze_eq_returned (h : (analyze threshold s c).2 = .returned (some f)) :
    ∃ s' s'' flow container, analyzeFlows s c.flowEvents = (s', some flow) ∧
      analyzeContainerMetrics s' c.containerMetrics = (s'', some container) ∧
      buildFinding c threshold flow container = some f := by
  unfold analyze at h
  split at h
  · cases h
  · rename_i s' flow hflow
    split at h
    · cases h
    · rename_i s'' container hcontainer
      exact ⟨s', s'', flow, container, hflow, hcontainer, Result.returned.inj h⟩

omit [PyNum R] in
/-- With one score for each list of triggers, the last list explains the sum only if the other one
is empty. -/
theorem explainsScore_buildFinding {flow : Acc R} {container : ContainerAcc R}
    {ts us : List Trigger}
    (hflow : Acc.Raises {} ts flow) (hcontainer : Acc.Raises {} us container.1)
    (h : buildFinding c threshold flow container = some f) :
    ExplainsScore f ↔ ts = [] ∨ us = [] := by
  have hts : flow.evidence.triggers = ts := hflow.triggers
  have hus : container.1.evidence.triggers = us := hcontainer.triggers
  have hflowScore : flow.score = totalScore ts := by
    rw [hflow.score]
    exact Nat.zero_add _
  have hcontainerScore : container.1.score = totalScore us := by
    rw [hcontainer.score]
    exact Nat.zero_add _
  unfold buildFinding at h
  split at h
  · cases h
  · cases h
    unfold ExplainsScore
    simp only [triggers_updateFrom, hts, hus, hflowScore, hcontainerScore]
    rw [← totalScore_eq_zero, ← totalScore_eq_zero, Nat.min_comm 100]
    have hnil : totalScore [] = 0 := rfl
    by_cases hzero : 0 < totalScore us
    · rw [if_pos hzero]
      omega
    · by_cases hzero' : 0 < totalScore ts
      · rw [if_neg hzero, if_pos hzero']
        omega
      · rw [if_neg hzero, if_neg hzero']
        simp only [hnil]
        omega

/-! ### The condition -/

/-- The triggers of a finding explain its score exactly if no source of the flows crosses a
threshold or no container does, each measured against the baselines that its analysis meets. -/
theorem explainsScore_iff (threshold : Nat) (s : Baselines R) (c : Call R) (f : Finding R)
    (h : (analyze threshold s c).2 = .returned (some f)) :
    ExplainsScore f ↔
      FlowsQuiet s c.flowEvents ∨ MetricsQuiet (afterFlows s c) c.containerMetrics := by
  obtain ⟨s', s'', flow, container, hflow, hcontainer, hbuild⟩ := analyze_eq_returned h
  have hs' : afterFlows s c = s' := by rw [afterFlows, hflow]
  obtain ⟨hosts, hhosts, -⟩ := KeyedStore.groups_of_groupLoop (congrArg Prod.snd hflow)
  obtain ⟨containers, hcontainers, -⟩ :=
    KeyedStore.groups_of_groupLoop (congrArg Prod.snd hcontainer)
  rw [explainsScore_buildFinding (analyzeFlows_spec hflow)
    (analyzeContainerMetrics_spec hcontainer).acc hbuild,
    raised_flowTriggers_eq_nil hhosts, raised_metricTriggers_eq_nil hcontainers, hs']

/-! ### A flood and a restart storm -/

def floodFlow : Flow Rat :=
  { sourceIP := some (some "192.168.1.100"), bytesOut := .int 1500, ppsTx := .int 5100 }

def restart : ContainerMetric Rat :=
  { containerID := some (some "abc123"), lifecycleEvent := some "restart" }

def floodFinding : Finding Rat :=
  { tenantID := "test-tenant"
    endpointID := none
    category := .ddos
    score := 70
    evidence := ⟨[("pps_flood", [("src_ip", .str "192.168.1.100"), ("pps_tx", .num 5100),
      ("threshold", .num 5000)])], [.ppsHardThreshold]⟩
    totalScore := 70
    sourceIP := some "192.168.1.100"
    recommendedAction := .isolateLanClient }

theorem flood_score_explained :
    (analyze scoreThreshold freshBaselines
        { flowEvents := [floodFlow], tenantID := "test-tenant" }).2 =
        .returned (some floodFinding) ∧
      ExplainsScore floodFinding := by
  have h : (analyze scoreThreshold freshBaselines
      { flowEvents := [floodFlow], tenantID := "test-tenant" }).2 =
      .returned (some floodFinding) := by decide +kernel
  refine ⟨h, (explainsScore_iff scoreThreshold freshBaselines _ floodFinding h).mpr (.inr ?_)⟩
  intro containers hcontainers x hx
  cases hcontainers
  cases hx

def combinedFinding : Finding Rat :=
  { tenantID := "test-tenant"
    endpointID := none
    category := .containerAbuse
    score := 100
    evidence := ⟨[("pps_flood", [("src_ip", .str "192.168.1.100"), ("pps_tx", .num 5100),
      ("threshold", .num 5000)]),
      ("container_restart_storm", [("container_id", .str "abc123"),
        ("container_name", .str "abc123"), ("restart_count", .int 5), ("threshold", .int 5)])],
      [.containerRestartStorm]⟩
    totalScore := 105
    sourceIP := some "192.168.1.100"
    recommendedAction := .throttleContainer }

/-- A flood of 5100 packets a second together with five restarts of a container: the flood's trigger
is gone. -/
theorem combined_score_unexplained :
    ¬ ∀ (s : Baselines Rat) (c : Call Rat) (f : Finding Rat),
      (analyze scoreThreshold s c).2 = .returned (some f) → ExplainsScore f := by
  intro h
  have hreturned : (analyze scoreThreshold freshBaselines
      { flowEvents := [floodFlow], containerMetrics := List.replicate 5 restart,
        tenantID := "test-tenant" }).2 =
      .returned (some combinedFinding) := by decide +kernel
  have hexplains := h _ _ _ hreturned
  revert hexplains
  decide

end DDoS
end SocFabric
