import SocFabric.DDoSReadings

/-!
# The target of a DDoS finding

`_primary_source` takes the most frequent source of the flows, or the first container without any
(`primarySource_eq_iff`), and never looks at the triggers. A finding is aimed at a host or container
that raised one (`AimedAtCulprit`) exactly if that address happens to have raised one itself
(`aimedAtCulprit_iff`).
-/

namespace SocFabric
namespace DDoS

variable {R : Type} [PyNum R] {threshold : Nat} {s : Baselines R} {c : Call R}

/-- The host raised a trigger. -/
def Culprit (hosts : List (HostId × List Trigger)) (k : HostId) : Prop := ∃ x ∈ hosts, x.1 = k ∧ x.2 ≠ []

instance (hosts : List (HostId × List Trigger)) (k : HostId) : Decidable (Culprit hosts k) :=
  inferInstanceAs (Decidable (∃ x ∈ hosts, x.1 = k ∧ x.2 ≠ []))

/-- The baselines that the container analysis of a call starts from. -/
def afterFlows (s : Baselines R) (c : Call R) : Baselines R := (analyzeFlows s c.flowEvents).1

def FlowCulprit (s : Baselines R) (c : Call R) (k : HostId) : Prop := Culprit (flowTriggers s c.flowEvents) k

def ContainerCulprit (s : Baselines R) (c : Call R) (k : HostId) : Prop :=
  (∃ m ∈ c.containerMetrics, m.containerID = some k) ∧
    Culprit (metricTriggers (afterFlows s c) c.containerMetrics) k

instance (k : HostId) : Decidable (FlowCulprit s c k) := inferInstanceAs (Decidable (Culprit _ k))

instance (k : HostId) : Decidable (ContainerCulprit s c k) :=
  inferInstanceAs (Decidable ((∃ m ∈ c.containerMetrics, m.containerID = some k) ∧ Culprit _ k))

/-- An isolation is aimed at a source of the flows with a trigger, a throttle at a container with
one. -/
def AimedAtCulprit (s : Baselines R) (c : Call R) : Result R → Prop
  | .returned (some f) =>
    (f.recommendedAction = .isolateLanClient → FlowCulprit s c f.sourceIP) ∧
      (f.recommendedAction = .throttleContainer → ContainerCulprit s c f.sourceIP)
  | .returned none => True
  | .raised => True

instance : (r : Result R) → Decidable (AimedAtCulprit s c r)
  | .returned (some f) => inferInstanceAs (Decidable
      ((f.recommendedAction = .isolateLanClient → FlowCulprit s c f.sourceIP) ∧
        (f.recommendedAction = .throttleContainer → ContainerCulprit s c f.sourceIP)))
  | .returned none => .isTrue trivial
  | .raised => .isTrue trivial

/-! ### The triggers of a call -/

def callTriggers (s : Baselines R) (c : Call R) : List Trigger :=
  raised (flowTriggers s c.flowEvents) ++ raised (metricTriggers (afterFlows s c) c.containerMetrics)

def containerAbuse (s : Baselines R) (c : Call R) : Bool :=
  (raised (metricTriggers (afterFlows s c) c.containerMetrics)).any Trigger.isAbuse

/-- One of the two analyses of the call raises an exception. -/
def AnalysisRaises (s : Baselines R) (c : Call R) : Prop :=
  (analyzeFlows s c.flowEvents).2 = none ∨ (analyzeContainerMetrics (afterFlows s c) c.containerMetrics).2 = none

theorem analyze_of_raises (h : AnalysisRaises s c) : (analyze threshold s c).2 = .raised := by
  unfold AnalysisRaises afterFlows at h
  unfold analyze
  rcases hf : analyzeFlows s c.flowEvents with ⟨s', _ | flow⟩
  · rfl
  · rw [hf] at h
    rcases hm : analyzeContainerMetrics s' c.containerMetrics with ⟨s'', _ | container⟩
    · simp only [hm]
    · rw [hm] at h
      rcases h with h | h <;> cases h

theorem analyze_of_not_raises (threshold : Nat) (h : ¬ AnalysisRaises s c) :
    ∃ flow container, (analyze threshold s c).2 = .returned (buildFinding c threshold flow container) ∧
      flow.score + container.1.score = totalScore (callTriggers s c) ∧ container.2 = containerAbuse s c := by
  unfold AnalysisRaises at h
  rcases hf : analyzeFlows s c.flowEvents with ⟨s', _ | flow⟩
  · exact absurd (.inl (by rw [hf])) h
  · have hs' : afterFlows s c = s' := by rw [afterFlows, hf]
    rcases hm : analyzeContainerMetrics s' c.containerMetrics with ⟨s'', _ | container⟩
    · exact absurd (.inr (by rw [hs', hm])) h
    · have hflow := analyzeFlows_spec hf
      have hcontainer := analyzeContainerMetrics_spec hm
      refine ⟨flow, container, ?_, ?_, ?_⟩
      · rw [analyze, hf]
        simp only [hm]
      · rw [callTriggers, totalScore_append, hs', hflow.score, hcontainer.acc.score]
        simp
      · rw [containerAbuse, hs', hcontainer.abuse, Bool.false_or]

/-! ### The most frequent source -/

/-- The flow's `source_ip` is this address. -/
def Flow.Names (f : Flow R) (ip : String) : Prop := f.sourceIP = some (some ip) ∧ ip ≠ ""

instance (f : Flow R) (ip : String) : Decidable (f.Names ip) := inferInstanceAs (Decidable (_ ∧ _))

def flowCount (flows : List (Flow R)) (ip : String) : Nat := flows.countP fun f => f.Names ip

/-- No source has more flows, and none with as many comes before. -/
def MostFlows (flows : List (Flow R)) (ip : String) : Prop :=
  (∀ ip', flowCount flows ip' ≤ flowCount flows ip) ∧
    ∃ past f rest, flows = past ++ f :: rest ∧ f.Names ip ∧
      ∀ g ∈ past, ∀ ip', g.Names ip' → flowCount flows ip' < flowCount flows ip

/-- The address of the first container, where no flow has one. -/
def containerTarget (metrics : List (ContainerMetric R)) : HostId :=
  match metrics with
  | m :: _ => m.containerID.getD (some "unknown-container")
  | [] => some "unknown"

/-- The address is that of the source with the most flows or, where no flow names one, that of the first
container. -/
def Foremost (c : Call R) (k : HostId) : Prop :=
  (∃ ip, k = some ip ∧ MostFlows c.flowEvents ip) ∨
    (∀ f ∈ c.flowEvents, ∀ ip, ¬ f.Names ip) ∧ k = containerTarget c.containerMetrics

omit [PyNum R] in
theorem truthy_eq_some_iff {f : Flow R} {ip : String} :
    Text.truthy (f.sourceIP.getD (some "")) = some ip ↔ f.Names ip := by
  constructor
  · intro h
    have hne := Text.ne_empty_of_truthy h
    refine ⟨?_, hne⟩
    have hsource := Text.truthy_eq_some h
    cases hip : f.sourceIP with
    | none =>
      rw [hip] at hsource
      cases hsource
      exact absurd rfl hne
    | some source =>
      rw [hip] at hsource
      exact congrArg some hsource
  · rintro ⟨hip, hne⟩
    rw [hip]
    exact Text.truthy_some hne

omit [PyNum R] in
theorem Flow.Names.eq {f : Flow R} {ip ip' : String} (h : f.Names ip) (h' : f.Names ip') : ip = ip' :=
  Option.some.inj (Option.some.inj (h.1.symm.trans h'.1))

omit [PyNum R] in
theorem sourceCounts_concat (flows : List (Flow R)) (f : Flow R) :
    sourceCounts (flows ++ [f]) = match Text.truthy (f.sourceIP.getD (some "")) with
      | some ip => KeyedStore.put ip (((sourceCounts flows).lookup ip).getD 0 + 1) (sourceCounts flows)
      | none => sourceCounts flows :=
  List.foldl_concat ..

omit [PyNum R] in
theorem flowCount_concat (flows : List (Flow R)) (f : Flow R) (ip : String) :
    flowCount (flows ++ [f]) ip = flowCount flows ip + if f.Names ip then 1 else 0 := by
  simp [flowCount, List.countP_append, List.countP_cons]

omit [PyNum R] in
theorem lookup_sourceCounts (flows : List (Flow R)) (ip : String) :
    (sourceCounts flows).lookup ip = if flowCount flows ip = 0 then none else some (flowCount flows ip) := by
  induction flows using List.reverseRecOn with
  | nil => rfl
  | append_singleton flows f ih =>
    rw [sourceCounts_concat, flowCount_concat]
    cases hf : Text.truthy (f.sourceIP.getD (some "")) with
    | none =>
      have hnot : ¬ f.Names ip := fun h => by cases hf.symm.trans (truthy_eq_some_iff.mpr h)
      rw [if_neg hnot, add_zero]
      exact ih
    | some ip' =>
      have hnames := truthy_eq_some_iff.mp hf
      rw [KeyedStore.lookup_put]
      by_cases hip : ip = ip'
      · subst hip
        rw [if_pos rfl, if_pos hnames, if_neg (Nat.succ_ne_zero _), ih]
        split <;> simp_all
      · have hnot : ¬ f.Names ip := fun h => hip (h.eq hnames)
        rw [if_neg hip, if_neg hnot, add_zero]
        exact ih

omit [PyNum R] in
theorem mem_keys_sourceCounts {flows : List (Flow R)} {f : Flow R} {ip : String} (hf : f ∈ flows)
    (h : f.Names ip) : ip ∈ (sourceCounts flows).map Prod.fst := by
  induction flows using List.reverseRecOn with
  | nil => cases hf
  | append_singleton flows g ih =>
    rw [sourceCounts_concat]
    rcases List.mem_append.mp hf with hf | hf
    · have hmem := ih hf
      cases Text.truthy (g.sourceIP.getD (some "")) with
      | none => exact hmem
      | some ip' =>
        dsimp only
        rw [KeyedStore.keys_put]
        split
        · exact hmem
        · exact List.mem_append_left _ hmem
    · cases List.mem_singleton.mp hf
      rw [truthy_eq_some_iff.mpr h, KeyedStore.keys_put]
      split
      · assumption
      · exact List.mem_append_right _ List.mem_cons_self

omit [PyNum R] in
/-- The sources are counted in the order in which they come. -/
theorem exists_first {flows : List (Flow R)} {ips ips' : List String} {ip : String}
    (h : (sourceCounts flows).map Prod.fst = ips ++ ip :: ips') :
    ∃ past f rest, flows = past ++ f :: rest ∧ f.Names ip ∧ ∀ g ∈ past, ∀ ip', g.Names ip' → ip' ∈ ips := by
  induction flows using List.reverseRecOn generalizing ips ips' with
  | nil => cases ips <;> cases h
  | append_singleton flows f ih =>
    have hearlier {ips₀ ips₁ : List String} (h₀ : (sourceCounts flows).map Prod.fst = ips₀ ++ ip :: ips₁) :
        ∃ past g rest, flows ++ [f] = past ++ g :: rest ∧ g.Names ip ∧
          ∀ g' ∈ past, ∀ ip', g'.Names ip' → ip' ∈ ips₀ := by
      obtain ⟨past, g, rest, hflows, hg, hpast⟩ := ih h₀
      exact ⟨past, g, rest ++ [f], by rw [hflows, List.append_assoc, List.cons_append], hg, hpast⟩
    rw [sourceCounts_concat] at h
    cases hf : Text.truthy (f.sourceIP.getD (some "")) with
    | none =>
      rw [hf] at h
      exact hearlier h
    | some ip₀ =>
      rw [hf] at h
      dsimp only at h
      rw [KeyedStore.keys_put] at h
      split at h
      · exact hearlier h
      · rcases List.eq_nil_or_concat ips' with rfl | ⟨ips₁, last, rfl⟩
        · obtain ⟨rfl, hip⟩ := List.append_inj' h rfl
          cases hip
          exact ⟨flows, f, [], rfl, truthy_eq_some_iff.mp hf, fun g hg ip' hip' => mem_keys_sourceCounts hg hip'⟩
        · have hends : (sourceCounts flows).map Prod.fst ++ [ip₀] = (ips ++ ip :: ips₁) ++ [last] := by
            simpa using h
          exact hearlier (List.append_inj_left' hends rfl)

omit [PyNum R] in
theorem mostFrequent_eq_none {counts : List (String × Nat)} (h : mostFrequent counts = none) : counts = [] := by
  cases counts with
  | nil => rfl
  | cons x counts =>
    rw [mostFrequent] at h
    split at h
    · split at h <;> cases h
    · cases h

omit [PyNum R] in
theorem mostFrequent_eq_some {counts : List (String × Nat)} {x : String × Nat} (h : mostFrequent counts = some x) :
    ∃ past rest, counts = past ++ x :: rest ∧ (∀ y ∈ past, y.2 < x.2) ∧ ∀ y ∈ rest, y.2 ≤ x.2 := by
  induction counts generalizing x with
  | nil => cases h
  | cons z counts ih =>
    rw [mostFrequent] at h
    cases hrest : mostFrequent counts with
    | none =>
      rw [hrest] at h
      cases h
      exact ⟨[], counts, rfl, by simp, by simp [mostFrequent_eq_none hrest]⟩
    | some y =>
      obtain ⟨past, rest, rfl, hpast, hrest'⟩ := ih hrest
      rw [hrest] at h
      dsimp only at h
      split at h
      · rename_i hlt
        cases h
        exact ⟨z :: past, rest, rfl, List.forall_mem_cons.mpr ⟨hlt, hpast⟩, hrest'⟩
      · rename_i hle
        cases h
        refine ⟨[], past ++ y :: rest, rfl, by simp, fun w hw => ?_⟩
        have hy : y.2 ≤ z.2 := Nat.le_of_not_lt hle
        rcases List.mem_append.mp hw with hw | hw
        · exact (hpast w hw).le.trans hy
        · rcases List.mem_cons.mp hw with rfl | hw
          · exact hy
          · exact (hrest' w hw).trans hy

omit [PyNum R] in
theorem MostFlows.unique {flows : List (Flow R)} {ip ip' : String} (h : MostFlows flows ip)
    (h' : MostFlows flows ip') : ip = ip' := by
  obtain ⟨hmax, past, f, rest, hflows, hf, hpast⟩ := h
  obtain ⟨hmax', past', f', rest', hflows', hf', hpast'⟩ := h'
  rcases List.append_eq_append_iff.mp (hflows.symm.trans hflows') with ⟨gap, hgap, hrest⟩ | ⟨gap, hgap, hrest⟩
  · cases gap with
    | nil =>
      cases hrest
      exact hf.eq hf'
    | cons g gap =>
      cases hrest
      have hmem : f ∈ past' := by simp [hgap]
      exact absurd (hmax ip') (Nat.not_le.mpr (hpast' f hmem ip hf))
  · cases gap with
    | nil =>
      cases hrest
      exact hf.eq hf'
    | cons g gap =>
      cases hrest
      have hmem : f' ∈ past := by simp [hgap]
      exact absurd (hmax' ip) (Nat.not_le.mpr (hpast f' hmem ip' hf'))

omit [PyNum R] in
theorem nodup_keys_sourceCounts (flows : List (Flow R)) : ((sourceCounts flows).map Prod.fst).Nodup := by
  induction flows using List.reverseRecOn with
  | nil => exact List.nodup_nil
  | append_singleton flows f ih =>
    rw [sourceCounts_concat]
    cases Text.truthy (f.sourceIP.getD (some "")) with
    | none => exact ih
    | some ip => exact KeyedStore.nodup_keys_put ih

omit [PyNum R] in
theorem mem_sourceCounts_iff {flows : List (Flow R)} {ip : String} {n : Nat} :
    (ip, n) ∈ sourceCounts flows ↔ 0 < n ∧ n = flowCount flows ip := by
  rw [KeyedStore.mem_iff_lookup (nodup_keys_sourceCounts flows), lookup_sourceCounts]
  split
  · rename_i hzero
    exact iff_of_false (fun h => by cases h) fun ⟨hpos, hn⟩ => by omega
  · rename_i hne
    rw [Option.some_inj]
    omega

omit [PyNum R] in
theorem mostFlows_of_mostFrequent {flows : List (Flow R)} {x : String × Nat}
    (h : mostFrequent (sourceCounts flows) = some x) : MostFlows flows x.1 := by
  obtain ⟨ip, n⟩ := x
  obtain ⟨before, after, hcounts, hbefore, hafter⟩ := mostFrequent_eq_some h
  have hmem {ip' : String} {n' : Nat} : (ip', n') ∈ before ++ (ip, n) :: after ↔ 0 < n' ∧ n' = flowCount flows ip' := by
    rw [← hcounts]
    exact mem_sourceCounts_iff
  obtain ⟨-, hn⟩ := hmem.mp (List.mem_append_right _ List.mem_cons_self)
  refine ⟨fun ip' => ?_, ?_⟩
  · rcases Nat.eq_zero_or_pos (flowCount flows ip') with hzero | hpos
    · omega
    · rcases List.mem_append.mp (hmem.mpr ⟨hpos, rfl⟩) with hip' | hip'
      · exact (hbefore _ hip').le.trans hn.le
      · rcases List.mem_cons.mp hip' with heq | hip'
        · cases heq
          exact le_rfl
        · exact (hafter _ hip').trans hn.le
  · have hkeys : (sourceCounts flows).map Prod.fst = before.map Prod.fst ++ ip :: after.map Prod.fst := by
      rw [hcounts, List.map_append, List.map_cons]
    obtain ⟨past, f, rest, hflows, hf, hpast⟩ := exists_first hkeys
    refine ⟨past, f, rest, hflows, hf, fun g hg ip' hip' => ?_⟩
    obtain ⟨⟨_, n'⟩, hn', rfl⟩ := List.mem_map.mp (hpast g hg ip' hip')
    obtain ⟨-, hcount⟩ := hmem.mp (List.mem_append_left _ hn')
    have hlt := hbefore _ hn'
    dsimp only at hlt ⊢
    omega

omit [PyNum R] in
theorem foremost_primarySource (c : Call R) : Foremost c (primarySource c.flowEvents c.containerMetrics) := by
  unfold primarySource
  cases hmost : mostFrequent (sourceCounts c.flowEvents) with
  | none =>
    refine .inr ⟨fun f hf ip hip => ?_, rfl⟩
    have hmem := mem_keys_sourceCounts hf hip
    rw [mostFrequent_eq_none hmost] at hmem
    cases hmem
  | some x => exact .inl ⟨x.1, rfl, mostFlows_of_mostFrequent hmost⟩

omit [PyNum R] in
theorem Foremost.unique {k k' : HostId} (h : Foremost c k) (h' : Foremost c k') : k = k' := by
  have hnames {ip : String} (hip : MostFlows c.flowEvents ip) : ∃ f ∈ c.flowEvents, f.Names ip := by
    obtain ⟨-, past, f, rest, hflows, hf, -⟩ := hip
    exact ⟨f, by simp [hflows], hf⟩
  rcases h with ⟨ip, rfl, hip⟩ | ⟨hnone, hk⟩
  · rcases h' with ⟨ip', rfl, hip'⟩ | ⟨hnone', -⟩
    · rw [hip.unique hip']
    · obtain ⟨f, hf, hfip⟩ := hnames hip
      exact absurd hfip (hnone' f hf ip)
  · rcases h' with ⟨ip', -, hip'⟩ | ⟨-, hk'⟩
    · obtain ⟨f, hf, hfip⟩ := hnames hip'
      exact absurd hfip (hnone f hf ip')
    · rw [hk, hk']

omit [PyNum R] in
/-- What `_primary_source` answers, by counts of the flows. -/
theorem primarySource_eq_iff {k : HostId} : primarySource c.flowEvents c.containerMetrics = k ↔ Foremost c k :=
  ⟨fun h => h ▸ foremost_primarySource c, fun h => (foremost_primarySource c).unique h⟩

/-! ### Calls that answer -/

/-- Some number of the call does not convert. -/
def Unreadable (c : Call R) : Prop :=
  (∃ f ∈ c.flowEvents, ¬ f.Readable) ∨ ∃ m ∈ c.containerMetrics, ¬ m.Readable

/-- A sum of the call, or the score or the update of a baseline by it, overflows. -/
def Overflows (s : Baselines R) (c : Call R) : Prop :=
  (∃ f ∈ c.flowEvents, ∀ pps, ppsSum c.flowEvents f.source = some pps →
      ¬ HostFits (s f.source) pps (bytesSum c.flowEvents f.source)) ∨
    ∃ m ∈ c.containerMetrics, ¬ ContainerFits (afterFlows s c m.id) (ppsPeak c.containerMetrics m.id)

theorem analysisRaises_iff : AnalysisRaises s c ↔ Unreadable c ∨ Overflows s c := by
  rw [AnalysisRaises, analyzeFlows_eq_none_iff, analyzeContainerMetrics_eq_none_iff, Unreadable, Overflows]
  exact or_or_or_comm

/-- A container is restarted or killed too often. -/
def Abused (metrics : List (ContainerMetric R)) : Prop :=
  ∃ m ∈ metrics, containerRestartStorm ≤ eventCount metrics m.id "restart" ∨
    containerOomThreshold ≤ eventCount metrics m.id "oom"

/-! ### The target -/

theorem aimedAtCulprit_buildFinding {flow : Acc R} {container : ContainerAcc R} :
    AimedAtCulprit s c (.returned (buildFinding c threshold flow container)) ↔
      flow.score + container.1.score < threshold ∨
        if container.2 then ContainerCulprit s c (primarySource c.flowEvents c.containerMetrics)
        else flow.score + container.1.score < 70 ∨
          FlowCulprit s c (primarySource c.flowEvents c.containerMetrics) := by
  unfold buildFinding
  split
  · rename_i hlow
    exact iff_of_true trivial (.inl hlow)
  · rename_i hlow
    rw [or_iff_right hlow]
    cases container.2 with
    | true => simp [AimedAtCulprit, recommendedAction]
    | false =>
      have hmin : 70 ≤ min (flow.score + container.1.score) 100 ↔ ¬ flow.score + container.1.score < 70 := by
        omega
      by_cases hscore : flow.score + container.1.score < 70
      · simp [AimedAtCulprit, recommendedAction, hmin, hscore]
      · simp [AimedAtCulprit, recommendedAction, hmin, hscore]

/-- The containment a call recommends is aimed at a culprit exactly if the call raises an exception
or stays below the threshold, or the source with the most flows raised a trigger, whichever host the
triggers came from: as a container where one is abused, as a source of flows at an isolation. -/
theorem aimedAtCulprit_iff (threshold : Nat) (s : Baselines R) (c : Call R) :
    AimedAtCulprit s c (analyze threshold s c).2 ↔
      Unreadable c ∨ Overflows s c ∨ totalScore (callTriggers s c) < threshold ∨
        (Abused c.containerMetrics ∧ ∀ k, Foremost c k → ContainerCulprit s c k) ∨
        (¬ Abused c.containerMetrics ∧
          (totalScore (callTriggers s c) < 70 ∨ ∀ k, Foremost c k → FlowCulprit s c k)) := by
  rw [← or_assoc, ← analysisRaises_iff]
  by_cases hr : AnalysisRaises s c
  · rw [analyze_of_raises hr]
    exact iff_of_true trivial (.inl hr)
  · have hread : ∀ m ∈ c.containerMetrics, m.Readable := by
      intro m hm
      by_contra hunread
      exact hr (analysisRaises_iff.mpr (.inl (.inr ⟨m, hm, hunread⟩)))
    have habused : containerAbuse s c = true ↔ Abused c.containerMetrics := any_isAbuse_metricTriggers hread
    have hforemost (P : HostId → Prop) :
        P (primarySource c.flowEvents c.containerMetrics) ↔ ∀ k, Foremost c k → P k := by
      simp only [← primarySource_eq_iff, forall_eq']
    obtain ⟨flow, container, hres, hscore, habuse⟩ := analyze_of_not_raises threshold hr
    rw [hres, aimedAtCulprit_buildFinding, hscore, habuse, or_iff_right hr, hforemost (ContainerCulprit s c),
      hforemost (FlowCulprit s c)]
    refine or_congr_right ?_
    by_cases ha : Abused c.containerMetrics
    · rw [if_pos (habused.mpr ha)]
      simp [ha]
    · rw [if_neg (mt habused.mp ha)]
      simp [ha]

/-- Container `web` dies and restarts while `10.0.0.7` has one small flow: the throttle is aimed at
`10.0.0.7`. -/
def abuseCall : Call Rat :=
  { flowEvents := [{ sourceIP := some (some "10.0.0.7"), bytesOut := .int 100, ppsTx := .int 1 }]
    containerMetrics :=
      List.replicate 5 { containerID := some (some "web"), lifecycleEvent := some "restart" } ++
        List.replicate 2 { containerID := some (some "web"), lifecycleEvent := some "oom" } }

theorem throttle_aimed_at_flow_source :
    ¬ ∀ (R : Type) [PyNum R] (s : Baselines R) (c : Call R), AimedAtCulprit s c (analyze scoreThreshold s c).2 :=
  fun h => absurd (h Rat freshBaselines abuseCall) (by decide +kernel)

end DDoS
end SocFabric
