import Mathlib.Data.Multiset.FinsetOps
import SocFabric.DDoSSustained

/-!
# The order of the events

Both analyses of the DDoS detector group their events and add up each group, by sums, maxima and
sets. Over exact arithmetic neither the sums nor what is made of them depend on the order of the
events: the score, the triggers up to their order and the baselines are the same for every
arrangement (`analyses_order_independent`).
-/

namespace SocFabric
namespace DDoS

section
variable [PyNum ℝ] [ExactReal]

/-! ### Sums of flows -/

/-- What the checks look at, with the destinations as a multiset. -/
structure HostSum where
  bytesOut : Int
  ppsTx : ℝ
  uniqueDsts : Multiset String
  flowCount : Nat

omit [PyNum ℝ] [ExactReal] in
def HostAgg.sum (h : HostAgg ℝ) : HostSum := ⟨h.bytesOut, h.ppsTx, h.uniqueDsts, h.flowCount⟩

/-- The numbers and the destination of a flow, unless a conversion raises. -/
structure FlowItem where
  bytes : Int
  pps : ℝ
  dst : Option HostId

def readFlow (f : Flow ℝ) : Option FlowItem := do
  return ⟨← f.bytesOut.toInt, ← f.ppsTx.toFloat, f.destinationIP⟩

def insertDst (dst : Option HostId) (dsts : Multiset String) : Multiset String :=
  match Text.truthy (dst.getD (some "")) with
  | some d => dsts.ndinsert d
  | none => dsts

noncomputable def addItem (i : FlowItem) (p : Option HostSum) : HostSum :=
  let h := p.getD ⟨0, 0, 0, 0⟩
  ⟨h.bytesOut + i.bytes, h.ppsTx + i.pps, insertDst i.dst h.uniqueDsts, h.flowCount + 1⟩

omit [PyNum ℝ] [ExactReal] in
theorem coe_addDst (dst : Option HostId) (dsts : List String) :
    ((addDst dst dsts : List String) : Multiset String) = insertDst dst dsts := by
  unfold addDst insertDst
  cases Text.truthy (dst.getD (some "")) with
  | none => rfl
  | some d =>
    dsimp only
    split
    · rename_i hd
      exact (Multiset.ndinsert_of_mem (Multiset.mem_coe.mpr hd)).symm
    · rename_i hd
      rw [Multiset.ndinsert_of_notMem (mt Multiset.mem_coe.mp hd), Multiset.cons_coe,
        Multiset.coe_eq_coe]
      exact List.perm_append_singleton d dsts

omit [PyNum ℝ] [ExactReal] in
theorem ndinsert_comm (a b : String) (s : Multiset String) :
    (s.ndinsert a).ndinsert b = (s.ndinsert b).ndinsert a := by
  by_cases hab : a = b
  · rw [hab]
  · by_cases ha : a ∈ s <;> by_cases hb : b ∈ s <;>
      simp [ha, hb, hab, Ne.symm hab, Multiset.cons_swap]

omit [PyNum ℝ] [ExactReal] in
theorem insertDst_comm (dst dst' : Option HostId) (s : Multiset String) :
    insertDst dst (insertDst dst' s) = insertDst dst' (insertDst dst s) := by
  unfold insertDst
  cases Text.truthy (dst.getD (some "")) <;> cases Text.truthy (dst'.getD (some ""))
  · rfl
  · rfl
  · rfl
  · exact ndinsert_comm ..

theorem summarizes_aggregateFlow :
    KeyedStore.Summarizes Flow.source readFlow HostAgg.sum addItem (aggregateFlow (R := ℝ)) where
  stop := by
    intro d f hf
    cases hb : f.bytesOut.toInt with
    | none => simp [aggregateFlow, hb]
    | some bytes =>
      cases hp : f.ppsTx.toFloat with
      | none => simp [aggregateFlow, hb, hp]
      | some pps => simp [readFlow, hb, hp] at hf
  collect := by
    intro d f i hf
    obtain ⟨bytes, hb, hf⟩ := Option.bind_eq_some_iff.mp hf
    obtain ⟨pps, hp, hf⟩ := Option.bind_eq_some_iff.mp hf
    cases hf
    have hlookup := lookup_instBEq f.source d
    refine ⟨_, by simp only [aggregateFlow, hb, hp, ExactReal.add, Option.bind_eq_bind,
      Option.bind_some]; rfl, ?_⟩
    rw [hlookup]
    cases d.lookup f.source with
    | none => simp [HostAgg.sum, addItem, coe_addDst, ExactReal.lit]
    | some g => simp [HostAgg.sum, addItem, coe_addDst]
  comm := by
    intro i j p
    simp only [addItem, Option.getD_some, HostSum.mk.injEq, and_true]
    exact ⟨by ring, by ring, insertDst_comm ..⟩

/-! ### Sums of container metrics -/

/-- The aggregate without the name, which is that of the last metric. -/
structure ContainerSum where
  restarts : Nat
  ooms : Nat
  ppsTx : ℝ
  uniqueDstCount : Int

def ContainerAgg.sum (c : ContainerAgg ℝ) : ContainerSum :=
  ⟨c.restarts, c.ooms, c.ppsTx, c.uniqueDstCount⟩

structure MetricItem where
  event : String
  pps : ℝ
  dsts : Int

def readMetric (m : ContainerMetric ℝ) : Option MetricItem := do
  return ⟨m.event, ← m.ppsTx.toFloat, ← m.uniqueDstCount.toInt⟩

noncomputable def addMetric (i : MetricItem) (p : Option ContainerSum) : ContainerSum :=
  let c := p.getD ⟨0, 0, 0, 0⟩
  { restarts := c.restarts + if i.event = "restart" then 1 else 0
    ooms := c.ooms + if i.event = "oom" then 1 else 0
    ppsTx := max c.ppsTx i.pps
    uniqueDstCount := max c.uniqueDstCount i.dsts }

theorem ite_lt_eq_max (x y : ℝ) : (if PyNum.lt x y then y else x) = max x y := by
  split
  · rename_i h
    exact (max_eq_right ((ExactReal.lt x y).mp h).le).symm
  · rename_i h
    exact (max_eq_left (not_lt.mp fun hlt => h ((ExactReal.lt x y).mpr hlt))).symm

theorem summarizes_aggregateMetric :
    KeyedStore.Summarizes ContainerMetric.id readMetric ContainerAgg.sum addMetric
      (aggregateMetric (R := ℝ)) where
  stop := by
    intro d m hm
    cases hp : m.ppsTx.toFloat with
    | none => simp [aggregateMetric, hp]
    | some pps =>
      cases hd : m.uniqueDstCount.toInt with
      | none => simp [aggregateMetric, hp, hd]
      | some dsts => simp [readMetric, hp, hd] at hm
  collect := by
    intro d m i hm
    obtain ⟨pps, hp, hm⟩ := Option.bind_eq_some_iff.mp hm
    obtain ⟨dsts, hd, hm⟩ := Option.bind_eq_some_iff.mp hm
    cases hm
    have hlookup := lookup_instBEq m.id d
    refine ⟨_, by simp only [aggregateMetric, hp, hd, Option.bind_eq_bind, Option.bind_some]; rfl,
      ?_⟩
    rw [hlookup]
    cases d.lookup m.id with
    | none => simp [ContainerAgg.sum, addMetric, ite_lt_eq_max, ExactReal.lit]
    | some g =>
      simp only [ContainerAgg.sum, addMetric, ite_lt_eq_max, Option.getD_some, Option.map_some,
        ContainerSum.mk.injEq, and_true]
      exact ⟨by split <;> rfl, by split <;> rfl⟩
  comm := by
    intro i j p
    simp only [addMetric, Option.getD_some, ContainerSum.mk.injEq]
    exact ⟨by omega, by omega, max_right_comm .., max_right_comm ..⟩

/-! ### What is made of the sums -/

noncomputable def HostSum.triggers (b : HostBaselines ℝ) (p : HostSum) : List Trigger :=
  hostTriggers b ⟨p.bytesOut, p.ppsTx, p.uniqueDsts.toList, p.flowCount⟩

omit [ExactReal] in
theorem hostTriggers_eq (b : HostBaselines ℝ) (h : HostAgg ℝ) :
    hostTriggers b h = h.sum.triggers b := by
  unfold HostSum.triggers HostAgg.sum hostTriggers
  simp only [Multiset.length_toList, Multiset.coe_card]

def ContainerSum.triggers (b : HostBaselines ℝ) (p : ContainerSum) : List Trigger :=
  containerTriggers b ⟨p.restarts, p.ooms, p.ppsTx, p.uniqueDstCount, none⟩

omit [PyNum ℝ] [ExactReal] in
theorem totalScore_perm {ts ts' : List Trigger} (h : ts.Perm ts') :
    totalScore ts = totalScore ts' :=
  (h.map Trigger.score).sum_eq

/-- The same score and the same triggers up to their order. -/
def Acc.Same (a a' : Acc ℝ) : Prop :=
  a.score = a'.score ∧ a.evidence.triggers.Perm a'.evidence.triggers

omit [PyNum ℝ] [ExactReal] in
theorem Acc.Same.of_perm {a a' : Acc ℝ} {ts ts' : List Trigger} (ha : Acc.Raises {} ts a)
    (ha' : Acc.Raises {} ts' a')
    (h : a.evidence.triggers.Perm a'.evidence.triggers) : a.Same a' := by
  refine ⟨?_, h⟩
  have hts : a.evidence.triggers = ts := ha.triggers
  have hts' : a'.evidence.triggers = ts' := ha'.triggers
  rw [ha.score, ha'.score, ← hts, ← hts', totalScore_perm h]

/-- How an analysis ends: its answer, unless it raises, and the baselines it leaves. -/
structure SameEnd {A : Type} (same : A → A → Prop) (r r' : Baselines ℝ × Option A) : Prop where
  baselines : r.1 = r'.1
  answer : Option.Rel same r.2 r'.2

theorem analyzeFlows_perm {s : Baselines ℝ} (hs : AllValid s) {flows flows' : List (Flow ℝ)}
    (hp : flows.Perm flows') :
    SameEnd Acc.Same (analyzeFlows s flows) (analyzeFlows s flows') := by
  obtain ⟨hbaselines, hanswer⟩ := summarizes_aggregateFlow.groupLoop_perm ({} : Acc ℝ)
    (fun y b =>
      (updateBaseline b [("pps_tx", y.2.ppsTx), ("bytes_out", PyNum.ofInt y.2.bytesOut)]).1)
    (fun a : Acc ℝ => a.evidence.triggers) (fun y b => y.2.triggers b) (fun h => analyzeHost_fst h)
    (fun h => (analyzeHost_raises h).triggers.trans (by rw [hostTriggers_eq]))
    (fun _ => (KeyedStore.loop_total analyzeHost_total hs).2) hp
  refine ⟨hbaselines, ?_⟩
  rw [← analyzeFlows, ← analyzeFlows] at hanswer
  rcases hf : analyzeFlows s flows with ⟨t, o⟩
  rcases hf' : analyzeFlows s flows' with ⟨t', o'⟩
  rw [hf, hf'] at hanswer
  cases hanswer with
  | none => exact .none
  | some hperm => exact .some (.of_perm (analyzeFlows_spec hf) (analyzeFlows_spec hf') hperm)

/-- The container analysis also answers whether it found abuse. -/
def ContainerAcc.Same (a a' : ContainerAcc ℝ) : Prop := a.1.Same a'.1 ∧ a.2 = a'.2

omit [PyNum ℝ] [ExactReal] in
theorem ContainerAcc.Same.of_perm {a a' : ContainerAcc ℝ} {ts ts' : List Trigger}
    (ha : ContainerAcc.Raises ({}, false) ts a) (ha' : ContainerAcc.Raises ({}, false) ts' a')
    (h : a.1.evidence.triggers.Perm a'.1.evidence.triggers) : ContainerAcc.Same a a' := by
  refine ⟨.of_perm ha.acc ha'.acc h, ?_⟩
  have hts : a.1.evidence.triggers = ts := ha.acc.triggers
  have hts' : a'.1.evidence.triggers = ts' := ha'.acc.triggers
  rw [ha.abuse, ha'.abuse, ← hts, ← hts', h.any_eq]

theorem analyzeContainerMetrics_perm {s : Baselines ℝ} (hs : AllValid s)
    {metrics metrics' : List (ContainerMetric ℝ)} (hp : metrics.Perm metrics') :
    SameEnd ContainerAcc.Same (analyzeContainerMetrics s metrics)
      (analyzeContainerMetrics s metrics') := by
  obtain ⟨hbaselines, hanswer⟩ := summarizes_aggregateMetric.groupLoop_perm
    (({}, false) : ContainerAcc ℝ) (fun y b => (updateBaseline b [("pps_tx", y.2.ppsTx)]).1)
    (fun a : ContainerAcc ℝ => a.1.evidence.triggers) (fun y b => y.2.triggers b)
    (fun h => analyzeContainer_fst h) (fun h => (analyzeContainer_raises h).acc.triggers)
    (fun _ => (KeyedStore.loop_total analyzeContainer_total hs).2) hp
  refine ⟨hbaselines, ?_⟩
  rw [← analyzeContainerMetrics, ← analyzeContainerMetrics] at hanswer
  rcases hm : analyzeContainerMetrics s metrics with ⟨t, o⟩
  rcases hm' : analyzeContainerMetrics s metrics' with ⟨t', o'⟩
  rw [hm, hm'] at hanswer
  cases hanswer with
  | none => exact .none
  | some hperm =>
    exact .some (.of_perm (analyzeContainerMetrics_spec hm)
      (analyzeContainerMetrics_spec hm') hperm)

/-- In every state that the detector reaches, both analyses end alike for every arrangement of their
events. -/
theorem analyses_order_independent (threshold : Nat) (s : Baselines ℝ)
    (hs : Reachable threshold s) :
    (∀ flows flows' : List (Flow ℝ), flows.Perm flows' →
      SameEnd Acc.Same (analyzeFlows s flows) (analyzeFlows s flows')) ∧
    ∀ metrics metrics' : List (ContainerMetric ℝ), metrics.Perm metrics' →
      SameEnd ContainerAcc.Same (analyzeContainerMetrics s metrics)
        (analyzeContainerMetrics s metrics') :=
  ⟨fun _ _ hp => analyzeFlows_perm hs.allValid hp,
    fun _ _ hp => analyzeContainerMetrics_perm hs.allValid hp⟩

end

/-- Two flows of one host, in either order. -/
theorem swapped_flows_same_end :
    SameEnd Acc.Same
      (analyzeFlows quietState
        (floodCall.flowEvents ++ [{ sourceIP := some (some "10.0.0.7"), bytesOut := .int 7 }]))
      (analyzeFlows quietState
        ({ sourceIP := some (some "10.0.0.7"), bytesOut := .int 7 } :: floodCall.flowEvents)) :=
  (analyses_order_independent scoreThreshold quietState (reachable_quietState _)).1 _ _
    (List.perm_append_singleton ..)

end DDoS
end SocFabric
