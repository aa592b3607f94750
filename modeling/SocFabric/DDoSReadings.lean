import SocFabric.DDoSTriggers

/-!
# When an analysis raises

The two analyses raise where a field does not convert to a number (`Unreadable`), or where a sum, a
score or an update of a baseline overflows (`Overflows`), and nowhere else
(`analyzeFlows_eq_none_iff`, `analyzeContainerMetrics_eq_none_iff`). Both are said of the events of
a source or container: its flows add up to `ppsSum` and `bytesSum`, its metrics peak at `ppsPeak`.
-/

namespace SocFabric
namespace DDoS

variable {R : Type} [PyNum R]

/-! ### Fields -/

/-- `int(bytes_out or 0)` and `float(pps_tx or 0)` answer. -/
def Flow.Readable (f : Flow R) : Prop := f.bytesOut.toInt.isSome = true ∧ f.ppsTx.toFloat.isSome = true

def ContainerMetric.Readable (m : ContainerMetric R) : Prop :=
  m.ppsTx.toFloat.isSome = true ∧ m.uniqueDstCount.toInt.isSome = true

instance (f : Flow R) : Decidable f.Readable := inferInstanceAs (Decidable (_ ∧ _))

instance (m : ContainerMetric R) : Decidable m.Readable := inferInstanceAs (Decidable (_ ∧ _))

def Flow.bytes (f : Flow R) : Int := f.bytesOut.toInt.getD 0

def Flow.pps (f : Flow R) : R := f.ppsTx.toFloat.getD (PyNum.lit 0)

def ContainerMetric.pps (m : ContainerMetric R) : R := m.ppsTx.toFloat.getD (PyNum.lit 0)

/-! ### The flows of a source -/

def bytesSum (flows : List (Flow R)) (k : HostId) : Int := ((flows.filter (·.source = k)).map Flow.bytes).sum

/-- The packets per second of a source, unless the sum overflows. -/
def ppsSum (flows : List (Flow R)) (k : HostId) : Option R :=
  (flows.filter (·.source = k)).foldlM (fun x f => PyNum.add x f.pps) (PyNum.lit 0)

def HostAgg.empty : HostAgg R := { ppsTx := PyNum.lit 0 }

def HostAgg.addFlow (h : Option (HostAgg R)) (f : Flow R) : Option (HostAgg R) := do
  let host := h.getD .empty
  let bytes ← f.bytesOut.toInt
  let pps ← PyNum.add host.ppsTx (← f.ppsTx.toFloat)
  return ⟨host.bytesOut + bytes, pps, addDst f.destinationIP host.uniqueDsts, host.flowCount + 1⟩

theorem rewritesCell_aggregateFlow :
    KeyedStore.RewritesCell (Flow.source (R := R)) HostAgg.addFlow aggregateFlow := by
  intro d f
  rw [lookup_instBEq]
  unfold aggregateFlow HostAgg.addFlow HostAgg.empty
  cases f.bytesOut.toInt with
  | none => rfl
  | some bytes =>
    cases f.ppsTx.toFloat with
    | none => rfl
    | some x => cases hadd : PyNum.add ((d.lookup f.source).getD { ppsTx := PyNum.lit 0 }).ppsTx x <;> simp [hadd]

theorem addFlow_of_readable {f : Flow R} (hf : f.Readable) (h : Option (HostAgg R)) :
    HostAgg.addFlow h f = (PyNum.add (h.getD .empty).ppsTx f.pps).map fun pps =>
      ⟨(h.getD .empty).bytesOut + f.bytes, pps, addDst f.destinationIP (h.getD .empty).uniqueDsts,
        (h.getD .empty).flowCount + 1⟩ := by
  obtain ⟨hbytes, hpps⟩ := hf
  obtain ⟨bytes, hb⟩ := Option.isSome_iff_exists.mp hbytes
  obtain ⟨pps, hp⟩ := Option.isSome_iff_exists.mp hpps
  rw [HostAgg.addFlow, Flow.bytes, Flow.pps, hb, hp]
  cases hadd : PyNum.add (h.getD .empty).ppsTx pps <;> simp [hadd]

/-- The readable flows of a source add up, or the sum of their packets overflows. -/
theorem foldlM_addFlow {flows : List (Flow R)} (hflows : ∀ f ∈ flows, f.Readable) (h : HostAgg R) :
    (flows.foldlM (fun x f => PyNum.add x f.pps) h.ppsTx = none ∧
        flows.foldlM (fun h f => (HostAgg.addFlow h f).map some) (some h) = none) ∨
      ∃ h', flows.foldlM (fun x f => PyNum.add x f.pps) h.ppsTx = some h'.ppsTx ∧
        flows.foldlM (fun h f => (HostAgg.addFlow h f).map some) (some h) = some (some h') ∧
        h'.bytesOut = h.bytesOut + (flows.map Flow.bytes).sum := by
  induction flows generalizing h with
  | nil => exact .inr ⟨h, rfl, rfl, (add_zero _).symm⟩
  | cons f flows ih =>
    rw [List.foldlM_cons, List.foldlM_cons, addFlow_of_readable (hflows f List.mem_cons_self), Option.getD_some]
    cases PyNum.add h.ppsTx f.pps with
    | none => exact .inl ⟨rfl, rfl⟩
    | some pps =>
      have hflows' : ∀ g ∈ flows, g.Readable := fun g hg => hflows g (List.mem_cons_of_mem _ hg)
      rcases ih hflows' ⟨h.bytesOut + f.bytes, pps, addDst f.destinationIP h.uniqueDsts, h.flowCount + 1⟩ with
        hnone | ⟨h', hpps, hfold, hbytes⟩
      · exact .inl hnone
      · refine .inr ⟨h', hpps, hfold, hbytes.trans ?_⟩
        rw [List.map_cons, List.sum_cons, add_assoc]

/-- The group of a source that the flows name. -/
theorem cellAfter_addFlow {flows : List (Flow R)} (hflows : ∀ f ∈ flows, f.Readable) {f : Flow R} (hf : f ∈ flows) :
    (ppsSum flows f.source = none ∧ KeyedStore.cellAfter Flow.source HostAgg.addFlow flows f.source none = none) ∨
      ∃ h, ppsSum flows f.source = some h.ppsTx ∧
        KeyedStore.cellAfter Flow.source HostAgg.addFlow flows f.source none = some (some h) ∧
        h.bytesOut = bytesSum flows f.source := by
  have hmem : f ∈ flows.filter (·.source = f.source) := by simp [hf]
  have hown : ∀ g ∈ flows.filter (·.source = f.source), g.Readable := fun g hg => hflows g (List.mem_of_mem_filter hg)
  obtain ⟨g, gs, hg⟩ := List.exists_cons_of_ne_nil (List.ne_nil_of_mem hmem)
  have hstart : KeyedStore.cellAfter Flow.source HostAgg.addFlow flows f.source none =
      (g :: gs).foldlM (fun h f => (HostAgg.addFlow h f).map some) (some .empty) := by
    rw [KeyedStore.cellAfter, hg]
    rfl
  rw [hstart, ppsSum, bytesSum, hg]
  rcases foldlM_addFlow (hg ▸ hown) .empty with hnone | ⟨h, hpps, hfold, hbytes⟩
  · exact .inl hnone
  · exact .inr ⟨h, hpps, hfold, hbytes.trans (zero_add _)⟩

/-! ### The metrics of a container -/

/-- The highest rate of a container. -/
def ppsPeak (metrics : List (ContainerMetric R)) (k : HostId) : R :=
  (metrics.filter (·.id = k)).foldl (fun x m => if PyNum.lt x m.pps then m.pps else x) (PyNum.lit 0)

def eventCount (metrics : List (ContainerMetric R)) (k : HostId) (event : String) : Nat :=
  metrics.countP fun m => m.id = k ∧ m.event = event

def ContainerAgg.empty : ContainerAgg R := { ppsTx := PyNum.lit 0 }

def ContainerAgg.addMetric (c : Option (ContainerAgg R)) (m : ContainerMetric R) : Option (ContainerAgg R) := do
  let c := c.getD .empty
  let pps ← m.ppsTx.toFloat
  let dsts ← m.uniqueDstCount.toInt
  return {
    restarts := if m.event = "restart" then c.restarts + 1 else c.restarts
    ooms := if m.event = "oom" then c.ooms + 1 else c.ooms
    ppsTx := if PyNum.lt c.ppsTx pps then pps else c.ppsTx
    uniqueDstCount := max c.uniqueDstCount dsts
    name := m.containerName.getD m.id }

theorem rewritesCell_aggregateMetric :
    KeyedStore.RewritesCell (ContainerMetric.id (R := R)) ContainerAgg.addMetric aggregateMetric := by
  intro d m
  rw [lookup_instBEq]
  unfold aggregateMetric ContainerAgg.addMetric ContainerAgg.empty
  cases m.ppsTx.toFloat with
  | none => rfl
  | some pps => cases m.uniqueDstCount.toInt <;> rfl

theorem foldlM_addMetric {metrics : List (ContainerMetric R)} (hmetrics : ∀ m ∈ metrics, m.Readable)
    (c : ContainerAgg R) :
    ∃ c', metrics.foldlM (fun c m => (ContainerAgg.addMetric c m).map some) (some c) = some (some c') ∧
      c'.ppsTx = metrics.foldl (fun x m => if PyNum.lt x m.pps then m.pps else x) c.ppsTx ∧
      c'.restarts = c.restarts + metrics.countP (·.event = "restart") ∧
      c'.ooms = c.ooms + metrics.countP (·.event = "oom") := by
  induction metrics generalizing c with
  | nil => exact ⟨c, rfl, rfl, rfl, rfl⟩
  | cons m metrics ih =>
    obtain ⟨hpps, hdsts⟩ := hmetrics m List.mem_cons_self
    obtain ⟨pps, hp⟩ := Option.isSome_iff_exists.mp hpps
    obtain ⟨dsts, hd⟩ := Option.isSome_iff_exists.mp hdsts
    obtain ⟨c', hfold, hpeak, hrestarts, hooms⟩ := ih (fun m' hm' => hmetrics m' (List.mem_cons_of_mem _ hm'))
      { restarts := if m.event = "restart" then c.restarts + 1 else c.restarts
        ooms := if m.event = "oom" then c.ooms + 1 else c.ooms
        ppsTx := if PyNum.lt c.ppsTx pps then pps else c.ppsTx
        uniqueDstCount := max c.uniqueDstCount dsts
        name := m.containerName.getD m.id }
    refine ⟨c', ?_, ?_, hrestarts.trans ?_, hooms.trans ?_⟩
    · rw [List.foldlM_cons, ContainerAgg.addMetric, hp, hd]
      exact hfold
    · rw [hpeak, List.foldl_cons, ContainerMetric.pps, hp]
      rfl
    · by_cases hevent : m.event = "restart"
      · simp [hevent, Nat.add_assoc, Nat.add_comm]
      · simp [hevent]
    · by_cases hevent : m.event = "oom"
      · simp [hevent, Nat.add_assoc, Nat.add_comm]
      · simp [hevent]

/-- The group of a container that the metrics name. -/
theorem cellAfter_addMetric {metrics : List (ContainerMetric R)} (hmetrics : ∀ m ∈ metrics, m.Readable)
    {m : ContainerMetric R} (hm : m ∈ metrics) :
    ∃ c, KeyedStore.cellAfter ContainerMetric.id ContainerAgg.addMetric metrics m.id none = some (some c) ∧
      c.ppsTx = ppsPeak metrics m.id ∧ c.restarts = eventCount metrics m.id "restart" ∧
      c.ooms = eventCount metrics m.id "oom" := by
  have hmem : m ∈ metrics.filter (·.id = m.id) := by simp [hm]
  have hown : ∀ n ∈ metrics.filter (·.id = m.id), n.Readable := fun n hn => hmetrics n (List.mem_of_mem_filter hn)
  have hcount (event : String) :
      (metrics.filter (·.id = m.id)).countP (·.event = event) = eventCount metrics m.id event := by
    rw [List.countP_filter, eventCount]
    exact List.countP_congr fun n _ => by simp [and_comm]
  obtain ⟨n, ns, hn⟩ := List.exists_cons_of_ne_nil (List.ne_nil_of_mem hmem)
  obtain ⟨c, hfold, hpeak, hrestarts, hooms⟩ := foldlM_addMetric hown .empty
  refine ⟨c, ?_, hpeak, ?_, ?_⟩
  · rw [KeyedStore.cellAfter, ← hfold, hn]
    rfl
  · rw [hrestarts, hcount]
    exact zero_add _
  · rw [hooms, hcount]
    exact zero_add _

/-! ### Overflows -/

/-- The sample can be scored against the baseline, and there is a mean to report with a trigger. -/
def EWMABaseline.Scores (bl : EWMABaseline R) (x : R) : Prop :=
  bl.isReliable = true → (bl.zscore x).isSome = true ∧ (bl.anomalous x = true → bl.mean.isSome = true)

/-- Neither a score nor an update overflows for a source with these sums. -/
structure HostFits (b : HostBaselines R) (pps : R) (bytes : Int) : Prop where
  scoresPps : (b "pps_tx").Scores pps
  scoresBytes : (b "bytes_out").Scores (PyNum.ofInt bytes)
  multiple : (b "bytes_out").isReliable = false → (exceedsMultiple (b "bytes_out") (PyNum.ofInt bytes)).isSome = true
  learnsPps : ((b "pps_tx").update pps).2 = true
  learnsBytes : ((b "bytes_out").update (PyNum.ofInt bytes)).2 = true

structure ContainerFits (b : HostBaselines R) (pps : R) : Prop where
  scores : (b "pps_tx").isReliable = true → ((b "pps_tx").zscore pps).isSome = true
  learns : ((b "pps_tx").update pps).2 = true

/-- When a check against a baseline answers. -/
theorem zscoreCheck_isSome_iff {B : Type} {bl : EWMABaseline R} {x : R} {found : R → Option B} {other : Option B}
    {a : B} (Reports : Prop) (hfound : ∀ z, (found z).isSome = true ↔ Reports) :
    (if bl.isReliable then do
        let z ← bl.zscore x
        if PyNum.le zscoreThreshold z then found z else return a
      else other).isSome = true ↔
      (bl.isReliable = true → (bl.zscore x).isSome = true ∧ (bl.anomalous x = true → Reports)) ∧
        (bl.isReliable = false → other.isSome = true) := by
  cases hrel : bl.isReliable with
  | false => simp
  | true =>
    cases hz : bl.zscore x with
    | none => simp
    | some z =>
      have hanomalous : bl.anomalous x = PyNum.le zscoreThreshold z := by
        rw [EWMABaseline.anomalous, hrel, hz, Option.any_some, Bool.true_and]
      cases hle : PyNum.le zscoreThreshold z with
      | false => simp [hanomalous, hle]
      | true => simp [hanomalous, hle, hfound]

theorem checkPpsBaseline_isSome_iff (bl : EWMABaseline R) (src : HostId) (pps : R) (a : Acc R) :
    (checkPpsBaseline bl src pps a).isSome = true ↔ bl.Scores pps := by
  refine (zscoreCheck_isSome_iff (bl.mean.isSome = true) fun z => ?_).trans (and_iff_left fun _ => rfl)
  cases bl.mean <;> simp

theorem checkBytesBaseline_isSome_iff (bl : EWMABaseline R) (src : HostId) (bytes : Int) (a : Acc R) :
    (checkBytesBaseline bl src bytes a).isSome = true ↔ bl.Scores (PyNum.ofInt bytes) ∧
      (bl.isReliable = false → (exceedsMultiple bl (PyNum.ofInt bytes)).isSome = true) := by
  refine (zscoreCheck_isSome_iff (bl.mean.isSome = true) fun z => ?_).trans ?_
  · cases bl.mean <;> simp
  · refine and_congr_right fun _ => imp_congr_right fun _ => ?_
    cases exceedsMultiple bl (PyNum.ofInt bytes) <;> simp

theorem checkContainerBaseline_isSome_iff (bl : EWMABaseline R) (cid : HostId) (pps : R) (a : ContainerAcc R) :
    (checkContainerBaseline bl cid pps a).isSome = true ↔
      (bl.isReliable = true → (bl.zscore pps).isSome = true) := by
  refine (zscoreCheck_isSome_iff True fun z => by simp).trans ?_
  simp

theorem updateBaseline_two {b : HostBaselines R} {x y : R} :
    (updateBaseline b [("pps_tx", x), ("bytes_out", y)]).2 = true ↔
      ((b "pps_tx").update x).2 = true ∧ ((b "bytes_out").update y).2 = true := by
  have hother (bl : EWMABaseline R) : Function.update b "pps_tx" bl "bytes_out" = b "bytes_out" :=
    Function.update_of_ne (by decide) _ _
  unfold updateBaseline
  rcases (b "pps_tx").update x with ⟨bl, _ | _⟩
  · simp
  · simp only [updateBaseline, hother]
    rcases (b "bytes_out").update y with ⟨bl', _ | _⟩ <;> simp

theorem updateBaseline_one {b : HostBaselines R} {x : R} :
    (updateBaseline b [("pps_tx", x)]).2 = true ↔ ((b "pps_tx").update x).2 = true := by
  unfold updateBaseline
  rcases (b "pps_tx").update x with ⟨bl, _ | _⟩ <;> simp [updateBaseline]

theorem analyzeHost_eq_none_iff (x : HostId × HostAgg R) (b : HostBaselines R) (a : Acc R) :
    (analyzeHost x b a).2 = none ↔ ¬ HostFits b x.2.ppsTx x.2.bytesOut := by
  have hpps := checkPpsBaseline_isSome_iff (b "pps_tx") x.1 x.2.ppsTx (checkPps x.1 x.2.ppsTx a)
  have hupdate := updateBaseline_two (b := b) (x := x.2.ppsTx) (y := PyNum.ofInt x.2.bytesOut)
  rw [analyzeHost]
  cases hp : checkPpsBaseline (b "pps_tx") x.1 x.2.ppsTx (checkPps x.1 x.2.ppsTx a) with
  | none =>
    rw [hp] at hpps
    exact iff_of_true rfl fun hfits => by cases hpps.mpr hfits.scoresPps
  | some a₁ =>
    rw [hp] at hpps
    have hbytes := checkBytesBaseline_isSome_iff (b "bytes_out") x.1 x.2.bytesOut a₁
    rw [Option.bind_some]
    cases hb : checkBytesBaseline (b "bytes_out") x.1 x.2.bytesOut a₁ with
    | none =>
      rw [hb] at hbytes
      exact iff_of_true rfl fun hfits => by cases hbytes.mpr ⟨hfits.scoresBytes, hfits.multiple⟩
    | some a₂ =>
      rw [hb] at hbytes
      dsimp only
      split
      · rename_i hok
        obtain ⟨hscores, hmultiple⟩ := hbytes.mp rfl
        obtain ⟨hlearns, hlearns'⟩ := hupdate.mp hok
        exact iff_of_false (fun h => by cases h) (not_not.mpr ⟨hpps.mp rfl, hscores, hmultiple, hlearns, hlearns'⟩)
      · rename_i hok
        exact iff_of_true rfl fun hfits => hok (hupdate.mpr ⟨hfits.learnsPps, hfits.learnsBytes⟩)

theorem analyzeContainer_eq_none_iff (x : HostId × ContainerAgg R) (b : HostBaselines R) (a : ContainerAcc R) :
    (analyzeContainer x b a).2 = none ↔ ¬ ContainerFits b x.2.ppsTx := by
  have hscore := checkContainerBaseline_isSome_iff (b "pps_tx") x.1 x.2.ppsTx
    (checkContainerPps x.1 x.2.ppsTx (checkOoms x.1 x.2 (checkRestarts x.1 x.2 a)))
  have hupdate := updateBaseline_one (b := b) (x := x.2.ppsTx)
  rw [analyzeContainer]
  cases hc : checkContainerBaseline (b "pps_tx") x.1 x.2.ppsTx
      (checkContainerPps x.1 x.2.ppsTx (checkOoms x.1 x.2 (checkRestarts x.1 x.2 a))) with
  | none =>
    rw [hc] at hscore
    exact iff_of_true rfl fun hfits => by cases hscore.mpr hfits.scores
  | some a₁ =>
    rw [hc] at hscore
    dsimp only
    split
    · rename_i hok
      exact iff_of_false (fun h => by cases h) (not_not.mpr ⟨hscore.mp rfl, hupdate.mp hok⟩)
    · rename_i hok
      exact iff_of_true rfl fun hfits => hok (hupdate.mpr hfits.learns)

/-! ### What raises -/

theorem aggregateFlow_of_unreadable {f : Flow R} (hf : ¬ f.Readable) (d : List (HostId × HostAgg R)) :
    aggregateFlow d f = none := by
  rw [Flow.Readable, not_and_or] at hf
  unfold aggregateFlow
  cases hb : f.bytesOut.toInt with
  | none => rfl
  | some bytes =>
    cases hp : f.ppsTx.toFloat with
    | none => rfl
    | some pps => simp [hb, hp] at hf

theorem aggregateMetric_of_unreadable {m : ContainerMetric R} (hm : ¬ m.Readable)
    (d : List (HostId × ContainerAgg R)) : aggregateMetric d m = none := by
  rw [ContainerMetric.Readable, not_and_or] at hm
  unfold aggregateMetric
  cases hp : m.ppsTx.toFloat with
  | none => rfl
  | some pps =>
    cases hd : m.uniqueDstCount.toInt with
    | none => rfl
    | some dsts => simp [hp, hd] at hm

theorem analyzeFlows_eq_none_iff {s : Baselines R} {flows : List (Flow R)} :
    (analyzeFlows s flows).2 = none ↔ (∃ f ∈ flows, ¬ f.Readable) ∨
      ∃ f ∈ flows, ∀ pps, ppsSum flows f.source = some pps → ¬ HostFits (s f.source) pps (bytesSum flows f.source) := by
  by_cases hflows : ∀ f ∈ flows, f.Readable
  · have hread : ¬ ∃ f ∈ flows, ¬ f.Readable := fun ⟨f, hf, hunread⟩ => hunread (hflows f hf)
    rw [or_iff_right hread]
    refine (KeyedStore.groupLoop_eq_none_iff rewritesCell_aggregateFlow analyzeHost_eq_none_iff).trans ?_
    refine exists_congr fun f => and_congr_right fun hf => ?_
    rcases cellAfter_addFlow hflows hf with ⟨hsum, hcell⟩ | ⟨h, hsum, hcell, hbytes⟩
    · simp [hsum, hcell]
    · simp [hsum, hcell, hbytes]
  · obtain ⟨f, hf, hunread⟩ := not_forall₂.mp hflows
    have hstop := KeyedStore.foldlM_of_stop (d := []) hf (aggregateFlow_of_unreadable hunread)
    rw [analyzeFlows, KeyedStore.groupLoop_of_none hstop]
    exact iff_of_true rfl (.inl ⟨f, hf, hunread⟩)

theorem analyzeContainerMetrics_eq_none_iff {s : Baselines R} {metrics : List (ContainerMetric R)} :
    (analyzeContainerMetrics s metrics).2 = none ↔ (∃ m ∈ metrics, ¬ m.Readable) ∨
      ∃ m ∈ metrics, ¬ ContainerFits (s m.id) (ppsPeak metrics m.id) := by
  by_cases hmetrics : ∀ m ∈ metrics, m.Readable
  · have hread : ¬ ∃ m ∈ metrics, ¬ m.Readable := fun ⟨m, hm, hunread⟩ => hunread (hmetrics m hm)
    rw [or_iff_right hread]
    refine (KeyedStore.groupLoop_eq_none_iff rewritesCell_aggregateMetric analyzeContainer_eq_none_iff).trans ?_
    refine exists_congr fun m => and_congr_right fun hm => ?_
    obtain ⟨c, hcell, hpeak, -⟩ := cellAfter_addMetric hmetrics hm
    simp [hcell, hpeak]
  · obtain ⟨m, hm, hunread⟩ := not_forall₂.mp hmetrics
    have hstop := KeyedStore.foldlM_of_stop (d := []) hm (aggregateMetric_of_unreadable hunread)
    rw [analyzeContainerMetrics, KeyedStore.groupLoop_of_none hstop]
    exact iff_of_true rfl (.inl ⟨m, hm, hunread⟩)

omit [PyNum R] in
theorem Trigger.any_when (t : Trigger) (b : Bool) : (t.when b).any Trigger.isAbuse = (b && t.isAbuse) := by
  cases b <;> simp

theorem any_isAbuse_containerTriggers {b : HostBaselines R} {c : ContainerAgg R} :
    (containerTriggers b c).any Trigger.isAbuse = true ↔
      containerRestartStorm ≤ c.restarts ∨ containerOomThreshold ≤ c.ooms := by
  simp [containerTriggers, Trigger.any_when, Trigger.isAbuse]

/-- The triggers of abuse are counts of events. -/
theorem any_isAbuse_metricTriggers {s : Baselines R} {metrics : List (ContainerMetric R)}
    (hmetrics : ∀ m ∈ metrics, m.Readable) :
    (raised (metricTriggers s metrics)).any Trigger.isAbuse = true ↔
      ∃ m ∈ metrics, containerRestartStorm ≤ eventCount metrics m.id "restart" ∨
        containerOomThreshold ≤ eventCount metrics m.id "oom" := by
  cases hd : metrics.foldlM aggregateMetric [] with
  | none =>
    obtain ⟨m, hm, hstop⟩ := (KeyedStore.foldlM_eq_none_iff rewritesCell_aggregateMetric).mp hd
    obtain ⟨c, hcell, -⟩ := cellAfter_addMetric hmetrics hm
    cases hcell.symm.trans hstop
  | some groups =>
    have hany : (raised (metricTriggers s metrics)).any Trigger.isAbuse = true ↔
        ∃ x ∈ groups, containerRestartStorm ≤ x.2.restarts ∨ containerOomThreshold ≤ x.2.ooms := by
      rw [raised, metricTriggers, hd, Option.getD_some, List.any_flatMap, List.any_map, List.any_eq_true]
      exact exists_congr fun x => and_congr_right fun _ => any_isAbuse_containerTriggers
    rw [hany]
    constructor
    · rintro ⟨⟨k, c⟩, hmem, habuse⟩
      obtain ⟨m, hm, rfl, hcell⟩ := (KeyedStore.mem_foldlM_iff rewritesCell_aggregateMetric hd).mp hmem
      obtain ⟨c', hcell', -, hrestarts, hooms⟩ := cellAfter_addMetric hmetrics hm
      cases hcell.symm.trans hcell'
      exact ⟨m, hm, hrestarts ▸ hooms ▸ habuse⟩
    · rintro ⟨m, hm, habuse⟩
      obtain ⟨c, hcell, -, hrestarts, hooms⟩ := cellAfter_addMetric hmetrics hm
      refine ⟨(m.id, c), (KeyedStore.mem_foldlM_iff rewritesCell_aggregateMetric hd).mpr ⟨m, hm, rfl, hcell⟩, ?_⟩
      rwa [hrestarts, hooms]

end DDoS
end SocFabric
