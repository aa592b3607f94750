import Mathlib.Tactic.Linarith
import Mathlib.Tactic.NormNum
import Mathlib.Tactic.Positivity
import SocFabric.DDoSTarget
import SocFabric.Lib.ExactReal
import SocFabric.Lib.Lts

/-!
# Sustained anomalies

A window that is flagged is still fed into the baseline. Over exact arithmetic nothing overflows
(`AllValid.not_overflows`), and one flagged sample
moves mean and variance so far that the same sample scores at most 2 next time
(`not_anomalous_update`), below the threshold of 3. So an identical next window never raises
`pps_zscore_anomaly` again (`flagsPps_sustained_iff`), in any state that the detector reaches.
-/

namespace SocFabric
namespace DDoS

/-! ### The detector's operations -/

section
variable {R : Type} [PyNum R]

def seedBaseline (b : HostBaselines R) (metric : String) (values : List R) : HostBaselines R × Bool :=
  updateBaseline b (values.map fun v => (metric, v))

/-- The public methods of a detector. -/
inductive Op (R : Type)
  | seedBaseline (host : HostId) (metric : String) (values : List R)
  | updateBaseline (host : HostId) (metrics : List (String × R))
  | analyze (c : Call R)

def detectorStep (threshold : Nat) (s : Baselines R) : Op R → Option (Baselines R)
  | .seedBaseline host metric values =>
    some (Function.update s host (seedBaseline (s host) metric values).1)
  | .updateBaseline host metrics => some (Function.update s host (updateBaseline (s host) metrics).1)
  | .analyze c => some (analyze threshold s c).1

/-- The states of a detector that some sequence of calls leads to. -/
def Reachable (threshold : Nat) (s : Baselines R) : Prop :=
  Lts.Reach (detectorStep threshold) Lts.free freshBaselines s

/-- The window raises `pps_zscore_anomaly` for the host. -/
def FlagsPps (s : Baselines R) (flows : List (Flow R)) (k : HostId) : Prop :=
  ∃ x ∈ flowTriggers s flows, x.1 = k ∧ Trigger.ppsZscoreAnomaly ∈ x.2

theorem ppsZscoreAnomaly_mem_hostTriggers {b : HostBaselines R} {h : HostAgg R} :
    Trigger.ppsZscoreAnomaly ∈ hostTriggers b h ↔ (b "pps_tx").anomalous h.ppsTx = true := by
  have hmem : ∀ (t : Trigger) (p : Bool), Trigger.ppsZscoreAnomaly ∈ t.when p ↔
      p = true ∧ t = .ppsZscoreAnomaly := by
    intro t p
    cases p <;> simp [eq_comm]
  simp only [hostTriggers, List.mem_append, hmem]
  simp

theorem flagsPps_iff {s : Baselines R} {flows : List (Flow R)} {k : HostId} :
    FlagsPps s flows k ↔ ∃ hosts, flows.foldlM aggregateFlow [] = some hosts ∧
      ∃ h, (k, h) ∈ hosts ∧ (s k "pps_tx").anomalous h.ppsTx = true := by
  unfold FlagsPps flowTriggers
  cases flows.foldlM aggregateFlow [] with
  | none => simp
  | some hosts =>
    simp only [Option.getD_some, List.mem_map]
    constructor
    · rintro ⟨_, ⟨⟨k', h⟩, hmem, rfl⟩, rfl, hts⟩
      exact ⟨hosts, rfl, h, hmem, ppsZscoreAnomaly_mem_hostTriggers.mp hts⟩
    · rintro ⟨_, heq, h, hmem, hano⟩
      cases heq
      exact ⟨_, ⟨(k, h), hmem, rfl⟩, rfl, ppsZscoreAnomaly_mem_hostTriggers.mpr hano⟩

/-! ### The baselines a call leaves -/

theorem analyzeHost_fst {x : HostId × HostAgg R} {b b' : HostBaselines R} {a a' : Acc R}
    (h : analyzeHost x b a = (b', some a')) :
    b' = (updateBaseline b [("pps_tx", x.2.ppsTx), ("bytes_out", PyNum.ofInt x.2.bytesOut)]).1 := by
  unfold analyzeHost at h
  split at h
  · cases h
  · exact (Prod.mk.inj h).1.symm

theorem analyzeContainer_fst {x : HostId × ContainerAgg R} {b b' : HostBaselines R} {a a' : ContainerAcc R}
    (h : analyzeContainer x b a = (b', some a')) : b' = (updateBaseline b [("pps_tx", x.2.ppsTx)]).1 := by
  unfold analyzeContainer at h
  split at h
  · cases h
  · exact (Prod.mk.inj h).1.symm

theorem updateBaseline_of_not_mem {b : HostBaselines R} {metrics : List (String × R)} {metric : String}
    (h : metric ∉ metrics.map Prod.fst) : (updateBaseline b metrics).1 metric = b metric := by
  induction metrics generalizing b with
  | nil => rfl
  | cons x metrics ih =>
    obtain ⟨metric', value⟩ := x
    rw [List.map_cons, List.mem_cons, not_or] at h
    unfold updateBaseline
    split
    · rw [ih h.2, Function.update_of_ne h.1]
    · exact Function.update_of_ne h.1 _ _

/-- The baseline of the metric that is fed first. -/
theorem updateBaseline_head {b : HostBaselines R} {metric : String} {value : R} {metrics : List (String × R)}
    (h : metric ∉ metrics.map Prod.fst) :
    (updateBaseline b ((metric, value) :: metrics)).1 metric = ((b metric).update value).1 := by
  unfold updateBaseline
  split <;> rename_i heq
  · rw [updateBaseline_of_not_mem h, Function.update_self, heq]
  · rw [heq]
    exact Function.update_self ..

theorem analyze_fst_of_some {threshold : Nat} {s s' : Baselines R} {c : Call R} {a : Acc R}
    (h : analyzeFlows s c.flowEvents = (s', some a)) :
    (analyze threshold s c).1 = (analyzeContainerMetrics s' c.containerMetrics).1 := by
  unfold analyze
  simp only [h]
  split <;> rename_i heq <;> rw [heq]

end

/-! ### Baselines over the reals -/

section
variable [PyNum ℝ] [ExactReal]

/-- What a baseline is like after any number of samples. -/
structure EWMABaseline.Valid (b : EWMABaseline ℝ) : Prop where
  alpha : b.alpha = 1 / 5
  seen : (b.mean = none ∧ b.n = 0) ∨ ∃ m v, b.mean = some m ∧ b.var = some v ∧ 0 ≤ v

namespace EWMABaseline.Valid

variable {b : EWMABaseline ℝ}

theorem fresh : (EWMABaseline.fresh : EWMABaseline ℝ).Valid where
  alpha := by
    rw [EWMABaseline.fresh, ewmaAlpha, ExactReal.lit]
    norm_num
  seen := .inl ⟨rfl, rfl⟩

/-- The closed form of an update with a mean. -/
theorem update_eq (h : b.Valid) {m v : ℝ} (hm : b.mean = some m) (hv : b.var = some v) (x : ℝ) :
    b.update x =
      ({ b with
          mean := some (m + 1 / 5 * (x - m))
          var := some (4 / 5 * (v + 1 / 5 * (x - m) ^ 2))
          n := b.n + 1 }, true) := by
  have hvar : ((1 : Int) : ℝ) - 1 / 5 = 4 / 5 := by norm_num
  simp only [EWMABaseline.update, EWMABaseline.nextMean, EWMABaseline.nextVar, hm, hv, h.alpha, ExactReal.add,
    ExactReal.sub, ExactReal.mul, ExactReal.square, ExactReal.ofInt, hvar, Option.bind_eq_bind, Option.bind_some,
    Option.pure_def]

theorem update (h : b.Valid) (x : ℝ) : (b.update x).1.Valid ∧ (b.update x).2 = true := by
  rcases h.seen with ⟨hm, -⟩ | ⟨m, v, hm, hv, hpos⟩
  · unfold EWMABaseline.update
    simp only [hm, and_true]
    exact ⟨h.alpha, .inr ⟨x, _, rfl, rfl, by rw [ExactReal.lit]; norm_num⟩⟩
  · rw [h.update_eq hm hv]
    exact ⟨⟨h.alpha, .inr ⟨_, _, rfl, rfl, by positivity⟩⟩, rfl⟩

theorem std_pos {v : ℝ} (hv : b.var = some v) : 0 < b.std := by
  have hzero : (PyNum.le v (PyNum.ofInt 0) = true) ↔ v ≤ 0 := by
    rw [ExactReal.le, ExactReal.ofInt, Int.cast_zero]
  simp only [EWMABaseline.std, hv, hzero]
  split
  · rw [ExactReal.lit]
    norm_num
  · rename_i hpos
    rw [ExactReal.sqrt]
    exact Real.sqrt_pos.mpr (not_le.mp hpos)

theorem zscore_eq {m v x : ℝ} (hm : b.mean = some m) (hv : b.var = some v)
    (hn : b.isReliable = true) : b.zscore x = some ((x - m) / b.std) := by
  have hrel : baselineMinSamples ≤ b.n := of_decide_eq_true hn
  simp only [EWMABaseline.zscore, hm, if_neg (Nat.not_lt.mpr hrel), ExactReal.sub, Option.bind_eq_bind,
    Option.bind_some]
  exact ExactReal.div _ _ (std_pos hv).ne'

omit [PyNum ℝ] [ExactReal] in
/-- A reliable baseline has seen a sample. -/
theorem mean_of_reliable (h : b.Valid) (hn : b.isReliable = true) :
    ∃ m v, b.mean = some m ∧ b.var = some v ∧ 0 ≤ v := by
  refine h.seen.resolve_left ?_
  rintro ⟨-, hzero⟩
  have hrel : baselineMinSamples ≤ b.n := of_decide_eq_true hn
  rw [hzero] at hrel
  cases hrel

/-- Three deviations above the mean. -/
theorem anomalous_iff {m v x : ℝ} (hm : b.mean = some m) (hv : b.var = some v) :
    b.anomalous x = true ↔ b.isReliable = true ∧ 3 * b.std ≤ x - m := by
  unfold EWMABaseline.anomalous
  rw [Bool.and_eq_true]
  refine and_congr_right fun hn => ?_
  rw [zscore_eq hm hv hn, Option.any_some, ExactReal.le, zscoreThreshold, ExactReal.lit, le_div_iff₀ (std_pos hv)]
  norm_num

theorem sq_le_of_anomalous {m v x : ℝ} (hm : b.mean = some m) (hv : b.var = some v) (hpos : 0 < v)
    (h : b.anomalous x = true) : 9 * v ≤ (x - m) ^ 2 := by
  obtain ⟨-, hdev⟩ := (anomalous_iff hm hv).mp h
  have hzero : ¬ PyNum.le v (PyNum.ofInt 0) = true := by
    rw [ExactReal.le, ExactReal.ofInt, Int.cast_zero]
    exact not_le.mpr hpos
  have hstd : b.std = √v := by simp only [EWMABaseline.std, hv, if_neg hzero, ExactReal.sqrt]
  rw [hstd] at hdev
  calc 9 * v = (3 * √v) ^ 2 := by rw [mul_pow, Real.sq_sqrt hpos.le]; norm_num
    _ ≤ (x - m) ^ 2 := pow_le_pow_left₀ (by positivity) hdev 2

/-- An anomaly lies above the mean of its baseline. -/
theorem above_mean {x : ℝ} (h : b.Valid) (ha : b.anomalous x = true) :
    ∃ m v, b.mean = some m ∧ b.var = some v ∧ 0 ≤ v ∧ 0 < x - m := by
  obtain ⟨m, v, hm, hv, hpos⟩ := h.mean_of_reliable (Bool.and_eq_true_iff.mp ha).1
  obtain ⟨-, hdev⟩ := (anomalous_iff hm hv).mp ha
  exact ⟨m, v, hm, hv, hpos, lt_of_lt_of_le (by linarith [std_pos hv]) hdev⟩

/-- The sample that was flagged is not an anomaly of the baseline it was fed into. -/
theorem not_anomalous_update {x : ℝ} (h : b.Valid) (ha : b.anomalous x = true) :
    (b.update x).1.anomalous x ≠ true := by
  intro hagain
  obtain ⟨m, v, hm, hv, hpos, hδ⟩ := h.above_mean ha
  have hsq : 0 < (x - m) ^ 2 := by positivity
  rw [h.update_eq hm hv] at hagain
  have hle := sq_le_of_anomalous rfl rfl (by positivity) hagain
  -- the deviation shrinks to 4/5 of itself, the variance is at least 4/25 of its square
  have hdev' : x - (m + 1 / 5 * (x - m)) = 4 / 5 * (x - m) := by ring
  rw [hdev', mul_pow] at hle
  linarith

/-- Nor after one more sample, whatever it is. -/
theorem not_anomalous_update_update {x : ℝ} (h : b.Valid) (ha : b.anomalous x = true) (y : ℝ) :
    ((b.update x).1.update y).1.anomalous x ≠ true := by
  intro hagain
  obtain ⟨m, v, hm, hv, hpos, hδ⟩ := h.above_mean ha
  have hsq : 0 < (x - m) ^ 2 := by positivity
  have hvalid := (h.update x).1
  rw [h.update_eq hm hv] at hagain hvalid
  rw [hvalid.update_eq rfl rfl] at hagain
  have hle := sq_le_of_anomalous rfl rfl (by positivity) hagain
  nlinarith [sq_nonneg (y - (m + 1 / 5 * (x - m)) + (x - m) / 8), sq_nonneg (y - (m + 1 / 5 * (x - m)))]

end EWMABaseline.Valid

/-! ### States of the detector -/

def AllValid (s : Baselines ℝ) : Prop := ∀ k metric, (s k metric).Valid

theorem updateBaseline_valid {b : HostBaselines ℝ} (h : ∀ metric, (b metric).Valid)
    (metrics : List (String × ℝ)) :
    (∀ metric, ((updateBaseline b metrics).1 metric).Valid) ∧ (updateBaseline b metrics).2 = true := by
  induction metrics generalizing b with
  | nil => exact ⟨h, rfl⟩
  | cons x metrics ih =>
    obtain ⟨metric, value⟩ := x
    obtain ⟨hvalid, hok⟩ := (h metric).update value
    unfold updateBaseline
    rcases heq : (b metric).update value with ⟨bl, ok⟩
    rw [heq] at hvalid hok
    cases hok
    refine ih fun metric' => ?_
    by_cases hm : metric' = metric
    · rw [hm, Function.update_self]
      exact hvalid
    · rw [Function.update_of_ne hm]
      exact h metric'

omit [PyNum ℝ] [ExactReal] in
theorem AllValid.update {s : Baselines ℝ} (h : AllValid s) {k : HostId} {b : HostBaselines ℝ}
    (hb : ∀ metric, (b metric).Valid) : AllValid (Function.update s k b) := by
  intro k' metric
  by_cases hk : k' = k
  · rw [hk, Function.update_self]
    exact hb metric
  · rw [Function.update_of_ne hk]
    exact h k' metric

/-- A check against a valid baseline raises only where one of its two branches does. -/
theorem zscoreCheck_isSome {B : Type} {bl : EWMABaseline ℝ} (h : bl.Valid) {x : ℝ} {found : ℝ → Option B}
    {other : Option B} {a : B} (hfound : ∀ m z, bl.mean = some m → (found z).isSome) (hother : other.isSome) :
    (if bl.isReliable then do
      let z ← bl.zscore x
      if PyNum.le zscoreThreshold z then found z else return a
    else other).isSome := by
  split
  · rename_i hn
    obtain ⟨m, v, hm, hv, -⟩ := h.mean_of_reliable hn
    simp only [EWMABaseline.Valid.zscore_eq hm hv hn, Option.bind_eq_bind, Option.bind_some]
    split
    · exact hfound m _ hm
    · rfl
  · exact hother

theorem checkPpsBaseline_isSome {bl : EWMABaseline ℝ} (h : bl.Valid) (src : HostId) (pps : ℝ) (a : Acc ℝ) :
    (checkPpsBaseline bl src pps a).isSome :=
  zscoreCheck_isSome h (fun m z hm => by rw [hm]; rfl) rfl

theorem checkBytesBaseline_isSome {bl : EWMABaseline ℝ} (h : bl.Valid) (src : HostId) (bytes : Int)
    (a : Acc ℝ) :
    (checkBytesBaseline bl src bytes a).isSome := by
  refine zscoreCheck_isSome h (fun m z hm => by rw [hm]; rfl) ?_
  unfold exceedsMultiple
  cases bl.mean with
  | none => rfl
  | some m =>
    simp only [ExactReal.mul]
    split <;> rfl

theorem checkContainerBaseline_isSome {bl : EWMABaseline ℝ} (h : bl.Valid) (cid : HostId) (pps : ℝ)
    (a : ContainerAcc ℝ) : (checkContainerBaseline bl cid pps a).isSome :=
  zscoreCheck_isSome h (fun _ _ _ => rfl) rfl

/-- Over valid baselines no round of the flow analysis raises. -/
theorem analyzeHost_total (x : HostId × HostAgg ℝ) (b : HostBaselines ℝ) (a : Acc ℝ)
    (h : ∀ metric, (b metric).Valid) :
    (∀ metric, ((analyzeHost x b a).1 metric).Valid) ∧ (analyzeHost x b a).2.isSome := by
  obtain ⟨a₁, ha₁⟩ := Option.isSome_iff_exists.mp
    (checkPpsBaseline_isSome (h "pps_tx") x.1 x.2.ppsTx (checkPps x.1 x.2.ppsTx a))
  obtain ⟨a₂, ha₂⟩ := Option.isSome_iff_exists.mp
    (checkBytesBaseline_isSome (h "bytes_out") x.1 x.2.bytesOut a₁)
  obtain ⟨hvalid, hok⟩ := updateBaseline_valid h
    [("pps_tx", x.2.ppsTx), ("bytes_out", PyNum.ofInt x.2.bytesOut)]
  unfold analyzeHost
  simp only [ha₁, ha₂, Option.bind_some, hok, if_true]
  exact ⟨hvalid, rfl⟩

theorem analyzeContainer_total (x : HostId × ContainerAgg ℝ) (b : HostBaselines ℝ) (a : ContainerAcc ℝ)
    (h : ∀ metric, (b metric).Valid) :
    (∀ metric, ((analyzeContainer x b a).1 metric).Valid) ∧ (analyzeContainer x b a).2.isSome := by
  obtain ⟨a₁, ha₁⟩ := Option.isSome_iff_exists.mp (checkContainerBaseline_isSome (h "pps_tx") x.1 x.2.ppsTx
    (checkContainerPps x.1 x.2.ppsTx (checkOoms x.1 x.2 (checkRestarts x.1 x.2 a))))
  obtain ⟨hvalid, hok⟩ := updateBaseline_valid h [("pps_tx", x.2.ppsTx)]
  unfold analyzeContainer
  simp only [ha₁, hok, if_true]
  exact ⟨hvalid, rfl⟩

/-- In exact arithmetic nothing overflows. -/
theorem AllValid.not_overflows {s : Baselines ℝ} (h : AllValid s) (c : Call ℝ) : ¬ Overflows s c := by
  have hfits (k : HostId) (agg : HostAgg ℝ) : HostFits (s k) agg.ppsTx agg.bytesOut := by
    by_contra hnot
    have hnone := (analyzeHost_eq_none_iff (k, agg) (s k) {}).mpr hnot
    have hsome := (analyzeHost_total (k, agg) (s k) {} (h k)).2
    rw [hnone] at hsome
    cases hsome
  have hafter : AllValid (afterFlows s c) := KeyedStore.groupLoop_good analyzeHost_total h
  have hsum (flows : List (Flow ℝ)) (x : ℝ) : ∃ pps, flows.foldlM (fun x f => PyNum.add x f.pps) x = some pps := by
    induction flows generalizing x with
    | nil => exact ⟨x, rfl⟩
    | cons f flows ih =>
      rw [List.foldlM_cons, ExactReal.add]
      exact ih _
  rintro (⟨f, hf, hnot⟩ | ⟨m, hm, hnot⟩)
  · obtain ⟨pps, hpps⟩ := hsum (c.flowEvents.filter (·.source = f.source)) (PyNum.lit 0)
    exact hnot pps hpps (hfits f.source ⟨bytesSum c.flowEvents f.source, pps, [], 0⟩)
  · have hnone := (analyzeContainer_eq_none_iff (m.id, { ppsTx := ppsPeak c.containerMetrics m.id })
      (afterFlows s c m.id) ({}, false)).mpr hnot
    have hsome := (analyzeContainer_total (m.id, { ppsTx := ppsPeak c.containerMetrics m.id })
      (afterFlows s c m.id) ({}, false) (hafter m.id)).2
    rw [hnone] at hsome
    cases hsome

theorem AllValid.analyzeFlows {s : Baselines ℝ} (h : AllValid s) (flows : List (Flow ℝ)) :
    AllValid (analyzeFlows s flows).1 :=
  KeyedStore.groupLoop_good analyzeHost_total h

theorem AllValid.analyzeContainerMetrics {s : Baselines ℝ} (h : AllValid s)
    (metrics : List (ContainerMetric ℝ)) :
    AllValid (analyzeContainerMetrics s metrics).1 :=
  KeyedStore.groupLoop_good analyzeContainer_total h

theorem AllValid.analyze {threshold : Nat} {s : Baselines ℝ} (h : AllValid s) (c : Call ℝ) :
    AllValid (analyze threshold s c).1 := by
  have hflows := h.analyzeFlows c.flowEvents
  rcases hf : DDoS.analyzeFlows s c.flowEvents with ⟨s', _ | a⟩
  · rw [hf] at hflows
    unfold DDoS.analyze
    simp only [hf]
    exact hflows
  · rw [hf] at hflows
    rw [analyze_fst_of_some hf]
    exact hflows.analyzeContainerMetrics c.containerMetrics

theorem Reachable.allValid {threshold : Nat} {s : Baselines ℝ} (h : Reachable threshold s) : AllValid s := by
  refine Lts.Reach.invariant h (fun _ _ => .fresh) ?_
  intro t u op _ hstep ht
  cases op with
  | seedBaseline host metric values =>
    cases hstep
    exact ht.update (updateBaseline_valid (ht host) _).1
  | updateBaseline host metrics =>
    cases hstep
    exact ht.update (updateBaseline_valid (ht host) _).1
  | analyze c =>
    cases hstep
    exact ht.analyze c

/-! ### The next window -/

theorem analyzeFlows_cell {s : Baselines ℝ} (hs : AllValid s) {flows : List (Flow ℝ)}
    {hosts : List (HostId × HostAgg ℝ)} (hg : flows.foldlM aggregateFlow [] = some hosts) {k : HostId}
    {h : HostAgg ℝ} (hk : (k, h) ∈ hosts) :
    (analyzeFlows s flows).1 k "pps_tx" = ((s k "pps_tx").update h.ppsTx).1 ∧ (analyzeFlows s flows).2.isSome := by
  have hkeys : (hosts.map Prod.fst).Nodup := KeyedStore.nodup_keys_foldlM collects_aggregateFlow hg List.nodup_nil
  have hloop : analyzeFlows s flows = KeyedStore.loop Prod.fst analyzeHost hosts s {} :=
    KeyedStore.groupLoop_of_some hg
  have hsome : (KeyedStore.loop Prod.fst analyzeHost hosts s {}).2.isSome :=
    (KeyedStore.loop_total analyzeHost_total hs).2
  have hcell := KeyedStore.loop_cell (fun h => analyzeHost_fst h) hkeys hsome hk
  rw [hloop]
  refine ⟨?_, hsome⟩
  rw [show k = (k, h).1 from rfl, hcell]
  exact updateBaseline_head (by simp)

/-- The container pass feeds a host's baseline at most one more sample. -/
theorem analyzeContainerMetrics_cell {s : Baselines ℝ} (hs : AllValid s) (metrics : List (ContainerMetric ℝ))
    (k : HostId) : (analyzeContainerMetrics s metrics).1 k "pps_tx" = s k "pps_tx" ∨
      ∃ y, (analyzeContainerMetrics s metrics).1 k "pps_tx" = ((s k "pps_tx").update y).1 := by
  unfold analyzeContainerMetrics KeyedStore.groupLoop
  split
  · exact .inl rfl
  · rename_i containers hg
    by_cases hk : k ∈ containers.map Prod.fst
    · obtain ⟨x, hx, rfl⟩ := List.mem_map.mp hk
      have hkeys : (containers.map Prod.fst).Nodup :=
        KeyedStore.nodup_keys_foldlM collects_aggregateMetric hg List.nodup_nil
      have hsome : (KeyedStore.loop Prod.fst analyzeContainer containers s ({}, false)).2.isSome :=
        (KeyedStore.loop_total analyzeContainer_total hs).2
      have hcell := KeyedStore.loop_cell (fun h => analyzeContainer_fst h) hkeys hsome hx
      refine .inr ⟨x.2.ppsTx, ?_⟩
      rw [hcell]
      exact updateBaseline_head (by simp)
    · exact .inl (congrFun (KeyedStore.loop_of_not_mem hk) _)

theorem not_flagsPps_of_flagsPps {threshold : Nat} {s : Baselines ℝ} (hs : AllValid s) {c : Call ℝ}
    {k : HostId}
    (h : FlagsPps s c.flowEvents k) : ¬ FlagsPps (analyze threshold s c).1 c.flowEvents k := by
  intro hagain
  obtain ⟨hosts, hg, x, hx, hano⟩ := flagsPps_iff.mp h
  obtain ⟨hosts', hg', x', hx', hano'⟩ := flagsPps_iff.mp hagain
  cases hg.symm.trans hg'
  have hkeys : (hosts.map Prod.fst).Nodup := KeyedStore.nodup_keys_foldlM collects_aggregateFlow hg List.nodup_nil
  have hsame : (k, x) = (k, x') := List.inj_on_of_nodup_map hkeys hx hx' rfl
  obtain ⟨-, rfl⟩ := Prod.mk.inj hsame
  obtain ⟨hcell, hsome⟩ := analyzeFlows_cell hs hg hx
  have hvalid := hs.analyzeFlows c.flowEvents
  rcases hf : analyzeFlows s c.flowEvents with ⟨s', _ | a⟩
  · rw [hf] at hsome
    cases hsome
  · rw [hf] at hcell hvalid
    rw [analyze_fst_of_some hf] at hano'
    -- the next window meets the baseline after the flow pass, or after a container of the same name
    rcases analyzeContainerMetrics_cell hvalid c.containerMetrics k with hkept | ⟨y, hfed⟩
    · rw [hkept, hcell] at hano'
      exact (hs k "pps_tx").not_anomalous_update hano hano'
    · rw [hfed, hcell] at hano'
      exact (hs k "pps_tx").not_anomalous_update_update hano y hano'

/-- In every state that the detector reaches, a window that raises `pps_zscore_anomaly` for a host
raises it again when it comes next only if it did not raise it in the first place. -/
theorem flagsPps_sustained_iff (threshold : Nat) (s : Baselines ℝ) (hs : Reachable threshold s) (c : Call ℝ)
    (k : HostId) :
    (FlagsPps s c.flowEvents k → FlagsPps (analyze threshold s c).1 c.flowEvents k) ↔
      ¬ FlagsPps s c.flowEvents k := by
  constructor
  · intro hsustained hflags
    exact not_flagsPps_of_flagsPps hs.allValid hflags (hsustained hflags)
  · intro hquiet hflags
    exact absurd hflags hquiet

/-! ### A flood of 1000 packets a second -/

/-- Five quiet windows of a host that sends 10 packets a second. -/
def quietState : Baselines ℝ :=
  Function.update freshBaselines (some "10.0.0.7")
    (seedBaseline (freshBaselines (some "10.0.0.7")) "pps_tx" (List.replicate 5 10)).1

def floodCall : Call ℝ :=
  { flowEvents := [{ sourceIP := some (some "10.0.0.7"), bytesOut := .int 100, ppsTx := .num 1000 }] }

omit [ExactReal] in
theorem reachable_quietState (threshold : Nat) : Reachable threshold quietState :=
  Lts.Reach.refl.tail (a := Op.seedBaseline (some "10.0.0.7") "pps_tx" (List.replicate 5 10)) trivial rfl

theorem update_self_eq {α m : ℝ} (hα : α = 1 / 5) (n : Nat) :
    (⟨α, some m, some 0, n⟩ : EWMABaseline ℝ).update m = (⟨α, some m, some 0, n + 1⟩, true) := by
  rw [EWMABaseline.Valid.update_eq ⟨hα, .inr ⟨m, 0, rfl, rfl, le_rfl⟩⟩ rfl rfl]
  norm_num

theorem quietState_baseline :
    quietState (some "10.0.0.7") "pps_tx" = (⟨ewmaAlpha, some 10, some 0, 5⟩ : EWMABaseline ℝ) := by
  have hfirst : (EWMABaseline.fresh : EWMABaseline ℝ).update 10 = (⟨ewmaAlpha, some 10, some 0, 1⟩, true) := by
    simp [EWMABaseline.update, EWMABaseline.fresh, ExactReal.lit]
  have hnext (n : Nat) := update_self_eq (α := ewmaAlpha) (m := 10) EWMABaseline.Valid.fresh.alpha n
  rw [quietState, Function.update_self]
  simp [seedBaseline, freshBaselines, updateBaseline, List.replicate, hfirst, hnext]

theorem quietState_isReliable : (quietState (some "10.0.0.7") "pps_tx").isReliable = true := by
  rw [quietState_baseline]
  rfl

theorem flagsPps_flood : FlagsPps quietState floodCall.flowEvents (some "10.0.0.7") := by
  have hzero : ¬ PyNum.isZero (1000 : ℝ) = true := by
    rw [ExactReal.isZero]
    norm_num
  have hpps : (PyVal.num (1000 : ℝ)).toFloat = some 1000 := if_neg hzero
  refine flagsPps_iff.mpr ⟨[(some "10.0.0.7", ⟨0 + 100, 0 + 1000, [], 0 + 1⟩)], ?_, _, List.mem_singleton_self _, ?_⟩
  · simp [floodCall, aggregateFlow, Flow.source, hpps, PyVal.toInt, ExactReal.add, ExactReal.lit, KeyedStore.put,
      addDst, Text.truthy]
  · have hrel := quietState_isReliable
    rw [quietState_baseline] at hrel ⊢
    have hle : PyNum.le (0 : ℝ) (PyNum.ofInt 0) = true := by
      rw [ExactReal.le, ExactReal.ofInt, Int.cast_zero]
    have hstd : (⟨ewmaAlpha, some 10, some 0, 5⟩ : EWMABaseline ℝ).std = 1 := by
      simp only [EWMABaseline.std, if_pos hle, ExactReal.lit, Rat.cast_one]
    rw [EWMABaseline.Valid.anomalous_iff rfl rfl, hstd]
    exact ⟨hrel, by norm_num⟩

end

theorem flood_not_sustained :
    FlagsPps quietState floodCall.flowEvents (some "10.0.0.7") ∧
      ((FlagsPps quietState floodCall.flowEvents (some "10.0.0.7") →
          FlagsPps (analyze scoreThreshold quietState floodCall).1 floodCall.flowEvents (some "10.0.0.7")) ↔
        ¬ FlagsPps quietState floodCall.flowEvents (some "10.0.0.7")) :=
  ⟨flagsPps_flood, flagsPps_sustained_iff _ _ (reachable_quietState _) _ _⟩

/-- The second of two identical windows of 1000 packets a second is not an anomaly. -/
theorem second_flood_window_silent :
    ¬ ∀ [PyNum ℝ] [ExactReal] (s : Baselines ℝ) (c : Call ℝ) (k : HostId),
      Reachable scoreThreshold s → (s k "pps_tx").isReliable = true → FlagsPps s c.flowEvents k →
        FlagsPps (analyze scoreThreshold s c).1 c.flowEvents k := by
  intro h
  have hagain := @h ExactReal.pyNumReal inferInstance quietState floodCall (some "10.0.0.7")
    (reachable_quietState _) quietState_isReliable flagsPps_flood
  exact not_flagsPps_of_flagsPps (reachable_quietState scoreThreshold).allValid flagsPps_flood hagain

end DDoS
end SocFabric
