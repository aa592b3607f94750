import SocFabric.DDoSDetector

/-!
# Triggers of the DDoS detector

What raises a trigger, by host and by container: `hostTriggers` and `containerTriggers` are
conditions on the aggregate of one host and its baselines alone. The loops of the two analyses
append exactly these, host by host, score them by `Trigger.score`, and set the abuse flag on a
restart storm or an OOM kill (`analyzeFlows_spec`, `analyzeContainerMetrics_spec`).
-/

namespace SocFabric
namespace DDoS

variable {R : Type} [PyNum R]

/-! ### Conditions -/

/-- A sample three deviations above a reliable baseline. -/
def EWMABaseline.anomalous (bl : EWMABaseline R) (x : R) : Bool :=
  bl.isReliable && (bl.zscore x).any (PyNum.le zscoreThreshold)

/-- Ten times the mean of a baseline that is not reliable yet. -/
def EWMABaseline.bursts (bl : EWMABaseline R) (x : R) : Bool :=
  !bl.isReliable && (exceedsMultiple bl x).any id

def Trigger.when (t : Trigger) (raised : Bool) : List Trigger := if raised then [t] else []

@[simp] theorem Trigger.when_true (t : Trigger) : t.when true = [t] := rfl

@[simp] theorem Trigger.when_false (t : Trigger) : t.when false = [] := rfl

def hostTriggers (b : HostBaselines R) (h : HostAgg R) : List Trigger :=
  Trigger.ppsHardThreshold.when (PyNum.le ppsHardThreshold h.ppsTx) ++
    (Trigger.ppsZscoreAnomaly.when ((b "pps_tx").anomalous h.ppsTx) ++
      (Trigger.byteBurstAnomaly.when ((b "bytes_out").anomalous (PyNum.ofInt h.bytesOut)) ++
        Trigger.byteBurstHardMultiplier.when ((b "bytes_out").bursts (PyNum.ofInt h.bytesOut))) ++
      (Trigger.uniqueDstExtreme.when (uniqueDstExtremeThreshold ≤ h.uniqueDsts.length) ++
        Trigger.uniqueDstScan.when (uniqueDstScanThreshold ≤ h.uniqueDsts.length ∧
          h.uniqueDsts.length < uniqueDstExtremeThreshold)))

def containerTriggers (b : HostBaselines R) (c : ContainerAgg R) : List Trigger :=
  Trigger.containerRestartStorm.when (containerRestartStorm ≤ c.restarts) ++
    (Trigger.containerOomKill.when (containerOomThreshold ≤ c.ooms) ++
      (Trigger.containerPpsFlood.when (PyNum.le ppsHardThreshold c.ppsTx) ++
        (Trigger.containerPpsZscore.when ((b "pps_tx").anomalous c.ppsTx) ++
          Trigger.containerUniqueDstScan.when ((uniqueDstScanThreshold : Int) ≤ c.uniqueDstCount))))

def Trigger.isAbuse (t : Trigger) : Bool := t = containerRestartStorm ∨ t = containerOomKill

def totalScore (ts : List Trigger) : Nat := (ts.map Trigger.score).sum

theorem totalScore_append (ts ts' : List Trigger) :
    totalScore (ts ++ ts') = totalScore ts + totalScore ts' := by
  rw [totalScore, List.map_append, List.sum_append]
  rfl

/-! ### What a check adds -/

/-- `a'` is `a` with the triggers `ts` raised. -/
structure Acc.Raises (a : Acc R) (ts : List Trigger) (a' : Acc R) : Prop where
  triggers : a'.evidence.triggers = a.evidence.triggers ++ ts
  score : a'.score = a.score + totalScore ts

namespace Acc.Raises

omit [PyNum R]
variable {a a' a'' : Acc R} {ts ts' : List Trigger}

theorem refl (a : Acc R) : a.Raises [] a := ⟨(List.append_nil _).symm, rfl⟩

theorem trigger (a : Acc R) (t : Trigger) : a.Raises [t] (a.trigger t) := ⟨rfl, rfl⟩

theorem report (a : Acc R) (t : Trigger) (name : String) (entry : List (String × PyVal R)) :
    a.Raises [t] (a.report t name entry) := ⟨rfl, rfl⟩

theorem trans (h : a.Raises ts a') (h' : a'.Raises ts' a'') : a.Raises (ts ++ ts') a'' where
  triggers := by rw [h'.triggers, h.triggers, List.append_assoc]
  score := by rw [h'.score, h.score, totalScore_append, Nat.add_assoc]

end Acc.Raises

theorem anomalous_of_not_reliable {bl : EWMABaseline R} {x : R} (h : bl.isReliable = false) :
    bl.anomalous x = false := by
  rw [EWMABaseline.anomalous, h, Bool.false_and]

/-- The shape that the three checks against a baseline share, taken apart. -/
theorem of_zscoreCheck {B : Type} {bl : EWMABaseline R} {x : R} {found : R → Option B} {other : Option B}
    {a b : B}
    (h : (if bl.isReliable then do
        let z ← bl.zscore x
        if PyNum.le zscoreThreshold z then found z else return a
      else other) = some b) :
    (bl.isReliable = false ∧ other = some b) ∨ (bl.isReliable = true ∧ bl.anomalous x = false ∧ a = b) ∨
      (bl.isReliable = true ∧ bl.anomalous x = true ∧ ∃ z, found z = some b) := by
  cases hrel : bl.isReliable with
  | false =>
    rw [if_neg (by simp [hrel])] at h
    exact .inl ⟨rfl, h⟩
  | true =>
    rw [if_pos hrel] at h
    obtain ⟨z, hz, h⟩ := Option.bind_eq_some_iff.mp h
    have hanomalous : bl.anomalous x = PyNum.le zscoreThreshold z := by
      rw [EWMABaseline.anomalous, hrel, hz, Option.any_some, Bool.true_and]
    rw [hanomalous]
    cases hle : PyNum.le zscoreThreshold z with
    | false =>
      rw [if_neg (by simp [hle])] at h
      exact .inr (.inl ⟨rfl, rfl, Option.some.inj h⟩)
    | true =>
      rw [if_pos hle] at h
      exact .inr (.inr ⟨rfl, rfl, z, h⟩)

theorem checkPps_raises (src : HostId) (pps : R) (a : Acc R) :
    a.Raises (Trigger.ppsHardThreshold.when (PyNum.le ppsHardThreshold pps)) (checkPps src pps a) := by
  unfold checkPps
  cases PyNum.le ppsHardThreshold pps with
  | true => exact .report ..
  | false => exact .refl a

theorem checkPpsBaseline_raises {bl : EWMABaseline R} {src : HostId} {pps : R} {a a' : Acc R}
    (h : checkPpsBaseline bl src pps a = some a') :
    a.Raises (Trigger.ppsZscoreAnomaly.when (bl.anomalous pps)) a' := by
  rcases of_zscoreCheck h with ⟨hrel, h⟩ | ⟨-, hz, h⟩ | ⟨-, hz, z, h⟩
  · rw [anomalous_of_not_reliable hrel]
    cases h
    exact .refl a
  · rw [hz]
    cases h
    exact .refl a
  · rw [hz]
    obtain ⟨mean, -, h⟩ := Option.bind_eq_some_iff.mp h
    cases h
    exact .report ..

theorem checkBytesBaseline_raises {bl : EWMABaseline R} {src : HostId} {bytes : Int} {a a' : Acc R}
    (h : checkBytesBaseline bl src bytes a = some a') :
    a.Raises (Trigger.byteBurstAnomaly.when (bl.anomalous (PyNum.ofInt bytes)) ++
      Trigger.byteBurstHardMultiplier.when (bl.bursts (PyNum.ofInt bytes))) a' := by
  unfold EWMABaseline.bursts
  rcases of_zscoreCheck h with ⟨hrel, h⟩ | ⟨hrel, hz, h⟩ | ⟨hrel, hz, z, h⟩
  · -- only an unreliable baseline is compared by its multiple
    obtain ⟨exceeds, hex, h⟩ := Option.bind_eq_some_iff.mp h
    rw [anomalous_of_not_reliable hrel, hrel, hex]
    cases h
    cases exceeds with
    | true => exact .trigger ..
    | false => exact .refl a
  · rw [hz, hrel]
    cases h
    exact .refl a
  · rw [hz, hrel]
    obtain ⟨mean, -, h⟩ := Option.bind_eq_some_iff.mp h
    cases h
    exact .report ..

omit [PyNum R] in
theorem checkUniqueDsts_raises (src : HostId) (count : Nat) (a : Acc R) :
    a.Raises (Trigger.uniqueDstExtreme.when (uniqueDstExtremeThreshold ≤ count) ++
      Trigger.uniqueDstScan.when (uniqueDstScanThreshold ≤ count ∧ count < uniqueDstExtremeThreshold))
      (checkUniqueDsts src count a) := by
  unfold checkUniqueDsts
  by_cases hext : uniqueDstExtremeThreshold ≤ count
  · have hscan : ¬ (uniqueDstScanThreshold ≤ count ∧ count < uniqueDstExtremeThreshold) := by omega
    rw [if_pos hext, decide_eq_true hext, decide_eq_false hscan]
    exact .report ..
  · by_cases hscan : uniqueDstScanThreshold ≤ count
    · rw [if_neg hext, if_pos hscan, decide_eq_false hext, decide_eq_true ⟨hscan, by omega⟩]
      exact .report ..
    · rw [if_neg hext, if_neg hscan, decide_eq_false hext, decide_eq_false fun h => hscan h.1]
      exact .refl a

theorem analyzeHost_raises {x : HostId × HostAgg R} {b b' : HostBaselines R} {a a' : Acc R}
    (h : analyzeHost x b a = (b', some a')) : a.Raises (hostTriggers b x.2) a' := by
  unfold analyzeHost at h
  split at h
  · cases h
  · rename_i a₂ heq
    obtain ⟨a₁, hpps, hbytes⟩ := Option.bind_eq_some_iff.mp heq
    have hchecks := (checkPpsBaseline_raises hpps).trans (checkBytesBaseline_raises hbytes)
    have hall := (checkPps_raises x.1 x.2.ppsTx a).trans
      (hchecks.trans (checkUniqueDsts_raises x.1 x.2.uniqueDsts.length a₂))
    obtain ⟨-, h⟩ := Prod.mk.inj h
    split at h
    · cases h
      exact hall
    · cases h

/-- The container analysis also keeps whether a trigger of abuse was raised. -/
structure ContainerAcc.Raises (a : ContainerAcc R) (ts : List Trigger) (a' : ContainerAcc R) : Prop where
  acc : a.1.Raises ts a'.1
  abuse : a'.2 = (a.2 || ts.any Trigger.isAbuse)

namespace ContainerAcc.Raises

omit [PyNum R]
variable {a a' a'' : ContainerAcc R} {ts ts' : List Trigger}

theorem refl (a : ContainerAcc R) : Raises a [] a := ⟨.refl a.1, (Bool.or_false _).symm⟩

theorem report {t : Trigger} {name : String} {entry : List (String × PyVal R)} {abuse : Bool}
    (h : abuse = (a.2 || t.isAbuse)) : Raises a [t] (a.1.report t name entry, abuse) :=
  ⟨.report .., by rw [h, List.any_cons, List.any_nil, Bool.or_false]⟩

theorem trans (h : Raises a ts a') (h' : Raises a' ts' a'') : Raises a (ts ++ ts') a'' :=
  ⟨h.acc.trans h'.acc, by rw [h'.abuse, h.abuse, List.any_append, Bool.or_assoc]⟩

end ContainerAcc.Raises

omit [PyNum R] in
theorem checkRestarts_raises (cid : HostId) (c : ContainerAgg R) (a : ContainerAcc R) :
    ContainerAcc.Raises a (Trigger.containerRestartStorm.when (containerRestartStorm ≤ c.restarts))
      (checkRestarts cid c a) := by
  unfold checkRestarts
  by_cases h : containerRestartStorm ≤ c.restarts
  · rw [if_pos h, decide_eq_true h]
    exact .report (Bool.or_true _).symm
  · rw [if_neg h, decide_eq_false h]
    exact .refl a

omit [PyNum R] in
theorem checkOoms_raises (cid : HostId) (c : ContainerAgg R) (a : ContainerAcc R) :
    ContainerAcc.Raises a (Trigger.containerOomKill.when (containerOomThreshold ≤ c.ooms))
      (checkOoms cid c a) := by
  unfold checkOoms
  by_cases h : containerOomThreshold ≤ c.ooms
  · rw [if_pos h, decide_eq_true h]
    exact .report (Bool.or_true _).symm
  · rw [if_neg h, decide_eq_false h]
    exact .refl a

theorem checkContainerPps_raises (cid : HostId) (pps : R) (a : ContainerAcc R) :
    ContainerAcc.Raises a (Trigger.containerPpsFlood.when (PyNum.le ppsHardThreshold pps))
      (checkContainerPps cid pps a) := by
  unfold checkContainerPps
  cases PyNum.le ppsHardThreshold pps with
  | true => exact .report (Bool.or_false _).symm
  | false => exact .refl a

theorem checkContainerBaseline_raises {bl : EWMABaseline R} {cid : HostId} {pps : R} {a a' : ContainerAcc R}
    (h : checkContainerBaseline bl cid pps a = some a') :
    ContainerAcc.Raises a (Trigger.containerPpsZscore.when (bl.anomalous pps)) a' := by
  rcases of_zscoreCheck h with ⟨hrel, h⟩ | ⟨-, hz, h⟩ | ⟨-, hz, z, h⟩
  · rw [anomalous_of_not_reliable hrel]
    cases h
    exact .refl a
  · rw [hz]
    cases h
    exact .refl a
  · rw [hz]
    cases h
    exact .report (Bool.or_false _).symm

omit [PyNum R] in
theorem checkContainerDsts_raises (cid : HostId) (count : Int) (a : ContainerAcc R) :
    ContainerAcc.Raises a (Trigger.containerUniqueDstScan.when ((uniqueDstScanThreshold : Int) ≤ count))
      (checkContainerDsts cid count a) := by
  unfold checkContainerDsts
  by_cases h : (uniqueDstScanThreshold : Int) ≤ count
  · rw [if_pos h, decide_eq_true h]
    exact .report (Bool.or_false _).symm
  · rw [if_neg h, decide_eq_false h]
    exact .refl a

theorem analyzeContainer_raises {x : HostId × ContainerAgg R} {b b' : HostBaselines R} {a a' : ContainerAcc R}
    (h : analyzeContainer x b a = (b', some a')) : ContainerAcc.Raises a (containerTriggers b x.2) a' := by
  unfold analyzeContainer at h
  split at h
  · cases h
  · rename_i a₁ heq
    have hlast := (checkContainerBaseline_raises heq).trans (checkContainerDsts_raises x.1 x.2.uniqueDstCount a₁)
    have hall := (checkRestarts_raises x.1 x.2 a).trans
      ((checkOoms_raises x.1 x.2 _).trans ((checkContainerPps_raises x.1 x.2.ppsTx _).trans hlast))
    obtain ⟨-, h⟩ := Prod.mk.inj h
    split at h
    · cases h
      exact hall
    · cases h

/-! ### What an analysis returns -/

/-- The triggers of each source of the flows, against the baselines of the call. -/
def flowTriggers (s : Baselines R) (flows : List (Flow R)) : List (HostId × List Trigger) :=
  ((flows.foldlM aggregateFlow []).getD []).map fun x => (x.1, hostTriggers (s x.1) x.2)

/-- The triggers of each container. -/
def metricTriggers (s : Baselines R) (metrics : List (ContainerMetric R)) : List (HostId × List Trigger) :=
  ((metrics.foldlM aggregateMetric []).getD []).map fun x => (x.1, containerTriggers (s x.1) x.2)

/-- All triggers of a list of hosts. -/
def raised (hosts : List (HostId × List Trigger)) : List Trigger := hosts.flatMap Prod.snd

theorem analyzeFlows_spec {s s' : Baselines R} {flows : List (Flow R)} {a : Acc R}
    (h : analyzeFlows s flows = (s', some a)) : ({} : Acc R).Raises (raised (flowTriggers s flows)) a := by
  have h₂ : (analyzeFlows s flows).2 = some a := by rw [h]
  obtain ⟨hosts, hg, hloop⟩ := KeyedStore.groups_of_groupLoop h₂
  have hkeys : (hosts.map Prod.fst).Nodup := KeyedStore.nodup_keys_foldlM collects_aggregateFlow hg List.nodup_nil
  have hlog := KeyedStore.loop_log (fun a : Acc R => a.evidence.triggers)
    (fun x b => hostTriggers b x.2) (fun h => (analyzeHost_raises h).triggers) hkeys hloop
  have hscore := KeyedStore.loop_invariant (P := fun a : Acc R => a.score = totalScore a.evidence.triggers)
    (fun h hp => by rw [(analyzeHost_raises h).score, (analyzeHost_raises h).triggers, totalScore_append, hp])
    hloop rfl
  unfold raised flowTriggers
  rw [hg, Option.getD_some, List.flatMap_map]
  refine ⟨hlog, hscore.trans ?_⟩
  rw [hlog]
  exact (Nat.zero_add _).symm

theorem analyzeContainerMetrics_spec {s s' : Baselines R} {metrics : List (ContainerMetric R)}
    {a : ContainerAcc R} (h : analyzeContainerMetrics s metrics = (s', some a)) :
    ContainerAcc.Raises (R := R) ({}, false) (raised (metricTriggers s metrics)) a := by
  have h₂ : (analyzeContainerMetrics s metrics).2 = some a := by rw [h]
  obtain ⟨containers, hg, hloop⟩ := KeyedStore.groups_of_groupLoop h₂
  have hkeys : (containers.map Prod.fst).Nodup :=
    KeyedStore.nodup_keys_foldlM collects_aggregateMetric hg List.nodup_nil
  have hlog := KeyedStore.loop_log (fun a : ContainerAcc R => a.1.evidence.triggers)
    (fun x b => containerTriggers b x.2) (fun h => (analyzeContainer_raises h).acc.triggers) hkeys hloop
  have hkept := KeyedStore.loop_invariant
    (P := fun a : ContainerAcc R => a.1.score = totalScore a.1.evidence.triggers ∧
      a.2 = a.1.evidence.triggers.any Trigger.isAbuse)
    (fun h hp => by
      obtain ⟨hacc, habuse⟩ := analyzeContainer_raises h
      exact ⟨by rw [hacc.score, hacc.triggers, totalScore_append, hp.1],
        by rw [habuse, hacc.triggers, List.any_append, hp.2]⟩)
    hloop ⟨rfl, rfl⟩
  unfold raised metricTriggers
  rw [hg, Option.getD_some, List.flatMap_map]
  refine ⟨⟨hlog, hkept.1.trans ?_⟩, hkept.2.trans ?_⟩
  · rw [hlog]
    exact (Nat.zero_add _).symm
  · rw [hlog]
    rfl

end DDoS
end SocFabric
