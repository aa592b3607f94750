import SocFabric.Lib.KeyedStore
import SocFabric.Lib.PyNum
import SocFabric.Lib.Text

/-!
# The DDoS detector (`soc-backend/domain/investigations/DDoSDetector.py`)

`EWMABaseline` and `DDoSDetector.analyze` with both of its analyses. The detector's state is a store
of baselines, by host (an IP or a container id, `none` for Python's `None`) and metric; a missing
baseline is a fresh one, as in the `defaultdict`. An exception ends a call with the baselines
written so far.
-/

namespace SocFabric
namespace DDoS

variable {R : Type} [PyNum R]

/-! ### Configuration -/

def ppsHardThreshold : R := PyNum.lit 5000
def zscoreThreshold : R := PyNum.lit 3
def baselineMinSamples : Nat := 5
def uniqueDstScanThreshold : Nat := 50
def uniqueDstExtremeThreshold : Nat := 200
def containerRestartStorm : Nat := 5
def containerOomThreshold : Nat := 2
def byteBurstMultiplier : R := PyNum.lit 10
def ewmaAlpha : R := PyNum.lit (1 / 5)

inductive Trigger
  | ppsHardThreshold
  | ppsZscoreAnomaly
  | byteBurstAnomaly
  | byteBurstHardMultiplier
  | uniqueDstExtreme
  | uniqueDstScan
  | containerRestartStorm
  | containerOomKill
  | containerPpsFlood
  | containerPpsZscore
  | containerUniqueDstScan
deriving DecidableEq, Repr

def Trigger.score : Trigger → Nat
  | ppsHardThreshold => 70
  | ppsZscoreAnomaly => 50
  | byteBurstAnomaly => 45
  | byteBurstHardMultiplier => 45 / 2
  | uniqueDstExtreme => 75
  | uniqueDstScan => 40
  | containerRestartStorm => 35
  | containerOomKill => 40
  | containerPpsFlood => 70
  | containerPpsZscore => 50
  | containerUniqueDstScan => 40

def Trigger.text : Trigger → String
  | ppsHardThreshold => "pps_hard_threshold"
  | ppsZscoreAnomaly => "pps_zscore_anomaly"
  | byteBurstAnomaly => "byte_burst_anomaly"
  | byteBurstHardMultiplier => "byte_burst_hard_multiplier"
  | uniqueDstExtreme => "unique_dst_extreme"
  | uniqueDstScan => "unique_dst_scan"
  | containerRestartStorm => "container_restart_storm"
  | containerOomKill => "container_oom_kill"
  | containerPpsFlood => "container_pps_flood"
  | containerPpsZscore => "container_pps_zscore"
  | containerUniqueDstScan => "container_unique_dst_scan"

/-! ### EWMA baselines -/

structure EWMABaseline (R : Type) where
  alpha : R
  mean : Option R := none
  var : Option R := none
  n : Nat := 0
deriving DecidableEq, Repr

namespace EWMABaseline

def fresh : EWMABaseline R := { alpha := ewmaAlpha }

def nextMean (b : EWMABaseline R) (mean value : R) : Option (R × R) := do
  let delta ← PyNum.sub value mean
  let mean' ← PyNum.add mean (← PyNum.mul b.alpha delta)
  return (delta, mean')

def nextVar (b : EWMABaseline R) (delta : R) : Option R := do
  let weighted ← PyNum.mul b.alpha (← PyNum.square delta)
  PyNum.mul (← PyNum.sub (PyNum.ofInt 1) b.alpha) (← PyNum.add (← b.var) weighted)

/-- The baseline after the call, and whether the call returned. -/
def update (b : EWMABaseline R) (value : R) : EWMABaseline R × Bool :=
  match b.mean with
  | none => ({ b with mean := some value, var := some (PyNum.lit 0), n := b.n + 1 }, true)
  | some mean =>
    match b.nextMean mean value with
    | none => (b, false)
    | some (delta, mean') =>
      match b.nextVar delta with
      | none => ({ b with mean := some mean' }, false) -- the mean is assigned already
      | some var' => ({ b with mean := some mean', var := some var', n := b.n + 1 }, true)

def std (b : EWMABaseline R) : R :=
  match b.var with
  | none => PyNum.lit 1
  | some var => if PyNum.le var (PyNum.ofInt 0) then PyNum.lit 1 else PyNum.sqrt var

def isReliable (b : EWMABaseline R) : Bool := baselineMinSamples ≤ b.n

def zscore (b : EWMABaseline R) (value : R) : Option R :=
  match b.mean with
  | none => some (PyNum.lit 0)
  | some mean =>
    if b.n < baselineMinSamples then some (PyNum.lit 0)
    else do PyNum.div (← PyNum.sub value mean) b.std

end EWMABaseline

abbrev HostBaselines (R : Type) := String → EWMABaseline R

/-- An IP address or a container id; `none` is Python's `None`. -/
abbrev HostId := Option String

abbrev Baselines (R : Type) := HostId → HostBaselines R

def freshBaselines : Baselines R := fun _ _ => .fresh

/-- `update_baseline` for one host; an exception leaves the later metrics alone. -/
def updateBaseline (b : HostBaselines R) : List (String × R) → HostBaselines R × Bool
  | [] => (b, true)
  | (metric, value) :: metrics =>
    match (b metric).update value with
    | (bl, true) => updateBaseline (Function.update b metric bl) metrics
    | (bl, false) => (Function.update b metric bl, false)

/-! ### Evidence -/

/-- The evidence dict: its entries are dicts, apart from the triggers. -/
structure Evidence (R : Type) where
  entries : List (String × List (String × PyVal R)) := []
  triggers : List Trigger := []
deriving DecidableEq, Repr

structure Acc (R : Type) where
  score : Nat := 0
  evidence : Evidence R := {}
deriving DecidableEq, Repr

def idVal : HostId → PyVal R
  | some s => .str s
  | none => .none

def Acc.trigger (a : Acc R) (t : Trigger) : Acc R :=
  ⟨a.score + t.score, { a.evidence with triggers := a.evidence.triggers ++ [t] }⟩

/-- A trigger whose evidence replaces that of an earlier host. -/
def Acc.report (a : Acc R) (t : Trigger) (name : String) (entry : List (String × PyVal R)) : Acc R :=
  { a.trigger t with
    evidence := ⟨KeyedStore.put name entry a.evidence.entries, (a.trigger t).evidence.triggers⟩ }

/-! ### Flow analysis -/

/-- The fields of a flow event that the detector reads. `none` is a missing key; `some none` a
`None`. -/
structure Flow (R : Type) where
  sourceIP : Option HostId := none
  destinationIP : Option HostId := none
  bytesOut : PyVal R := .none
  ppsTx : PyVal R := .none
deriving DecidableEq, Repr

structure HostAgg (R : Type) where
  bytesOut : Int := 0
  ppsTx : R
  uniqueDsts : List String := []
  flowCount : Nat := 0
deriving DecidableEq, Repr

def Flow.source (f : Flow R) : HostId := f.sourceIP.getD (some "unknown")

def addDst (dst : Option HostId) (dsts : List String) : List String :=
  match Text.truthy (dst.getD (some "")) with
  | some d => if d ∈ dsts then dsts else dsts ++ [d]
  | none => dsts

def aggregateFlow (hosts : List (HostId × HostAgg R)) (f : Flow R) : Option (List (HostId × HostAgg R)) := do
  let host := (hosts.lookup f.source).getD { ppsTx := PyNum.lit 0 }
  let bytes ← f.bytesOut.toInt
  let pps ← PyNum.add host.ppsTx (← f.ppsTx.toFloat)
  return KeyedStore.put f.source
    ⟨host.bytesOut + bytes, pps, addDst f.destinationIP host.uniqueDsts, host.flowCount + 1⟩ hosts

def checkPps (src : HostId) (pps : R) (a : Acc R) : Acc R :=
  if PyNum.le ppsHardThreshold pps then
    a.report .ppsHardThreshold "pps_flood"
      [("src_ip", idVal src), ("pps_tx", .num pps), ("threshold", .num ppsHardThreshold)]
  else a

def checkPpsBaseline (bl : EWMABaseline R) (src : HostId) (pps : R) (a : Acc R) : Option (Acc R) :=
  if bl.isReliable then do
    let z ← bl.zscore pps
    if PyNum.le zscoreThreshold z then
      let mean ← bl.mean
      return a.report .ppsZscoreAnomaly "pps_zscore"
        [("src_ip", idVal src), ("pps_observed", .num pps), ("baseline_mean", .num (PyNum.round2 mean)),
          ("zscore", .num (PyNum.round2 z))]
    else return a
  else some a

def exceedsMultiple (bl : EWMABaseline R) (bytes : R) : Option Bool :=
  match bl.mean with
  | none => some false
  | some mean =>
    if PyNum.isZero mean then some false
    else do return PyNum.le (← PyNum.mul mean byteBurstMultiplier) bytes

def checkBytesBaseline (bl : EWMABaseline R) (src : HostId) (bytes : Int) (a : Acc R) : Option (Acc R) :=
  if bl.isReliable then do
    let z ← bl.zscore (PyNum.ofInt bytes)
    if PyNum.le zscoreThreshold z then
      let mean ← bl.mean
      return a.report .byteBurstAnomaly "byte_burst"
        [("src_ip", idVal src), ("bytes_out", .int bytes), ("baseline_mean", .num (PyNum.round2 mean)),
          ("zscore", .num (PyNum.round2 z))]
    else return a
  else do
    return if ← exceedsMultiple bl (PyNum.ofInt bytes) then a.trigger .byteBurstHardMultiplier else a

def checkUniqueDsts (src : HostId) (count : Nat) (a : Acc R) : Acc R :=
  if uniqueDstExtremeThreshold ≤ count then
    a.report .uniqueDstExtreme "unique_dst_flood"
      [("src_ip", idVal src), ("unique_dest_count", .int count), ("threshold", .int uniqueDstExtremeThreshold)]
  else if uniqueDstScanThreshold ≤ count then
    a.report .uniqueDstScan "unique_dst_scan"
      [("src_ip", idVal src), ("unique_dest_count", .int count), ("threshold", .int uniqueDstScanThreshold)]
  else a

def analyzeHost (x : HostId × HostAgg R) (b : HostBaselines R) (a : Acc R) :
    HostBaselines R × Option (Acc R) :=
  match (checkPpsBaseline (b "pps_tx") x.1 x.2.ppsTx (checkPps x.1 x.2.ppsTx a)).bind
      (checkBytesBaseline (b "bytes_out") x.1 x.2.bytesOut) with
  | none => (b, none)
  | some a' =>
    ((updateBaseline b [("pps_tx", x.2.ppsTx), ("bytes_out", PyNum.ofInt x.2.bytesOut)]).1,
      if (updateBaseline b [("pps_tx", x.2.ppsTx), ("bytes_out", PyNum.ofInt x.2.bytesOut)]).2 then
        some (checkUniqueDsts x.1 x.2.uniqueDsts.length a')
      else none)

def analyzeFlows (s : Baselines R) (flows : List (Flow R)) : Baselines R × Option (Acc R) :=
  KeyedStore.groupLoop aggregateFlow analyzeHost flows s {}

/-! ### Container analysis -/

structure ContainerMetric (R : Type) where
  containerID : Option HostId := none
  containerName : Option HostId := none
  lifecycleEvent : HostId := none
  ppsTx : PyVal R := .none
  uniqueDstCount : PyVal R := .none
deriving DecidableEq, Repr

structure ContainerAgg (R : Type) where
  restarts : Nat := 0
  ooms : Nat := 0
  ppsTx : R
  uniqueDstCount : Int := 0
  name : HostId := some ""
deriving DecidableEq, Repr

def ContainerMetric.id (m : ContainerMetric R) : HostId := m.containerID.getD (some "unknown")

def ContainerMetric.event (m : ContainerMetric R) : String := Text.lower (Text.pyOr m.lifecycleEvent "")

def aggregateMetric (containers : List (HostId × ContainerAgg R)) (m : ContainerMetric R) :
    Option (List (HostId × ContainerAgg R)) := do
  let c := (containers.lookup m.id).getD { ppsTx := PyNum.lit 0 }
  let pps ← m.ppsTx.toFloat
  let dsts ← m.uniqueDstCount.toInt
  return KeyedStore.put m.id
    { restarts := if m.event = "restart" then c.restarts + 1 else c.restarts
      ooms := if m.event = "oom" then c.ooms + 1 else c.ooms
      ppsTx := if PyNum.lt c.ppsTx pps then pps else c.ppsTx
      uniqueDstCount := max c.uniqueDstCount dsts
      name := m.containerName.getD m.id } containers

abbrev ContainerAcc (R : Type) := Acc R × Bool

def checkRestarts (cid : HostId) (c : ContainerAgg R) (a : ContainerAcc R) : ContainerAcc R :=
  if containerRestartStorm ≤ c.restarts then
    (a.1.report .containerRestartStorm "container_restart_storm"
      [("container_id", idVal cid), ("container_name", idVal c.name), ("restart_count", .int c.restarts),
        ("threshold", .int containerRestartStorm)], true)
  else a

def checkOoms (cid : HostId) (c : ContainerAgg R) (a : ContainerAcc R) : ContainerAcc R :=
  if containerOomThreshold ≤ c.ooms then
    (a.1.report .containerOomKill "container_oom"
      [("container_id", idVal cid), ("container_name", idVal c.name), ("oom_count", .int c.ooms)], true)
  else a

def checkContainerPps (cid : HostId) (pps : R) (a : ContainerAcc R) : ContainerAcc R :=
  if PyNum.le ppsHardThreshold pps then
    (a.1.report .containerPpsFlood "container_pps_flood"
      [("container_id", idVal cid), ("pps_tx", .num pps), ("threshold", .num ppsHardThreshold)], a.2)
  else a

def checkContainerBaseline (bl : EWMABaseline R) (cid : HostId) (pps : R) (a : ContainerAcc R) :
    Option (ContainerAcc R) :=
  if bl.isReliable then do
    let z ← bl.zscore pps
    if PyNum.le zscoreThreshold z then
      return (a.1.report .containerPpsZscore "container_pps_zscore"
        [("container_id", idVal cid), ("pps_observed", .num pps), ("zscore", .num (PyNum.round2 z))], a.2)
    else return a
  else some a

def checkContainerDsts (cid : HostId) (count : Int) (a : ContainerAcc R) : ContainerAcc R :=
  if (uniqueDstScanThreshold : Int) ≤ count then
    (a.1.report .containerUniqueDstScan "container_unique_dst"
      [("container_id", idVal cid), ("unique_dest_count", .int count)], a.2)
  else a

def analyzeContainer (x : HostId × ContainerAgg R) (b : HostBaselines R) (a : ContainerAcc R) :
    HostBaselines R × Option (ContainerAcc R) :=
  match checkContainerBaseline (b "pps_tx") x.1 x.2.ppsTx
      (checkContainerPps x.1 x.2.ppsTx (checkOoms x.1 x.2 (checkRestarts x.1 x.2 a))) with
  | none => (b, none)
  | some a' =>
    ((updateBaseline b [("pps_tx", x.2.ppsTx)]).1,
      if (updateBaseline b [("pps_tx", x.2.ppsTx)]).2 then
        some (checkContainerDsts x.1 x.2.uniqueDstCount a')
      else none)

def analyzeContainerMetrics (s : Baselines R) (metrics : List (ContainerMetric R)) :
    Baselines R × Option (ContainerAcc R) :=
  KeyedStore.groupLoop aggregateMetric analyzeContainer metrics s ({}, false)

/-! ### The finding -/

inductive Category
  | ddos
  | containerAbuse
deriving DecidableEq, Repr

inductive Action
  | throttleContainer
  | isolateLanClient
  | none
deriving DecidableEq, Repr

/-- A finding without its random id and its creation time; the status is always open. -/
structure Finding (R : Type) where
  tenantID : String
  endpointID : Option String
  category : Category
  score : Nat
  evidence : Evidence R
  totalScore : Nat
  sourceIP : HostId
  recommendedAction : Action
deriving DecidableEq, Repr

/-- A call of `analyze`; `container_metrics` of `None` is the empty list. -/
structure Call (R : Type) where
  flowEvents : List (Flow R)
  containerMetrics : List (ContainerMetric R) := []
  endpointID : Option String := none
  tenantID : String := "default-tenant"
deriving DecidableEq, Repr

inductive Result (R : Type)
  | raised
  | returned (finding : Option (Finding R))
deriving DecidableEq, Repr

def Evidence.update (e e' : Evidence R) : Evidence R :=
  ⟨e'.entries.foldl (fun entries x => KeyedStore.put x.1 x.2 entries) e.entries, e'.triggers⟩

/-- An analysis without a score returns no evidence. -/
def Evidence.updateFrom (e : Evidence R) (a : Acc R) : Evidence R :=
  if 0 < a.score then e.update a.evidence else e

def sourceCounts (flows : List (Flow R)) : List (String × Nat) :=
  flows.foldl (fun counts f =>
    match Text.truthy (f.sourceIP.getD (some "")) with
    | some ip => KeyedStore.put ip ((counts.lookup ip).getD 0 + 1) counts
    | none => counts) []

/-- `max(counts, key=counts.get)`: the first of the largest. -/
def mostFrequent : List (String × Nat) → Option (String × Nat)
  | [] => none
  | x :: xs =>
    match mostFrequent xs with
    | some y => if x.2 < y.2 then some y else some x
    | none => some x

def primarySource (flows : List (Flow R)) (metrics : List (ContainerMetric R)) : HostId :=
  match mostFrequent (sourceCounts flows) with
  | some x => some x.1
  | none =>
    match metrics with
    | m :: _ => m.containerID.getD (some "unknown-container")
    | [] => some "unknown"

def recommendedAction (category : Category) (score : Nat) : Action :=
  match category with
  | .containerAbuse => .throttleContainer
  | .ddos => if 70 ≤ score then .isolateLanClient else .none

def buildFinding (c : Call R) (threshold : Nat) (flow : Acc R) (container : ContainerAcc R) :
    Option (Finding R) :=
  if flow.score + container.1.score < threshold then none
  else
    some
      { tenantID := c.tenantID
        endpointID := c.endpointID
        category := if container.2 then .containerAbuse else .ddos
        score := min (flow.score + container.1.score) 100
        evidence := (Evidence.updateFrom {} flow).updateFrom container.1
        totalScore := flow.score + container.1.score
        sourceIP := primarySource c.flowEvents c.containerMetrics
        recommendedAction := recommendedAction (if container.2 then .containerAbuse else .ddos)
          (min (flow.score + container.1.score) 100) }

/-- `analyze` of a detector with the given score threshold. The analyses of empty lists, which the
source skips, change nothing and score nothing. -/
def analyze (threshold : Nat) (s : Baselines R) (c : Call R) : Baselines R × Result R :=
  match analyzeFlows s c.flowEvents with
  | (s', none) => (s', .raised)
  | (s', some flow) =>
    match analyzeContainerMetrics s' c.containerMetrics with
    | (s'', none) => (s'', .raised)
    | (s'', some container) => (s'', .returned (buildFinding c threshold flow container))

def scoreThreshold : Nat := 60

/-! ### Groups -/

/-- The two ways to compare hosts. -/
theorem lookup_instBEq {G : Type} (k : HostId) (d : List (HostId × G)) :
    @List.lookup HostId G instBEqOfDecidableEq k d = d.lookup k := by
  rw [lawful_beq_subsingleton (instBEqOfDecidableEq : BEq HostId) inferInstance]

theorem collects_aggregateFlow : KeyedStore.Collects (Flow.source (R := R)) aggregateFlow := by
  intro d f d' h
  obtain ⟨bytes, -, h⟩ := Option.bind_eq_some_iff.mp h
  obtain ⟨tx, -, h⟩ := Option.bind_eq_some_iff.mp h
  obtain ⟨pps, -, h⟩ := Option.bind_eq_some_iff.mp h
  cases h
  exact ⟨_, rfl⟩

theorem collects_aggregateMetric : KeyedStore.Collects (ContainerMetric.id (R := R)) aggregateMetric := by
  intro d m d' h
  obtain ⟨pps, -, h⟩ := Option.bind_eq_some_iff.mp h
  obtain ⟨dsts, -, h⟩ := Option.bind_eq_some_iff.mp h
  cases h
  exact ⟨_, rfl⟩

end DDoS
end SocFabric
