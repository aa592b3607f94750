import Mathlib.Data.List.Sort
import SocFabric.RatDetector

/-!
# Beacons (`domain/investigations/RatDetector.py`, `AntigravityTriageAgent.py`)

`_check_beacon_pattern` groups the flows of one call by connection and looks for regular intervals
in groups of at least four. `execute_triage` hands the detector the flow of its own telemetry and no
other, and the detector keeps nothing between calls, so no call ever has a group to look at
(`beacon_never_triggers`).
-/

namespace SocFabric
namespace Rat
open Triage

/-! ### Timestamps and statistics -/

/-- A point in time in microseconds; an aware one cannot be compared with a naive one. -/
structure Datetime where
  micros : Int
  aware : Bool
deriving DecidableEq, Repr

/-- Python's `datetime` and `statistics`: `datetime` is `fromisoformat(str(v).replace("Z",
"+00:00"))` or fails, and `totalSeconds` is that of a `timedelta` in microseconds. -/
structure BeaconLib (R : Type) where
  datetime : PyVal R → Option Datetime
  totalSeconds : Int → R
  mean : List R → R
  stdev : List R → R
  round : R → Nat → R
  json : PyVal R → Json

def beaconMinSamples : Nat := 4

def beaconMaxIntervalS : Rat := 300

def beaconJitterCvThreshold : Rat := 15 / 100

def scoreBeacon : Int := 60

def scoreBeaconHighJitter : Int := 35

variable {R : Type} [PyNum R]

/-- An address that is no string has no `startswith`. -/
def isExternalIp : PyVal R → Option Bool
  | .str ip =>
    some (ip ≠ "" && !(Text.startsWith ip "10." || Text.startsWith ip "192.168." || Text.startsWith ip "172." ||
      Text.startsWith ip "127." || ip = "0.0.0.0" || ip = "::" || ip = "::1"))
  | v => if v.truth then none else some false

/-! ### Groups of one connection -/

structure BeaconKey (R : Type) where
  src : PyVal R
  dst : String
  port : PyVal R

/-- Python `==` on hashable values: numbers are equal across their types. -/
def pyEq : PyVal R → PyVal R → Bool
  | .none, .none => true
  | .str a, .str b => a = b
  | .datetime m a, .datetime n b => m = n && a = b
  | a, b =>
    match a.number, b.number with
    | some x, some y => PyNum.le x y && PyNum.le y x
    | _, _ => false

def BeaconKey.eq (k l : BeaconKey R) : Bool := pyEq k.src l.src && k.dst = l.dst && pyEq k.port l.port

def hashable : PyVal R → Bool
  | .other _ => false
  | _ => true

/-- The point in time of a flow; a missing timestamp, and one that does not parse, has none. -/
def timestamp (lib : BeaconLib R) (f : Telemetry R) : Option Datetime :=
  match f.get "timestamp" .none with
  | .none => none
  | .datetime micros aware => some ⟨micros, aware⟩
  | v => lib.datetime v

/-- What a flow adds to the groups, if anything; the outer `none` is an exception. -/
def sample (lib : BeaconLib R) (f : Telemetry R) : Option (Option (BeaconKey R × Datetime)) :=
  match f.get "destination_ip" (.str ""), isExternalIp (f.get "destination_ip" (.str "")) with
  | .str dst, some true =>
    match timestamp lib f with
    | none => some none
    | some ts =>
      if hashable (f.get "source_ip" (.str "")) && hashable (f.get "destination_port" (.int 0)) then
        some (some (⟨f.get "source_ip" (.str ""), dst, f.get "destination_port" (.int 0)⟩, ts))
      else none
  | _, some _ => some none
  | _, none => none

abbrev Groups (R : Type) := List (BeaconKey R × List Datetime)

/-- `groups.setdefault(key, []).append(ts)`. -/
def addSample (k : BeaconKey R) (ts : Datetime) : Groups R → Groups R
  | [] => [(k, [ts])]
  | g :: gs => if k.eq g.1 then (g.1, g.2 ++ [ts]) :: gs else g :: addSample k ts gs

def addFlow (lib : BeaconLib R) (gs : Groups R) (f : Telemetry R) : Option (Groups R) :=
  (sample lib f).map fun
    | some (k, ts) => addSample k ts gs
    | none => gs

def groupFlows (lib : BeaconLib R) (flows : List (Telemetry R)) : Option (Groups R) :=
  flows.foldlM (addFlow lib) []

/-! ### The check -/

def computeBeaconIntervals (lib : BeaconLib R) (timestamps : List Datetime) : List R :=
  let sorted := timestamps.insertionSort fun a b => a.micros ≤ b.micros
  sorted.tail.zipWith (fun b a => lib.totalSeconds (b.micros - a.micros)) sorted

def coefficientOfVariation (lib : BeaconLib R) (values : List R) : Option R :=
  if PyNum.isZero (lib.mean values) then some (PyNum.lit 1) else PyNum.div (lib.stdev values) (lib.mean values)

inductive BeaconPattern
  | highConfidence
  | moderateJitter
deriving DecidableEq, Repr

def BeaconPattern.text : BeaconPattern → String
  | highConfidence => "high_confidence_beacon"
  | moderateJitter => "moderate_jitter_beacon"

def beaconEvidence (lib : BeaconLib R) (k : BeaconKey R) (timestamps : List Datetime) (cv : R)
    (pattern : BeaconPattern) : List (String × Json) :=
  [("src_ip", lib.json k.src), ("dst_ip", .str k.dst), ("dst_port", lib.json k.port),
    ("sample_count", .num timestamps.length),
    ("avg_interval_s", lib.json (.num (lib.round (lib.mean (computeBeaconIntervals lib timestamps)) 2))),
    ("jitter_cv", lib.json (.num (lib.round cv 4))), ("pattern", .str pattern.text)]

/-- What one group shows; the outer `none` is an exception. -/
def checkGroup (lib : BeaconLib R) (g : BeaconKey R × List Datetime) :
    Option (Option (BeaconPattern × List (String × Json))) :=
  if g.2.length < beaconMinSamples then some none
  else if !(g.2.all (·.aware) || g.2.all (!·.aware)) then none
  else
    match coefficientOfVariation lib (computeBeaconIntervals lib g.2) with
    | none => none
    | some cv =>
      if PyNum.lt (PyNum.lit beaconMaxIntervalS) (lib.mean (computeBeaconIntervals lib g.2)) then some none
      else if PyNum.le cv (PyNum.lit beaconJitterCvThreshold) then
        some (some (.highConfidence, beaconEvidence lib g.1 g.2 cv .highConfidence))
      else if PyNum.le cv (PyNum.lit (beaconJitterCvThreshold * 2)) then
        some (some (.moderateJitter, beaconEvidence lib g.1 g.2 cv .moderateJitter))
      else some none

def scanGroups (lib : BeaconLib R) : Groups R → CheckResult → Option CheckResult
  | [], best => some best
  | g :: gs, best =>
    match checkGroup lib g with
    | none => none
    | some none => scanGroups lib gs best
    | some (some (.highConfidence, ev)) => some ⟨scoreBeacon, some ev⟩
    | some (some (.moderateJitter, ev)) =>
      scanGroups lib gs (if scoreBeaconHighJitter > best.score then ⟨scoreBeaconHighJitter, some ev⟩ else best)

def checkBeaconPattern (lib : BeaconLib R) (flows : List (Telemetry R)) : Option CheckResult :=
  (groupFlows lib flows).bind fun gs => scanGroups lib gs ⟨0, none⟩

/-! ### Calls of execute_triage -/

variable {P : Type}

/-- A call, with its process events. -/
structure RatCall (R P : Type) where
  telemetry : Telemetry R
  processEvents : List P := []
  tenantID : String := "default-tenant"

def flowForDetectors (t : Telemetry R) : List (Telemetry R) :=
  if (t.get "source_ip" .none).truth then [t] else []

/-- The detector's answer to a call, which it is not asked for if the flow analysis raises. The
other checks are an argument. -/
def ratResult (lib : BeaconLib R) (others : Checks (Telemetry R) P) (c : RatCall R P) : Option Result :=
  (analyzeFlowFeatures c.telemetry).map fun _ =>
    analyze { others with beaconPattern := checkBeaconPattern lib } 55 (flowForDetectors c.telemetry)
      (some c.processEvents) none c.tenantID

def BeaconTriggered (r : Option Result) : Prop :=
  ∃ f, r = some (.returned (some f)) ∧ "beacon_pattern" ∈ f.evidence.triggers

/-! ### Too few samples -/

section
variable {lib : BeaconLib R} {gs gs' : Groups R} {g : BeaconKey R × List Datetime} {n : Nat}

theorem length_addSample_le {k : BeaconKey R} {ts : Datetime} (h : ∀ g ∈ gs, g.2.length ≤ n)
    (hg : g ∈ addSample k ts gs) : g.2.length ≤ n + 1 := by
  induction gs with
  | nil =>
    rw [List.mem_singleton.mp hg]
    exact Nat.le_add_left 1 n
  | cons g₀ gs ih =>
    have hhead := h g₀ List.mem_cons_self
    have htail : ∀ g ∈ gs, g.2.length ≤ n := fun g hg => h g (List.mem_cons_of_mem g₀ hg)
    rw [addSample] at hg
    split_ifs at hg
    · rcases List.mem_cons.mp hg with rfl | hg
      · rw [List.length_append, List.length_singleton]
        omega
      · exact (htail g hg).trans (Nat.le_succ n)
    · rcases List.mem_cons.mp hg with rfl | hg
      · omega
      · exact ih htail hg

theorem length_addFlow_le {f : Telemetry R} (h : ∀ g ∈ gs, g.2.length ≤ n)
    (hadd : addFlow lib gs f = some gs') (hg : g ∈ gs') : g.2.length ≤ n + 1 := by
  rw [addFlow, Option.map_eq_some_iff] at hadd
  obtain ⟨s, -, rfl⟩ := hadd
  cases s with
  | none => exact (h g hg).trans (Nat.le_succ n)
  | some kt => exact length_addSample_le h hg

/-- A group has no more samples than there are flows. -/
theorem length_groupFlows_le {flows : List (Telemetry R)} (h : groupFlows lib flows = some gs) :
    ∀ g ∈ gs, g.2.length ≤ flows.length := by
  induction flows using List.reverseRecOn generalizing gs with
  | nil =>
    cases h
    simp
  | append_singleton flows f ih =>
    rw [groupFlows, List.foldlM_append, Option.bind_eq_bind, Option.bind_eq_some_iff] at h
    obtain ⟨gs₀, hgs₀, hadd⟩ := h
    rw [List.foldlM_cons, Option.bind_eq_bind, Option.bind_eq_some_iff] at hadd
    obtain ⟨gs₁, hadd, heq⟩ := hadd
    cases heq
    rw [List.length_append, List.length_singleton]
    exact fun g hg => length_addFlow_le (ih hgs₀) hadd hg

theorem scanGroups_of_short (h : ∀ g ∈ gs, g.2.length < beaconMinSamples) (best : CheckResult) :
    scanGroups lib gs best = some best := by
  induction gs with
  | nil => rfl
  | cons g gs ih =>
    have hg : checkGroup lib g = some none := by rw [checkGroup, if_pos (h g List.mem_cons_self)]
    rw [scanGroups, hg]
    exact ih fun g' hg' => h g' (List.mem_cons_of_mem g hg')

/-- Fewer than four flows show no beacon. -/
theorem checkBeaconPattern_of_short {flows : List (Telemetry R)} (h : flows.length < beaconMinSamples)
    {r : CheckResult} (hr : checkBeaconPattern lib flows = some r) : r.evidence = none := by
  rw [checkBeaconPattern, Option.bind_eq_some_iff] at hr
  obtain ⟨gs, hgs, hscan⟩ := hr
  rw [scanGroups_of_short fun g hg => (length_groupFlows_le hgs g hg).trans_lt h] at hscan
  cases hscan
  rfl

end

/-! ### Triggers -/

theorem notMem_triggers_add {e : Evidence} {name : String} {triggers : List (String × Json) → List String}
    {r : CheckResult} {x : String} (he : x ∉ e.triggers)
    (ht : ∀ members, r.found = some members → x ∉ triggers members) : x ∉ (e.add name triggers r).triggers := by
  unfold Evidence.add
  split
  · next members hfound =>
    rw [List.mem_append, not_or]
    exact ⟨he, ht members hfound⟩
  · exact he

/-- The trigger stands for the evidence of its check. -/
theorem exists_beacon_evidence {F : Type} {checks : Checks F P} {flowEvents : List F} {processEvents : List P}
    {e : Evidence} (h : gather checks flowEvents processEvents = some e) (hbeacon : "beacon_pattern" ∈ e.triggers) :
    ∃ r, checks.beaconPattern flowEvents = some r ∧ r.evidence ≠ none := by
  simp only [gather, Option.bind_eq_bind, Option.bind_eq_some_iff, Option.pure_def, Option.some.injEq] at h
  obtain ⟨beacon, hb, unknownBinary, -, guiSpawn, -, novel, -, c2, -, rfl⟩ := h
  refine ⟨beacon, hb, fun hnone => ?_⟩
  -- Without evidence the check leaves no trigger, and the four checks after it have triggers of their own.
  have hfound : ∀ members, beacon.found ≠ some members := by
    intro members hm
    rw [CheckResult.found, hnone] at hm
    cases hm
  refine notMem_triggers_add (notMem_triggers_add (notMem_triggers_add (notMem_triggers_add
    (notMem_triggers_add List.not_mem_nil fun m hm => absurd hm (hfound m)) ?_) ?_) ?_) ?_ hbeacon
  · exact fun _ _ => by decide
  · exact fun _ _ => by decide
  · intro members _ hmem
    rw [novelTriggers, List.mem_filter] at hmem
    exact absurd hmem.1 (by decide)
  · exact fun _ _ => by decide

theorem gather_of_analyze {F : Type} {checks : Checks F P} {threshold : Int} {flowEvents : List F}
    {processEvents : Option (List P)} {endpointID : Option String} {tenantID : String} {f : Finding}
    (h : analyze checks threshold flowEvents processEvents endpointID tenantID = .returned (some f)) :
    gather checks flowEvents (processEvents.getD []) = some f.evidence := by
  obtain ⟨-, evidence, sourceIP, hgather, -, -, rfl⟩ := analyze_eq_found_iff.mp h
  exact hgather

theorem not_beaconTriggered (lib : BeaconLib R) (others : Checks (Telemetry R) P) (c : RatCall R P) :
    ¬ BeaconTriggered (ratResult lib others c) := by
  rintro ⟨f, hf, hbeacon⟩
  rw [ratResult, Option.map_eq_some_iff] at hf
  obtain ⟨-, -, hanalyze⟩ := hf
  obtain ⟨r, hr, hne⟩ := exists_beacon_evidence (gather_of_analyze hanalyze) hbeacon
  have hlen : (flowForDetectors c.telemetry).length < beaconMinSamples := by
    rw [flowForDetectors]
    split_ifs <;> simp [beaconMinSamples]
  exact hne (checkBeaconPattern_of_short hlen hr)

/-- Whatever a run of calls holds, no call's answer contains the beacon trigger: each call shows the
detector one flow at most. -/
theorem beacon_never_triggers (lib : BeaconLib R) (others : Checks (Telemetry R) P) (calls : List (RatCall R P)) :
    ¬ ∃ c ∈ calls, BeaconTriggered (ratResult lib others c) := by
  rintro ⟨c, -, h⟩
  exact not_beaconTriggered lib others c h

/-! ### A beacon -/

/-- Four or more calls show one connection to an external address at equal intervals of at most five
minutes. -/
def BeaconRun (lib : BeaconLib R) (calls : List (RatCall R P)) : Prop :=
  ∃ (sub : List (RatCall R P)) (src dst : String) (port start interval : Int),
    sub.Sublist calls ∧ 4 ≤ sub.length ∧ isExternalIp (.str dst : PyVal R) = some true ∧
    0 < interval ∧ interval ≤ 300000000 ∧
    ∀ (i : Nat) (c : RatCall R P), sub[i]? = some c →
      c.telemetry.get "source_ip" .none = .str src ∧ c.telemetry.get "destination_ip" .none = .str dst ∧
      c.telemetry.get "destination_port" .none = .int port ∧
      lib.datetime (c.telemetry.get "timestamp" .none) = some ⟨start + i * interval, true⟩

/-- Exact statistics, and the timestamps of four minutes. -/
def minuteLib : BeaconLib Rat where
  datetime
    | .str "2026-03-01T12:00:00Z" => some ⟨1772366400000000, true⟩
    | .str "2026-03-01T12:01:00Z" => some ⟨1772366460000000, true⟩
    | .str "2026-03-01T12:02:00Z" => some ⟨1772366520000000, true⟩
    | .str "2026-03-01T12:03:00Z" => some ⟨1772366580000000, true⟩
    | _ => none
  totalSeconds n := n / 1000000
  mean xs := xs.sum / xs.length
  stdev xs := PyNum.sqrt ((xs.map fun x => (x - xs.sum / xs.length) ^ 2).sum / (xs.length - 1))
  round x n := (roundEven (x * 10 ^ n) : Rat) / 10 ^ n
  json
    | .none => .null
    | .bool b => .bool b
    | .int n => .num n
    | .num x => .num x
    | .str s => .str s
    | .datetime _ _ | .other _ => .arr []

def beaconTelemetry (timestamp : String) : Telemetry Rat :=
  [("source_ip", .str "192.168.1.50"), ("destination_ip", .str "203.0.113.9"), ("destination_port", .int 443),
    ("timestamp", .str timestamp)]

def minuteBeacon : List (Telemetry Rat) :=
  ["2026-03-01T12:00:00Z", "2026-03-01T12:01:00Z", "2026-03-01T12:02:00Z", "2026-03-01T12:03:00Z"].map beaconTelemetry

-- Given together, the four flows are a beacon.
example : (checkBeaconPattern minuteLib minuteBeacon).map (·.score) = some 60 := by decide +kernel

def quietChecks : Checks (Telemetry Rat) Unit where
  beaconPattern _ := some ⟨0, none⟩
  unknownBinary _ _ := some ⟨0, none⟩
  guiSpawnScript _ := some ⟨0, none⟩
  novelDestination _ := some ⟨0, none⟩
  c2Domain _ := some ⟨0, none⟩
  primarySourceIP _ := some "192.168.1.50"

def minuteCalls : List (RatCall Rat Unit) := minuteBeacon.map fun t => { telemetry := t }

theorem minuteCalls_beacon : BeaconRun minuteLib minuteCalls := by
  refine ⟨minuteCalls, "192.168.1.50", "203.0.113.9", 443, 1772366400000000, 60000000, List.Sublist.refl _,
    by decide, by decide, by decide, by decide, ?_⟩
  intro i c hc
  match i, hc with
  | 0, rfl => exact ⟨rfl, rfl, rfl, rfl⟩
  | 1, rfl => exact ⟨rfl, rfl, rfl, rfl⟩
  | 2, rfl => exact ⟨rfl, rfl, rfl, rfl⟩
  | 3, rfl => exact ⟨rfl, rfl, rfl, rfl⟩

/-- A beacon of one flow a minute, each triaged by a call of its own. -/
theorem minute_beacon_missed :
    ¬ ∀ (lib : BeaconLib Rat) (others : Checks (Telemetry Rat) Unit) (calls : List (RatCall Rat Unit)),
      BeaconRun lib calls → ∃ c ∈ calls, BeaconTriggered (ratResult lib others c) := by
  intro h
  obtain ⟨c, -, hc⟩ := h minuteLib quietChecks minuteCalls minuteCalls_beacon
  exact not_beaconTriggered minuteLib quietChecks c hc

end Rat
end SocFabric
