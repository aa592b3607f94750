import SocFabric.CoverTraffic

/-!
# The unknown-binary rule (`RatDetector._check_unknown_binary`)

The docstring asks for a flow of an unknown process that is also long-lived, and the loop adds to
the score for either alone (`unknownBinaryEffect_counts`). So a call keeps the rule exactly when it
has a flow that is both, or none that is either (`rule_kept_iff`).
-/

namespace SocFabric
namespace Rat
open Triage RaisingLoop

variable {R : Type} [PyNum R] {lib : RatLib R} {names : List (Int × String)} {f : Telemetry R}
  {flows procs : List (Telemetry R)} {e : Effect} {r : CheckResult}

/-! ### Flows -/

def leavesNetwork (f : Telemetry R) : Bool := isExternalIp (destinationIp f) = some true

/-- The flow resolves to a process name. -/
def isNamed (names : List (Int × String)) (f : Telemetry R) : Bool :=
  (processName names f).any (· ≠ "")

/-- The flow resolves to a process name that is not allowlisted. -/
def isUnknown (names : List (Int × String)) (f : Telemetry R) : Bool :=
  (processName names f).any fun name => name ≠ "" ∧ name ∉ benignProcessAllowlist

def isAllowlisted (names : List (Int × String)) (f : Telemetry R) : Bool :=
  (processName names f).any (· ∈ benignProcessAllowlist)

/-- The flow lasts longer than 60 seconds. -/
def isLongLived (lib : RatLib R) (f : Telemetry R) : Bool :=
  (flowDuration lib f).any fun duration =>
    duration.truth && duration.toFloat.any (PyNum.lt (PyNum.ofInt 60000))

/-- What the rule is about. -/
def isSuspicious (lib : RatLib R) (names : List (Int × String)) (f : Telemetry R) : Bool :=
  leavesNetwork f && isUnknown names f && isLongLived lib f

/-- What the loop adds to the score for. -/
def isCounted (lib : RatLib R) (names : List (Int × String)) (f : Telemetry R) : Bool :=
  leavesNetwork f && isNamed names f && (isUnknown names f || isLongLived lib f)

theorem not_isUnknown_of_isAllowlisted (h : isAllowlisted names f) : ¬ isUnknown names f := by
  simp only [isAllowlisted, isUnknown, Option.any_eq_true, decide_eq_true_eq] at h ⊢
  rintro ⟨name, hname, -, hunknown⟩
  obtain ⟨name', hname', hbenign⟩ := h
  cases hname.symm.trans hname'
  exact hunknown hbenign

/-! ### Rounds -/

/-- A round leaves a trace, in the score and in the evidence, or does nothing. -/
def Effect.Counts (e : Effect) (counted : Bool) : Prop :=
  if counted then 0 < e.score ∧ e.writes ≠ [] else e = {}

theorem longLivedEffect_counts (h : longLivedEffect lib f = some e) :
    e.Counts (isLongLived lib f) := by
  simp only [longLivedEffect, Option.bind_eq_bind, Option.bind_eq_some_iff] at h
  obtain ⟨duration, hduration, h⟩ := h
  unfold isLongLived Effect.Counts
  rw [hduration]
  cases htruth : duration.truth
  · rw [htruth, if_neg (by decide)] at h
    cases h
    simp [htruth]
  · rw [htruth, if_pos rfl] at h
    obtain ⟨x, hx, h⟩ := Option.bind_eq_some_iff.mp h
    simp only [Option.any_some, htruth, hx, Bool.true_and]
    split_ifs at h ⊢ with hlong <;> cases h
    · exact ⟨show 0 < scoreLongLivedConn by decide, by simp⟩
    · rfl

theorem unknownBinaryEffect_counts (h : unknownBinaryEffect lib names f = some e) :
    e.Counts (isCounted lib names f) := by
  simp only [unknownBinaryEffect, Option.bind_eq_bind, Option.bind_eq_some_iff] at h
  obtain ⟨external, hexternal, h⟩ := h
  cases external
  · rw [if_neg (by decide)] at h
    cases h
    simp [isCounted, leavesNetwork, hexternal, Effect.Counts]
  rw [if_pos rfl] at h
  obtain ⟨name, hname, h⟩ := Option.bind_eq_some_iff.mp h
  split_ifs at h with hempty hbenign
  · cases h
    simp [isCounted, isNamed, hname, hempty, Effect.Counts]
  · -- an allowlisted process: only the duration counts
    obtain ⟨long, hlong, h⟩ := Option.bind_eq_some_iff.mp h
    cases h
    have hcounts := longLivedEffect_counts hlong
    have heq : isCounted lib names f = isLongLived lib f := by
      simp [isCounted, leavesNetwork, hexternal, isNamed, isUnknown, hname, hempty, hbenign]
    rw [heq]
    unfold Effect.Counts at hcounts ⊢
    split_ifs at hcounts ⊢
    · simpa [Effect.and] using hcounts
    · rw [hcounts]
      rfl
  · -- an unknown one counts whatever its duration
    obtain ⟨long, hlong, h⟩ := Option.bind_eq_some_iff.mp h
    cases h
    have heq : isCounted lib names f = true := by
      simp [isCounted, leavesNetwork, hexternal, isNamed, isUnknown, hname, hempty, hbenign]
    rw [heq]
    refine ⟨?_, by simp [Effect.and]⟩
    have hnonneg := longLivedEffect_nonneg hlong
    exact Int.add_pos_of_pos_of_nonneg (show 0 < scoreUnknownBinary by decide) hnonneg

/-! ### The check -/

/-- Some round counts a flow. -/
def Counted (lib : RatLib R) (names : List (Int × String)) (flows : List (Telemetry R)) : Prop :=
  ∃ f ∈ flows, isCounted lib names f

/-- The score and the trigger of the check go together. -/
theorem checkUnknownBinary_counts (hnames : pidToName procs = some names)
    (h : checkUnknownBinary lib flows procs = some r) :
    (Counted lib names flows →
      0 < r.score ∧ r.triggers (fun _ => ["unknown_binary"]) = ["unknown_binary"]) ∧
    (¬ Counted lib names flows →
      r.score = 0 ∧ r.triggers (fun _ => ["unknown_binary"]) = []) := by
  obtain ⟨names', hnames', hread, rfl⟩ := checkUnknownBinary_eq_some_iff.mp h
  cases hnames.symm.trans hnames'
  have hscore : ((unknownBinaryEffects lib names flows).foldl Tally.add {}).unknownBinary.score =
      ((unknownBinaryEffects lib names flows).map Effect.score).sum := by
    rw [Tally.unknownBinary, tally_score, zero_add]
  rw [hscore, triggers_unknownBinary]
  constructor
  · rintro ⟨f, hf, hcounted⟩
    obtain ⟨e, he⟩ := Option.ne_none_iff_exists'.mp (hread f hf)
    have hcounts := unknownBinaryEffect_counts he
    rw [hcounted, Effect.Counts, if_pos rfl] at hcounts
    have hmem : e ∈ unknownBinaryEffects lib names flows := List.mem_filterMap.mpr ⟨f, hf, he⟩
    refine ⟨?_, if_neg fun hall => hcounts.2 (hall e hmem).1⟩
    refine lt_of_lt_of_le hcounts.1 (List.single_le_sum ?_ _ (List.mem_map_of_mem hmem))
    simp only [List.forall_mem_map, unknownBinaryEffects, List.mem_filterMap]
    rintro e' ⟨f', -, he'⟩
    exact unknownBinaryEffect_nonneg he'
  · intro hnone
    have hempty : ∀ e ∈ unknownBinaryEffects lib names flows, e = {} := by
      intro e he
      obtain ⟨f, hf, he⟩ := List.mem_filterMap.mp he
      have hcounts := unknownBinaryEffect_counts he
      rwa [Bool.eq_false_iff.mpr fun hcounted => hnone ⟨f, hf, hcounted⟩] at hcounts
    refine ⟨?_, if_pos fun e he => by rw [hempty e he]; exact ⟨rfl, rfl⟩⟩
    refine List.sum_eq_zero fun x hx => ?_
    obtain ⟨e, he, rfl⟩ := List.mem_map.mp hx
    rw [hempty e he]

/-- The rule of the docstring, for an answer. -/
structure KeepsRule (lib : RatLib R) (names : List (Int × String)) (flows : List (Telemetry R))
    (r : CheckResult) : Prop where
  score : 0 < r.score → ∃ f ∈ flows, isSuspicious lib names f
  allowlisted : (∀ f ∈ flows, isAllowlisted names f) →
    r.score = 0 ∧ "unknown_binary" ∉ r.triggers fun _ => ["unknown_binary"]

theorem rule_kept_iff (hnames : pidToName procs = some names)
    (h : checkUnknownBinary lib flows procs = some r) :
    KeepsRule lib names flows r ↔
      (∃ f ∈ flows, leavesNetwork f ∧ isUnknown names f ∧ isLongLived lib f) ∨
        ∀ f ∈ flows, leavesNetwork f → isNamed names f →
          ¬ isUnknown names f ∧ ¬ isLongLived lib f := by
  obtain ⟨hcounted, hnone⟩ := checkUnknownBinary_counts hnames h
  have hsuspicious : (∃ f ∈ flows, isSuspicious lib names f) ↔
      ∃ f ∈ flows, leavesNetwork f ∧ isUnknown names f ∧ isLongLived lib f := by
    simp [isSuspicious, and_assoc]
  have hquiet : ¬ Counted lib names flows ↔ ∀ f ∈ flows, leavesNetwork f → isNamed names f →
      ¬ isUnknown names f ∧ ¬ isLongLived lib f := by
    simp [Counted, isCounted]
  rw [← hsuspicious, ← hquiet]
  constructor
  · intro hkeeps
    by_cases hc : Counted lib names flows
    · exact .inl (hkeeps.score (hcounted hc).1)
    · exact .inr hc
  · rintro (hsusp | hc)
    · refine ⟨fun _ => hsusp, fun hall => ?_⟩
      obtain ⟨f, hf, hsusp⟩ := hsusp
      simp only [isSuspicious, Bool.and_eq_true] at hsusp
      exact absurd hsusp.1.2 (not_isUnknown_of_isAllowlisted (hall f hf))
    · refine ⟨fun hpos => ?_, fun _ => ⟨(hnone hc).1, by simp [(hnone hc).2]⟩⟩
      exact absurd (hnone hc).1 hpos.ne'

/-- A flow of two minutes to a public address. -/
def twoMinuteFlow (process : String) : Telemetry Rat :=
  [("destination_ip", .str "203.0.113.9"), ("process_name", .str process),
    ("flow_duration_ms", .int 120000)]

theorem rule_kept_by_unknown_process :
    ∃ r, checkUnknownBinary minuteRatLib [twoMinuteFlow "update.exe"] [] = some r ∧
      r.score = 35 ∧ KeepsRule minuteRatLib [] [twoMinuteFlow "update.exe"] r := by
  have hsome : (checkUnknownBinary minuteRatLib [twoMinuteFlow "update.exe"] []).map
      CheckResult.score = some 35 := by decide +kernel
  obtain ⟨r, hr, hscore⟩ := Option.map_eq_some_iff.mp hsome
  exact ⟨r, hr, hscore, (rule_kept_iff rfl hr).mpr (.inl (by decide +kernel))⟩

/-- A browser's connection of two minutes scores and raises the trigger. -/
theorem allowlisted_process_scores :
    ∃ r, checkUnknownBinary minuteRatLib [twoMinuteFlow "chrome"] [] = some r ∧
      (∀ f ∈ [twoMinuteFlow "chrome"], isAllowlisted [] f) ∧ r.score = 10 ∧
      "unknown_binary" ∈ r.triggers (fun _ => ["unknown_binary"]) ∧
      ¬ KeepsRule minuteRatLib [] [twoMinuteFlow "chrome"] r := by
  have hsome : (checkUnknownBinary minuteRatLib [twoMinuteFlow "chrome"] []).map
      (fun r => (r.score, r.triggers fun _ => ["unknown_binary"])) =
        some (10, ["unknown_binary"]) := by decide +kernel
  obtain ⟨r, hr, hspec⟩ := Option.map_eq_some_iff.mp hsome
  obtain ⟨hscore, htriggers⟩ := Prod.mk.inj hspec
  have hallow : ∀ f ∈ [twoMinuteFlow "chrome"], isAllowlisted [] f := by decide +kernel
  refine ⟨r, hr, hallow, hscore, by simp [htriggers], fun hkeeps => ?_⟩
  exact absurd ((hkeeps.allowlisted hallow).1.symm.trans hscore) (by decide)

end Rat
end SocFabric
