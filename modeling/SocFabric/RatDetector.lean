import SocFabric.Lib.Json
import SocFabric.Triage

/-!
# The RAT detector (`domain/investigations/RatDetector.py`)

`RatDetector.analyze`: five checks of the flows and processes each add a score and evidence, and a
score from the threshold on becomes a finding. What the checks answer is an argument here
(`Checks`), so that a result holds whatever they find; `none` is an exception.
-/

namespace SocFabric
namespace Rat
open Triage

variable {F P : Type}

structure CheckResult where
  score : Int
  evidence : Option (List (String × Json)) := none

/-- `if evidence:`, neither `None` nor empty. -/
def CheckResult.found (r : CheckResult) : Option (List (String × Json)) :=
  r.evidence.filter fun members => !members.isEmpty

structure Checks (F P : Type) where
  beaconPattern : List F → Option CheckResult
  unknownBinary : List F → List P → Option CheckResult
  guiSpawnScript : List P → Option CheckResult
  novelDestination : List F → Option CheckResult
  c2Domain : List F → Option CheckResult
  primarySourceIP : List F → Option String

structure Evidence where
  flowCount : Nat
  triggers : List String := []
  details : List (String × List (String × Json)) := []
  totalScore : Int := 0

/-- The evidence of a check is kept under `name`, and `triggers` are the triggers that it stands
for. -/
def Evidence.add (e : Evidence) (name : String) (triggers : List (String × Json) → List String)
    (r : CheckResult) :
    Evidence :=
  match r.found with
  | some members =>
    { e with
      triggers := e.triggers ++ triggers members
      details := e.details ++ [(name, members)]
      totalScore := e.totalScore + r.score }
  | none => { e with totalScore := e.totalScore + r.score }

def novelTriggers (members : List (String × Json)) : List String :=
  ["suspicious_port", "novel_external_dest"].filter fun key => (members.lookup key).isSome

structure Finding where
  tenantID : String
  endpointID : Option String
  category : FindingCategory
  score : Int
  evidence : Evidence
  sourceIP : String
  recommendedAction : RecommendedAction

inductive Result
  | raised
  | returned (finding : Option Finding)

def buildFinding (score : Int) (sourceIP : String) (evidence : Evidence)
    (endpointID : Option String) (tenantID : String) : Finding :=
  { tenantID, endpointID, category := .rat, score, evidence, sourceIP
    recommendedAction := if 70 ≤ score then .isolateHost else .none }

def gather (checks : Checks F P) (flowEvents : List F) (processEvents : List P) :
    Option Evidence := do
  let beacon ← checks.beaconPattern flowEvents
  let unknownBinary ← checks.unknownBinary flowEvents processEvents
  let guiSpawn ← checks.guiSpawnScript processEvents
  let novel ← checks.novelDestination flowEvents
  let c2 ← checks.c2Domain flowEvents
  return ((((Evidence.add { flowCount := flowEvents.length } "beacon"
    (fun _ => ["beacon_pattern"]) beacon).add
    "unknown_binary" (fun _ => ["unknown_binary"]) unknownBinary).add
    "gui_spawn_script" (fun _ => ["gui_spawn_script"]) guiSpawn).add
    "novel_destination" novelTriggers novel).add
    "c2_domain" (fun _ => ["c2_domain"]) c2

def analyze (checks : Checks F P) (threshold : Int) (flowEvents : List F)
    (processEvents : Option (List P)) (endpointID : Option String) (tenantID : String) : Result :=
  if flowEvents.isEmpty then .returned none
  else
    match gather checks flowEvents (processEvents.getD []) with
    | none => .raised
    | some evidence =>
      if evidence.totalScore < threshold then .returned none
      else
        match checks.primarySourceIP flowEvents with
        | none => .raised
        | some sourceIP =>
          .returned (some (buildFinding (min evidence.totalScore 100) sourceIP evidence endpointID tenantID))

/-- A finding is what the evidence of the checks makes from the threshold on. -/
theorem analyze_eq_found_iff {checks : Checks F P} {threshold : Int} {flowEvents : List F}
    {processEvents : Option (List P)} {endpointID : Option String} {tenantID : String}
    {f : Finding} :
    analyze checks threshold flowEvents processEvents endpointID tenantID = .returned (some f) ↔
      flowEvents ≠ [] ∧ ∃ evidence sourceIP,
        gather checks flowEvents (processEvents.getD []) = some evidence ∧
        threshold ≤ evidence.totalScore ∧ checks.primarySourceIP flowEvents = some sourceIP ∧
        f = buildFinding (min evidence.totalScore 100) sourceIP evidence endpointID tenantID := by
  constructor
  · intro h
    unfold analyze at h
    split_ifs at h with hempty
    · cases h
    · refine ⟨by simpa using hempty, ?_⟩
      split at h
      · cases h
      · next evidence hgather =>
        split_ifs at h with hlow
        · cases h
        · split at h <;> cases h
          next sourceIP hsource => exact ⟨evidence, sourceIP, hgather, not_lt.mp hlow, hsource, rfl⟩
  · rintro ⟨hne, evidence, sourceIP, hgather, hle, hsource, rfl⟩
    unfold analyze
    rw [if_neg (by simpa using hne), hgather]
    dsimp only
    rw [if_neg (not_lt.mpr hle), hsource]

theorem analyze_finding {checks : Checks F P} {threshold : Int} {flowEvents : List F}
    {processEvents : Option (List P)} {endpointID : Option String} {tenantID : String} {f : Finding}
    (h : analyze checks threshold flowEvents processEvents endpointID tenantID =
      .returned (some f)) :
    f.category = .rat ∧ (f.recommendedAction = .isolateHost ∨ f.recommendedAction = .none) := by
  obtain ⟨-, evidence, sourceIP, -, -, -, rfl⟩ := analyze_eq_found_iff.mp h
  refine ⟨rfl, ?_⟩
  unfold buildFinding
  dsimp only
  split_ifs
  · exact .inl rfl
  · exact .inr rfl

end Rat
end SocFabric
