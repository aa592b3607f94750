import Mathlib.Data.List.Basic

/-!
# Containment policy (`domain/investigations/AntigravityTriageAgent.py`)

`PolicyGovernanceSubagent.evaluate_containment_safety`: which containment actions are permitted on
which targets, and the risk class of each.
-/

namespace SocFabric

/-- `ActionRisk` and the `"BLOCKED"` verdict of the governance subagent. -/
inductive Risk
  | readOnly
  | lowImpactWrite
  | highImpactWrite
  | destructive
  | blocked
deriving DecidableEq, Repr

def Risk.text : Risk → String
  | readOnly => "READ_ONLY"
  | lowImpactWrite => "LOW_IMPACT_WRITE"
  | highImpactWrite => "HIGH_IMPACT_WRITE"
  | destructive => "DESTRUCTIVE"
  | blocked => "BLOCKED"

/-- `CRITICAL_INFRASTRUCTURE_IPS`: targets that must never be quarantined. -/
def criticalInfrastructureIPs : List String := ["192.168.1.1", "127.0.0.1", "192.168.1.50"]

structure SafetyEval where
  permitted : Bool
  reason : String
  risk : Risk
deriving DecidableEq, Repr

def routerActions : List String :=
  ["modify_router_firmware", "modify_router_config", "modify_dns_server", "flash_router", "reboot_router"]

def quarantineActions : List String := ["isolate_host", "isolate_lan_client"]

def containerActions : List String := ["throttle_container_network", "pause_container", "resume_container"]

def evaluateContainmentSafety (action target : String) : SafetyEval :=
  if target ∈ criticalInfrastructureIPs then
    ⟨false, "Safety Invariant Violation: Target " ++ target ++ " is designated as Protected Critical " ++
      "Infrastructure (Default Gateway / SIEM Bridge).", .blocked⟩
  else if action ∈ routerActions then
    ⟨false, "Safety Invariant Violation: Direct modification of router firmware, config, or DNS (" ++
      action ++ ") is strictly prohibited.", .blocked⟩
  else if action ∈ quarantineActions then
    ⟨true, "Target client is eligible for local ARP Layer-2 quarantine.", .destructive⟩
  else if action ∈ containerActions then
    -- the source repeats the check on the target here
    if target ∈ criticalInfrastructureIPs then
      ⟨false, "Safety Invariant Violation: Container action on critical infrastructure host " ++ target ++
        " is prohibited.", .blocked⟩
    else
      ⟨true, "Container-level containment (" ++ action ++ ") permitted for container " ++ target ++ ".",
        .destructive⟩
  else
    ⟨true, "Standard non-destructive action permitted.", .lowImpactWrite⟩

/-- The action name is one the policy classes as DESTRUCTIVE (on some target it permits it for). -/
def Destructive (action : String) : Prop :=
  ∃ target, (evaluateContainmentSafety action target).risk = .destructive

theorem evaluateContainmentSafety_risk_eq_destructive {action target : String} :
    (evaluateContainmentSafety action target).risk = .destructive ↔
      target ∉ criticalInfrastructureIPs ∧ action ∈ quarantineActions ++ containerActions := by
  unfold evaluateContainmentSafety
  by_cases ht : target ∈ criticalInfrastructureIPs
  · simp [ht]
  by_cases hr : action ∈ routerActions
  · have hno : ∀ a ∈ routerActions, a ∉ quarantineActions ++ containerActions := by decide
    simp [ht, hr, hno action hr]
  by_cases hq : action ∈ quarantineActions
  · simp [ht, hr, hq]
  by_cases hc : action ∈ containerActions <;> simp [ht, hr, hq, hc]

/-- A containment action is permitted exactly on the targets that are not protected. -/
theorem evaluateContainmentSafety_permitted {action target : String}
    (h : action ∈ quarantineActions ++ containerActions) :
    (evaluateContainmentSafety action target).permitted = true ↔ target ∉ criticalInfrastructureIPs := by
  have hrouter : action ∉ routerActions := by
    have hno : ∀ a ∈ quarantineActions ++ containerActions, a ∉ routerActions := by decide
    exact hno action h
  unfold evaluateContainmentSafety
  by_cases ht : target ∈ criticalInfrastructureIPs
  · simp [ht]
  by_cases hq : action ∈ quarantineActions
  · simp [ht, hrouter, hq]
  have hc : action ∈ containerActions := (List.mem_append.mp h).resolve_left hq
  simp [ht, hrouter, hq, hc]

theorem destructive_iff {action : String} :
    Destructive action ↔ action ∈ quarantineActions ++ containerActions := by
  simp only [Destructive, evaluateContainmentSafety_risk_eq_destructive]
  exact ⟨fun ⟨_, _, h⟩ => h, fun h => ⟨"", by decide, h⟩⟩

end SocFabric
