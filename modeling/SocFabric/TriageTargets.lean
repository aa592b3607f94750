import SocFabric.TriageProposals

/-!
# Whom triage isolates

A call proposes at most one isolation, of the target it has picked before the detectors ran: the
destination of dropped traffic, the source of any other, and a host of its own where that address is
missing. The target is an observed LAN host exactly if the picked address is internal, or is missing
while the other one happens to be that host (`targetsObserved_iff`).
-/

namespace SocFabric
namespace Triage

variable {R : Type}

/-- The address that the telemetry gives under `key`, empty if it gives none. -/
def Telemetry.address (t : Telemetry R) (key : String) : String := (t.get key (.str "")).text.getD ""

def Telemetry.isDropped (t : Telemetry R) : Bool :=
  isRouterDrop ((t.get "application" (.str "")).text.getD "")

/-- The address that containment picks. -/
def Telemetry.suspect (t : Telemetry R) : String :=
  if t.isDropped then t.address "destination_ip" else t.address "source_ip"

/-- The address that it leaves alone. -/
def Telemetry.bystander (t : Telemetry R) : String :=
  if t.isDropped then t.address "source_ip" else t.address "destination_ip"

/-- The telemetry names the address. -/
def Observed (t : Telemetry R) (ip : String) : Prop :=
  t.lookup "source_ip" = some (.str ip) ∨ t.lookup "destination_ip" = some (.str ip)

/-- Every isolation that a call proposes is of an observed LAN host. -/
def TargetsObserved (t : Telemetry R) (run : TriageRun R) : Prop :=
  ∀ r, run.result = some r → ∀ a ∈ r.proposedActions, a.action = "isolate_lan_client" →
    ∃ ip, a.target = some ip ∧ Observed t ip ∧ isInternal ip = true

/-! ### Isolations among the proposals -/

def isolations (proposed : List ProposedAction) : List ProposedAction :=
  proposed.filter fun a => a.action = "isolate_lan_client"

theorem isolations_proposeThrottle (contextID : String) (c : Containment) (f : SecurityFinding) :
    isolations (proposeThrottle contextID c f).proposed = isolations c.proposed := by
  unfold proposeThrottle
  split_ifs
  · have hthrottle : isolations [throttle f] = [] := rfl
    rw [Containment.propose, isolations, List.filter_append]
    exact (congrArg _ hthrottle).trans (List.append_nil _)
  · rfl

theorem isolations_foldl (contextID : String) (findings : List SecurityFinding) :
    ∀ c : Containment,
      isolations (findings.foldl (proposeThrottle contextID) c).proposed = isolations c.proposed := by
  induction findings with
  | nil => exact fun c => rfl
  | cons f findings ih => exact fun c => (ih _).trans (isolations_proposeThrottle contextID c f)

/-- The only isolation of a call is that of its target. -/
theorem isolations_contain (contextID target summary : String) (d : Detection) (ledger : Ledger) :
    isolations (contain contextID target summary d ledger).proposed =
      if d.verdict.isThreat = true ∧ target ∉ criticalInfrastructureIPs then [isolation target summary]
      else [] := by
  have hmem : "isolate_lan_client" ∈ quarantineActions ++ containerActions := by decide
  by_cases hthreat : d.verdict.isThreat = true
  · rw [contain, if_pos hthreat, isolations_foldl, proposeIsolation]
    by_cases htarget : target ∈ criticalInfrastructureIPs
    · have hblocked := mt (evaluateContainmentSafety_permitted hmem).mp (not_not.mpr htarget)
      rw [if_neg hblocked, if_neg fun h => h.2 htarget]
      rfl
    · rw [if_pos ((evaluateContainmentSafety_permitted hmem).mpr htarget), if_pos ⟨hthreat, htarget⟩]
      rfl
  · rw [contain, if_neg hthreat, if_neg fun h => hthreat h.1]
    rfl

/-! ### Observed addresses -/

theorem lookup_eq_some_str_iff {t : Telemetry R} {key ip : String} (h : ip ≠ "") :
    t.lookup key = some (.str ip) ↔ t.address key = ip := by
  unfold Telemetry.address Telemetry.get
  cases t.lookup key with
  | none => exact ⟨nofun, fun he => absurd he.symm h⟩
  | some v =>
    cases v with
    | str s => simp [PyVal.text]
    | none | bool | int | num | datetime | other => exact ⟨nofun, fun he => absurd he.symm h⟩

theorem observed_iff {t : Telemetry R} {ip : String} (h : ip ≠ "") :
    Observed t ip ↔ t.suspect = ip ∨ t.bystander = ip := by
  rw [Observed, lookup_eq_some_str_iff h, lookup_eq_some_str_iff h, Telemetry.suspect, Telemetry.bystander]
  split_ifs
  · exact or_comm
  · exact Iff.rfl

theorem isInternal_of_critical {ip : String} (h : ip ∈ criticalInfrastructureIPs) : isInternal ip = true := by
  have hall : ∀ ip ∈ criticalInfrastructureIPs, isInternal ip = true := by decide +kernel
  exact hall ip h

theorem isInternal_fallbackTarget : isInternal fallbackTarget = true := by decide +kernel

/-! ### The target of a call -/

variable [PyNum R]

theorem suspect_eq {t : Telemetry R} {f : FlowFindings R} (h : analyzeFlowFeatures t = some f) :
    f.suspect = t.suspect := by
  obtain ⟨hsource, hdest, app, happ, hdrop⟩ := analyzeFlowFeatures_eq_some h
  have hdropped : t.isDropped = f.isRouterFirewallDrop := by
    rw [hdrop, Telemetry.isDropped, happ]
    rfl
  rw [FlowFindings.suspect, Telemetry.suspect, hdropped, Telemetry.address, Telemetry.address, hsource, hdest]
  rfl

/-- Something raises the threat flag: the router's action, the byte counts and the domain, or a
detector. A telemetry that the analysis raises on threatens nothing. -/
def Threatened (t : Telemetry R) (rat ddos : Outcome) : Prop :=
  ∃ f, analyzeFlowFeatures t = some f ∧
    (f.isRouterFirewallDrop = true ∨ f.exfiltrationRisk = true ∨ rat.found = true ∨ ddos.found = true)

/-- The target would be isolated only if it is an observed LAN host. -/
theorem target_observed_iff {t : Telemetry R} {f : FlowFindings R} (h : analyzeFlowFeatures t = some f) :
    (f.target ∉ criticalInfrastructureIPs → Observed t f.target ∧ isInternal f.target = true) ↔
      isInternal t.suspect = true ∨ (t.suspect = "" ∧ t.bystander = fallbackTarget) := by
  rw [FlowFindings.target, suspect_eq h]
  by_cases hs : t.suspect = ""
  · -- the fallback is internal and not protected, so all that matters is whether it was observed
    have hfree : fallbackTarget ∉ criticalInfrastructureIPs := by decide
    have hempty : isInternal "" = false := by decide +kernel
    rw [if_pos hs, observed_iff (by decide), hs, hempty]
    constructor
    · intro hobserved
      rcases (hobserved hfree).1 with he | he
      · exact absurd he (by decide)
      · exact .inr ⟨rfl, he⟩
    · rintro (he | he)
      · cases he
      · exact fun _ => ⟨.inr he.2, isInternal_fallbackTarget⟩
  · rw [if_neg hs, observed_iff hs]
    constructor
    · intro hobserved
      by_cases hcritical : t.suspect ∈ criticalInfrastructureIPs
      · exact .inl (isInternal_of_critical hcritical)
      · exact .inl (hobserved hcritical).2
    · rintro (he | he)
      · exact fun _ => ⟨.inl rfl, he⟩
      · exact absurd he.1 hs

theorem targetsObserved_of_findings {t : Telemetry R} {f : FlowFindings R}
    (h : analyzeFlowFeatures t = some f) (c : Context) (rat ddos : Outcome) (ledger : Ledger) :
    TargetsObserved t (executeTriage c t rat ddos ledger) ↔
      ((detect (initialVerdict f) rat ddos).verdict.isThreat = true → f.target ∉ criticalInfrastructureIPs →
        Observed t f.target ∧ isInternal f.target = true) := by
  obtain ⟨r, hr, -, hproposed, -⟩ := executeTriage_of_findings h c rat ddos ledger
  have hiso := isolations_contain c.contextID f.target (triageSummary t f)
    (detect (initialVerdict f) rat ddos) ledger
  rw [← hproposed] at hiso
  constructor
  · intro hall hthreat htarget
    rw [if_pos ⟨hthreat, htarget⟩] at hiso
    have hmem : isolation f.target (triageSummary t f) ∈ isolations r.proposedActions := by
      rw [hiso]
      exact List.mem_singleton_self _
    obtain ⟨ip, hip, hobserved⟩ := hall r hr _ (List.mem_filter.mp hmem).1 rfl
    cases hip
    exact hobserved
  · intro hsafe r' hr' a ha hact
    cases Option.some.inj (hr.symm.trans hr')
    have hmem : a ∈ isolations r.proposedActions := List.mem_filter.mpr ⟨ha, decide_eq_true hact⟩
    rw [hiso] at hmem
    split_ifs at hmem with hc
    · rw [List.mem_singleton.mp hmem]
      exact ⟨f.target, rfl, hsafe hc.1 hc.2⟩
    · cases hmem

/-- Triage isolates only observed LAN hosts exactly if, whenever something raises the threat flag,
the address it picks is internal, or is missing while the other address is the fallback. -/
theorem targetsObserved_iff (c : Context) (t : Telemetry R) (rat ddos : Outcome) (ledger : Ledger) :
    TargetsObserved t (executeTriage c t rat ddos ledger) ↔
      (Threatened t rat ddos →
        isInternal t.suspect = true ∨ (t.suspect = "" ∧ t.bystander = fallbackTarget)) := by
  cases h : analyzeFlowFeatures t with
  | none =>
    rw [executeTriage_of_raised h]
    constructor
    · rintro - ⟨f, hf, -⟩
      rw [h] at hf
      cases hf
    · rintro - r hr
      cases hr
  | some f =>
    have hthreat : (detect (initialVerdict f) rat ddos).verdict.isThreat = true ↔ Threatened t rat ddos := by
      rw [isThreat_detect, isThreat_initialVerdict]
      simp only [Threatened, h, Option.some.injEq, exists_eq_left', Bool.or_eq_true, or_assoc]
    rw [targetsObserved_of_findings h, hthreat, target_observed_iff h]

/-- Dropped outbound traffic makes triage propose to isolate the remote host. -/
theorem remote_host_isolated :
    ¬ ∀ (c : Context) (t : Telemetry Rat) (rat ddos : Outcome) (ledger : Ledger),
      TargetsObserved t (executeTriage c t rat ddos ledger) := by
  intro h
  let outbound : Telemetry Rat :=
    [("source_ip", .str "192.168.1.105"), ("destination_ip", .str "203.0.113.9"),
      ("application", .str "router_firewall_drop"), ("bytes_out", .int 64), ("bytes_in", .int 0)]
  have hreturns : (executeTriage ⟨"corr-1", "inv-1", "system"⟩ outbound .none .none []).result.map
      (fun r => r.proposedActions.map fun a => (a.action, a.target)) =
      some [("isolate_lan_client", some "203.0.113.9")] := by decide +kernel
  obtain ⟨r, hr, hactions⟩ := Option.map_eq_some_iff.mp hreturns
  obtain ⟨a, ha, hpair⟩ := List.mem_map.mp (hactions ▸ List.mem_singleton_self _)
  obtain ⟨haction, htarget⟩ := Prod.mk.inj hpair
  obtain ⟨ip, hip, -, hinternal⟩ := h _ outbound .none .none [] r hr a ha haction
  cases hip.symm.trans htarget
  exact absurd hinternal (by decide +kernel)

end Triage
end SocFabric
