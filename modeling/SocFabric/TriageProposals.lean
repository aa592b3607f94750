import SocFabric.Triage

/-!
# What triage proposes

Every call keeps its proposals and the audit ledger in step (`Containment.Sound`): the loop over the
findings only ever proposes what the policy permits, together with its ledger entry. Hence a call's
proposals are destructive, pending and never aimed at protected infrastructure
(`executeTriage_governed`), and so are those of any run of calls (`Coordinator.triageAll_sound`).
-/

namespace SocFabric
namespace Triage

/-- An action that waits for the analyst, on a target that may be contained. -/
structure Governed (a : ProposedAction) : Prop where
  risk : a.risk = .destructive
  status : a.status = "pending_analyst_approval"
  target : ∀ ip, a.target = some ip → ip ∉ criticalInfrastructureIPs

/-- Since the ledger was `ledger`, exactly the proposals have been recorded, all of them
governed. -/
structure Containment.Sound (ledger : Ledger) (c : Containment) : Prop where
  governed : ∀ a ∈ c.proposed, Governed a
  recorded : ∃ entries : Ledger, c.ledger = ledger ++ entries ∧ entries.map LedgerEntry.context = c.proposed

/-! ### One proposal -/

/-- A proposal that takes its risk from the policy's permission. -/
theorem governed_of_permitted {a : ProposedAction} {action target : String}
    (hmem : action ∈ quarantineActions ++ containerActions)
    (h : (evaluateContainmentSafety action target).permitted = true)
    (hrisk : a.risk = (evaluateContainmentSafety action target).risk)
    (hstatus : a.status = "pending_analyst_approval") (htarget : ∀ ip, a.target = some ip → ip = target) :
    Governed a := by
  have hfree : target ∉ criticalInfrastructureIPs := (evaluateContainmentSafety_permitted hmem).mp h
  refine ⟨?_, hstatus, ?_⟩
  · rw [hrisk]
    exact evaluateContainmentSafety_risk_eq_destructive.mpr ⟨hfree, hmem⟩
  · intro ip hip
    rw [htarget ip hip]
    exact hfree

theorem governed_isolation {target : String} (summary : String)
    (h : (evaluateContainmentSafety "isolate_lan_client" target).permitted = true) :
    Governed (isolation target summary) :=
  governed_of_permitted (by decide) h rfl rfl fun _ hip => (Option.some.inj hip).symm

theorem governed_throttle {f : SecurityFinding}
    (h : (evaluateContainmentSafety "throttle_container_network" (f.container.getD "None")).permitted = true) :
    Governed (throttle f) := by
  refine governed_of_permitted (by decide) h rfl rfl fun ip hip => ?_
  have hcontainer : f.container = some ip := hip
  rw [hcontainer, Option.getD_some]

namespace Containment

variable {ledger : Ledger} {c : Containment}

theorem sound_empty (ledger : Ledger) : Sound ledger { ledger } :=
  ⟨nofun, [], (List.append_nil ledger).symm, rfl⟩

theorem Sound.propose {contextID ledgerAction : String} {a : ProposedAction} (h : Sound ledger c)
    (ha : Governed a) : Sound ledger (c.propose contextID ledgerAction a) := by
  obtain ⟨entries, hledger, hcontexts⟩ := h.recorded
  refine ⟨?_, ?_⟩
  · intro b hb
    rcases List.mem_append.mp hb with hb | hb
    · exact h.governed b hb
    · rw [List.mem_singleton.mp hb]
      exact ha
  · refine ⟨appendToAuditLedger contextID "AntigravityTriageAgent" ledgerAction a a.risk entries, ?_, ?_⟩
    · simp only [Containment.propose, appendToAuditLedger, hledger, List.append_assoc]
    · simp only [Containment.propose, appendToAuditLedger, List.map_append, hcontexts, List.map_cons,
        List.map_nil]

theorem Sound.proposeIsolation {contextID target summary : String} (h : Sound ledger c) :
    Sound ledger (Triage.proposeIsolation contextID target summary c) := by
  unfold Triage.proposeIsolation
  split_ifs with hp
  · exact h.propose (governed_isolation summary hp)
  · exact h

theorem Sound.proposeThrottle {contextID : String} {f : SecurityFinding} (h : Sound ledger c) :
    Sound ledger (Triage.proposeThrottle contextID c f) := by
  unfold Triage.proposeThrottle
  split_ifs with hp
  · exact h.propose (governed_throttle hp.2.2)
  · exact h

theorem Sound.foldl_proposeThrottle {contextID : String} (findings : List SecurityFinding) :
    ∀ {c : Containment}, Sound ledger c → Sound ledger (findings.foldl (Triage.proposeThrottle contextID) c) := by
  induction findings with
  | nil => exact fun h => h
  | cons f findings ih => exact fun h => ih h.proposeThrottle

theorem sound_contain (contextID target summary : String) (d : Detection) (ledger : Ledger) :
    Sound ledger (contain contextID target summary d ledger) := by
  unfold contain
  split_ifs
  · exact (sound_empty ledger).proposeIsolation.foldl_proposeThrottle d.findings
  · exact sound_empty ledger

end Containment

/-! ### The verdict -/

/-- Benign exactly if there is no threat. -/
def Verdict.Consistent (v : Verdict) : Prop := v.classification = .benignObservation ↔ v.isThreat = false

theorem consistent_record {confidence : Nat} {alert : SecurityFinding → String} {o : Outcome} {d : Detection}
    (h : d.verdict.Consistent) : (d.record confidence alert o).verdict.Consistent := by
  cases o with
  | finding f => exact ⟨nofun, nofun⟩
  | none => exact h
  | raised => exact h

theorem isThreat_record {confidence : Nat} {alert : SecurityFinding → String} {o : Outcome} {d : Detection} :
    (d.record confidence alert o).verdict.isThreat = (d.verdict.isThreat || o.found) := by
  cases o with
  | finding f => exact (Bool.or_true _).symm
  | none => exact (Bool.or_false _).symm
  | raised => exact (Bool.or_false _).symm

theorem consistent_detect {v : Verdict} (rat ddos : Outcome) (h : v.Consistent) :
    (detect v rat ddos).verdict.Consistent :=
  consistent_record (consistent_record h)

theorem isThreat_detect (v : Verdict) (rat ddos : Outcome) :
    (detect v rat ddos).verdict.isThreat = (v.isThreat || rat.found || ddos.found) := by
  rw [detect, isThreat_record, isThreat_record]

variable {R : Type}

theorem consistent_initialVerdict (f : FlowFindings R) : (initialVerdict f).Consistent := by
  unfold initialVerdict
  split_ifs
  · exact ⟨nofun, nofun⟩
  · exact ⟨fun _ => rfl, fun _ => rfl⟩

theorem isThreat_initialVerdict (f : FlowFindings R) :
    (initialVerdict f).isThreat = (f.isRouterFirewallDrop || f.exfiltrationRisk) := by
  unfold initialVerdict
  split_ifs with h
  · exact h.symm
  · exact (Bool.eq_false_iff.mpr h).symm

theorem contain_of_benign {contextID target summary : String} {d : Detection} {ledger : Ledger}
    (hd : d.verdict.Consistent) (h : d.verdict.classification = .benignObservation) :
    (contain contextID target summary d ledger).proposed = [] := by
  have hthreat : d.verdict.isThreat = false := hd.mp h
  rw [contain, hthreat]
  rfl

/-! ### One call -/

variable [PyNum R]

/-- What a call does after the analysis has returned. -/
theorem executeTriage_of_findings {t : Telemetry R} {f : FlowFindings R} (h : analyzeFlowFeatures t = some f)
    (c : Context) (rat ddos : Outcome) (ledger : Ledger) :
    ∃ r, (executeTriage c t rat ddos ledger).result = some r ∧
      r.classification = (detect (initialVerdict f) rat ddos).verdict.classification ∧
      r.proposedActions = (contain c.contextID f.target (triageSummary t f)
        (detect (initialVerdict f) rat ddos) ledger).proposed ∧
      (executeTriage c t rat ddos ledger).ledger = (contain c.contextID f.target (triageSummary t f)
        (detect (initialVerdict f) rat ddos) ledger).ledger := by
  simp only [executeTriage, h]
  exact ⟨_, rfl, by dsimp only, by dsimp only, by dsimp only⟩

theorem executeTriage_of_raised {t : Telemetry R} (h : analyzeFlowFeatures t = none)
    (c : Context) (rat ddos : Outcome) (ledger : Ledger) :
    executeTriage c t rat ddos ledger = ⟨ingestEvents c, ledger, none⟩ := by
  simp only [executeTriage, h]

/-- The proposals of a call that returned. -/
def TriageRun.proposed (run : TriageRun R) : List ProposedAction := run.result.elim [] TriageResult.proposedActions

theorem executeTriage_sound (c : Context) (t : Telemetry R) (rat ddos : Outcome) (ledger : Ledger) :
    Containment.Sound ledger
      ⟨(executeTriage c t rat ddos ledger).proposed, (executeTriage c t rat ddos ledger).ledger⟩ := by
  cases h : analyzeFlowFeatures t with
  | none =>
    rw [executeTriage_of_raised h]
    exact Containment.sound_empty ledger
  | some f =>
    obtain ⟨r, hr, -, hproposed, hledger⟩ := executeTriage_of_findings h c rat ddos ledger
    rw [TriageRun.proposed, hr, hledger, Option.elim_some, hproposed]
    exact Containment.sound_contain _ _ _ _ ledger

theorem executeTriage_governed (c : Context) (t : Telemetry R) (rat ddos : Outcome) (ledger : Ledger)
    (r : TriageResult R) (hr : (executeTriage c t rat ddos ledger).result = some r) :
    (∀ a ∈ r.proposedActions, a.risk = .destructive ∧ a.status = "pending_analyst_approval" ∧
      ∀ ip, a.target = some ip → ip ∉ criticalInfrastructureIPs) ∧
    (∃ entries : Ledger, (executeTriage c t rat ddos ledger).ledger = ledger ++ entries ∧
      entries.map LedgerEntry.context = r.proposedActions) ∧
    (r.classification = .benignObservation → r.proposedActions = []) := by
  have hsound := executeTriage_sound c t rat ddos ledger
  rw [TriageRun.proposed, hr, Option.elim_some] at hsound
  refine ⟨?_, hsound.recorded, ?_⟩
  · intro a ha
    obtain ⟨hrisk, hstatus, htarget⟩ := hsound.governed a ha
    exact ⟨hrisk, hstatus, htarget⟩
  · intro hbenign
    cases h : analyzeFlowFeatures t with
    | none =>
      rw [executeTriage_of_raised h] at hr
      cases hr
    | some f =>
      obtain ⟨r', hr', hclass, hproposed, -⟩ := executeTriage_of_findings h c rat ddos ledger
      cases Option.some.inj (hr.symm.trans hr')
      rw [hproposed]
      exact contain_of_benign (consistent_detect rat ddos (consistent_initialVerdict f)) (hclass ▸ hbenign)

/-- An inbound packet that the router dropped. -/
def droppedInbound : Telemetry Rat :=
  [("source_ip", .str "203.0.113.55"), ("destination_ip", .str "192.168.1.105"), ("destination_port", .int 80),
    ("protocol", .str "TCP"), ("application", .str "router_firewall_drop"), ("bytes_out", .int 64),
    ("bytes_in", .int 0)]

def restartStorm : SecurityFinding :=
  ⟨.containerAbuse, 75, ["container_restart_storm", "container_oom_kill"], some (some "web-1"), some none,
    .throttleContainer⟩

theorem executeTriage_governed_drop :
    ∃ r, (executeTriage ⟨"corr-1", "inv-1", "system"⟩ droppedInbound .raised (.finding restartStorm) []).result =
        some r ∧ r.proposedActions.map ProposedAction.target = [some "192.168.1.105", some "web-1"] ∧
      (∀ a ∈ r.proposedActions, a.risk = .destructive ∧ a.status = "pending_analyst_approval" ∧
        ∀ ip, a.target = some ip → ip ∉ criticalInfrastructureIPs) ∧
      (∃ entries : Ledger, (executeTriage ⟨"corr-1", "inv-1", "system"⟩ droppedInbound .raised
          (.finding restartStorm) []).ledger = [] ++ entries ∧
        entries.map LedgerEntry.context = r.proposedActions) ∧
      (r.classification = .benignObservation → r.proposedActions = []) := by
  have hreturns : (executeTriage ⟨"corr-1", "inv-1", "system"⟩ droppedInbound .raised
      (.finding restartStorm) []).result.isSome := by decide +kernel
  obtain ⟨r, hr⟩ := Option.isSome_iff_exists.mp hreturns
  refine ⟨r, hr, ?_, executeTriage_governed _ _ _ _ _ r hr⟩
  have htargets : (executeTriage ⟨"corr-1", "inv-1", "system"⟩ droppedInbound .raised
      (.finding restartStorm) []).result.map (fun r => r.proposedActions.map ProposedAction.target) =
      some [some "192.168.1.105", some "web-1"] := by decide +kernel
  rw [hr] at htargets
  exact Option.some.inj htargets

/-! ### Runs -/

/-- The coordinator after a run of calls, with the proposals of those that returned. -/
def Coordinator.triageAll (s : Coordinator R) : List (Call R) → Coordinator R × List ProposedAction
  | [] => (s, [])
  | c :: calls =>
    let (s', result) := s.triage c
    let (s'', proposed) := s'.triageAll calls
    (s'', result.elim [] TriageResult.proposedActions ++ proposed)

/-- Over every run, the ledger grows by the proposals, all of them governed. -/
theorem Coordinator.triageAll_sound (calls : List (Call R)) :
    ∀ s : Coordinator R, Containment.Sound s.ledger ⟨(s.triageAll calls).2, (s.triageAll calls).1.ledger⟩ := by
  induction calls with
  | nil => exact fun s => Containment.sound_empty s.ledger
  | cons c calls ih =>
    intro s
    have hcall := executeTriage_sound c.context c.telemetry c.rat (s.ddos c).2 s.ledger
    obtain ⟨entries, hledger, hcontexts⟩ := hcall.recorded
    have hrest := ih (s.triage c).1
    obtain ⟨entries', hledger', hcontexts'⟩ := hrest.recorded
    refine ⟨?_, entries ++ entries', ?_, ?_⟩
    · intro a ha
      rcases List.mem_append.mp ha with ha | ha
      · exact hcall.governed a ha
      · exact hrest.governed a ha
    · have hstep : (s.triage c).1.ledger = s.ledger ++ entries := hledger
      rw [← List.append_assoc, ← hstep]
      exact hledger'
    · rw [List.map_append, hcontexts, hcontexts']
      rfl

end Triage
end SocFabric
