import SocFabric.DDoSDetector
import SocFabric.FlowForensics
import SocFabric.Governance

/-!
# The triage coordinator (`domain/investigations/AntigravityTriageAgent.py`)

`AntigravityTriageCoordinator.execute_triage`: the flow analysis, the two detector subagents, the
containment proposals with their audit ledger entries, and the events on the agent bus. What a
detector answers is an argument (`Outcome`), and `Coordinator.triage` puts the DDoS detector of
`DDoSDetector` there. Clock readings and the investigation graph are left out; neither can make a
call fail.
-/

namespace SocFabric
namespace Triage

/-! ### Detector outcomes -/

inductive FindingCategory
  | rat
  | ddos
  | containerAbuse
deriving DecidableEq, Repr

/-- The text of the alert, in upper case. -/
def FindingCategory.upper : FindingCategory → String
  | rat => "RAT"
  | ddos => "DDOS"
  | containerAbuse => "CONTAINER_ABUSE"

inductive RecommendedAction
  | isolateHost
  | isolateLanClient
  | throttleContainer
  | none
deriving DecidableEq, Repr

/-- The fields of a `SecurityFinding` that the coordinator reads; `none` is a missing address
key. -/
structure SecurityFinding where
  category : FindingCategory
  score : Nat
  triggers : List String
  sourceIP : Option DDoS.HostId
  endpointID : Option DDoS.HostId
  recommendedAction : RecommendedAction
deriving DecidableEq, Repr

/-- How a call of a detector's `analyze` ends. -/
inductive Outcome
  | finding (f : SecurityFinding)
  | none
  | raised
deriving DecidableEq, Repr

def Outcome.found : Outcome → Bool
  | finding _ => true
  | none | raised => false

/-! ### Events and the audit ledger -/

inductive Node
  | ingest
  | deobfuscation
  | llmTriage
  | detectorSubagents
  | action
deriving DecidableEq, Repr

inductive StepStatus
  | started
  | completed
  | alert
deriving DecidableEq, Repr

/-- An event on the agent bus, without its timestamp and latency. -/
inductive BusEvent (R : Type)
  | step (correlationID investigationID : String) (node : Node) (status : StepStatus) (summary : String)
  | clientSiteVisit (client domain : String) (category : DomainCategory) (bytesOut bytesIn : PyVal R)
  | suspiciousFlow (client destination : String) (category : DomainCategory) (asymmetry : R) (score : Nat)
deriving DecidableEq, Repr

structure ProposedAction where
  action : String
  target : DDoS.HostId
  justification : String
  risk : Risk
  status : String
  params : Option (DDoS.HostId × Nat) := none -- container id and rate in kbps
deriving DecidableEq, Repr

/-- An entry of the audit ledger, without its time. -/
structure LedgerEntry where
  correlationID : String
  agent : String
  action : String
  context : ProposedAction
  riskLevel : Risk
  policyDecision : String
deriving DecidableEq, Repr

abbrev Ledger := List LedgerEntry

/-- `append_to_audit_ledger`; the correlation id is that of the request context. -/
def appendToAuditLedger (correlationID agent action : String) (context : ProposedAction) (riskLevel : Risk)
    (ledger : Ledger) : Ledger :=
  ledger ++ [⟨correlationID, agent, action, context, riskLevel,
    if riskLevel = .readOnly ∨ riskLevel = .lowImpactWrite then "ALLOWED" else "PENDING_HUMAN_APPROVAL"⟩]

/-! ### Verdict and target -/

inductive Classification
  | truePositive
  | benignObservation
deriving DecidableEq, Repr

structure Verdict where
  isThreat : Bool
  confidence : Nat
  classification : Classification
deriving DecidableEq, Repr

variable {R : Type}

def initialVerdict (f : FlowFindings R) : Verdict :=
  if f.isRouterFirewallDrop || f.exfiltrationRisk then ⟨true, 94, .truePositive⟩
  else ⟨false, 72, .benignObservation⟩

/-- The address that containment looks at: the destination of dropped traffic, else the source. -/
def FlowFindings.suspect (f : FlowFindings R) : String :=
  if f.isRouterFirewallDrop then f.destinationIP else f.sourceIP

def fallbackTarget : String := "192.168.1.105"

def FlowFindings.target (f : FlowFindings R) : String := if f.suspect = "" then fallbackTarget else f.suspect

def triageSummary (t : Telemetry R) (f : FlowFindings R) : String :=
  if (initialVerdict f).isThreat then
    "Suspicious activity detected: " ++ (t.get "application" (.str "router_event")).text.getD "" ++ " from " ++
      f.sourceIP ++ " targeting " ++ f.destinationIP ++ "."
  else "Normal LAN traffic observed for host " ++ f.target ++ "."

/-! ### Detector subagents -/

/-- What the detectors have added: the alerts carry the summaries of their bus events. -/
structure Detection where
  verdict : Verdict
  findings : List SecurityFinding := []
  alerts : List String := []
deriving DecidableEq, Repr

/-- A finding escalates the verdict; an exception is swallowed. -/
def Detection.record (confidence : Nat) (alert : SecurityFinding → String) (o : Outcome) (d : Detection) :
    Detection :=
  match o with
  | .finding f =>
    ⟨⟨true, max d.verdict.confidence confidence, .truePositive⟩, d.findings ++ [f], d.alerts ++ [alert f]⟩
  | .none | .raised => d

/-- The text of a Python list of trigger names. -/
def triggersText (triggers : List String) : String :=
  "[" ++ ", ".intercalate (triggers.map fun t => "'" ++ t ++ "'") ++ "]"

def ratAlert (f : SecurityFinding) : String :=
  "RatDetector: RAT pattern detected (score=" ++ toString f.score ++ ", triggers=" ++
    triggersText f.triggers ++ ")"

def ddosAlert (f : SecurityFinding) : String :=
  "DDoSDetector: " ++ f.category.upper ++ " pattern detected (score=" ++ toString f.score ++ ")"

def detect (v : Verdict) (rat ddos : Outcome) : Detection :=
  Detection.record 88 ddosAlert ddos (Detection.record 90 ratAlert rat { verdict := v })

/-! ### Containment -/

structure Containment where
  proposed : List ProposedAction := []
  ledger : Ledger
deriving DecidableEq, Repr

/-- A proposal and its ledger entry. -/
def Containment.propose (contextID ledgerAction : String) (a : ProposedAction) (c : Containment) :
    Containment :=
  ⟨c.proposed ++ [a],
    appendToAuditLedger contextID "AntigravityTriageAgent" ledgerAction a a.risk c.ledger⟩

def isolation (target summary : String) : ProposedAction :=
  { action := "isolate_lan_client"
    target := some target
    justification := "Automated WiFi 6 SOAR containment: " ++ summary
    risk := (evaluateContainmentSafety "isolate_lan_client" target).risk
    status := "pending_analyst_approval" }

def proposeIsolation (contextID target summary : String) (c : Containment) : Containment :=
  if (evaluateContainmentSafety "isolate_lan_client" target).permitted then
    c.propose contextID "propose_containment" (isolation target summary)
  else c

/-- The container that a finding is about; the policy sees `None` as a target of that name. -/
def SecurityFinding.container (f : SecurityFinding) : DDoS.HostId :=
  f.sourceIP.getD (f.endpointID.getD (some "unknown"))

def throttle (f : SecurityFinding) : ProposedAction :=
  { action := "throttle_container_network"
    target := f.container
    justification := "Container DDoS/abuse pattern detected: score=" ++ toString f.score
    risk := (evaluateContainmentSafety "throttle_container_network" (f.container.getD "None")).risk
    status := "pending_analyst_approval"
    params := some (f.container, 128) }

def proposeThrottle (contextID : String) (c : Containment) (f : SecurityFinding) : Containment :=
  if f.category = .containerAbuse ∧ f.recommendedAction = .throttleContainer ∧
      (evaluateContainmentSafety "throttle_container_network" (f.container.getD "None")).permitted = true then
    c.propose contextID "propose_container_throttle" (throttle f)
  else c

def contain (contextID target summary : String) (d : Detection) (ledger : Ledger) : Containment :=
  if d.verdict.isThreat then
    d.findings.foldl (proposeThrottle contextID) (proposeIsolation contextID target summary { ledger })
  else { ledger }

def actionSummary (target : String) (v : Verdict) : String :=
  if v.isThreat then
    if (evaluateContainmentSafety "isolate_lan_client" target).permitted then
      "Proposed Layer-2 ARP isolation for " ++ target ++ " (Awaiting Two-Key approval)."
    else
      "Containment suppressed: " ++ (evaluateContainmentSafety "isolate_lan_client" target).reason
  else "No containment required. Logged to telemetry baseline."

/-! ### The call -/

structure Context where
  correlationID : String
  investigationID : String
  contextID : String := "system" -- the correlation id of the ledger's own context

/-- The result without the graph and the duration. -/
structure TriageResult (R : Type) where
  correlationID : String
  investigationID : String
  classification : Classification
  confidence : Nat
  targetIP : String
  forensicFindings : FlowFindings R
  additionalFindings : List SecurityFinding
  proposedActions : List ProposedAction
deriving DecidableEq, Repr

/-- A call: the events it emits, the ledger after it, and what it returns unless it raises. -/
structure TriageRun (R : Type) where
  events : List (BusEvent R)
  ledger : Ledger
  result : Option (TriageResult R)
deriving DecidableEq, Repr

def Context.step (c : Context) (node : Node) (status : StepStatus) (summary : String) : BusEvent R :=
  .step c.correlationID c.investigationID node status summary

section
variable [PyNum R]

/-- The events of the flow analysis itself. -/
def forensicEvents (f : FlowFindings R) : List (BusEvent R) :=
  (match f.site with
    | some site => [.clientSiteVisit (if f.sourceIP = "" then "unknown" else f.sourceIP) site f.domainCategory
        f.bytesOut f.bytesIn]
    | none => []) ++
  if f.exfiltrationRisk || f.isRouterFirewallDrop then
    [.suspiciousFlow (if f.sourceIP = "" then "unknown" else f.sourceIP) (f.site.getD f.destinationIP)
      f.domainCategory f.asymmetryRatio (if f.domainCategory = .knownC2 then 95 else 85)]
  else []

def ingestEvents (c : Context) : List (BusEvent R) :=
  [c.step .ingest .started "Ingesting WiFi 6 router telemetry stream.",
    c.step .ingest .completed "Telemetry ingested and validated against CDM.",
    c.step .deobfuscation .started "Extracting canonical network flows and router event headers."]

def triageEvents (c : Context) (f : FlowFindings R) (summary : String) (d : Detection) : List (BusEvent R) :=
  forensicEvents f ++
  [c.step .deobfuscation .completed ("Analyzed flow for source " ++ f.sourceIP ++ "."),
    c.step .llmTriage .started "Antigravity Agent coordinating with Network Forensics Subagent.",
    c.step .llmTriage .completed summary,
    c.step .detectorSubagents .started "Invoking RatDetector + DDoSDetector subagents."] ++
  d.alerts.map (c.step .detectorSubagents .alert) ++
  (if d.findings = [] then
    [c.step .detectorSubagents .completed "No RAT or DDoS patterns detected."] else []) ++
  [c.step .action .started "Consulting Policy Governance Subagent for safe containment.",
    c.step .action .completed (actionSummary f.target d.verdict)]

def executeTriage (c : Context) (t : Telemetry R) (rat ddos : Outcome) (ledger : Ledger) : TriageRun R :=
  match analyzeFlowFeatures t with
  | none => ⟨ingestEvents c, ledger, none⟩
  | some f =>
    let d := detect (initialVerdict f) rat ddos
    let containment := contain c.contextID f.target (triageSummary t f) d ledger
    { events := ingestEvents c ++ triageEvents c f (triageSummary t f) d
      ledger := containment.ledger
      result := some
        { correlationID := c.correlationID
          investigationID := c.investigationID
          classification := d.verdict.classification
          confidence := d.verdict.confidence
          targetIP := f.target
          forensicFindings := f
          additionalFindings := d.findings
          proposedActions := containment.proposed } }

/-! ### With the DDoS detector -/

def ofDDoSFinding (f : DDoS.Finding R) : SecurityFinding :=
  { category := match f.category with
      | .ddos => .ddos
      | .containerAbuse => .containerAbuse
    score := f.score
    triggers := f.evidence.triggers.map DDoS.Trigger.text
    sourceIP := some f.sourceIP
    endpointID := some f.endpointID
    recommendedAction := match f.recommendedAction with
      | .throttleContainer => .throttleContainer
      | .isolateLanClient => .isolateLanClient
      | .none => .none }

def ofDDoSResult : DDoS.Result R → Outcome
  | .raised => .raised
  | .returned none => .none
  | .returned (some f) => .finding (ofDDoSFinding f)

/-- The coordinator's state: the DDoS baselines, the ledger and the bus, oldest event first. -/
structure Coordinator (R : Type) where
  baselines : DDoS.Baselines R
  ledger : Ledger := []
  events : List (BusEvent R) := []

/-- A call of `execute_triage`, with what the RAT detector answers to it. -/
structure Call (R : Type) where
  context : Context
  telemetry : Telemetry R
  containerMetrics : List (DDoS.ContainerMetric R) := []
  rat : Outcome := .none
  tenantID : String := "default-tenant"

/-- `[telemetry] if telemetry.get("source_ip") else []`, once the analysis has found strings
there. -/
def detectorFlows (t : Telemetry R) (f : FlowFindings R) : List (DDoS.Flow R) :=
  if f.sourceIP = "" then []
  else
    [{ sourceIP := some (some f.sourceIP)
       destinationIP := (t.lookup "destination_ip").map fun _ => some f.destinationIP
       bytesOut := t.get "bytes_out" .none
       ppsTx := t.get "pps_tx" .none }]

/-- The DDoS detector's part of a call; it is not reached if the analysis raises. -/
def Coordinator.ddos (s : Coordinator R) (c : Call R) : DDoS.Baselines R × Outcome :=
  match analyzeFlowFeatures c.telemetry with
  | none => (s.baselines, .none)
  | some f =>
    ((DDoS.analyze DDoS.scoreThreshold s.baselines
        ⟨detectorFlows c.telemetry f, c.containerMetrics, none, c.tenantID⟩).1,
      ofDDoSResult (DDoS.analyze DDoS.scoreThreshold s.baselines
        ⟨detectorFlows c.telemetry f, c.containerMetrics, none, c.tenantID⟩).2)

def Coordinator.triage (s : Coordinator R) (c : Call R) : Coordinator R × Option (TriageResult R) :=
  let run := executeTriage c.context c.telemetry c.rat (s.ddos c).2 s.ledger
  (⟨(s.ddos c).1, run.ledger, s.events ++ run.events⟩, run.result)

end

end Triage
end SocFabric
