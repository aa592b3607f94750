import SocFabric.CdmParser
import SocFabric.IngestServer
import SocFabric.Lib.Lts
import SocFabric.TriageTargets

/-!
# From the push to triage (`core-ingest/main.go`, `soc-backend/interfaces/main.py`)

`handleAgentPush` puts a `QualifiedEvent` for every payload on a bounded channel,
`SubscribeToQualifiedEvents` streams them, and `_grpc_event_consumer` starts a triage call for each.
A run interleaves requests, sends and failed sends; an event travels with the push it was made from,
which only the statements look at. Neither the event nor the call has the tenant or the observed
addresses, so they survive only where there is nothing to lose (`started_preserved_iff`), and
whatever was observed, the one host that triage ever proposes to isolate is the fallback
(`started_isolations`).
-/

namespace SocFabric
namespace QualifiedEvents
open Cdm Triage

/-- `QualifiedEvent`, with the graph in place of its JSON text. The handler sets neither the source
address nor the raw payload. -/
structure QualifiedEvent where
  correlationID : String
  eventType : String
  endpointID : String
  endpointType : String
  sourceIP : String := ""
  riskScore : UInt32
  ingestedAt : Time
  rawPayloadJSON : String := ""
  provenanceGraph : ProvenanceGraph
deriving DecidableEq, Repr

/-- One payload of a request, in the handler's loop: what it was decoded to, the signals that the
network analysis gave for it, and the clock. -/
structure Payload where
  log : RemoteLogPayload
  signals : List NetworkAnomalySignal := []
  clock : Clock
  now : Time
deriving DecidableEq, Repr

/-- A payload with what the handler knows about its request. -/
structure Push where
  config : TenantConfig
  correlationID : String
  endpointID : String
  payload : Payload
deriving DecidableEq, Repr

def Push.graph (x : Push) : ProvenanceGraph :=
  enrichGraphWithAnomalies x.config.tenantID x.payload.signals
    (parseToCDM x.payload.clock x.payload.log x.config.tenantID)

def edgeRiskScore (g : ProvenanceGraph) : UInt32 :=
  if 100 < UInt32.ofNat (g.nodes.length * 15) then 100 else UInt32.ofNat (g.nodes.length * 15)

def Push.qualifiedEvent (x : Push) : QualifiedEvent :=
  { correlationID := x.correlationID
    eventType := x.payload.log.eventType
    endpointID := x.endpointID
    endpointType := x.payload.log.endpointType
    riskScore := edgeRiskScore x.graph
    ingestedAt := x.payload.now
    provenanceGraph := x.graph }

variable {R : Type}

/-- The call that `_grpc_event_consumer` starts: the tenant is the default, and the RAT detector,
which gets no flow, finds nothing. -/
def grpcEventConsumer (e : QualifiedEvent) : Call R :=
  { context :=
      { correlationID := e.correlationID
        investigationID := "inv-" ++ String.ofList (e.correlationID.toList.take 8) }
    telemetry :=
      [("event_type", .str e.eventType), ("endpoint_id", .str e.endpointID),
        ("risk_score", .int e.riskScore.toNat),
        ("application", .str
          (if Text.contains (Text.pyLower e.eventType) "drop" then "router_firewall_drop" else e.eventType))] }

/-! ### Runs -/

/-- The channel, oldest event first, and the calls that were started. -/
structure Bus (R : Type) where
  channel : List (Push × QualifiedEvent) := []
  started : List (Push × Call R) := []

inductive Act
  | publish (newID : String) (r : Ingest.Request) (payload : Payload)
  | send
  | loseSend -- a send that fails; the event has left the channel
deriving DecidableEq, Repr

def channelCapacity : Nat := 1000

section
variable (internalKey : String) (fetchConfig : String → Option TenantConfig)

/-- The push of a payload, if the middleware delegates its request and the handler accepts it. -/
def accept (newID : String) (r : Ingest.Request) (payload : Payload) : Option Push :=
  match Ingest.serveHTTP internalKey fetchConfig newID r with
  | .delegate .agentPush config correlationID _ =>
    if r.method = "POST" then some ⟨config, correlationID, r.header "X-Endpoint-Id", payload⟩ else none
  | .delegate .databaseWebhook _ _ _ | .ok | .error _ _ => none

def step (s : Bus R) : Act → Option (Bus R)
  | .publish newID r payload => do
    let x ← accept internalKey fetchConfig newID r payload
    return if s.channel.length < channelCapacity then { s with channel := s.channel ++ [(x, x.qualifiedEvent)] }
      else s -- the channel is full and the event is dropped
  | .send =>
    match s.channel with
    | [] => none
    | (x, e) :: rest => some ⟨rest, s.started ++ [(x, grpcEventConsumer e)]⟩
  | .loseSend =>
    match s.channel with
    | [] => none
    | _ :: rest => some { s with channel := rest }

end

/-! ### What is started -/

/-- Events come from their pushes, and calls from their events. -/
structure Bus.Traced (s : Bus R) : Prop where
  channel : ∀ y ∈ s.channel, y.2 = y.1.qualifiedEvent
  started : ∀ y ∈ s.started, y.2 = grpcEventConsumer y.1.qualifiedEvent

variable {internalKey : String} {fetchConfig : String → Option TenantConfig}

theorem traced_step {s s' : Bus R} {a : Act} (hs : step internalKey fetchConfig s a = some s')
    (h : s.Traced) :
    s'.Traced := by
  cases a with
  | publish newID r payload =>
    obtain ⟨x, -, hs⟩ := Option.bind_eq_some_iff.mp hs
    cases hs
    split_ifs
    · refine ⟨?_, h.started⟩
      intro y hy
      rcases List.mem_append.mp hy with hy | hy
      · exact h.channel y hy
      · rw [List.mem_singleton.mp hy]
    · exact h
  | send =>
    obtain ⟨channel, started⟩ := s
    cases channel with
    | nil => cases hs
    | cons y rest =>
      cases hs
      refine ⟨fun y hy => h.channel y (List.mem_cons_of_mem _ hy), ?_⟩
      intro z hz
      rcases List.mem_append.mp hz with hz | hz
      · exact h.started z hz
      · have hy : y.2 = y.1.qualifiedEvent := h.channel y List.mem_cons_self
        rw [List.mem_singleton.mp hz, ← hy]
  | loseSend =>
    obtain ⟨channel, started⟩ := s
    cases channel with
    | nil => cases hs
    | cons y rest =>
      cases hs
      exact ⟨fun y hy => h.channel y (List.mem_cons_of_mem _ hy), h.started⟩

theorem traced_of_reach {s : Bus R} (h : Lts.Reach (step internalKey fetchConfig) Lts.free {} s) : s.Traced :=
  h.invariant (I := Bus.Traced)
    ⟨fun _ hy => absurd hy List.not_mem_nil, fun _ hy => absurd hy List.not_mem_nil⟩
    fun _ hs ht => traced_step hs ht

/-! ### What survives -/

/-- The call is for the tenant of the push, and its telemetry has the addresses that the payload
gives. -/
structure Preserved (x : Push) (c : Call R) : Prop where
  tenantID : c.tenantID = x.config.tenantID
  sourceIP : x.payload.log.rawData.sourceIP ≠ "" →
    c.telemetry.lookup "source_ip" = some (.str x.payload.log.rawData.sourceIP)
  destinationIP : x.payload.log.rawData.destinationIP ≠ "" →
    c.telemetry.lookup "destination_ip" = some (.str x.payload.log.rawData.destinationIP)

theorem lookup_source (e : QualifiedEvent) :
    (grpcEventConsumer e : Call R).telemetry.lookup "source_ip" = none := rfl

theorem lookup_destination (e : QualifiedEvent) :
    (grpcEventConsumer e : Call R).telemetry.lookup "destination_ip" = none := rfl

theorem preserved_consumer_iff (x : Push) :
    Preserved x (grpcEventConsumer x.qualifiedEvent : Call R) ↔ x.config.tenantID = "default-tenant" ∧
      x.payload.log.rawData.sourceIP = "" ∧ x.payload.log.rawData.destinationIP = "" := by
  constructor
  · rintro ⟨htenant, hsource, hdest⟩
    rw [lookup_source] at hsource
    rw [lookup_destination] at hdest
    refine ⟨htenant.symm, ?_, ?_⟩
    · by_contra hne
      cases hsource hne
    · by_contra hne
      cases hdest hne
  · rintro ⟨htenant, hsource, hdest⟩
    exact ⟨htenant.symm, fun hne => absurd hsource hne, fun hne => absurd hdest hne⟩

/-- In every run, a call that is started for a payload keeps its tenant and its addresses exactly if
the tenant is the default one and the payload gives no address. -/
theorem started_preserved_iff {s : Bus R} (h : Lts.Reach (step internalKey fetchConfig) Lts.free {} s)
    {x : Push} {c : Call R} (hc : (x, c) ∈ s.started) :
    Preserved x c ↔ x.config.tenantID = "default-tenant" ∧ x.payload.log.rawData.sourceIP = "" ∧
      x.payload.log.rawData.destinationIP = "" := by
  have hcall : c = grpcEventConsumer x.qualifiedEvent := (traced_of_reach h).started _ hc
  rw [hcall]
  exact preserved_consumer_iff x

/-! ### A push that loses its hosts -/

def acmeConfig : TenantConfig := ⟨"acme-corp", [1, 35], "clickhouse_db_acme", "sk"⟩

def acmeBody : String :=
  "\x7b\"client_id\":\"gateway_bridge-1\",\"event_type\":\"router_firewall_drop\",\"raw_data\":" ++
    "\x7b\"source_ip\":\"10.0.0.7\",\"destination_ip\":\"203.0.113.9\",\"router_action\":\"DROP\"\x7d\x7d"

def acmeRequest : Ingest.Request :=
  { method := "POST"
    path := "/ingest/"
    headers := [("X-Tenant-ID", "acme-corp"), ("X-Endpoint-Id", "gateway_bridge-1")]
    body := acmeBody.toUTF8.data.toList }

/-- The router dropped a packet from a LAN client. -/
def acmePayload : Payload :=
  { log :=
      { clientID := "gateway_bridge-1"
        eventType := "router_firewall_drop"
        rawData := { sourceIP := "10.0.0.7", destinationIP := "203.0.113.9", routerAction := "DROP" }
        endpointID := "gateway_bridge-1"
        endpointType := "gateway_bridge" }
    clock := ⟨1700000000000000000, 1700000000000000001⟩
    now := ⟨1700000000000000002, 0⟩ }

def acmePush : Push := ⟨acmeConfig, "corr-1", "gateway_bridge-1", acmePayload⟩

def acmeBus : Bus Rat := ⟨[], [(acmePush, grpcEventConsumer acmePush.qualifiedEvent)]⟩

theorem acmePush_accepted :
    accept "service-key" (fun _ => some acmeConfig) "corr-1" acmeRequest acmePayload = some acmePush := by
  decide +kernel

theorem acmeBus_reached : Lts.Reach (step "service-key" fun _ => some acmeConfig) Lts.free {} acmeBus := by
  have hpublish : step "service-key" (fun _ => some acmeConfig) ({} : Bus Rat)
      (.publish "corr-1" acmeRequest acmePayload) = some ⟨[(acmePush, acmePush.qualifiedEvent)], []⟩ := by
    rw [step, acmePush_accepted]
    rfl
  exact (Lts.Reach.refl.tail trivial hpublish).tail (a := .send) trivial rfl

theorem acmePush_preserved_iff :
    Preserved acmePush (grpcEventConsumer acmePush.qualifiedEvent : Call Rat) ↔
      acmeConfig.tenantID = "default-tenant" ∧ acmePayload.log.rawData.sourceIP = "" ∧
        acmePayload.log.rawData.destinationIP = "" :=
  started_preserved_iff acmeBus_reached (List.mem_singleton_self _)

theorem observed_hosts_lost :
    ¬ ∀ (internalKey : String) (fetchConfig : String → Option TenantConfig) (s : Bus Rat),
      Lts.Reach (step internalKey fetchConfig) Lts.free {} s → ∀ y ∈ s.started, Preserved y.1 y.2 := by
  intro h
  have hlost := h _ _ _ acmeBus_reached _ (List.mem_singleton_self _)
  have htenant : "default-tenant" = "acme-corp" := hlost.tenantID
  exact absurd htenant (by decide)

/-! ### Whom the calls isolate -/

variable [PyNum R]

theorem target_of_consumer {e : QualifiedEvent} {f : FlowFindings R}
    (h : analyzeFlowFeatures (grpcEventConsumer e : Call R).telemetry = some f) : f.target = fallbackTarget := by
  have hsuspect : (grpcEventConsumer e : Call R).telemetry.suspect = "" := by
    rw [Telemetry.suspect, Telemetry.address, Telemetry.address, Telemetry.get, Telemetry.get, lookup_source,
      lookup_destination]
    exact ite_self _
  rw [FlowFindings.target, suspect_eq h, hsuspect, if_pos rfl]

/-- In every run, whatever was observed and whatever the detectors find, the calls propose to
isolate the fallback host and no other. -/
theorem started_isolations {s : Bus R} (h : Lts.Reach (step internalKey fetchConfig) Lts.free {} s)
    {x : Push} {c : Call R} (hc : (x, c) ∈ s.started) (rat ddos : Triage.Outcome) (ledger : Ledger)
    (a : ProposedAction)
    (ha : a ∈ isolations (executeTriage c.context c.telemetry rat ddos ledger).proposed) :
    a.target = some fallbackTarget := by
  have hcall : c = grpcEventConsumer x.qualifiedEvent := (traced_of_reach h).started _ hc
  cases hf : analyzeFlowFeatures c.telemetry with
  | none =>
    rw [executeTriage_of_raised hf] at ha
    cases ha
  | some f =>
    have htarget : f.target = fallbackTarget := target_of_consumer (hcall ▸ hf)
    obtain ⟨r, hr, -, hproposed, -⟩ := executeTriage_of_findings hf c.context rat ddos ledger
    rw [TriageRun.proposed, hr, Option.elim_some, hproposed, isolations_contain, htarget] at ha
    split_ifs at ha
    · rw [List.mem_singleton.mp ha]
      rfl
    · cases ha

end QualifiedEvents
end SocFabric
