import SocFabric.EvidenceStream
import SocFabric.TenantContext

/-!
# The evidence firewall (`domain/investigations/agents.py`)

`tool_fetch_alert_context` reads the evidence stream of core-ingest and keeps the events whose id
was asked for. Its entry in the audit ledger is left out.

An error that reaches the stream is raised again. Three failures do not reach it: a context without
a stub is answered with made-up flows, and core-ingest neither reports a row that does not scan nor
an iteration that breaks off. Exactly these make the tool return as if the evidence were complete
(`evidenceSound_iff`).
-/

namespace SocFabric.Evidence

/-! ### tool_fetch_alert_context -/

/-- `Timestamp.ToJsonString` of the protobuf runtime: UTC, with no, three, six or nine digits of the
second's fraction. -/
def toJsonString (t : Time) : String :=
  let nanos := t.unixNano.fmod 1000000000
  let fraction :=
    if nanos = 0 then ""
    else if nanos % 1000000 = 0 then "." ++ Time.padded 3 (nanos / 1000000)
    else if nanos % 1000 = 0 then "." ++ Time.padded 6 (nanos / 1000)
    else "." ++ Time.padded 9 nanos
  .ofList ((Time.rfc3339Nano ⟨t.unixNano - nanos, 0⟩).toList.dropLast ++ fraction.toList ++ ['Z'])

def evidence (event : SecurityEventDetail) : Json :=
  .obj [("id", .str event.eventID), ("action", .str event.actionExecuted),
    ("risk", .num event.riskScore.toNat), ("source_ip", .str event.sourceIP),
    ("destination_ip", .str event.destinationIP), ("destination_port", .num event.destinationPort.toInt),
    ("protocol", .str event.protocol), ("dns_domain", .str event.dnsDomain),
    ("principal_user", .str event.principalUser),
    ("timestamp", match event.timestamp with
      | some t => .str (toJsonString t)
      | none => .null)]

/-- The fallback "for unit testing environments". -/
def observedFlow (id : String) : Json := .obj [("id", .str id), ("action", .str "ObservedFlow"), ("risk", .num 20)]

/-- The body of the inner loop. -/
def firewall (evidenceIDs : List String) (event : SecurityEventDetail) : Option Json :=
  if evidenceIDs ≠ [] ∧ event.eventID ∉ evidenceIDs then none else some (evidence event)

inductive ToolError
  | permissionError (message : String)
  | runtimeError (message : String)

/-- What `async for` sees of a response stream: its responses, and the text of the exception that
ends it. -/
structure Stream where
  responses : List LogContextResponse
  failure : Option String

def Stream.events (s : Stream) : List SecurityEventDetail := s.responses.flatMap (·.events)

abbrev Stub := LogContextRequest → Metadata → Stream

def callMetadata (env : Env) (tenant : String) : Metadata :=
  [("x-tenant-id", tenant), ("x-internal-service-key", env.internalServiceKey.getD "")]

def toolFetchAlertContext (env : Env) (tenantIDCtx : String) (stub : Option Stub) (evidenceIDs : List String) :
    Except ToolError (List Json) :=
  match evidenceTenant tenantIDCtx with
  | none => .error (.permissionError "403 Evidence Verification Failed: Missing Tenant Context")
  | some tenant =>
    match stub with
    | none => .ok (evidenceIDs.map observedFlow)
    | some fetch =>
      let stream := fetch ⟨evidenceIDs, 100⟩ (callMetadata env tenant)
      match stream.failure with
      | some e => .error (.runtimeError ("Failed to fetch alert context via gRPC: " ++ e))
      | none => .ok (stream.responses.flatMap fun r => r.events.filterMap (firewall evidenceIDs))

/-! ### The call -/

/-- The channel carries what was sent, or breaks with an exception after some of the responses;
`text` is how Python prints a status. -/
def carry (text : Status → String) (broken : Option (Nat × String)) (sent : Sent) : Stream :=
  match broken with
  | none => ⟨sent.responses, sent.status.map text⟩
  | some (k, e) => ⟨sent.responses.take k, some e⟩

def coreIngestStub (lib : UuidLib) (text : Status → String) (run : ServerRun)
    (broken : Option (Nat × String)) : Stub :=
  fun request md => carry text broken (serveAlertContext lib run request md)

/-- What becomes of a call: no stub in the context, some stream of responses, or the one core-ingest
sends. -/
inductive Grpc
  | noStub
  | stream (s : Stream)
  | coreIngest (run : ServerRun) (broken : Option (Nat × String))

def Grpc.stub (lib : UuidLib) (text : Status → String) : Grpc → Option Stub
  | .noStub => none
  | .stream s => some fun _ _ => s
  | .coreIngest run broken => some (coreIngestStub lib text run broken)

def Grpc.delivered (lib : UuidLib) (text : Status → String) (request : LogContextRequest) (md : Metadata)
    (g : Grpc) : List SecurityEventDetail :=
  match g.stub lib text with
  | none => []
  | some fetch => (fetch request md).events

/-- Something failed on the side of core-ingest while it retrieved the evidence. -/
def ServerRun.Failed (lib : UuidLib) (request : LogContextRequest) (md : Metadata) (run : ServerRun) : Prop :=
  match openRows lib run request md with
  | .refused _ => True
  | .noRows => False
  | .rows set => none ∈ set.rows ∨ set.err ≠ none ∨ (streamRows run.send set.rows [] 1).status ≠ none

def Grpc.Failed (lib : UuidLib) (request : LogContextRequest) (md : Metadata) : Grpc → Prop
  | .noStub => True
  | .stream s => s.failure ≠ none
  | .coreIngest run broken => broken ≠ none ∨ run.Failed lib request md

/-! ### Soundness -/

/-- Where the tool returns, it returns delivered events that were asked for, and nothing has
failed. -/
def EvidenceSound (lib : UuidLib) (text : Status → String) (env : Env) (tenantIDCtx : String) (g : Grpc)
    (evidenceIDs : List String) : Prop :=
  ∀ out, toolFetchAlertContext env tenantIDCtx (g.stub lib text) evidenceIDs = .ok out →
    (∀ e ∈ out, ∃ event ∈ g.delivered lib text ⟨evidenceIDs, 100⟩ (callMetadata env tenantIDCtx),
      e = evidence event ∧ (evidenceIDs ≠ [] → event.eventID ∈ evidenceIDs)) ∧
    ¬ g.Failed lib ⟨evidenceIDs, 100⟩ (callMetadata env tenantIDCtx)

/-- If the row loop runs at all, every row scans and the iteration ends properly, unless a `Send`
fails as well. -/
def ServerRun.Surfaces (lib : UuidLib) (request : LogContextRequest) (md : Metadata) (run : ServerRun) : Prop :=
  match openRows lib run request md with
  | .refused _ => True
  | .noRows => True
  | .rows set => (none ∉ set.rows ∧ set.err = none) ∨
      ∃ i, 1 ≤ i ∧ i ≤ batches set.rows.reduceOption.length ∧ run.send i ≠ none

def Grpc.Surfaces (lib : UuidLib) (request : LogContextRequest) (md : Metadata) : Grpc → Prop
  | .noStub => False
  | .stream _ => True
  | .coreIngest run broken => broken ≠ none ∨ run.Surfaces lib request md

section
variable {lib : UuidLib} {text : Status → String} {env : Env} {ctx : String} {ids : List String} {g : Grpc}
  {request : LogContextRequest} {md : Metadata} {run : ServerRun} {out : List Json}

theorem evidenceTenant_eq {t : String} (h : evidenceTenant ctx = some t) : t = ctx := by
  unfold evidenceTenant at h
  split_ifs at h
  exact (Option.some.inj h).symm

theorem firewall_eq_some {event : SecurityEventDetail} {e : Json} (h : firewall ids event = some e) :
    e = evidence event ∧ (ids ≠ [] → event.eventID ∈ ids) := by
  unfold firewall at h
  split_ifs at h with hdrop
  refine ⟨(Option.some.inj h).symm, fun hne => ?_⟩
  by_contra hmem
  exact hdrop ⟨hne, hmem⟩

/-- What the tool returns once it has a tenant and a stub. -/
theorem tool_eq {fetch : Stub} (hctx : evidenceTenant ctx ≠ none) :
    toolFetchAlertContext env ctx (some fetch) ids =
      match (fetch ⟨ids, 100⟩ (callMetadata env ctx)).failure with
      | some e => .error (.runtimeError ("Failed to fetch alert context via gRPC: " ++ e))
      | none => .ok ((fetch ⟨ids, 100⟩ (callMetadata env ctx)).events.filterMap (firewall ids)) := by
  obtain ⟨t, ht⟩ := Option.ne_none_iff_exists'.mp hctx
  obtain rfl := evidenceTenant_eq ht
  rw [toolFetchAlertContext, ht, Stream.events, List.filterMap_flatMap]

theorem carry_failure (broken : Option (Nat × String)) (sent : Sent) :
    (carry text broken sent).failure = none ↔ broken = none ∧ sent.status = none := by
  cases broken with
  | none => simp [carry]
  | some cut => simp [carry]

/-- The failures of a run surface exactly if it ends in an error or nothing has failed. -/
theorem surfaces_iff :
    run.Surfaces lib request md ↔
      ((serveAlertContext lib run request md).status = none → ¬ run.Failed lib request md) := by
  unfold ServerRun.Surfaces ServerRun.Failed serveAlertContext
  cases openRows lib run request md with
  | refused err => simp
  | noRows => simp
  | rows set =>
    have hsend : (∃ i, 1 ≤ i ∧ i ≤ batches set.rows.reduceOption.length ∧ run.send i ≠ none) ↔
        (streamRows run.send set.rows [] 1).status ≠ none := by
      rw [ne_eq, streamRows_status]
      simp only [not_forall, exists_prop, ne_eq]
    simp only [hsend]
    tauto

theorem evidenceSound_of_stream {fetch : Stub} (hstub : g.stub lib text = some fetch)
    (hctx : evidenceTenant ctx ≠ none) :
    EvidenceSound lib text env ctx g ids ↔
      ((fetch ⟨ids, 100⟩ (callMetadata env ctx)).failure = none →
        ¬ g.Failed lib ⟨ids, 100⟩ (callMetadata env ctx)) := by
  unfold EvidenceSound
  rw [hstub, tool_eq hctx]
  cases hfail : (fetch ⟨ids, 100⟩ (callMetadata env ctx)).failure with
  | some e => simp
  | none =>
    constructor
    · intro h _
      exact (h _ rfl).2
    · intro h out hout
      obtain rfl := Except.ok.inj hout
      refine ⟨fun e he => ?_, h rfl⟩
      obtain ⟨event, hevent, hadmit⟩ := List.mem_filterMap.mp he
      have hdelivered : event ∈ g.delivered lib text ⟨ids, 100⟩ (callMetadata env ctx) := by
        rw [Grpc.delivered, hstub]
        exact hevent
      exact ⟨event, hdelivered, firewall_eq_some hadmit⟩

end

/-- The tool keeps its promise exactly if it has no tenant to ask for, or the failures of the call
surface. -/
theorem evidenceSound_iff (lib : UuidLib) (text : Status → String) (env : Env) (tenantIDCtx : String) (g : Grpc)
    (evidenceIDs : List String) :
    EvidenceSound lib text env tenantIDCtx g evidenceIDs ↔
      evidenceTenant tenantIDCtx = none ∨
        g.Surfaces lib ⟨evidenceIDs, 100⟩ (callMetadata env tenantIDCtx) := by
  by_cases hctx : evidenceTenant tenantIDCtx = none
  · refine ⟨fun _ => .inl hctx, fun _ out hout => ?_⟩
    rw [toolFetchAlertContext, hctx] at hout
    cases hout
  rw [or_iff_right hctx]
  cases g with
  | noStub =>
    obtain ⟨t, ht⟩ := Option.ne_none_iff_exists'.mp hctx
    refine ⟨fun h => (h (evidenceIDs.map observedFlow) ?_).2 trivial, False.elim⟩
    rw [toolFetchAlertContext, ht]
    rfl
  | stream s =>
    rw [evidenceSound_of_stream rfl hctx]
    exact ⟨fun _ => trivial, fun _ hok hfailed => hfailed hok⟩
  | coreIngest run broken =>
    rw [evidenceSound_of_stream rfl hctx, coreIngestStub, carry_failure, Grpc.Surfaces, Grpc.Failed,
      surfaces_iff]
    tauto

/-- The driver loses the connection before the first row. -/
def lostConnection : ServerRun where
  internalServiceKey := "service-key"
  query _ := .ok ⟨[], some "read: connection reset by peer"⟩

theorem lostConnection_rows :
    openRows sampleUuidLib lostConnection ⟨["00000000-0000-4000-8000-000000000001"], 100⟩
      (callMetadata production "123e4567-e89b-12d3-a456-426614174000") =
        .rows ⟨[], some "read: connection reset by peer"⟩ := rfl

/-- The tool answers that there is no evidence, although the retrieval has failed. -/
theorem lost_connection_returns_empty :
    toolFetchAlertContext production "123e4567-e89b-12d3-a456-426614174000"
        (Grpc.stub sampleUuidLib Status.message (.coreIngest lostConnection none))
        ["00000000-0000-4000-8000-000000000001"] = .ok [] ∧
      ¬ EvidenceSound sampleUuidLib Status.message production "123e4567-e89b-12d3-a456-426614174000"
        (.coreIngest lostConnection none) ["00000000-0000-4000-8000-000000000001"] := by
  have hctx : evidenceTenant "123e4567-e89b-12d3-a456-426614174000" ≠ none := by decide
  have hempty : serveAlertContext sampleUuidLib lostConnection
      ⟨["00000000-0000-4000-8000-000000000001"], 100⟩
      (callMetadata production "123e4567-e89b-12d3-a456-426614174000") = {} := by
    rw [serveAlertContext, lostConnection_rows]
    rfl
  have hok : toolFetchAlertContext production "123e4567-e89b-12d3-a456-426614174000"
      (Grpc.stub sampleUuidLib Status.message (.coreIngest lostConnection none))
      ["00000000-0000-4000-8000-000000000001"] = .ok [] := by
    rw [Grpc.stub, tool_eq hctx, coreIngestStub, hempty]
    rfl
  refine ⟨hok, fun h => (h [] hok).2 (.inr ?_)⟩
  rw [ServerRun.Failed, lostConnection_rows]
  exact .inr (.inl (Option.some_ne_none _))

end SocFabric.Evidence
