import SocFabric.Lib.GoJson
import SocFabric.Lib.RaisingLoop
import SocFabric.Telemetry
import SocFabric.Lib.Text

/-!
# Telemetry through the batch envelope (`soc-backend/interfaces/agent_routes.py`, `core-ingest/main.go`)

`push_agent_logs` forwards log events to core-ingest as `{"tenant_id", "events"}`. `handleAgentPush`
decodes a single payload by its type, but picks a few keys out of each event of an envelope: the
message becomes the query, the router's gateway the source address, and the rest of the event's raw
data is dropped (`preserved_iff_bare`).
-/

namespace SocFabric
namespace AgentPush
open GoJson

/-! ### push_agent_logs -/

structure LogEvent where
  timestamp : Option String := none
  source : Option String := some "agent-host"
  severity : String := "INFO"
  message : String := "Agent telemetry event"
  metadata : Option (List (String × JsonDoc)) := none

/-- The endpoint that pushes, and the texts that the call draws: `now` is `isoformat()` of the
clock. -/
structure PushContext where
  endpointID : String
  tenantID : String
  correlationID : String
  now : String

def enriched (c : PushContext) (ev : LogEvent) : List (String × JsonDoc) :=
  [("timestamp", .str (Text.pyOr ev.timestamp c.now)), ("source", .str (Text.pyOr ev.source c.endpointID)),
    ("severity", .str ev.severity), ("message", .str ev.message), ("metadata", .obj (ev.metadata.getD [])),
    ("endpoint_id", .str c.endpointID), ("tenant_id", .str c.tenantID),
    ("correlation_id", .str c.correlationID)]

/-- The body that is posted to core-ingest, or the status and detail of the refusal. -/
def pushAgentLogs (c : PushContext) (events : List LogEvent) : Except (Nat × String) JsonDoc :=
  if events = [] then .error (422, "No events provided")
  else if events.length > 500 then .error (413, "Batch too large; max 500 events per push")
  else .ok (.obj [("tenant_id", .str c.tenantID), ("events", .arr (events.map fun ev => .obj (enriched c ev)))])

/-! ### The types of core-ingest -/

/-- `time.Parse(time.RFC3339, s)`, and the checks that `Time.UnmarshalJSON` makes beyond it. -/
structure GoTime where
  parse : String → Option Time
  strict : String → Bool

def time (go : GoTime) : Decoder Time
  | .null, t => some t
  | .str s, _ => if go.strict s then go.parse s else none
  | _, _ => none

def paasFields : List (String × Decoder PaaSEventData) :=
  [field "process_name" (·.processName) (fun d v => { d with processName := v }) string,
    field "target_file" (·.targetFile) (fun d v => { d with targetFile := v }) string,
    field "query" (·.query) (fun d v => { d with query := v }) string,
    field "location" (·.location) (fun d v => { d with location := v }) string,
    field "destination_ip" (·.destinationIP) (fun d v => { d with destinationIP := v }) string,
    field "destination_port" (·.destinationPort) (fun d v => { d with destinationPort := v }) int64,
    field "source_ip" (·.sourceIP) (fun d v => { d with sourceIP := v }) string,
    field "source_port" (·.sourcePort) (fun d v => { d with sourcePort := v }) int64,
    field "protocol" (·.protocol) (fun d v => { d with protocol := v }) string,
    field "dns_domain" (·.dnsDomain) (fun d v => { d with dnsDomain := v }) string,
    field "command_line" (·.commandLine) (fun d v => { d with commandLine := v }) string,
    field "flow_id" (·.flowID) (fun d v => { d with flowID := v }) string,
    field "bytes_out" (·.bytesOut) (fun d v => { d with bytesOut := v }) uint64,
    field "bytes_in" (·.bytesIn) (fun d v => { d with bytesIn := v }) uint64,
    field "packets_out" (·.packetsOut) (fun d v => { d with packetsOut := v }) uint32,
    field "packets_in" (·.packetsIn) (fun d v => { d with packetsIn := v }) uint32,
    field "flow_duration" (·.flowDuration) (fun d v => { d with flowDuration := v }) double,
    field "src_mac" (·.srcMAC) (fun d v => { d with srcMAC := v }) string,
    field "router_action" (·.routerAction) (fun d v => { d with routerAction := v }) string,
    field "router_interface" (·.routerInterface) (fun d v => { d with routerInterface := v }) string,
    field "dst_hostname" (·.dstHostname) (fun d v => { d with dstHostname := v }) string]

def payloadFields (go : GoTime) : List (String × Decoder RemoteLogPayload) :=
  [field "client_id" (·.clientID) (fun p v => { p with clientID := v }) string,
    field "timestamp" (·.timestamp) (fun p v => { p with timestamp := v }) (time go),
    field "event_type" (·.eventType) (fun p v => { p with eventType := v }) string,
    field "raw_data" (·.rawData) (fun p v => { p with rawData := v }) (struct paasFields),
    field "cf_ray_id" (·.cfRayID) (fun p v => { p with cfRayID := v }) string,
    field "client_ip" (·.clientIP) (fun p v => { p with clientIP := v }) string,
    field "endpoint_id" (·.endpointID) (fun p v => { p with endpointID := v }) string,
    field "endpoint_type" (·.endpointType) (fun p v => { p with endpointType := v }) string,
    field "http_path" (·.httpPath) (fun p v => { p with httpPath := v }) string,
    field "user_agent" (·.userAgent) (fun p v => { p with userAgent := v }) string,
    field "tls_fingerprint" (·.tlsFingerprint) (fun p v => { p with tlsFingerprint := v }) string]

structure Envelope where
  tenantID : String := ""
  events : List (List (String × GoValue)) := []

def envelopeFields : List (String × Decoder Envelope) :=
  [field "tenant_id" (·.tenantID) (fun e v => { e with tenantID := v }) string,
    field "events" (·.events) (fun e v => { e with events := v }) mapSlice]

/-! ### handleAgentPush -/

/-- What the handler takes from the request besides the body; `now i` is `time.Now()` at the `i`-th
event. -/
structure PushRequest where
  endpointId : String
  cfRay : String := ""
  clientIP : String := ""
  userAgent : String := ""
  tlsFingerprint : String := ""
  path : String := "/ingest/"
  now : Nat → Time

def getString (m : List (String × GoValue)) (key : String) : Option String :=
  match lookupLast m key with
  | some (.string s) => some s
  | _ => none

def getMap (m : List (String × GoValue)) (key : String) : Option (List (String × GoValue)) :=
  match lookupLast m key with
  | some (.map entries) => some entries
  | _ => none

section
variable (go : GoTime) (r : PushRequest)

/-- The payload of one event of an envelope. -/
def eventPayload (now : Time) (rawEv : List (String × GoValue)) : RemoteLogPayload where
  clientID :=
    ((getMap rawEv "metadata").bind (getString · "client_id")).getD
      (Text.pyOr (getString rawEv "source") r.endpointId)
  timestamp := ((getString rawEv "timestamp").bind go.parse).getD now
  eventType := ((getMap rawEv "metadata").bind (getString · "event_type")).getD "security_event"
  rawData :=
    { query := (getString rawEv "message").getD ""
      sourceIP := (((getMap rawEv "metadata").bind (getMap · "raw_data")).bind
        (getString · "router_gateway")).getD "" }
  cfRayID := r.cfRay
  clientIP := r.clientIP
  endpointID := r.endpointId
  endpointType := ((getMap rawEv "metadata").bind (getString · "endpoint_type")).getD "iaas"
  httpPath := r.path
  userAgent := r.userAgent

def endpointType (p : RemoteLogPayload) : String :=
  if Text.contains r.endpointId "gateway_bridge" || Text.contains r.endpointId "router" ||
      Text.contains (Text.goLower p.eventType) "router" then "gateway_bridge"
  else if Text.contains r.endpointId "local" then "local_cf_tunnel"
  else if Text.contains r.endpointId "iaas" then "iaas"
  else "paas"

/-- A decoded single payload, with what the request says. -/
def stamped (p : RemoteLogPayload) : RemoteLogPayload :=
  { p with
    cfRayID := r.cfRay
    clientIP := r.clientIP
    endpointID := r.endpointId
    userAgent := r.userAgent
    tlsFingerprint := r.tlsFingerprint
    httpPath := r.path
    endpointType := endpointType r p }

/-- The payloads of a request, by the branch that builds them; `invalid` is the answer 400. -/
inductive Parsed
  | batch (payloads : List RemoteLogPayload)
  | single (payload : RemoteLogPayload)
  | invalid

def parseSingle (body : JsonDoc) : Parsed :=
  match struct (payloadFields go) body {} with
  | some p => .single (stamped r p)
  | none => .invalid

def parsePayloads (body : JsonDoc) : Parsed :=
  match struct envelopeFields body {} with
  | some env =>
    if env.events ≠ [] then .batch (env.events.mapIdx fun i rawEv => eventPayload go r (r.now i) rawEv)
    else parseSingle go r body
  | none => parseSingle go r body

end

/-! ### The two ways of one event -/

/-- The member of a key, to be copied into another object. -/
def copyMember (ms : List (String × JsonDoc)) (key : String) : List (String × JsonDoc) :=
  (lookupLast ms key).toList.map fun v => (key, v)

/-- The event as the single payload that carries the same telemetry. -/
def equivalent (c : PushContext) (ev : LogEvent) : JsonDoc :=
  .obj ([("client_id", .str (Text.pyOr ev.source c.endpointID)),
      ("timestamp", .str (Text.pyOr ev.timestamp c.now))] ++
    copyMember (ev.metadata.getD []) "event_type" ++ copyMember (ev.metadata.getD []) "raw_data")

/-- The event's raw data decodes to `d`, and its timestamp is the RFC 3339 text of `t`. -/
structure Reports (go : GoTime) (ev : LogEvent) (raw : List (String × JsonDoc)) (d : PaaSEventData) (t : Time) :
    Prop where
  timestamp : ∃ ts, ev.timestamp = some ts ∧ ts ≠ "" ∧ go.strict ts = true ∧ go.parse ts = some t
  rawData : lookupLast (ev.metadata.getD []) "raw_data" = some (.obj raw)
  decodes : struct paasFields (.obj raw) {} = some d

/-- The payload built for the `i`-th event of a batch has the telemetry of the single payload. -/
def Preserved (go : GoTime) (c : PushContext) (r r' : PushRequest) (body : JsonDoc) (i : Nat) (ev : LogEvent) :
    Prop :=
  ∃ ps p q, parsePayloads go r body = .batch ps ∧ ps[i]? = some p ∧
    parsePayloads go r' (equivalent c ev) = .single q ∧
    p.rawData = q.rawData ∧ p.eventType = q.eventType ∧ p.timestamp = q.timestamp

def stringMember (ms : List (String × JsonDoc)) (key : String) : Option String :=
  match lookupLast ms key with
  | some (.str s) => some s
  | _ => none

/-- All that the batch branch keeps of an event's raw data. -/
def bareData (ev : LogEvent) (raw : List (String × JsonDoc)) : PaaSEventData :=
  { query := ev.message, sourceIP := (stringMember raw "router_gateway").getD "" }

/-! ### The envelope -/

section
variable {go : GoTime} {c : PushContext} {r r' : PushRequest} {ev : LogEvent} {events : List LogEvent}
  {ms raw : List (String × JsonDoc)} {es : List (String × GoValue)} {d : PaaSEventData} {t : Time}

theorem getString_toGoEntries (h : toGoEntries ms = some es) (key : String) :
    getString es key = stringMember ms key := by
  rw [getString, stringMember, lookupLast_toGoEntries h]
  cases hd : lookupLast ms key with
  | none => rfl
  | some v =>
    obtain ⟨w, hw⟩ := exists_toGoValue h hd
    rw [Option.bind_some, hw]
    cases v <;> simp only [toGoValue, Option.map_eq_some_iff, Option.some.injEq] at hw
    case int => obtain ⟨x, -, rfl⟩ := hw; rfl
    case float => obtain ⟨x, -, rfl⟩ := hw; rfl
    case arr => obtain ⟨x, -, rfl⟩ := hw; rfl
    case obj => obtain ⟨x, -, rfl⟩ := hw; rfl
    all_goals
      subst hw
      rfl

theorem getMap_toGoEntries (h : toGoEntries ms = some es) {key : String}
    (hraw : lookupLast ms key = some (.obj raw)) : ∃ m, toGoEntries raw = some m ∧ getMap es key = some m := by
  obtain ⟨w, hw⟩ := exists_toGoValue h hraw
  have hm := hw
  simp only [toGoValue, Option.map_eq_some_iff] at hm
  obtain ⟨m, hm, rfl⟩ := hm
  refine ⟨m, hm, ?_⟩
  rw [getMap, lookupLast_toGoEntries h, hraw, Option.bind_some, hw]

/-- The event of the envelope as the handler holds it. -/
def rawEvent (c : PushContext) (ev : LogEvent) (es : List (String × GoValue)) : List (String × GoValue) :=
  [("timestamp", .string (Text.pyOr ev.timestamp c.now)), ("source", .string (Text.pyOr ev.source c.endpointID)),
    ("severity", .string ev.severity), ("message", .string ev.message), ("metadata", .map es),
    ("endpoint_id", .string c.endpointID), ("tenant_id", .string c.tenantID),
    ("correlation_id", .string c.correlationID)]

theorem toGoEntries_enriched (c : PushContext) (ev : LogEvent) :
    toGoEntries (enriched c ev) = (toGoEntries (ev.metadata.getD [])).map (rawEvent c ev) := by
  cases h : toGoEntries (ev.metadata.getD []) <;> simp [enriched, toGoEntries, toGoValue, h, rawEvent]

/-- The events of a batch, as the handler holds them. -/
def rawEvents (c : PushContext) (events : List LogEvent) : Option (List (List (String × GoValue))) :=
  events.mapM fun ev => (toGoEntries (ev.metadata.getD [])).map (rawEvent c ev)

theorem struct_envelope (c : PushContext) (events : List LogEvent) :
    struct envelopeFields
        (.obj [("tenant_id", .str c.tenantID), ("events", .arr (events.map fun ev => .obj (enriched c ev)))]) {} =
      (rawEvents c events).map fun evs => ⟨c.tenantID, evs⟩ := by
  have hmap : (events.map fun ev => JsonDoc.obj (enriched c ev)).mapM mapElem = rawEvents c events := by
    rw [List.mapM_map, rawEvents]
    simp only [Function.comp_def, mapElem, toGoEntries_enriched]
  have htenant : findField envelopeFields "tenant_id" =
      some fun d e => (string d e.tenantID).map fun v => { e with tenantID := v } := rfl
  have hevents : findField envelopeFields "events" =
      some fun d e => (mapSlice d e.events).map fun v => { e with events := v } := rfl
  rw [struct_obj_cons htenant, string, Option.map_some, Option.bind_some, struct_obj_cons hevents,
    mapSlice, hmap]
  simp only [struct_obj_nil, Option.bind_fun_some]

theorem isSome_rawEvents_iff :
    (rawEvents c events).isSome = true ↔ ∀ ev ∈ events, numbersFitMembers (ev.metadata.getD []) = true := by
  simp only [rawEvents, RaisingLoop.isSome_mapM_iff, Option.isSome_map, isSome_toGoEntries]

theorem parseSingle_ne_batch (body : JsonDoc) (ps : List RemoteLogPayload) :
    parseSingle go r body ≠ .batch ps := by
  unfold parseSingle
  split <;> simp

/-- The payload of an event in a batch. -/
theorem parsePayloads_batch_iff {body : JsonDoc} (hbody : pushAgentLogs c events = .ok body)
    {ps : List RemoteLogPayload} :
    parsePayloads go r body = .batch ps ↔
      ∃ evs, rawEvents c events = some evs ∧
        ps = evs.mapIdx fun i rawEv => eventPayload go r (r.now i) rawEv := by
  unfold pushAgentLogs at hbody
  split_ifs at hbody with hempty hlong
  cases hbody
  rw [parsePayloads, struct_envelope]
  cases h : rawEvents c events with
  | none => simp [parseSingle_ne_batch]
  | some evs =>
    have hevs : evs ≠ [] := by
      rintro rfl
      obtain ⟨ev, rest, rfl⟩ := List.exists_cons_of_ne_nil hempty
      have hnone := RaisingLoop.getElem?_of_mapM h 0
      have hsome := RaisingLoop.isSome_mapM_iff.mp (Option.isSome_iff_exists.mpr ⟨_, h⟩) ev List.mem_cons_self
      rw [List.getElem?_nil, List.getElem?_cons_zero, Option.bind_some] at hnone
      rw [← hnone] at hsome
      cases hsome
    simp [hevs, eq_comm]

/-- What the batch branch makes of an event. -/
theorem eventPayload_rawEvent (h : Reports go ev raw d t) (hes : toGoEntries (ev.metadata.getD []) = some es)
    (now : Time) :
    (eventPayload go r now (rawEvent c ev es)).rawData = bareData ev raw ∧
      (eventPayload go r now (rawEvent c ev es)).eventType =
        (stringMember (ev.metadata.getD []) "event_type").getD "security_event" ∧
      (eventPayload go r now (rawEvent c ev es)).timestamp = t := by
  obtain ⟨ts, hts, hne, -, hparse⟩ := h.timestamp
  obtain ⟨m, hm, hmap⟩ := getMap_toGoEntries hes h.rawData
  have hmeta : getMap (rawEvent c ev es) "metadata" = some es := rfl
  have hmessage : getString (rawEvent c ev es) "message" = some ev.message := rfl
  have htimestamp : getString (rawEvent c ev es) "timestamp" = some (Text.pyOr ev.timestamp c.now) := rfl
  refine ⟨?_, ?_, ?_⟩
  · simp only [eventPayload, hmeta, hmessage, hmap, Option.bind_some, Option.getD_some,
      getString_toGoEntries hm, bareData]
  · simp only [eventPayload, hmeta, Option.bind_some, getString_toGoEntries hes]
  · simp only [eventPayload, htimestamp, hts, Text.pyOr_some hne, Option.bind_some, hparse, Option.getD_some]

/-! ### The single payload -/

/-- The event type that a single payload has, if its member decodes. -/
def singleEventType (ms : List (String × JsonDoc)) : Option String :=
  match lookupLast ms "event_type" with
  | some v => string v ""
  | none => some ""

theorem struct_equivalent (h : Reports go ev raw d t) :
    struct (payloadFields go) (equivalent c ev) {} =
      (singleEventType (ev.metadata.getD [])).map fun et =>
        { clientID := Text.pyOr ev.source c.endpointID, timestamp := t, eventType := et, rawData := d } := by
  obtain ⟨ts, hts, hne, hstrict, hparse⟩ := h.timestamp
  have hclient : findField (payloadFields go) "client_id" =
      some fun d p => (string d p.clientID).map fun v => { p with clientID := v } := rfl
  have htime : findField (payloadFields go) "timestamp" =
      some fun d p => (time go d p.timestamp).map fun v => { p with timestamp := v } := rfl
  have htype : findField (payloadFields go) "event_type" =
      some fun d p => (string d p.eventType).map fun v => { p with eventType := v } := rfl
  have hraw : findField (payloadFields go) "raw_data" =
      some fun d p => (struct paasFields d p.rawData).map fun v => { p with rawData := v } := rfl
  have hhead : ∀ ms, struct (payloadFields go)
      (.obj ([("client_id", .str (Text.pyOr ev.source c.endpointID)), ("timestamp", .str ts)] ++ ms)) {} =
      struct (payloadFields go) (.obj ms) { clientID := Text.pyOr ev.source c.endpointID, timestamp := t } := by
    intro ms
    rw [List.cons_append, List.singleton_append, struct_obj_cons hclient, string, Option.map_some,
      Option.bind_some, struct_obj_cons htime, time, if_pos hstrict, hparse, Option.map_some, Option.bind_some]
  have htail : ∀ p : RemoteLogPayload, p.rawData = {} →
      struct (payloadFields go) (.obj [("raw_data", .obj raw)]) p = some { p with rawData := d } := by
    intro p hp
    rw [struct_obj_cons hraw, hp, h.decodes, Option.map_some, Option.bind_some, struct_obj_nil]
  rw [equivalent, copyMember, copyMember, h.rawData, singleEventType, hts, Text.pyOr_some hne,
    List.append_assoc, hhead]
  cases lookupLast (ev.metadata.getD []) "event_type" with
  | none => exact htail _ rfl
  | some v =>
    simp only [Option.toList_some, List.map_nil, List.map_cons, List.cons_append, List.nil_append]
    rw [struct_obj_cons htype]
    cases string v "" with
    | none => rfl
    | some et => exact htail _ rfl

/-- No member of a single payload is taken for one of the envelope. -/
theorem parsePayloads_equivalent (c : PushContext) (ev : LogEvent) :
    parsePayloads go r (equivalent c ev) = parseSingle go r (equivalent c ev) := by
  have hskip : struct envelopeFields (equivalent c ev) {} = some {} := by
    apply struct_obj_skip
    intro m hm
    have hkey : m.1 ∈ ["client_id", "timestamp", "event_type", "raw_data"] := by
      simp only [copyMember, List.mem_append, List.mem_map, List.mem_cons, List.not_mem_nil, or_false] at hm
      rcases hm with ((rfl | rfl) | ⟨v, -, rfl⟩) | ⟨v, -, rfl⟩ <;> simp
    simp only [List.mem_cons, List.not_mem_nil, or_false] at hkey
    rcases hkey with hkey | hkey | hkey | hkey <;> rw [hkey] <;> rfl
  rw [parsePayloads, hskip]
  exact if_neg (by simp)

theorem parsePayloads_single_iff (h : Reports go ev raw d t) (q : RemoteLogPayload) :
    parsePayloads go r (equivalent c ev) = .single q ↔
      ∃ et, singleEventType (ev.metadata.getD []) = some et ∧
        q = stamped r
          { clientID := Text.pyOr ev.source c.endpointID, timestamp := t, eventType := et, rawData := d } := by
  rw [parsePayloads_equivalent, parseSingle, struct_equivalent h]
  cases singleEventType (ev.metadata.getD []) with
  | none => simp
  | some et => simp [eq_comm]

/-- An event whose type is no string reads as untyped in a single payload, or not at all. -/
theorem singleEventType_of_stringMember (ms : List (String × JsonDoc)) :
    (∀ et, stringMember ms "event_type" = some et → singleEventType ms = some et) ∧
      (stringMember ms "event_type" = none → ∀ et, singleEventType ms = some et → et = "") := by
  unfold stringMember singleEventType
  cases lookupLast ms "event_type" with
  | none => simp
  | some v => cases v <;> simp [string]

/-- The payload built for an event of a batch that decodes. -/
theorem exists_batchPayload {body : JsonDoc} (hbody : pushAgentLogs c events = .ok body) {i : Nat}
    (hev : events[i]? = some ev) (h : Reports go ev raw d t)
    (hfit : ∀ e ∈ events, numbersFitMembers (e.metadata.getD []) = true) :
    ∃ ps p, parsePayloads go r body = .batch ps ∧ ps[i]? = some p ∧ p.rawData = bareData ev raw ∧
      p.eventType = (stringMember (ev.metadata.getD []) "event_type").getD "security_event" ∧ p.timestamp = t := by
  obtain ⟨evs, hevs⟩ := Option.isSome_iff_exists.mp (isSome_rawEvents_iff.mpr hfit)
  have hes := hfit ev (List.mem_of_getElem? hev)
  rw [← isSome_toGoEntries, Option.isSome_iff_exists] at hes
  obtain ⟨es, hes⟩ := hes
  have hi := RaisingLoop.getElem?_of_mapM hevs i
  rw [hev, Option.bind_some, hes, Option.map_some] at hi
  refine ⟨_, eventPayload go r (r.now i) (rawEvent c ev es), (parsePayloads_batch_iff hbody).mpr ⟨evs, hevs, rfl⟩,
    ?_, eventPayload_rawEvent h hes (r.now i)⟩
  rw [List.getElem?_mapIdx, hi, Option.map_some]

theorem Preserved.bare {body : JsonDoc} (hbody : pushAgentLogs c events = .ok body) {i : Nat}
    (hev : events[i]? = some ev) (h : Reports go ev raw d t) (hpres : Preserved go c r r' body i ev) :
    (∀ e ∈ events, numbersFitMembers (e.metadata.getD []) = true) ∧
      stringMember (ev.metadata.getD []) "event_type" ≠ none ∧ d = bareData ev raw := by
  obtain ⟨ps, p, q, hps, hp, hq, hraw, htype, -⟩ := hpres
  obtain ⟨evs, hevs, -⟩ := (parsePayloads_batch_iff hbody).mp hps
  have hfit := isSome_rawEvents_iff.mp (Option.isSome_iff_exists.mpr ⟨evs, hevs⟩)
  obtain ⟨ps', p', hps', hp', hraw', htype', -⟩ := exists_batchPayload hbody hev h hfit
  rw [hps'] at hps
  cases hps
  rw [hp'] at hp
  cases hp
  obtain ⟨et, het, rfl⟩ := (parsePayloads_single_iff h q).mp hq
  refine ⟨hfit, ?_, hraw.symm.trans hraw'⟩
  -- Without a type the batch branch says "security_event" and the single payload says nothing.
  intro hno
  rw [hno, Option.getD_none, htype] at htype'
  have hsec : et = "security_event" := htype'
  rw [(singleEventType_of_stringMember _).2 hno et het] at hsec
  exact absurd hsec (by decide)

theorem preserved_of_bare {body : JsonDoc} (hbody : pushAgentLogs c events = .ok body) {i : Nat}
    (hev : events[i]? = some ev) (h : Reports go ev raw (bareData ev raw) t)
    (hfit : ∀ e ∈ events, numbersFitMembers (e.metadata.getD []) = true)
    (htype : stringMember (ev.metadata.getD []) "event_type" ≠ none) : Preserved go c r r' body i ev := by
  obtain ⟨et, het⟩ := Option.ne_none_iff_exists'.mp htype
  have hsingle := (singleEventType_of_stringMember _).1 et het
  obtain ⟨ps, p, hps, hp, hraw, hptype, ht⟩ := exists_batchPayload hbody hev h hfit
  refine ⟨ps, p, _, hps, hp, (parsePayloads_single_iff h _).mpr ⟨et, hsingle, rfl⟩, hraw, ?_, ht⟩
  rw [hptype, het]
  rfl

end

/-- A batched event keeps its telemetry exactly if the numbers of the batch fit, the event has a
type, and its raw data says no more than its message and its gateway. -/
theorem preserved_iff_bare (go : GoTime) (c : PushContext) (r r' : PushRequest) (events : List LogEvent)
    (body : JsonDoc) (hbody : pushAgentLogs c events = .ok body) (i : Nat) (ev : LogEvent)
    (hev : events[i]? = some ev) (raw : List (String × JsonDoc)) (d : PaaSEventData) (t : Time)
    (h : Reports go ev raw d t) :
    Preserved go c r r' body i ev ↔
      (∀ e ∈ events, numbersFitMembers (e.metadata.getD []) = true) ∧
        stringMember (ev.metadata.getD []) "event_type" ≠ none ∧ d = bareData ev raw := by
  constructor
  · exact fun hpres => hpres.bare hbody hev h
  · rintro ⟨hfit, htype, rfl⟩
    exact preserved_of_bare hbody hev h hfit htype

/-! ### Two events -/

def noonTime : GoTime where
  parse s := if s = "2026-03-01T12:00:00Z" then some ⟨1772366400000000000, 0⟩ else none
  strict s := s = "2026-03-01T12:00:00Z"

def noonEvent (raw : List (String × JsonDoc)) : LogEvent where
  timestamp := some "2026-03-01T12:00:00Z"
  message := "router heartbeat"
  metadata := some [("event_type", .str "network_flow"), ("raw_data", .obj raw)]

def flowRaw : List (String × JsonDoc) :=
  [("source_ip", .str "10.0.0.5"), ("destination_ip", .str "203.0.113.9"), ("destination_port", .int 443)]

def heartbeatRaw : List (String × JsonDoc) :=
  [("router_gateway", .str "192.168.1.1"), ("source_ip", .str "192.168.1.1"), ("query", .str "router heartbeat")]

theorem reports_noonEvent (raw : List (String × JsonDoc)) {d : PaaSEventData}
    (h : struct paasFields (.obj raw) {} = some d) :
    Reports noonTime (noonEvent raw) raw d ⟨1772366400000000000, 0⟩ :=
  ⟨⟨_, rfl, by decide, by decide, rfl⟩, rfl, h⟩

def gatewayContext : PushContext := ⟨"router-1", "acme-corp", "c0ffee", "2026-03-01T12:00:01+00:00"⟩

def gatewayRequest : PushRequest := { endpointId := "router-1", now := fun _ => ⟨1772366401000000000, 0⟩ }

/-- The destination of a batched flow is lost. -/
theorem batched_flow_loses_destination :
    ¬ ∀ (go : GoTime) (c : PushContext) (r r' : PushRequest) (events : List LogEvent) (body : JsonDoc),
      pushAgentLogs c events = .ok body → ∀ (i : Nat) (ev : LogEvent), events[i]? = some ev →
      ∀ raw d t, Reports go ev raw d t → Preserved go c r r' body i ev := by
  intro h
  have hrep := reports_noonEvent flowRaw rfl
  have hev : [noonEvent flowRaw][0]? = some (noonEvent flowRaw) := rfl
  have hpres := h noonTime gatewayContext gatewayRequest gatewayRequest _ _ rfl 0 _ hev _ _ _ hrep
  have hbare := (hpres.bare rfl hev hrep).2.2
  exact absurd (congrArg PaaSEventData.destinationIP hbare) (by decide)

theorem batched_heartbeat_preserved :
    Preserved noonTime gatewayContext gatewayRequest gatewayRequest
      (.obj [("tenant_id", .str "acme-corp"),
        ("events", .arr [.obj (enriched gatewayContext (noonEvent heartbeatRaw))])]) 0 (noonEvent heartbeatRaw) :=
  (preserved_iff_bare noonTime gatewayContext gatewayRequest gatewayRequest [noonEvent heartbeatRaw] _ rfl 0 _ rfl
    heartbeatRaw _ _ (reports_noonEvent heartbeatRaw rfl)).mpr ⟨by decide, by decide, rfl⟩

end AgentPush
end SocFabric
