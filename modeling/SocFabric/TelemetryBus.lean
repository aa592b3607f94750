import SocFabric.BatchEnvelope
import SocFabric.Credentials
import SocFabric.IntelligenceEngine
import SocFabric.Lib.Lts
import SocFabric.Lib.Slots

/-!
# From the push to the window of a tenant (`soc-backend/interfaces/agent_routes.py`)

`push_agent_logs` brings a body to a list of log events, forwards them to core-ingest and then puts
them on the internal bus, from which the intelligence loop takes them. Requests wait for core-ingest
in any order, and the loop waits while it triages, so that both interleave. An event travels with
the request that it came with; a request stays as it came in, with the table that it was authenticated
against, and `pushes` and `triages` record what was offered to the bus and what was triaged.
-/

namespace SocFabric.TelemetryBus
open AgentPush BoundedQueue GoJson Intelligence

/-! ### The body -/

/-- The body as `FastAPI` decides between the types of the union. -/
inductive RawRequest
  | push (events : List LogEvent)
  | list (events : List LogEvent)
  | single (event : LogEvent)
  | dict (members : List (String × JsonDoc))

def truth : JsonDoc → Bool
  | .null => false
  | .bool b => b
  | .int n => n ≠ 0
  | .float x => x ≠ 0
  | .str s => s ≠ ""
  | .arr elems => !elems.isEmpty
  | .obj members => !members.isEmpty

/-- A field `Optional[str]` with its default; `none` is a validation error. -/
def optionalText (members : List (String × JsonDoc)) (key : String) (default : Option String) :
    Option (Option String) :=
  match lookupLast members key with
  | none => some default
  | some .null => some none
  | some (.str s) => some (some s)
  | some _ => none

def text (members : List (String × JsonDoc)) (key default : String) : Option String :=
  match lookupLast members key with
  | none => some default
  | some (.str s) => some s
  | some _ => none

def optionalDict (members : List (String × JsonDoc)) (key : String) : Option (Option (List (String × JsonDoc))) :=
  match lookupLast members key with
  | none | some .null => some none
  | some (.obj ms) => some (some ms)
  | some _ => none

/-- `LogEvent(**item)`. -/
def logEventOf (item : List (String × JsonDoc)) : Option LogEvent := do
  let timestamp ← optionalText item "timestamp" none
  let source ← optionalText item "source" (some "agent-host")
  let severity ← text item "severity" "INFO"
  let message ← text item "message" "Agent telemetry event"
  let metadata ← optionalDict item "metadata"
  return { timestamp, source, severity, message, metadata }

/-- `a or b` on the members of a body. -/
def orElse (a : Option JsonDoc) (b : JsonDoc) : JsonDoc :=
  match a with
  | some v => if truth v then v else b
  | none => b

def asText : JsonDoc → Option String
  | .str s => some s
  | _ => none

/-- A body without a list of events: one event, with the whole body as its metadata. `format` is how
an f-string shows a member. -/
def flatEvent (format : JsonDoc → String) (now : String) (members : List (String × JsonDoc)) : Option LogEvent := do
  let timestamp ← asText (orElse (lookupLast members "timestamp") (.str now))
  let source ← asText (orElse (lookupLast members "client_id") (orElse (lookupLast members "source") (.str "agent-host")))
  let eventType := (lookupLast members "event_type").getD (.str "telemetry")
  let message ← asText (orElse (lookupLast members "message") (.str ("Event: " ++ format eventType)))
  return { timestamp := some timestamp, source := some source, severity := "INFO", message, metadata := some members }

def dictItems : List JsonDoc → List (List (String × JsonDoc))
  | [] => []
  | .obj ms :: items => ms :: dictItems items
  | _ :: items => dictItems items

/-- The events of a body; `none` is a validation error within the handler. -/
def RawRequest.events (format : JsonDoc → String) (now : String) : RawRequest → Option (List LogEvent)
  | .push events | .list events => some events
  | .single event => some [event]
  | .dict members =>
    match lookupLast members "events" with
    | some (.arr items) => (dictItems items).mapM logEventOf
    | _ => (flatEvent format now members).map ([·])

/-- What a body is to bring: the events of a list, a single event, one event for each object in a list
`events`, or one for the whole object. -/
inductive Brings (format : JsonDoc → String) (now : String) : RawRequest → List LogEvent → Prop
  | push (events : List LogEvent) : Brings format now (.push events) events
  | list (events : List LogEvent) : Brings format now (.list events) events
  | single (event : LogEvent) : Brings format now (.single event) [event]
  | items {members : List (String × JsonDoc)} {items : List JsonDoc} {events : List LogEvent}
    (hitems : lookupLast members "events" = some (.arr items))
    (hevents : List.Forall₂ (fun item event => logEventOf item = some event) (dictItems items) events) :
    Brings format now (.dict members) events
  | flat {members : List (String × JsonDoc)} {event : LogEvent}
    (hitems : ∀ items, lookupLast members "events" ≠ some (.arr items))
    (hevent : flatEvent format now members = some event) : Brings format now (.dict members) [event]

theorem forall₂_of_mapM {items : List (List (String × JsonDoc))} {events : List LogEvent}
    (h : items.mapM logEventOf = some events) :
    List.Forall₂ (fun item event => logEventOf item = some event) items events := by
  induction items generalizing events with
  | nil =>
    cases h
    exact .nil
  | cons item items ih =>
    rw [List.mapM_cons, Option.bind_eq_bind, Option.bind_eq_some_iff] at h
    obtain ⟨event, hevent, h⟩ := h
    obtain ⟨rest, hrest, heq⟩ := Option.bind_eq_some_iff.mp h
    cases heq
    exact .cons hevent (ih hrest)

theorem brings_of_events {format : JsonDoc → String} {now : String} {raw : RawRequest}
    {events : List LogEvent} (h : raw.events format now = some events) : Brings format now raw events := by
  unfold RawRequest.events at h
  split at h
  · cases h
    exact .push events
  · cases h
    exact .list events
  · cases h
    exact .single _
  · split at h
    · rename_i hitems
      exact .items hitems (forall₂_of_mapM h)
    · rename_i hitems
      obtain ⟨event, hevent, rfl⟩ := Option.map_eq_some_iff.mp h
      exact .flat hitems hevent

/-! ### Requests, the bus and the loop -/

/-- A request to the route: its headers and its body, the table that the authentication reads, and the
texts that the handler draws. -/
structure Request where
  rows : List Credentials.Endpoint
  authorization : Option String
  xTenantId : Option String
  raw : RawRequest
  correlationID : String
  now : String

/-- The answer of `verify_endpoint_secret`. -/
def Request.authenticate (r : Request) : Except Credentials.Failure Credentials.Context :=
  Credentials.authenticate r.rows r.authorization r.xTenantId .agentPush

structure Item where
  request : Nat
  context : PushContext
  log : LogEvent

/-- What the loop reads of the dictionary `enriched`. -/
def Item.event (x : Item) : Event where
  tenantID := some x.context.tenantID
  source := some (Text.pyOr x.log.source x.context.endpointID)
  severity := some x.log.severity
  message := some x.log.message

inductive Reply
  | accepted (received : Nat) (context : PushContext)
  | refused (status : Nat) (detail : Json)

inductive Pc
  | forwarding (endpoint : Credentials.Context) (events : List LogEvent) (body : JsonDoc)
  | replied (reply : Reply)

def busSize : Nat := 50000

/-- What a request has offered to the bus while `waiting` events were on it. -/
structure Push where
  request : Nat
  items : List Item
  waiting : Nat

def Push.kept (p : Push) : List Item := p.items.take (busSize - p.waiting)

structure State where
  requests : Nat → Option (Request × Pc) := fun _ => none
  bus : List Item := []
  engine : EngineState := {}
  triaging : Bool := false
  consumed : List (Item × Double) := []
  pushes : List Push := []
  triages : List (String × List Event) := []

structure Env where
  development : Bool
  format : JsonDoc → String

inductive Act
  | push (i : Nat) (r : Request)
  -- the status of core-ingest, which may be out of reach
  | forwarded (i : Nat) (status : Option Nat)
  | consume (now : Double)
  | triaged

def Request.context (r : Request) (endpoint : Credentials.Context) : PushContext where
  endpointID := endpoint.endpointId
  tenantID := endpoint.tenantId
  correlationID := r.correlationID
  now := r.now

def ingestEvent (bus : List Item) (x : Item) : List Item := (putNowait busSize bus x).getD bus

/-- The refusal that the answer of core-ingest leads to. -/
def Env.refusal (env : Env) : Option Nat → Option Reply
  | some status =>
    if 400 ≤ status ∧ env.development = false then
      some (.refused 502 (.str "Ingest pipeline rejected the payload"))
    else none
  | none => if env.development then none else some (.refused 503 (.str "Ingest pipeline unreachable"))

def State.goto (s : State) (i : Nat) (r : Request) (pc : Pc) : State :=
  { s with requests := Function.update s.requests i (some (r, pc)) }

def State.offer (s : State) (i : Nat) (r : Request) (endpoint : Credentials.Context)
    (events : List LogEvent) : State :=
  let items := events.map (⟨i, r.context endpoint, ·⟩)
  { s.goto i r (.replied (.accepted events.length (r.context endpoint))) with
    bus := items.foldl ingestEvent s.bus
    pushes := s.pushes ++ [⟨i, items, s.bus.length⟩] }

/-- One turn of the loop, on the oldest event of the bus. -/
def State.consume (s : State) (x : Item) (bus : List Item) (now : Double) : State :=
  let next := Intelligence.step s.engine (x.event, now)
  { s with
    bus := bus
    engine := next.1
    triaging := next.2.isSome
    consumed := s.consumed ++ [(x, now)]
    triages := s.triages ++ (next.2.map ((x.context.tenantID, ·))).toList }

/-- The handler up to the call of core-ingest. -/
def Env.handle (env : Env) (r : Request) : Pc :=
  match r.authenticate with
  | .error failure => .replied (.refused failure.1 failure.2)
  | .ok endpoint =>
    match r.raw.events env.format r.now with
    | none => .replied (.refused 500 (.str "Internal Server Error"))
    | some events =>
      match pushAgentLogs (r.context endpoint) events with
      | .error e => .replied (.refused e.1 (.str e.2))
      | .ok body => .forwarding endpoint events body

def step (env : Env) (s : State) : Act → Option State
  | .push i r =>
    match s.requests i with
    | some _ => none
    | none => some (s.goto i r (env.handle r))
  | .forwarded i status =>
    match s.requests i with
    | some (r, .forwarding endpoint events _) =>
      match env.refusal status with
      | some reply => some (s.goto i r (.replied reply))
      | none => some (s.offer i r endpoint events)
    | _ => none
  | .consume now =>
    match s.triaging, s.bus with
    | false, x :: bus => some (s.consume x bus now)
    | _, _ => none
  | .triaged => if s.triaging then some { s with triaging := false } else none

/-! ### What reaches the loop -/

/-- The loop reads the event that was forwarded. -/
theorem event_enriched (x : Item) :
    lookupLast (enriched x.context x.log) "tenant_id" = x.event.tenantID.map .str ∧
      lookupLast (enriched x.context x.log) "source" = x.event.source.map .str ∧
      lookupLast (enriched x.context x.log) "severity" = x.event.severity.map .str ∧
      lookupLast (enriched x.context x.log) "message" = x.event.message.map .str :=
  ⟨rfl, rfl, rfl, rfl⟩

/-- What the loop has consumed, as the steps of `IntelligenceEngine`. -/
def State.steps (s : State) : List (Event × Double) := s.consumed.map fun x => (x.1.event, x.2)

/-- The request was let in as `endpoint`, and its body brings the events. -/
structure LetIn (env : Env) (r : Request) (endpoint : Credentials.Context) (events : List LogEvent) : Prop where
  authenticated : r.authenticate = .ok endpoint
  brings : Brings env.format r.now r.raw events

/-- The items of a request that was accepted: the events of its body in their order, each with the
endpoint that the request was let in as. -/
def Offered (env : Env) (s : State) (p : Push) : Prop :=
  ∃ r endpoint events, LetIn env r endpoint events ∧
    p.items = events.map (⟨p.request, ⟨endpoint.endpointId, endpoint.tenantId, r.correlationID, r.now⟩, ·⟩) ∧
    s.requests p.request = some (r, .replied (.accepted events.length
      ⟨endpoint.endpointId, endpoint.tenantId, r.correlationID, r.now⟩))

structure Inv (env : Env) (s : State) : Prop where
  history : s.consumed.map (·.1) ++ s.bus = s.pushes.flatMap Push.kept
  bound : s.bus.length ≤ busSize
  engine : s.engine = stateAfter s.steps
  once : (s.pushes.map (·.request)).Nodup
  forwarding (i : Nat) (r : Request) (endpoint : Credentials.Context) (events : List LogEvent) (body : JsonDoc) :
    s.requests i = some (r, .forwarding endpoint events body) → LetIn env r endpoint events
  offered (p : Push) : p ∈ s.pushes → Offered env s p
  accepted (i n : Nat) (r : Request) (context : PushContext) :
    s.requests i = some (r, .replied (.accepted n context)) → i ∈ s.pushes.map (·.request)
  triages (t : String) (window : List Event) : (t, window) ∈ s.triages →
    window.length ≤ maxWindow ∧ ∀ e ∈ window, ∃ x ∈ s.consumed, x.1.event = e ∧ x.1.context.tenantID = t

section
variable {env : Env} {s s' : State} {a : Act} {i : Nat} {r : Request} {endpoint : Credentials.Context}
  {events : List LogEvent} {pc : Pc}

theorem ingest_all (items : List Item) (h : s.bus.length ≤ busSize) :
    items.foldl ingestEvent s.bus = s.bus ++ items.take (busSize - s.bus.length) := foldl_putNowait h

/-- A snapshot holds events of the tenant alone. -/
theorem mem_snapshot {steps : List (Event × Double)} {x : Event × Double} {window : List Event}
    (h : (Intelligence.step (stateAfter steps) x).2 = some window) :
    window.length ≤ maxWindow ∧ ∀ e ∈ window, ∃ y ∈ steps ++ [x], y.1 = e ∧ tenantOf y.1 = tenantOf x.1 := by
  have hwindow : window = (stateAfter (steps ++ [x])).windows (tenantOf x.1) := by
    rcases step_cases (stateAfter steps) x with ⟨hnone, -⟩ | ⟨hsome, -⟩
    · rw [hnone] at h
      cases h
    · rw [stateAfter_concat, step_windows, Function.update_self]
      exact Option.some.inj (h.symm.trans hsome)
  rw [windows_stateAfter] at hwindow
  refine ⟨?_, fun e he => ?_⟩
  · rw [hwindow, length_rtake]
    exact Nat.min_le_right _ _
  · rw [hwindow] at he
    obtain ⟨y, hy, rfl⟩ := List.mem_map.mp ((rtake_sublist _ _).subset he)
    obtain ⟨hmem, htenant⟩ := List.mem_filter.mp hy
    exact ⟨y, hmem, rfl, of_decide_eq_true htenant⟩

theorem steps_consume (s : State) (x : Item) (bus : List Item) (now : Double) :
    (s.consume x bus now).steps = s.steps ++ [(x.event, now)] := by
  simp [State.steps, State.consume]

theorem map_request_offer (s : State) (i : Nat) (r : Request) (endpoint : Credentials.Context)
    (events : List LogEvent) :
    (s.offer i r endpoint events).pushes.map (·.request) = s.pushes.map (·.request) ++ [i] := by
  simp [State.offer, State.goto]

/-- The handler only forwards what it has let in. -/
theorem letIn_of_handle {body : JsonDoc} (h : env.handle r = .forwarding endpoint events body) :
    LetIn env r endpoint events := by
  unfold Env.handle at h
  split at h
  · cases h
  · rename_i hauth
    split at h
    · cases h
    · rename_i hevents
      split at h <;> cases h
      exact ⟨hauth, brings_of_events hevents⟩

/-- It accepts nothing before core-ingest has answered. -/
theorem handle_ne_accepted (n : Nat) (context : PushContext) : env.handle r ≠ .replied (.accepted n context) := by
  unfold Env.handle
  repeat' split
  all_goals exact fun h => by cases h

namespace Inv

theorem init : Inv env {} where
  history := rfl
  bound := Nat.zero_le _
  engine := rfl
  once := List.nodup_nil
  forwarding _ _ _ _ _ h := by cases h
  offered _ h := by cases h
  accepted _ _ _ _ h := by cases h
  triages _ _ h := by cases h

/-- A request that no push is recorded of gets on without an acceptance. -/
theorem goto (hinv : Inv env s) (hnew : ∀ p ∈ s.pushes, p.request ≠ i)
    (hpc : ∀ n context, pc ≠ .replied (.accepted n context))
    (hforward : ∀ endpoint events body, pc = .forwarding endpoint events body → LetIn env r endpoint events) :
    Inv env (s.goto i r pc) where
  history := hinv.history
  bound := hinv.bound
  engine := hinv.engine
  once := hinv.once
  forwarding j r' endpoint events body hj := by
    rcases Slots.update_cases hj with ⟨-, heq⟩ | ⟨-, hj⟩
    · cases heq
      exact hforward endpoint events body rfl
    · exact hinv.forwarding j r' endpoint events body hj
  offered p hp := by
    obtain ⟨r', endpoint, events, hletIn, hitems, hreply⟩ := hinv.offered p hp
    exact ⟨r', endpoint, events, hletIn, hitems, (Function.update_of_ne (hnew p hp) ..).trans hreply⟩
  accepted j n r' context hj := by
    rcases Slots.update_cases hj with ⟨-, heq⟩ | ⟨-, hj⟩
    · cases heq
      exact absurd rfl (hpc n context)
    · exact hinv.accepted j n r' context hj
  triages := hinv.triages

theorem unrecorded (hinv : Inv env s)
    (hi : ∀ r n context, s.requests i ≠ some (r, .replied (.accepted n context))) :
    ∀ p ∈ s.pushes, p.request ≠ i := by
  rintro p hp rfl
  obtain ⟨r, endpoint, events, -, -, hreply⟩ := hinv.offered p hp
  exact hi _ _ _ hreply

theorem offer (hinv : Inv env s) (hnew : ∀ p ∈ s.pushes, p.request ≠ i) (hletIn : LetIn env r endpoint events) :
    Inv env (s.offer i r endpoint events) := by
  have hall := ingest_all (events.map (⟨i, r.context endpoint, ·⟩)) hinv.bound
  refine ⟨?_, ?_, hinv.engine, ?_, fun j r' endpoint' events' body hj => ?_, fun p hp => ?_,
    fun j n r' context hj => ?_, hinv.triages⟩
  · show s.consumed.map (·.1) ++ (events.map (⟨i, r.context endpoint, ·⟩)).foldl ingestEvent s.bus = _
    rw [hall, ← List.append_assoc, hinv.history]
    simp [State.offer, Push.kept]
  · show ((events.map (⟨i, r.context endpoint, ·⟩)).foldl ingestEvent s.bus).length ≤ busSize
    have hbound := hinv.bound
    rw [hall, List.length_append, List.length_take]
    omega
  · rw [map_request_offer]
    refine List.nodup_append.mpr ⟨hinv.once, List.nodup_singleton _, fun j hj k hk => ?_⟩
    obtain ⟨p, hp, rfl⟩ := List.mem_map.mp hj
    rw [List.mem_singleton.mp hk]
    exact hnew p hp
  · rcases Slots.update_cases hj with ⟨-, heq⟩ | ⟨-, hj⟩
    · cases heq
    · exact hinv.forwarding j r' endpoint' events' body hj
  · rcases List.mem_append.mp hp with hp | hp
    · obtain ⟨r', endpoint', events', hletIn', hitems, hreply⟩ := hinv.offered p hp
      exact ⟨r', endpoint', events', hletIn', hitems, (Function.update_of_ne (hnew p hp) ..).trans hreply⟩
    · rw [List.mem_singleton.mp hp]
      exact ⟨r, endpoint, events, hletIn, rfl, Function.update_self ..⟩
  · rw [map_request_offer]
    rcases Slots.update_cases hj with ⟨rfl, -⟩ | ⟨-, hj⟩
    · exact List.mem_append_right _ (by simp)
    · exact List.mem_append_left _ (hinv.accepted j n r' context hj)

theorem consume (hinv : Inv env s) {x : Item} {bus : List Item} (hbus : s.bus = x :: bus) (now : Double) :
    Inv env (s.consume x bus now) where
  history := by
    show (s.consumed ++ [(x, now)]).map (·.1) ++ bus = s.pushes.flatMap Push.kept
    rw [← hinv.history, hbus]
    simp
  bound := by
    have hbound := hinv.bound
    rw [hbus, List.length_cons] at hbound
    exact Nat.le_of_succ_le hbound
  engine := by
    rw [steps_consume, stateAfter_concat, ← hinv.engine]
    rfl
  once := hinv.once
  forwarding := hinv.forwarding
  offered := hinv.offered
  accepted := hinv.accepted
  triages t window hmem := by
    rcases List.mem_append.mp hmem with hmem | hmem
    · obtain ⟨hlen, hevents⟩ := hinv.triages t window hmem
      refine ⟨hlen, fun e he => ?_⟩
      obtain ⟨y, hy, hye⟩ := hevents e he
      exact ⟨y, List.mem_append_left _ hy, hye⟩
    · obtain ⟨snapshot, hsnapshot, heq⟩ := Option.map_eq_some_iff.mp (Option.mem_toList.mp hmem)
      cases heq
      rw [hinv.engine] at hsnapshot
      obtain ⟨hlen, hevents⟩ := mem_snapshot hsnapshot
      refine ⟨hlen, fun e he => ?_⟩
      obtain ⟨y, hy, rfl, htenant⟩ := hevents e he
      rw [← steps_consume s x bus now] at hy
      obtain ⟨z, hz, rfl⟩ := List.mem_map.mp hy
      exact ⟨z, hz, rfl, htenant⟩

theorem of_step (hinv : Inv env s) (hs : step env s a = some s') : Inv env s' := by
  cases a <;> simp only [step] at hs
  case push i r =>
    split at hs
    · cases hs
    · rename_i hi
      cases hs
      exact hinv.goto (hinv.unrecorded fun _ _ _ h => by cases hi.symm.trans h) handle_ne_accepted fun _ _ _ => letIn_of_handle
  case forwarded i status =>
    split at hs
    · rename_i r endpoint events body hi
      have hnew := hinv.unrecorded (i := i) fun _ _ _ h => by cases hi.symm.trans h
      split at hs <;> cases hs
      · rename_i reply hreply
        refine hinv.goto hnew ?_ fun _ _ _ heq => by cases heq
        rintro n context heq
        cases heq
        cases status <;> simp [Env.refusal] at hreply
      · exact hinv.offer hnew (hinv.forwarding i r endpoint events body hi)
    · cases hs
  case consume now =>
    split at hs <;> cases hs
    rename_i hbus
    exact hinv.consume hbus now
  case triaged =>
    split at hs <;> cases hs
    exact ⟨hinv.history, hinv.bound, hinv.engine, hinv.once, hinv.forwarding, hinv.offered, hinv.accepted,
      hinv.triages⟩

end Inv

end

/-- What the loop has taken, followed by what waits on the bus, is what the accepted requests have
brought, request after request in the order in which their forwarding ended; of each all events of
its body, as far as the bus had room. -/
theorem bus_history (env : Env) (s : State) (h : Lts.Reach (step env) Lts.free {} s) :
    s.consumed.map (·.1) ++ s.bus = s.pushes.flatMap Push.kept ∧ s.bus.length ≤ busSize ∧
      (s.pushes.map (·.request)).Nodup ∧ (∀ p ∈ s.pushes, Offered env s p) ∧
      ∀ i, i ∈ s.pushes.map (·.request) ↔
        ∃ r n context, s.requests i = some (r, .replied (.accepted n context)) := by
  have hinv : Inv env s := h.invariant .init fun _ hs hinv => hinv.of_step hs
  refine ⟨hinv.history, hinv.bound, hinv.once, hinv.offered, fun i => ⟨fun hi => ?_, ?_⟩⟩
  · obtain ⟨p, hp, rfl⟩ := List.mem_map.mp hi
    obtain ⟨r, endpoint, events, -, -, hreply⟩ := hinv.offered p hp
    exact ⟨r, _, _, hreply⟩
  · rintro ⟨r, n, context, hi⟩
    exact hinv.accepted i n r context hi

def localEnv : Env := ⟨true, fun _ => ""⟩

def criticalEvent (message : String) : LogEvent := { severity := "CRITICAL", message }

def inventory : List Credentials.Endpoint :=
  [⟨"e-7", "acme-corp", "seven", "active", none⟩, ⟨"e-9", "globex", "nine", "active", none⟩]

def acmeRequest : Request :=
  ⟨inventory, some "Bearer seven", some "acme-corp", .push [criticalEvent "a", criticalEvent "b"], "c-0", "t"⟩

/-- A severity that is a number makes the body no `LogEvent`. -/
def globexRequest : Request :=
  ⟨inventory, some "Bearer nine", none, .dict [("severity", .int 3), ("message", .str "x")], "c-1", "t"⟩

/-- The second of two pushes is answered first, and its event is first on the bus. -/
def crossedPushes : List Act :=
  [.push 0 acmeRequest, .push 1 globexRequest, .forwarded 1 (some 200), .forwarded 0 (some 500)]

theorem crossed_pushes_in_order :
    ∃ s, Lts.run (step localEnv) Lts.free {} crossedPushes = some s ∧ s.pushes.map (·.request) = [1, 0] ∧
      s.consumed.map (·.1) ++ s.bus = s.pushes.flatMap Push.kept :=
  ⟨_, rfl, rfl, (bus_history localEnv _ (Lts.Reach.of_run crossedPushes rfl)).1⟩

/-- A triage of a tenant sees at most a thousand events, and each is of a request that was accepted and
let in as an endpoint of this tenant. -/
theorem triage_of_own_events (env : Env) (s : State) (h : Lts.Reach (step env) Lts.free {} s) (t : String)
    (window : List Event) (hmem : (t, window) ∈ s.triages) :
    window.length ≤ maxWindow ∧ ∀ e ∈ window, ∃ p ∈ s.pushes, (∃ x ∈ p.kept, x.event = e) ∧
      ∃ r endpoint n context, s.requests p.request = some (r, .replied (.accepted n context)) ∧
        Credentials.authenticate r.rows r.authorization r.xTenantId .agentPush = .ok endpoint ∧
        endpoint.tenantId = t := by
  have hinv : Inv env s := h.invariant .init fun _ hs hinv => hinv.of_step hs
  obtain ⟨hlen, hevents⟩ := hinv.triages t window hmem
  refine ⟨hlen, fun e he => ?_⟩
  obtain ⟨x, hx, hxe, htenant⟩ := hevents e he
  have hkept : x.1 ∈ s.pushes.flatMap Push.kept := by
    rw [← hinv.history]
    exact List.mem_append_left _ (List.mem_map_of_mem hx)
  obtain ⟨p, hp, hxp⟩ := List.mem_flatMap.mp hkept
  obtain ⟨r, endpoint, events, hletIn, hitems, hreply⟩ := hinv.offered p hp
  refine ⟨p, hp, ⟨x.1, hxp, hxe⟩, r, endpoint, _, _, hreply, hletIn.authenticated, ?_⟩
  -- the event carries the tenant of the endpoint
  have hitem : x.1 ∈ p.items := List.mem_of_mem_take hxp
  rw [hitems] at hitem
  obtain ⟨log, -, hlog⟩ := List.mem_map.mp hitem
  rw [← htenant, ← hlog]

/-- core-ingest is out of reach, which development lets pass. -/
def onePush : List Act := [.push 0 acmeRequest, .forwarded 0 none]

def offeredState : State := (Lts.run (step localEnv) Lts.free {} onePush).get rfl

def criticalItem (message : String) : Item := ⟨0, ⟨"e-7", "acme-corp", "c-0", "t"⟩, criticalEvent message⟩

def oneOClock : Double := .ofNat 3600 (by decide)

/-- The state after the first of the two events. -/
def firstTurn : State := offeredState.consume (criticalItem "a") [criticalItem "b"] oneOClock

theorem firstTurn_untriaged : (Intelligence.step {} ((criticalItem "a").event, oneOClock)).2 = none := by
  rcases step_cases {} ((criticalItem "a").event, oneOClock) with ⟨hnone, -⟩ | ⟨-, -, hcheck, -⟩
  · exact hnone
  · exact absurd hcheck (by decide)

theorem firstTurn_windows : firstTurn.engine.windows "acme-corp" = [(criticalItem "a").event] := by
  show (Intelligence.step {} ((criticalItem "a").event, oneOClock)).1.windows "acme-corp" = _
  rw [step_windows]
  rfl

theorem reach_firstTurn : Lts.Reach (step localEnv) Lts.free {} firstTurn :=
  (Lts.Reach.get_run onePush rfl).tail (a := .consume oneOClock) trivial rfl

theorem second_critical_triaged :
    (Intelligence.step firstTurn.engine ((criticalItem "b").event, oneOClock)).2 =
      some [(criticalItem "a").event, (criticalItem "b").event] := by
  have hcooldown : firstTurn.engine.cooldown = fun _ => none :=
    step_of_not_crossed (s := {}) (x := ((criticalItem "a").event, oneOClock)) (by decide)
  have hcool : inCooldown firstTurn.engine (tenantOf (criticalItem "b").event) oneOClock = false := by
    rw [inCooldown_of_untriaged (by rw [hcooldown]), decide_eq_false_iff_not]
    norm_num [oneOClock, Double.ofNat]
  have hwindow : push maxWindow (firstTurn.engine.windows (tenantOf (criticalItem "b").event)) (criticalItem "b").event =
      [(criticalItem "a").event, (criticalItem "b").event] := by
    show push maxWindow (firstTurn.engine.windows "acme-corp") _ = _
    rw [firstTurn_windows]
    rfl
  rw [step_of_crossed hcool (by rw [hwindow]; decide), hwindow]

theorem busy_tenant_triaged :
    ∃ s : State, ("acme-corp", [(criticalItem "a").event, (criticalItem "b").event]) ∈ s.triages ∧
      ∀ e ∈ [(criticalItem "a").event, (criticalItem "b").event], ∃ p ∈ s.pushes, (∃ x ∈ p.kept, x.event = e) ∧
        ∃ r endpoint n context, s.requests p.request = some (r, .replied (.accepted n context)) ∧
          Credentials.authenticate r.rows r.authorization r.xTenantId .agentPush = .ok endpoint ∧
          endpoint.tenantId = "acme-corp" := by
  have hidle : firstTurn.triaging = false := by
    show (Intelligence.step {} ((criticalItem "a").event, oneOClock)).2.isSome = false
    rw [firstTurn_untriaged]
    rfl
  have hstep : step localEnv firstTurn (.consume oneOClock) = some (firstTurn.consume (criticalItem "b") [] oneOClock) := by
    rw [step, hidle]
    rfl
  have hmem : ("acme-corp", [(criticalItem "a").event, (criticalItem "b").event]) ∈
      (firstTurn.consume (criticalItem "b") [] oneOClock).triages := by
    refine List.mem_append_right _ ?_
    rw [second_critical_triaged]
    exact List.mem_singleton_self _
  exact ⟨_, hmem, (triage_of_own_events localEnv _ (reach_firstTurn.tail trivial hstep) _ _ hmem).2⟩

end SocFabric.TelemetryBus
