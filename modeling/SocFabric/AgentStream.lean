import SocFabric.AgentEvents

/-!
# The agent stream (`soc-backend/interfaces/api_routes.py`)

Two handlers are registered for `/ws/agent/stream`. `agent_stream_websocket` sends the ring buffer
of `LargeLanguageModelTriage` and then the events of its `emit_agent_event`;
`websocket_agent_stream` replays the history of `agent_event_bus` and then sends the events of that
bus. Handlers are coroutines, and other code runs only where they wait: for `accept`, for a send,
and for the next event of their queue. A run interleaves them with the emits on both buses.
-/

namespace SocFabric
namespace AgentStream
open AgentEvents BoundedQueue

variable {ε : Type}

/-! ### The handlers -/

/-- The body of the loop of `emit_agent_event`: a full queue is skipped. -/
def publish (e : ε) (queue : List ε) : List ε := (putNowait queueSize queue e).getD queue

/-- `_event_buffer` and `_subscribers` are kept like the history and the subscribers of an
`AgentEventBus`. -/
def emitAgentEvent (s : Bus ε) (e : ε) : Bus ε :=
  { s with
    history := push maxHistory s.history e
    queues := forEach s.subscribers (publish e) s.queues }

inductive Handler
  | agentStreamWebsocket
  | websocketAgentStream
deriving DecidableEq, Repr

/-- The routes of the two handlers in the order of their registration: the router is included
twice. -/
def routes : List (String × Handler) :=
  [("/api/ws/agent/stream", .agentStreamWebsocket), ("/api/ws/agent/stream", .websocketAgentStream),
    ("/ws/agent/stream", .agentStreamWebsocket), ("/ws/agent/stream", .websocketAgentStream)]

def dispatch (path : String) : Option Handler := (routes.find? (·.1 = path)).map Prod.snd

/-- What is sent to a client. -/
inductive Msg (ε : Type)
  | history (events : List ε)
  | live (e : ε)
  | event (e : ε)
deriving DecidableEq, Repr

def Msg.events : Msg ε → List ε
  | history events => events
  | live e | event e => [e]

section
variable (correlationId : ε → Option String)

/-- The loop over the history; `found` is whether the last event was seen. -/
def replayLoop (lastEventId : String) : Bool → List ε → List ε
  | _, [] => []
  | found, ev :: history =>
    (if found then [ev] else []) ++
      replayLoop lastEventId (found || decide (correlationId ev = some lastEventId)) history

def replay (lastEventId : Option String) (history : List ε) : List ε :=
  match lastEventId with
  | none => history
  | some id => if id = "" then history else replayLoop correlationId id false history

end

/-- Where a handler waits. -/
inductive Phase (ε : Type)
  | accepting
  | replaying (message : Msg ε) (rest : List (Msg ε)) -- the message is being sent
  | waiting (q : Nat)
  | sending (q : Nat) (e : ε)
  | closed
deriving DecidableEq, Repr

structure Client (ε : Type) where
  handler : Handler
  lastEventId : Option String := none
  phase : Phase ε := .accepting
  received : List (Msg ε) := []
deriving DecidableEq, Repr

structure Server (ε : Type) where
  agentEventBus : Bus ε := {}
  triageEvents : Bus ε := {}
  clients : List (Client ε) := []
deriving DecidableEq, Repr

namespace Server

def bus (s : Server ε) : Handler → Bus ε
  | .agentStreamWebsocket => s.triageEvents
  | .websocketAgentStream => s.agentEventBus

def setBus (s : Server ε) (h : Handler) (b : Bus ε) : Server ε :=
  match h with
  | .agentStreamWebsocket => { s with triageEvents := b }
  | .websocketAgentStream => { s with agentEventBus := b }

/-- The messages before the subscription. -/
def opening (correlationId : ε → Option String) (s : Server ε) (x : Client ε) : List (Msg ε) :=
  match x.handler with
  | .agentStreamWebsocket => if s.triageEvents.history = [] then [] else [.history s.triageEvents.history]
  | .websocketAgentStream => (replay correlationId x.lastEventId s.agentEventBus.history).map .event

/-- The client goes on with `messages`, or with its subscription if there is none left. -/
def goOn (s : Server ε) (c : Nat) (x : Client ε) : List (Msg ε) → Server ε
  | m :: rest => { s with clients := s.clients.set c { x with phase := .replaying m rest } }
  | [] =>
    { s.setBus x.handler (s.bus x.handler).subscribe with
      clients := s.clients.set c { x with phase := .waiting (s.bus x.handler).queues.length } }

end Server

def Handler.message (e : ε) : Handler → Msg ε
  | agentStreamWebsocket => .live e
  | websocketAgentStream => .event e

inductive Act (ε : Type)
  | emit (e : ε) -- on `agent_event_bus`
  | emitAgentEvent (e : ε)
  | connect (path : String) (lastEventId : Option String)
  | clientSend (c : Nat) -- no handler reads what clients send
  | accepted (c : Nat)
  | sent (c : Nat)
  | got (c : Nat)
  | disconnected (c : Nat) -- an `accept` or a send raises
deriving DecidableEq, Repr

section
variable (correlationId : ε → Option String)

def Server.advance (s : Server ε) (c : Nat) (x : Client ε) : Act ε → Option (Server ε)
  | .accepted _ =>
    match x.phase with
    | .accepting => some (s.goOn c x (s.opening correlationId x))
    | .replaying _ _ | .waiting _ | .sending _ _ | .closed => none
  | .sent _ =>
    match x.phase with
    | .replaying m rest => some (s.goOn c { x with received := x.received ++ [m] } rest)
    | .sending q e =>
      some { s with
        clients := s.clients.set c { x with phase := .waiting q, received := x.received ++ [x.handler.message e] } }
    | .accepting | .waiting _ | .closed => none
  | .got _ =>
    match x.phase with
    | .waiting q =>
      match (s.bus x.handler).queues[q]? with
      | some (e :: rest) =>
        some { s.setBus x.handler { s.bus x.handler with queues := (s.bus x.handler).queues.set q rest } with
          clients := s.clients.set c { x with phase := .sending q e } }
      | some [] | none => none
    | .accepting | .replaying _ _ | .sending _ _ | .closed => none
  | .disconnected _ =>
    match x.phase with
    | .accepting | .replaying _ _ => some { s with clients := s.clients.set c { x with phase := .closed } }
    | .sending q _ =>
      some { s.setBus x.handler ((s.bus x.handler).unsubscribe q) with
        clients := s.clients.set c { x with phase := .closed } }
    | .waiting _ | .closed => none
  | .clientSend _ => some s
  | .emit _ | .emitAgentEvent _ | .connect _ _ => none

def step (s : Server ε) (a : Act ε) : Option (Server ε) :=
  match a with
  | .emit e => some { s with agentEventBus := s.agentEventBus.emit e }
  | .emitAgentEvent e => some { s with triageEvents := AgentStream.emitAgentEvent s.triageEvents e }
  | .connect path lastEventId =>
    (dispatch path).map fun h => { s with clients := s.clients ++ [{ handler := h, lastEventId := lastEventId }] }
  | .clientSend c | .accepted c | .sent c | .got c | .disconnected c =>
    s.clients[c]?.bind fun x => s.advance correlationId c x a

end

/-! ### Resumption -/

section
variable {correlationId : ε → Option String} {lastEventId : String}

theorem replayLoop_found (history : List ε) : replayLoop correlationId lastEventId true history = history := by
  induction history with
  | nil => rfl
  | cons ev history ih =>
    rw [replayLoop, if_pos rfl, Bool.true_or, ih]
    rfl

/-- Nothing is replayed up to and including the first event with the id. -/
theorem replayLoop_append {before : List ε} {ev : ε}
    (hbefore : ∀ e ∈ before, correlationId e ≠ some lastEventId)
    (hev : correlationId ev = some lastEventId) (after : List ε) :
    replayLoop correlationId lastEventId false (before ++ ev :: after) = after := by
  induction before with
  | nil =>
    rw [List.nil_append, replayLoop, decide_eq_true hev, Bool.or_true, replayLoop_found]
    rfl
  | cons e before ih =>
    have he : correlationId e ≠ some lastEventId := hbefore e List.mem_cons_self
    rw [List.cons_append, replayLoop, decide_eq_false he, Bool.or_false,
      ih fun e' he' => hbefore e' (List.mem_cons_of_mem _ he')]
    rfl

theorem replayLoop_nil {history : List ε} (h : ∀ e ∈ history, correlationId e ≠ some lastEventId) :
    replayLoop correlationId lastEventId false history = [] := by
  induction history with
  | nil => rfl
  | cons e history ih =>
    rw [replayLoop, decide_eq_false (h e List.mem_cons_self), Bool.or_false,
      ih fun e' he' => h e' (List.mem_cons_of_mem _ he')]
    rfl

/-- The first event with the id, if there is one, splits the history. -/
theorem exists_first_or (correlationId : ε → Option String) (lastEventId : String) (history : List ε) :
    (∀ e ∈ history, correlationId e ≠ some lastEventId) ∨
      ∃ before ev after, history = before ++ ev :: after ∧ correlationId ev = some lastEventId ∧
        ∀ e ∈ before, correlationId e ≠ some lastEventId := by
  induction history with
  | nil => exact .inl fun _ h => absurd h List.not_mem_nil
  | cons e history ih =>
    by_cases he : correlationId e = some lastEventId
    · exact .inr ⟨[], e, history, rfl, he, fun _ h => absurd h List.not_mem_nil⟩
    · rcases ih with hnone | ⟨before, ev, after, rfl, hev, hbefore⟩
      · exact .inl (List.forall_mem_cons.mpr ⟨he, hnone⟩)
      · exact .inr ⟨e :: before, ev, after, rfl, hev, List.forall_mem_cons.mpr ⟨he, hbefore⟩⟩

theorem length_replayLoop_lt {history : List ε} (h : history ≠ []) :
    (replayLoop correlationId lastEventId false history).length < history.length := by
  rcases exists_first_or correlationId lastEventId history with hnone | ⟨before, ev, after, rfl, hev, hbefore⟩
  · rw [replayLoop_nil hnone]
    exact List.length_pos_iff.mpr h
  · rw [replayLoop_append hbefore hev, List.length_append, List.length_cons]
    omega

/-- With the last event still in the history, the replay is what came after it exactly if no event
before it has its id. -/
theorem replayLoop_eq_iff {before missed : List ε} {last : ε}
    (hlast : correlationId last = some lastEventId) :
    replayLoop correlationId lastEventId false (before ++ last :: missed) = missed ↔
      ∀ e ∈ before, correlationId e ≠ some lastEventId := by
  constructor
  · intro h
    rcases exists_first_or correlationId lastEventId before with hnone | ⟨front, ev, rest, rfl, hev, hfront⟩
    · exact hnone
    · rw [List.append_assoc, List.cons_append, replayLoop_append hfront hev] at h
      have hlen := congrArg List.length h
      rw [List.length_append, List.length_cons] at hlen
      omega
  · exact fun h => replayLoop_append h hlast missed

end

theorem rtake_append_cons {n : Nat} {before missed : List ε} {last : ε} (h : missed.length < n) :
    (before ++ last :: missed).rtake n = before.rtake (n - 1 - missed.length) ++ last :: missed := by
  rw [List.rtake, List.rtake, List.drop_append_of_le_length]
  · congr 2
    rw [List.length_append, List.length_cons]
    omega
  · rw [List.length_append, List.length_cons]
    omega

theorem rtake_append_length {before missed : List ε} : (before ++ missed).rtake missed.length = missed := by
  rw [List.rtake, List.length_append, Nat.add_sub_cancel, List.drop_left]

/-- The last event that the client received still marks where the missed ones begin: it has an id of
its own among the events that the history retains; or it has none, and all that is retained was
missed. -/
def Resumable (correlationId : ε → Option String) (received : List ε) (last : ε) (missed : List ε) : Prop :=
  (∃ id, correlationId last = some id ∧ id ≠ "" ∧ missed.length < maxHistory ∧
    ∀ e ∈ received.rtake (maxHistory - 1 - missed.length), correlationId e ≠ some id) ∨
  ((correlationId last = none ∨ correlationId last = some "") ∧ missed.length = maxHistory)

theorem rtake_eq_missed_iff {received missed : List ε} {last : ε} (h : missed.length ≤ maxHistory) :
    (received ++ last :: missed).rtake maxHistory = missed ↔ missed.length = maxHistory := by
  constructor
  · intro heq
    have hlen := congrArg List.length heq
    rw [length_rtake, List.length_append, List.length_cons] at hlen
    omega
  · intro hlen
    rw [List.append_cons, ← hlen, rtake_append_length]

theorem replay_rtake_iff {correlationId : ε → Option String} {received missed : List ε} {last : ε}
    (h : missed.length ≤ maxHistory) :
    replay correlationId (correlationId last) ((received ++ last :: missed).rtake maxHistory) = missed ↔
      Resumable correlationId received last missed := by
  cases hid : correlationId last with
  | none =>
    rw [replay, rtake_eq_missed_iff h]
    simp [Resumable, hid]
  | some id =>
    rw [replay]
    by_cases hempty : id = ""
    · rw [if_pos hempty, rtake_eq_missed_iff h]
      simp [Resumable, hid, hempty]
    · rw [if_neg hempty]
      rcases Nat.lt_or_ge missed.length maxHistory with hlt | hge
      · rw [rtake_append_cons hlt, replayLoop_eq_iff hid]
        simp [Resumable, hid, hempty, hlt]
      · -- the last event is no longer retained, and something is always skipped
        have hlen : missed.length = maxHistory := le_antisymm h hge
        have hne : missed ≠ [] := by
          intro hnil
          rw [hnil] at hlen
          cases hlen
        have hlt : (replayLoop correlationId id false missed).length < missed.length := length_replayLoop_lt hne
        rw [(rtake_eq_missed_iff h).mpr hlen]
        refine iff_of_false (fun heq => ?_) ?_
        · rw [heq] at hlt
          exact lt_irrefl _ hlt
        · simp [Resumable, hid, hempty, hlen]

/-- After every run of the bus, a client that has received its events up to `last` and reconnects
with the id of that event is sent exactly what it missed if and only if it is `Resumable`. -/
theorem opening_eq_missed_iff [DecidableEq ε] {correlationId : ε → Option String} {ops : List (Op ε)} {b : Bus ε}
    (h : Lts.run AgentEvents.step Lts.free {} ops = some b) {received missed : List ε} {last : ε}
    (hemitted : emitted ops = received ++ last :: missed) (hmissed : missed.length ≤ maxHistory) :
    (({ agentEventBus := b } : Server ε).opening correlationId
        { handler := .websocketAgentStream, lastEventId := correlationId last }).flatMap Msg.events = missed ↔
      Resumable correlationId received last missed := by
  have hevents (events : List ε) : (events.map Msg.event).flatMap Msg.events = events := by
    induction events with
    | nil => rfl
    | cons e events ih =>
      rw [List.map_cons, List.flatMap_cons, ih]
      rfl
  rw [Server.opening, hevents, history_of_run h, hemitted]
  exact replay_rtake_iff hmissed

open Triage in
/-- Only the steps of a triage run carry a correlation id. -/
def busCorrelationId {R : Type} : BusEvent R → Option String
  | .step correlationID _ _ _ _ => some correlationID
  | .clientSiteVisit _ _ _ _ _ | .suspiciousFlow _ _ _ _ _ => none

open Triage in
/-- An event of one triage run. -/
def ingestStep (status : StepStatus) (summary : String) : BusEvent Rat :=
  .step "corr-1" "inv-1" .ingest status summary

open Triage in
/-- A client that has received two events of a triage run and misses the third. -/
def ingestOps : List (Op (BusEvent Rat)) :=
  [.emit (ingestStep .started "a"), .emit (ingestStep .completed "b"), .emit (ingestStep .completed "c")]

open Triage in
def ingestBus : Bus (BusEvent Rat) :=
  { history := [ingestStep .started "a", ingestStep .completed "b", ingestStep .completed "c"] }

theorem ingestOps_run : Lts.run AgentEvents.step Lts.free {} ingestOps = some ingestBus := by
  decide +kernel

open Triage in
theorem ingest_opening_iff :
    (({ agentEventBus := ingestBus } : Server (BusEvent Rat)).opening busCorrelationId
        { handler := .websocketAgentStream, lastEventId := some "corr-1" }).flatMap Msg.events =
        [ingestStep .completed "c"] ↔
      Resumable busCorrelationId [ingestStep .started "a"] (ingestStep .completed "b") [ingestStep .completed "c"] := by
  have hemitted : emitted ingestOps =
      [ingestStep .started "a"] ++ ingestStep .completed "b" :: [ingestStep .completed "c"] := rfl
  exact opening_eq_missed_iff ingestOps_run hemitted (by decide)

open Triage in
theorem resumption_repeats : ¬ ∀ (ops : List (Op (BusEvent Rat))) (b : Bus (BusEvent Rat)),
    Lts.run AgentEvents.step Lts.free {} ops = some b → ∀ (received missed : List (BusEvent Rat)) (last : BusEvent Rat),
      emitted ops = received ++ last :: missed → missed.length ≤ maxHistory →
      (({ agentEventBus := b } : Server (BusEvent Rat)).opening busCorrelationId
        { handler := .websocketAgentStream, lastEventId := busCorrelationId last }).flatMap Msg.events = missed := by
  intro h
  have heq := h _ _ ingestOps_run [ingestStep .started "a"] [ingestStep .completed "c"] (ingestStep .completed "b") rfl
    (by decide)
  exact absurd heq (by decide +kernel)

end AgentStream
end SocFabric
