import SocFabric.AgentStream

/-!
# What the agent stream delivers

Every client of `/ws/agent/stream` gets the handler that was registered first, and that one listens
to `emit_agent_event` only (`step_cases`). What a client has been sent, followed by what its handler
has yet to send, is its *flow*: the ring buffer at the start, and then every event that finds the
handler subscribed and its queue not full (`flow_step`). Emits on `agent_event_bus` never enter a
flow.
-/

namespace SocFabric
namespace AgentStream
open AgentEvents BoundedQueue

variable {ε : Type} {correlationId : ε → Option String} {s s' : Server ε} {a : Act ε} {c : Nat} {x y : Client ε}
  {b : Bus ε}

/-! ### The steps of a client -/

theorem dispatch_eq {path : String} {h : Handler} (hp : dispatch path = some h) :
    h = .agentStreamWebsocket := by
  have hapi : dispatch "/api/ws/agent/stream" = some .agentStreamWebsocket := by decide
  have hws : dispatch "/ws/agent/stream" = some .agentStreamWebsocket := by decide
  by_cases h₁ : path = "/api/ws/agent/stream"
  · rw [h₁, hapi] at hp
    exact (Option.some.inj hp).symm
  · by_cases h₂ : path = "/ws/agent/stream"
    · rw [h₂, hws] at hp
      exact (Option.some.inj hp).symm
    · simp [dispatch, routes, Ne.symm h₁, Ne.symm h₂] at hp

/-- The steps of a client of `agent_stream_websocket`: the client after it, and
`LargeLanguageModelTriage`'s bus. -/
inductive Moves (s : Server ε) (c : Nat) (x : Client ε) : Act ε → Client ε → Bus ε → Prop
  | idle : Moves s c x (.clientSend c) x s.triageEvents
  | start : x.phase = .accepting → s.triageEvents.history ≠ [] →
      Moves s c x (.accepted c) { x with phase := .replaying (.history s.triageEvents.history) [] } s.triageEvents
  | startEmpty : x.phase = .accepting → s.triageEvents.history = [] →
      Moves s c x (.accepted c) { x with phase := .waiting s.triageEvents.queues.length } s.triageEvents.subscribe
  | next {m m' : Msg ε} {rest : List (Msg ε)} : x.phase = .replaying m (m' :: rest) →
      Moves s c x (.sent c) { x with phase := .replaying m' rest, received := x.received ++ [m] } s.triageEvents
  | subscribe {m : Msg ε} : x.phase = .replaying m [] →
      Moves s c x (.sent c)
        { x with phase := .waiting s.triageEvents.queues.length, received := x.received ++ [m] }
        s.triageEvents.subscribe
  | sent {q : Nat} {e : ε} : x.phase = .sending q e →
      Moves s c x (.sent c) { x with phase := .waiting q, received := x.received ++ [.live e] } s.triageEvents
  | get {q : Nat} {e : ε} {rest : List ε} : x.phase = .waiting q → s.triageEvents.queues[q]? = some (e :: rest) →
      Moves s c x (.got c) { x with phase := .sending q e }
        { s.triageEvents with queues := s.triageEvents.queues.set q rest }
  | drop : x.phase = .accepting ∨ (∃ m rest, x.phase = .replaying m rest) →
      Moves s c x (.disconnected c) { x with phase := .closed } s.triageEvents
  | leave {q : Nat} {e : ε} : x.phase = .sending q e →
      Moves s c x (.disconnected c) { x with phase := .closed } (s.triageEvents.unsubscribe q)

theorem goOn_moves (hx : x.handler = .agentStreamWebsocket) (messages : List (Msg ε)) :
    s.goOn c x messages =
      match messages with
      | m :: rest => { s with clients := s.clients.set c { x with phase := .replaying m rest } }
      | [] => { s with
          triageEvents := s.triageEvents.subscribe
          clients := s.clients.set c { x with phase := .waiting s.triageEvents.queues.length } } := by
  cases messages with
  | cons m rest => rfl
  | nil =>
    rw [Server.goOn, hx]
    rfl

theorem advance_moves (hx : x.handler = .agentStreamWebsocket) (hc : s.clients[c]? = some x)
    (ha : a = .clientSend c ∨ a = .accepted c ∨ a = .sent c ∨ a = .got c ∨ a = .disconnected c)
    (hs : s.advance correlationId c x a = some s') :
    ∃ y b, Moves s c x a y b ∧ s' = { s with triageEvents := b, clients := s.clients.set c y } := by
  rcases ha with rfl | rfl | rfl | rfl | rfl
  · cases hs
    have hself : s.clients.set c x = s.clients := by
      obtain ⟨hlt, rfl⟩ := List.getElem?_eq_some_iff.mp hc
      exact List.set_getElem_self hlt
    exact ⟨x, _, .idle, by rw [hself]⟩
  · rw [Server.advance] at hs
    split at hs <;> cases hs
    rename_i hphase
    rw [Server.opening, hx]
    dsimp only
    split_ifs with hhistory
    · rw [goOn_moves hx]
      exact ⟨_, _, .startEmpty hphase hhistory, rfl⟩
    · rw [goOn_moves hx]
      exact ⟨_, _, .start hphase hhistory, rfl⟩
  · rw [Server.advance] at hs
    split at hs <;> cases hs
    · rename_i m rest hphase
      cases rest with
      | nil =>
        rw [goOn_moves (x := { x with received := x.received ++ [m] }) hx]
        exact ⟨_, _, .subscribe hphase, rfl⟩
      | cons m' rest => exact ⟨_, _, .next hphase, rfl⟩
    · rename_i q e hphase
      rw [hx]
      exact ⟨_, _, .sent hphase, by rw [Handler.message, hx]⟩
  · rw [Server.advance] at hs
    split at hs
    · rename_i q hphase
      rw [hx] at hs
      split at hs <;> cases hs
      rename_i e rest hqueue
      exact ⟨_, _, .get hphase hqueue, by rw [hx]; rfl⟩
    · cases hs
    · cases hs
    · cases hs
    · cases hs
  · rw [Server.advance] at hs
    split at hs <;> cases hs
    · rename_i hphase
      exact ⟨_, _, .drop (.inl hphase), rfl⟩
    · rename_i m rest hphase
      exact ⟨_, _, .drop (.inr ⟨m, rest, hphase⟩), rfl⟩
    · rename_i q e hphase
      rw [hx]
      exact ⟨_, _, .leave hphase, by rw [hx]; rfl⟩

theorem step_cases (hh : ∀ x ∈ s.clients, x.handler = .agentStreamWebsocket)
    (hs : step correlationId s a = some s') :
    (∃ e, a = .emit e ∧ s' = { s with agentEventBus := s.agentEventBus.emit e }) ∨
    (∃ e, a = .emitAgentEvent e ∧ s' = { s with triageEvents := emitAgentEvent s.triageEvents e }) ∨
    (∃ path id, a = .connect path id ∧
      s' = { s with clients := s.clients ++ [{ handler := .agentStreamWebsocket, lastEventId := id }] }) ∨
    ∃ c x y b, s.clients[c]? = some x ∧ Moves s c x a y b ∧
      s' = { s with triageEvents := b, clients := s.clients.set c y } := by
  have hclient {c : Nat} (ha : a = .clientSend c ∨ a = .accepted c ∨ a = .sent c ∨ a = .got c ∨ a = .disconnected c)
      (hs : (s.clients[c]?.bind fun x => s.advance correlationId c x a) = some s') :
      ∃ c x y b, s.clients[c]? = some x ∧ Moves s c x a y b ∧
        s' = { s with triageEvents := b, clients := s.clients.set c y } := by
    obtain ⟨x, hx, hs⟩ := Option.bind_eq_some_iff.mp hs
    obtain ⟨y, b, hmoves, hs'⟩ := advance_moves (hh x (List.mem_of_getElem? hx)) hx ha hs
    exact ⟨c, x, y, b, hx, hmoves, hs'⟩
  cases a with
  | emit e => exact .inl ⟨e, rfl, (Option.some.inj hs).symm⟩
  | emitAgentEvent e => exact .inr (.inl ⟨e, rfl, (Option.some.inj hs).symm⟩)
  | connect path id =>
    obtain ⟨h, hpath, rfl⟩ := Option.map_eq_some_iff.mp hs
    rw [dispatch_eq hpath]
    exact .inr (.inr (.inl ⟨path, id, rfl, rfl⟩))
  | clientSend c => exact .inr (.inr (.inr (hclient (.inl rfl) hs)))
  | accepted c => exact .inr (.inr (.inr (hclient (.inr (.inl rfl)) hs)))
  | sent c => exact .inr (.inr (.inr (hclient (.inr (.inr (.inl rfl))) hs)))
  | got c => exact .inr (.inr (.inr (hclient (.inr (.inr (.inr (.inl rfl)))) hs)))
  | disconnected c => exact .inr (.inr (.inr (hclient (.inr (.inr (.inr (.inr rfl)))) hs)))

/-! ### Queues belong to clients -/

/-- The queue of a handler in its receive loop. -/
def Phase.queueId : Phase ε → Option Nat
  | waiting q | sending q _ => some q
  | accepting | replaying _ _ | closed => none

structure Server.Wf (s : Server ε) : Prop where
  handler : ∀ x ∈ s.clients, x.handler = .agentStreamWebsocket
  bus : s.triageEvents.Wf
  subscribed : ∀ (c : Nat) x q, s.clients[c]? = some x → x.phase.queueId = some q → q ∈ s.triageEvents.subscribers
  owner : ∀ (c c' : Nat) x x' q, s.clients[c]? = some x → s.clients[c']? = some x' →
    x.phase.queueId = some q → x'.phase.queueId = some q → c = c'
  fresh : ∀ x ∈ s.clients, x.phase = .accepting → x.received = []

namespace Moves

theorem handler (h : Moves s c x a y b) : y.handler = x.handler := by
  cases h <;> rfl

theorem bus (h : Moves s c x a y b) (hwf : s.triageEvents.Wf) : b.Wf := by
  cases h with
  | idle | start | next | sent | drop => exact hwf
  | startEmpty | subscribe => exact wf_subscribe hwf
  | get hphase hqueue => exact wf_set hwf hqueue
  | leave => exact wf_unsubscribe hwf _

theorem history (h : Moves s c x a y b) : b.history = s.triageEvents.history := by
  cases h with
  | idle | start | next | sent | drop | startEmpty | subscribe | get => rfl
  | leave => exact history_unsubscribe _ _

/-- A client keeps its queue, or gets a new one. -/
theorem queueId (h : Moves s c x a y b) {q : Nat} (hq : y.phase.queueId = some q) :
    (x.phase.queueId = some q ∧ (q ∈ s.triageEvents.subscribers → q ∈ b.subscribers)) ∨
      (q = s.triageEvents.queues.length ∧ q ∈ b.subscribers) := by
  cases h with
  | idle => exact .inl ⟨hq, id⟩
  | start | next | drop | leave => cases hq
  | startEmpty | subscribe =>
    cases hq
    exact .inr ⟨rfl, List.mem_append_right _ (List.mem_singleton_self _)⟩
  | sent hphase | get hphase =>
    cases hq
    exact .inl ⟨by rw [hphase]; rfl, id⟩

/-- The queues of other clients are left alone. -/
theorem frame (h : Moves s c x a y b) (hwf : s.triageEvents.Wf) {q : Nat}
    (hq : q ∈ s.triageEvents.subscribers)
    (hx : x.phase.queueId ≠ some q) : q ∈ b.subscribers ∧ b.queues[q]? = s.triageEvents.queues[q]? := by
  cases h with
  | idle | start | next | sent | drop => exact ⟨hq, rfl⟩
  | startEmpty | subscribe =>
    exact ⟨List.mem_append_left _ hq, List.getElem?_append_left (hwf.made q hq)⟩
  | @get q' e rest hphase hqueue =>
    have hne : q' ≠ q := by
      rintro rfl
      exact hx (by rw [hphase]; rfl)
    exact ⟨hq, List.getElem?_set_ne hne⟩
  | @leave q' e hphase =>
    have hne : q ≠ q' := by
      rintro rfl
      exact hx (by rw [hphase]; rfl)
    exact ⟨(mem_unsubscribe hwf.nodup).mpr ⟨hne, hq⟩, by rw [queues_unsubscribe]⟩

theorem fresh (h : Moves s c x a y b) (hy : y.phase = .accepting) : y = x := by
  cases h with
  | idle => rfl
  | start | startEmpty | next | subscribe | sent | get | drop | leave => cases hy

end Moves

theorem wf_moves (h : s.Wf) (hc : s.clients[c]? = some x) (hm : Moves s c x a y b) :
    Server.Wf { s with triageEvents := b, clients := s.clients.set c y } := by
  have hset {c' : Nat} {z : Client ε} (hz : (s.clients.set c y)[c']? = some z) :
      (c' = c ∧ z = y) ∨ (c' ≠ c ∧ s.clients[c']? = some z) := by
    rw [List.getElem?_set] at hz
    split_ifs at hz with heq hlt
    · exact .inl ⟨heq.symm, (Option.some.inj hz).symm⟩
    · exact .inr ⟨Ne.symm heq, hz⟩
  refine ⟨?_, hm.bus h.bus, ?_, ?_, ?_⟩
  · intro z hz
    rcases List.mem_or_eq_of_mem_set hz with hz | rfl
    · exact h.handler z hz
    · rw [hm.handler]
      exact h.handler x (List.mem_of_getElem? hc)
  · intro c' z q hz hq
    rcases hset hz with ⟨-, rfl⟩ | ⟨hne, hz⟩
    · rcases hm.queueId hq with ⟨hx, hsub⟩ | ⟨-, hsub⟩
      · exact hsub (h.subscribed c x q hc hx)
      · exact hsub
    · refine (hm.frame h.bus (h.subscribed c' z q hz hq) ?_).1
      exact fun hx => hne (h.owner c' c z x q hz hc hq hx)
  · intro c₁ c₂ z₁ z₂ q hz₁ hz₂ hq₁ hq₂
    -- a new queue is nobody else's
    have hnew {c' : Nat} {z : Client ε} (hz : s.clients[c']? = some z) (hne : c' ≠ c)
        (hq : z.phase.queueId = some q) (hy : y.phase.queueId = some q) : False := by
      rcases hm.queueId hy with ⟨hx, -⟩ | ⟨rfl, -⟩
      · exact hne (h.owner c' c z x q hz hc hq hx)
      · exact lt_irrefl _ (h.bus.made _ (h.subscribed c' z _ hz hq))
    rcases hset hz₁ with ⟨hc₁, hy₁⟩ | ⟨hne₁, hold₁⟩
    · rcases hset hz₂ with ⟨hc₂, -⟩ | ⟨hne₂, hold₂⟩
      · rw [hc₁, hc₂]
      · exact (hnew hold₂ hne₂ hq₂ (hy₁ ▸ hq₁)).elim
    · rcases hset hz₂ with ⟨-, hy₂⟩ | ⟨-, hold₂⟩
      · exact (hnew hold₁ hne₁ hq₁ (hy₂ ▸ hq₂)).elim
      · exact h.owner c₁ c₂ z₁ z₂ q hold₁ hold₂ hq₁ hq₂
  · intro z hz hphase
    rcases List.mem_or_eq_of_mem_set hz with hz | rfl
    · exact h.fresh z hz hphase
    · obtain rfl := hm.fresh hphase
      exact h.fresh z (List.mem_of_getElem? hc) hphase

theorem wf_emitAgentEvent (h : s.Wf) (e : ε) :
    Server.Wf { s with triageEvents := emitAgentEvent s.triageEvents e } := by
  unfold emitAgentEvent
  refine ⟨h.handler, wf_forEach h.bus ?_ _, h.subscribed, h.owner, h.fresh⟩
  intro queue hqueue
  rw [publish, putNowait]
  split_ifs with hfull
  · exact hqueue
  · have hlt : ¬ queueSize ≤ queue.length := by simpa [full] using hfull
    rw [Option.getD_some, List.length_append, List.length_singleton]
    omega

theorem wf_connect (h : s.Wf) (id : Option String) :
    Server.Wf { s with clients := s.clients ++ [{ handler := .agentStreamWebsocket, lastEventId := id }] } := by
  have hold {c : Nat} {x : Client ε} {q : Nat}
      (hx : (s.clients ++ [{ handler := .agentStreamWebsocket, lastEventId := id }])[c]? = some x)
      (hq : x.phase.queueId = some q) : s.clients[c]? = some x := by
    rw [List.getElem?_append] at hx
    split_ifs at hx
    · exact hx
    · rw [List.mem_singleton.mp (List.mem_of_getElem? hx)] at hq
      cases hq
  refine ⟨?_, h.bus, ?_, ?_, ?_⟩
  · intro x hx
    rcases List.mem_append.mp hx with hx | hx
    · exact h.handler x hx
    · rw [List.mem_singleton.mp hx]
  · exact fun c x q hx hq => h.subscribed c x q (hold hx hq) hq
  · exact fun c c' x x' q hx hx' hq hq' => h.owner c c' x x' q (hold hx hq) (hold hx' hq') hq hq'
  · intro x hx hphase
    rcases List.mem_append.mp hx with hx | hx
    · exact h.fresh x hx hphase
    · rw [List.mem_singleton.mp hx]

theorem wf_step (h : s.Wf) (hs : step correlationId s a = some s') : s'.Wf := by
  obtain ⟨e, -, rfl⟩ | ⟨e, -, rfl⟩ | ⟨path, id, -, rfl⟩ | ⟨c, x, y, b, hc, hm, rfl⟩ := step_cases h.handler hs
  · exact ⟨h.handler, h.bus, h.subscribed, h.owner, h.fresh⟩
  · exact wf_emitAgentEvent h e
  · exact wf_connect h id
  · exact wf_moves h hc hm

theorem wf_start : ({} : Server ε).Wf := by
  have hnone {c : Nat} {x : Client ε} : ([] : List (Client ε))[c]? ≠ some x := by simp
  refine ⟨fun _ h => absurd h List.not_mem_nil, wf_empty, ?_, ?_, fun _ h => absurd h List.not_mem_nil⟩
  · intro c x q hx
    exact absurd hx hnone
  · intro c c' x x' q hx
    exact absurd hx hnone

/-! ### Flows -/

/-- The events that a handler has yet to send. -/
def pending (b : Bus ε) : Phase ε → List ε
  | .replaying m rest => (m :: rest).flatMap Msg.events
  | .waiting q => b.queues[q]?.getD []
  | .sending q e => e :: b.queues[q]?.getD []
  | .accepting | .closed => []

/-- The events that a client was sent. -/
def Client.delivered (x : Client ε) : List ε := x.received.flatMap Msg.events

def flow (b : Bus ε) (x : Client ε) : List ε := x.delivered ++ pending b x.phase

/-- A step of a client moves events along its flow; at the start the flow is the ring buffer, and at
the end what is not sent yet is forgotten. -/
theorem Moves.flow (h : Moves s c x a y b) (hfresh : x.phase = .accepting → x.received = []) :
    (a ≠ .accepted c ∧ AgentStream.flow b y = AgentStream.flow s.triageEvents x) ∨
    (a = .accepted c ∧ x.phase = .accepting ∧ AgentStream.flow b y = s.triageEvents.history) ∨
    (a ≠ .accepted c ∧ y.phase = .closed ∧ AgentStream.flow b y = x.delivered) := by
  cases h with
  | idle => exact .inl ⟨nofun, rfl⟩
  | start hphase hhistory =>
    refine .inr (.inl ⟨rfl, hphase, ?_⟩)
    simp [AgentStream.flow, Client.delivered, hfresh hphase, pending, Msg.events]
  | startEmpty hphase hhistory =>
    refine .inr (.inl ⟨rfl, hphase, ?_⟩)
    simp [AgentStream.flow, Client.delivered, hfresh hphase, pending, Bus.subscribe, hhistory]
  | next hphase =>
    refine .inl ⟨nofun, ?_⟩
    simp [AgentStream.flow, Client.delivered, hphase, pending]
  | subscribe hphase =>
    refine .inl ⟨nofun, ?_⟩
    simp [AgentStream.flow, Client.delivered, hphase, pending, Bus.subscribe]
  | sent hphase =>
    refine .inl ⟨nofun, ?_⟩
    simp [AgentStream.flow, Client.delivered, hphase, pending, Msg.events]
  | get hphase hqueue =>
    refine .inl ⟨nofun, ?_⟩
    obtain ⟨hlt, hget⟩ := List.getElem?_eq_some_iff.mp hqueue
    simp [AgentStream.flow, Client.delivered, hphase, pending, hget, hlt]
  | drop hphase => exact .inr (.inr ⟨nofun, rfl, List.append_nil _⟩)
  | leave hphase => exact .inr (.inr ⟨nofun, rfl, List.append_nil _⟩)

theorem Moves.not_emit (h : Moves s c x a y b) (e : ε) : a ≠ .emitAgentEvent e := by
  cases h <;> nofun

theorem Moves.accepted (h : Moves s c x a y b) {c' : Nat} (ha : a = .accepted c') : c' = c := by
  cases h <;> cases ha <;> rfl

theorem Moves.open (h : Moves s c x a y b) (hy : y.phase ≠ .closed) : x.phase ≠ .closed := by
  cases h with
  | idle => exact hy
  | start hphase | startEmpty hphase | next hphase | subscribe hphase | sent hphase | get hphase =>
    rw [hphase]
    nofun
  | drop | leave => exact absurd rfl hy

/-- The other clients' flows stay. -/
theorem flow_congr {b b' : Bus ε} (h : ∀ q, x.phase.queueId = some q → b'.queues[q]? = b.queues[q]?) :
    flow b' x = flow b x := by
  unfold flow
  cases hphase : x.phase with
  | waiting q | sending q e => simp only [pending, h q (by rw [hphase]; rfl)]
  | accepting | replaying m rest | closed => rfl

/-- An event on the bus is added to the flows of the handlers that are subscribed and have room for
it. -/
theorem flow_emitAgentEvent (h : s.Wf) (hc : s.clients[c]? = some x) (e : ε) :
    flow (emitAgentEvent s.triageEvents e) x =
      flow s.triageEvents x ++
        if x.phase.queueId.any fun q => (s.triageEvents.queues[q]?.getD []).length < queueSize then [e] else [] := by
  cases hq : x.phase.queueId with
  | none =>
    rw [flow_congr (b := s.triageEvents) (by rw [hq]; nofun)]
    simp
  | some q =>
    have hsub : q ∈ s.triageEvents.subscribers := h.subscribed c x q hc hq
    have hlt : q < s.triageEvents.queues.length := h.bus.made q hsub
    have hqueue : (emitAgentEvent s.triageEvents e).queues[q]?.getD [] =
        publish e (s.triageEvents.queues[q]?.getD []) := by
      rw [emitAgentEvent, getElem?_forEach h.bus.nodup, if_pos hsub, List.getElem?_eq_getElem hlt]
      rfl
    have hpublish (queue : List ε) : publish e queue = queue ++ if queue.length < queueSize then [e] else [] := by
      rw [publish]
      split_ifs with hroom
      · rw [putNowait_of_length_lt hroom]
        rfl
      · rw [putNowait, full, decide_eq_true (by omega)]
        simp
    unfold flow
    cases hphase : x.phase with
    | waiting q' | sending q' e' =>
      obtain rfl : q' = q := by simpa [hphase, Phase.queueId] using hq
      simp [pending, hqueue, hpublish]
    | accepting | replaying m rest | closed => simp [hphase, Phase.queueId] at hq

/-- What one step does to the flow of a client. -/
inductive FlowStep (s s' : Server ε) (c : Nat) (x y : Client ε) : Act ε → Prop
  | same {a : Act ε} : (∀ e, a ≠ .emitAgentEvent e) → a ≠ .accepted c → (y.phase = .accepting → x.phase = .accepting) →
      (y.phase ≠ .closed → x.phase ≠ .closed) → flow s'.triageEvents y = flow s.triageEvents x → FlowStep s s' c x y a
  | emit (e : ε) : y = x →
      flow s'.triageEvents x = flow s.triageEvents x ++
        (if x.phase.queueId.any fun q => (s.triageEvents.queues[q]?.getD []).length < queueSize then [e] else []) →
      FlowStep s s' c x y (.emitAgentEvent e)
  | start : x.phase = .accepting → flow s'.triageEvents y = s.triageEvents.history → FlowStep s s' c x y (.accepted c)
  | close {a : Act ε} : (∀ e, a ≠ .emitAgentEvent e) → a ≠ .accepted c → y.phase = .closed → flow s'.triageEvents y = x.delivered →
      FlowStep s s' c x y a

theorem flow_step (h : s.Wf) (hs : step correlationId s a = some s') (hy : s'.clients[c]? = some y) :
    (∃ x, s.clients[c]? = some x ∧ FlowStep s s' c x y a) ∨
      (c = s.clients.length ∧ (∃ path id, a = .connect path id) ∧ flow s'.triageEvents y = [] ∧ y.phase = .accepting) := by
  obtain ⟨e, rfl, rfl⟩ | ⟨e, rfl, rfl⟩ | ⟨path, lastEventId, rfl, rfl⟩ | ⟨c', x, z, b, hc', hm, rfl⟩ :=
    step_cases h.handler hs
  · exact .inl ⟨y, hy, .same nofun nofun id id rfl⟩
  · exact .inl ⟨y, hy, .emit e rfl (flow_emitAgentEvent h hy e)⟩
  · change (s.clients ++ _)[c]? = some y at hy
    rw [List.getElem?_append] at hy
    split_ifs at hy with hlt
    · exact .inl ⟨y, hy, .same nofun nofun id id rfl⟩
    · obtain ⟨hidx, hnew⟩ := List.getElem?_eq_some_iff.mp hy
      rw [List.length_singleton] at hidx
      refine .inr ⟨by omega, ⟨path, lastEventId, rfl⟩, ?_⟩
      rw [List.getElem_singleton] at hnew
      rw [← hnew]
      exact ⟨rfl, rfl⟩
  · change (s.clients.set c' z)[c]? = some y at hy
    rw [List.getElem?_set] at hy
    split_ifs at hy with heq hlt
    · subst heq
      obtain rfl : z = y := Option.some.inj hy
      refine .inl ⟨x, hc', ?_⟩
      rcases hm.flow (h.fresh x (List.mem_of_getElem? hc')) with ⟨hne, hflow⟩ | ⟨rfl, hphase, hflow⟩ |
        ⟨hne, hclosed, hflow⟩
      · exact .same hm.not_emit hne (fun hacc => hm.fresh hacc ▸ hacc) hm.open hflow
      · exact .start hphase hflow
      · exact .close hm.not_emit hne hclosed hflow
    · refine .inl ⟨y, hy, .same hm.not_emit (fun ha => heq (hm.accepted ha).symm) id id (flow_congr ?_)⟩
      intro q hq
      refine (hm.frame h.bus (h.subscribed c y q hy hq) ?_).2
      exact fun hx => heq (h.owner c' c x y q hc' hy hx hq)

/-! ### Runs -/

def triageEmitted (ops : List (Act ε)) : List ε :=
  ops.filterMap fun
    | .emitAgentEvent e => some e
    | .emit _ | .connect _ _ | .clientSend _ | .accepted _ | .sent _ | .got _ | .disconnected _ => none

theorem triageEmitted_append (ops ops' : List (Act ε)) :
    triageEmitted (ops ++ ops') = triageEmitted ops ++ triageEmitted ops' :=
  List.filterMap_append

theorem triageEmitted_of_not_emit {a : Act ε} (h : ∀ e, a ≠ .emitAgentEvent e) : triageEmitted [a] = [] := by
  cases a with
  | emitAgentEvent e => exact absurd rfl (h e)
  | emit | connect | clientSend | accepted | sent | got | disconnected => rfl

variable {ops : List (Act ε)}

theorem history_step (h : s.Wf) (hs : step correlationId s a = some s')
    (hhistory : s.triageEvents.history = (triageEmitted ops).rtake maxHistory) :
    s'.triageEvents.history = (triageEmitted (ops ++ [a])).rtake maxHistory := by
  rw [triageEmitted_append]
  obtain ⟨e, rfl, rfl⟩ | ⟨e, rfl, rfl⟩ | ⟨path, lastEventId, rfl, rfl⟩ | ⟨c, x, y, b, hc, hm, rfl⟩ :=
    step_cases h.handler hs
  · rw [triageEmitted_of_not_emit nofun, List.append_nil]
    exact hhistory
  · rw [show triageEmitted [Act.emitAgentEvent e] = [e] from rfl, ← rtake_push, ← hhistory, emitAgentEvent]
  · rw [triageEmitted_of_not_emit nofun, List.append_nil]
    exact hhistory
  · rw [triageEmitted_of_not_emit hm.not_emit, List.append_nil, ← hhistory]
    exact hm.history

/-- The flow of every client is in the order of the emits. -/
structure InOrder (ops : List (Act ε)) (s : Server ε) : Prop where
  wf : s.Wf
  history : s.triageEvents.history = (triageEmitted ops).rtake maxHistory
  flow : ∀ (c : Nat) x, s.clients[c]? = some x → (flow s.triageEvents x).Sublist (triageEmitted ops)

theorem delivered_sublist_flow (b : Bus ε) (x : Client ε) : x.delivered.Sublist (flow b x) :=
  List.sublist_append_left _ _

theorem inOrder_step (h : InOrder ops s) (hs : step correlationId s a = some s') :
    InOrder (ops ++ [a]) s' := by
  refine ⟨wf_step h.wf hs, history_step h.wf hs h.history, ?_⟩
  intro c y hy
  rw [triageEmitted_append]
  rcases flow_step h.wf hs hy with ⟨x, hx, hflow⟩ | ⟨-, -, hnil, -⟩
  · have hold := h.flow c x hx
    cases hflow with
    | same _ _ _ _ heq =>
      rw [heq]
      exact hold.trans (List.sublist_append_left _ _)
    | emit e hyx heq =>
      rw [hyx, heq]
      refine hold.append ?_
      split_ifs
      · exact List.Sublist.refl _
      · exact List.nil_sublist _
    | start _ heq =>
      rw [heq, h.history]
      exact (List.drop_sublist _ _).trans (List.sublist_append_left _ _)
    | close _ _ _ heq =>
      rw [heq]
      exact ((delivered_sublist_flow _ x).trans hold).trans (List.sublist_append_left _ _)
  · rw [hnil]
    exact List.nil_sublist _

theorem inOrder_start : InOrder [] ({} : Server ε) :=
  ⟨wf_start, (List.rtake_nil maxHistory).symm, nofun⟩

section
variable {guard : Server ε → Act ε → Prop} [∀ s a, Decidable (guard s a)]

theorem inOrder_of_run (h : Lts.run (step correlationId) guard {} ops = some s) : InOrder ops s :=
  Lts.run_invariant h (I := InOrder) inOrder_start fun _ hs hord => inOrder_step hord hs

end

/-! ### Emits on the other bus -/

/-- Every event that is emitted on `agent_event_bus` while a handler is in its receive loop, with
room in its queue, is put on that queue. -/
def Delivers (correlationId : ε → Option String) (ops : List (Act ε)) : Prop :=
  ∀ before e after s s', ops = before ++ .emit e :: after → Lts.run (step correlationId) Lts.free {} before = some s →
    step correlationId s (.emit e) = some s' → ∀ (c : Nat) x q, s.clients[c]? = some x → x.phase.queueId = some q →
      ((s.bus x.handler).queues[q]?.getD []).length < queueSize →
      (s'.bus x.handler).queues[q]?.getD [] = (s.bus x.handler).queues[q]?.getD [] ++ [e]

/-- No event is emitted on `agent_event_bus` while there is such a handler. -/
def Quiet (correlationId : ε → Option String) (ops : List (Act ε)) : Prop :=
  ∀ before e after s, ops = before ++ .emit e :: after → Lts.run (step correlationId) Lts.free {} before = some s →
    ∀ (c : Nat) x q, s.clients[c]? = some x → x.phase.queueId = some q →
      queueSize ≤ ((s.bus x.handler).queues[q]?.getD []).length

theorem delivers_iff_quiet : Delivers correlationId ops ↔ Quiet correlationId ops := by
  constructor
  · intro h before e after s hops hrun c x q hx hq
    by_contra hroom
    have hput := h before e after s _ hops hrun rfl c x q hx hq (not_le.mp hroom)
    -- the handler listens to the other bus, which the emit leaves alone
    rw [(inOrder_of_run hrun).wf.handler x (List.mem_of_getElem? hx)] at hput
    exact absurd (congrArg List.length hput) (by simp [Server.bus])
  · intro h before e after s s' hops hrun _ c x q hx hq hroom
    exact absurd hroom (not_lt.mpr (h before e after s hops hrun c x q hx hq))

/-- In every run, clients are sent events in the order of the emits and without repetition; but the
events of `agent_event_bus` reach the queues of the handlers exactly if none is emitted while a
handler could take it. -/
theorem agent_events_delivered_iff (h : Lts.run (step correlationId) Lts.free {} ops = some s) :
    (Delivers correlationId ops ∧
        ∀ (c : Nat) x, s.clients[c]? = some x → x.delivered.Sublist (triageEmitted ops)) ↔
      Quiet correlationId ops := by
  rw [delivers_iff_quiet]
  refine and_iff_left ?_
  intro c x hx
  exact (delivered_sublist_flow _ x).trans ((inOrder_of_run h).flow c x hx)

/-- A client is connected when a detector emits its finding. -/
def findingOps : List (Act String) := [.connect "/ws/agent/stream" none, .accepted 0, .emit "finding"]

def listening : Server String :=
  { triageEvents := { subscribers := [0], queues := [[]] }
    clients := [{ handler := .agentStreamWebsocket, phase := .waiting 0 }] }

def findingServer : Server String := { listening with agentEventBus := { history := ["finding"] } }

theorem listening_run : Lts.run (step some) Lts.free {}
    [.connect "/ws/agent/stream" none, .accepted 0] = some listening := by
  decide +kernel

theorem findingOps_run : Lts.run (step some) Lts.free {} findingOps = some findingServer := by
  decide +kernel

theorem finding_delivered_iff :
    (Delivers some findingOps ∧
        ∀ (c : Nat) x, findingServer.clients[c]? = some x → x.delivered.Sublist (triageEmitted findingOps)) ↔
      Quiet some findingOps :=
  agent_events_delivered_iff findingOps_run

theorem finding_not_delivered :
    ¬ ∀ (ops : List (Act String)) (s : Server String), Lts.run (step some) Lts.free {} ops = some s →
      Delivers some ops ∧ ∀ (c : Nat) x, s.clients[c]? = some x → x.delivered.Sublist (triageEmitted ops) := by
  intro h
  have hput := (h _ _ findingOps_run).1 [.connect "/ws/agent/stream" none, .accepted 0] "finding" [] listening
    findingServer rfl listening_run (by decide +kernel) 0 _ 0 rfl rfl (by decide)
  exact absurd hput (by decide)

/-! ### History and live events -/

/-- The client has room for the event. -/
def keepsUp (c : Nat) (s : Server ε) : Act ε → Bool
  | .emitAgentEvent _ =>
    s.clients[c]?.all fun x => x.phase.queueId.all fun q => (s.triageEvents.queues[q]?.getD []).length < queueSize
  | .emit _ | .connect _ _ | .clientSend _ | .accepted _ | .sent _ | .got _ | .disconnected _ => true

/-- The event is not emitted while the handler waits for its history to be sent. -/
def notWhileReplaying (c : Nat) (s : Server ε) : Act ε → Bool
  | .emitAgentEvent _ =>
    s.clients[c]?.all fun x =>
      match x.phase with
      | .replaying _ _ => false
      | .accepting | .waiting _ | .sending _ _ | .closed => true
  | .emit _ | .connect _ _ | .clientSend _ | .accepted _ | .sent _ | .got _ | .disconnected _ => true

theorem hasRoom_of_guard {e : ε} (hc : s.clients[c]? = some x) (hup : keepsUp c s (.emitAgentEvent e) = true)
    (hquiet : notWhileReplaying c s (.emitAgentEvent e) = true) (hopen : x.phase ≠ .closed)
    (hstarted : x.phase ≠ .accepting) :
    (x.phase.queueId.any fun q => (s.triageEvents.queues[q]?.getD []).length < queueSize) = true := by
  rw [keepsUp, hc] at hup
  rw [notWhileReplaying, hc] at hquiet
  cases hphase : x.phase with
  | accepting => exact absurd hphase hstarted
  | closed => exact absurd hphase hopen
  | replaying m rest => simp [hphase] at hquiet
  | waiting q | sending q e' => simpa [hphase, Phase.queueId] using hup

/-- From its start on, the flow of client `c` is the ring buffer of that moment followed by all
events since. -/
structure NoGap (c : Nat) (buffer : List ε) (ops : List (Act ε)) (s : Server ε) : Prop where
  wf : s.Wf
  started : ∃ x, s.clients[c]? = some x ∧ x.phase ≠ .accepting
  flow : ∀ x, s.clients[c]? = some x → x.phase ≠ .closed → flow s.triageEvents x = buffer ++ triageEmitted ops

theorem clients_step (h : s.Wf) (hs : step correlationId s a = some s') (hc : s.clients[c]? = some x) :
    ∃ y, s'.clients[c]? = some y := by
  obtain ⟨hlt, -⟩ := List.getElem?_eq_some_iff.mp hc
  have hlen : s.clients.length ≤ s'.clients.length := by
    obtain ⟨e, -, rfl⟩ | ⟨e, -, rfl⟩ | ⟨path, lastEventId, -, rfl⟩ | ⟨c', x', y, b, -, -, rfl⟩ := step_cases h.handler hs
    · exact le_rfl
    · exact le_rfl
    · simp
    · simp
  exact ⟨_, List.getElem?_eq_getElem (hlt.trans_le hlen)⟩

theorem noGap_step {buffer : List ε} (h : NoGap c buffer ops s) (hs : step correlationId s a = some s')
    (hup : keepsUp c s a = true) (hquiet : notWhileReplaying c s a = true) : NoGap c buffer (ops ++ [a]) s' := by
  obtain ⟨x, hx, hstarted⟩ := h.started
  obtain ⟨y, hy⟩ := clients_step h.wf hs hx
  have hflow : FlowStep s s' c x y a := by
    rcases flow_step h.wf hs hy with ⟨x', hx', hflow⟩ | ⟨hlen, -⟩
    · rw [hx] at hx'
      cases hx'
      exact hflow
    · rw [hlen, List.getElem?_eq_none le_rfl] at hx
      cases hx
  refine ⟨wf_step h.wf hs, ⟨y, hy, ?_⟩, ?_⟩
  · cases hflow with
    | same _ _ hacc _ _ => exact fun hyacc => hstarted (hacc hyacc)
    | emit e hyx _ =>
      rw [hyx]
      exact hstarted
    | start hphase _ => exact absurd hphase hstarted
    | close _ _ hclosed _ =>
      rw [hclosed]
      nofun
  · intro y' hy' hopen
    rw [hy] at hy'
    cases hy'
    rw [triageEmitted_append, ← List.append_assoc]
    cases hflow with
    | same hne _ _ hopen' heq =>
      rw [heq, h.flow x hx (hopen' hopen), triageEmitted_of_not_emit hne, List.append_nil]
    | emit e hyx heq =>
      rw [hyx] at hopen
      rw [hyx, heq, if_pos (hasRoom_of_guard hx hup hquiet hopen hstarted), h.flow x hx hopen]
      rfl
    | start hphase _ => exact absurd hphase hstarted
    | close _ _ hclosed _ => exact absurd hclosed hopen

theorem phase_of_accepted (h : s.Wf) (hs : step correlationId s (.accepted c) = some s') :
    ∃ x y, s.clients[c]? = some x ∧ s'.clients[c]? = some y ∧ y.phase ≠ .accepting := by
  obtain ⟨e, ha, -⟩ | ⟨e, ha, -⟩ | ⟨path, lastEventId, ha, -⟩ | ⟨c', x, y, b, hc', hm, rfl⟩ := step_cases h.handler hs
  · cases ha
  · cases ha
  · cases ha
  · obtain rfl : c = c' := hm.accepted rfl
    obtain ⟨hlt, -⟩ := List.getElem?_eq_some_iff.mp hc'
    refine ⟨x, y, hc', List.getElem?_set_self hlt, ?_⟩
    cases hm <;> nofun

theorem noGap_of_accepted (h : s.Wf) (hs : step correlationId s (.accepted c) = some s') :
    NoGap c s.triageEvents.history [] s' := by
  obtain ⟨x, y, hx, hy, hstarted⟩ := phase_of_accepted h hs
  refine ⟨wf_step h hs, ⟨y, hy, hstarted⟩, ?_⟩
  intro y' hy' _
  rcases flow_step h hs hy' with ⟨x', -, hflow⟩ | ⟨-, ⟨_, _, ha⟩, -⟩
  · cases hflow with
    | same _ hne _ _ _ => exact absurd rfl hne
    | start _ heq =>
      rw [heq]
      exact (List.append_nil _).symm
    | close _ hne _ _ => exact absurd rfl hne
  · cases ha

/-- In every run in which client `c` keeps up and no event is emitted while its handler waits for
the history to be sent, what it was sent and what its handler has yet to send are the ring buffer at
its start and all events since, each once and in order. -/
theorem stream_no_gap {before after : List (Act ε)}
    (h : Lts.run (step correlationId) (fun s a => keepsUp c s a = true ∧ notWhileReplaying c s a = true) {}
      (before ++ .accepted c :: after) = some s)
    (hx : s.clients[c]? = some x) (hopen : x.phase ≠ .closed) :
    x.delivered ++ pending s.triageEvents x.phase =
      (triageEmitted before).rtake maxHistory ++ triageEmitted after := by
  obtain ⟨t, t', ht, -, hstep, hafter⟩ := Lts.run_split h
  have hord := inOrder_of_run ht
  rw [← hord.history]
  have hgap := Lts.run_invariant hafter (I := NoGap c t.triageEvents.history) (noGap_of_accepted hord.wf hstep)
    fun hg hs hgap => noGap_step hgap hs hg.1 hg.2
  exact hgap.flow x hx hopen

/-- One event is in the ring buffer when the client connects, and another one is live. -/
def liveServer : Server String :=
  { triageEvents := { history := ["started", "completed"], subscribers := [0], queues := [["completed"]] }
    clients := [{ handler := .agentStreamWebsocket, phase := .waiting 0, received := [.history ["started"]] }] }

theorem live_no_gap :
    (⟨.agentStreamWebsocket, none, .waiting 0, [.history ["started"]]⟩ : Client String).delivered ++
        pending liveServer.triageEvents (.waiting 0) =
      (triageEmitted [.emitAgentEvent "started", .connect "/ws/agent/stream" none]).rtake maxHistory ++
        triageEmitted [.sent 0, .emitAgentEvent "completed"] := by
  have hrun : Lts.run (step some) (fun s a => keepsUp 0 s a = true ∧ notWhileReplaying 0 s a = true) {}
      (([.emitAgentEvent "started", .connect "/ws/agent/stream" none] : List (Act String)) ++
        .accepted 0 :: [.sent 0, .emitAgentEvent "completed"]) = some liveServer := by decide +kernel
  exact stream_no_gap hrun rfl nofun

/-- The same, with the second event emitted while the history is being sent. -/
theorem event_lost_while_replaying :
    ¬ ∀ (before after : List (Act String)) (s : Server String) (x : Client String),
      Lts.run (step some) (fun s a => keepsUp 0 s a = true) {} (before ++ .accepted 0 :: after) = some s →
      s.clients[0]? = some x → x.phase ≠ .closed →
      x.delivered ++ pending s.triageEvents x.phase =
        (triageEmitted before).rtake maxHistory ++ triageEmitted after := by
  intro h
  have hrun : Lts.run (step some) (fun s a => keepsUp 0 s a = true) {}
      (([.emitAgentEvent "started", .connect "/ws/agent/stream" none] : List (Act String)) ++
        .accepted 0 :: [.emitAgentEvent "completed", .sent 0]) =
      some { liveServer with triageEvents := { liveServer.triageEvents with queues := [[]] } } := by decide +kernel
  have heq := h _ _ _ _ hrun rfl nofun
  exact absurd heq (by decide +kernel)

end AgentStream
end SocFabric
