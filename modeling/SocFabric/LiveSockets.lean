import SocFabric.AgentEvents

/-!
# The sockets on the event bus (`soc-backend/interfaces/api_routes.py`)

`websocket_alerts` and `websocket_endpoints` subscribe to the agent event bus, wait for its next
event and send the ones of the types they list; that the client has left shows when they send. A run
interleaves the emits of the backend with clients that come and leave and with the turns of the
handlers; `ops` are the calls that the bus has got. No event of the backend has a type that
`websocket_alerts` lists, so that it sends nothing and never ends (`alerts_never_sent`).
-/

namespace SocFabric.LiveSockets
open AgentEvents BoundedQueue Triage

variable {R : Type}

/-- What the backend emits: `enroll_endpoint` and `register_endpoint`, the triage and its subagents,
and the two detectors. -/
inductive Event (R : Type)
  | enrolled (endpointId : String)
  | registered (endpointId : String)
  | triage (e : BusEvent R)
  | finding (category findingId sourceIP : String) (score : Nat) (triggers : List String)
deriving DecidableEq, Repr

/-- `event.get("type")`; the steps of a triage have none. -/
def Event.type : Event R → Option String
  | .enrolled _ => some "endpoint_enrolled"
  | .registered _ => some "endpoint_registered"
  | .triage (.step ..) => none
  | .triage (.clientSiteVisit ..) => some "ClientSiteVisit"
  | .triage (.suspiciousFlow ..) => some "SuspiciousFlow"
  | .finding .. => some "SecurityFinding"

inductive Kind
  | alerts
  | endpoints
deriving DecidableEq, Repr

def Kind.types : Kind → List String
  | .alerts => ["alert", "HIGH_RISK_ALERT", "Anomalous_Network_Activity"]
  | .endpoints => ["endpoint_registered", "endpoint_enrolled", "token_generated"]

def Kind.wants (kind : Kind) (e : Event R) : Bool := e.type.any (· ∈ kind.types)

/-- A call of a handler. -/
structure Socket (R : Type) where
  kind : Kind
  queue : Nat
  connected : Bool := true
  running : Bool := true
  sent : List (Event R) := []
deriving DecidableEq, Repr

structure State (R : Type) where
  bus : Bus (Event R) := {}
  ops : List (Op (Event R)) := []
  sockets : List (Socket R) := []

inductive Act (R : Type)
  | emit (e : Event R)
  | connect (kind : Kind)
  | leave (i : Nat)
  | serve (i : Nat)
deriving DecidableEq, Repr

section
variable [DecidableEq R]

def State.call (s : State R) (op : Op (Event R)) : Option (State R) :=
  (AgentEvents.step s.bus op).map fun bus => { s with bus := bus, ops := s.ops ++ [op] }

def State.setSocket (s : State R) (i : Nat) (socket : Socket R) : State R :=
  { s with sockets := s.sockets.set i socket }

/-- One event for a handler, once the bus has given it out. -/
def State.handle (s : State R) (i : Nat) (socket : Socket R) (e : Event R) : Option (State R) :=
  if socket.kind.wants e = false then some s
  else if socket.connected then some (s.setSocket i { socket with sent := socket.sent ++ [e] })
  -- the send raises, and the handler unsubscribes and ends
  else (s.call (.unsubscribe socket.queue)).map (·.setSocket i { socket with running := false })

def step (s : State R) : Act R → Option (State R)
  | .emit e => s.call (.emit e)
  | .connect kind =>
    (s.call (.subscribe s.bus.queues.length)).map fun t =>
      { t with sockets := s.sockets ++ [{ kind := kind, queue := s.bus.queues.length }] }
  | .leave i => s.sockets[i]?.map fun socket => s.setSocket i { socket with connected := false }
  | .serve i =>
    match s.sockets[i]? with
    | some socket =>
      if socket.running = false then none
      else
        match s.bus.queues[socket.queue]? with
        | some (e :: _) => (s.call (.get socket.queue e)).bind (·.handle i socket e)
        | _ => none
    | none => none

/-! ### What sockets send -/

omit [DecidableEq R] in
/-- Nothing that the backend emits is an alert. -/
theorem alerts_wants (e : Event R) : Kind.alerts.wants e = false := by
  rcases e with _ | _ | e | _
  · simp [Kind.wants, Event.type, Kind.types]
  · simp [Kind.wants, Event.type, Kind.types]
  · cases e <;> simp [Kind.wants, Event.type, Kind.types]
  · simp [Kind.wants, Event.type, Kind.types]

structure Inv (s : State R) : Prop where
  run : Lts.run AgentEvents.step Lts.free {} s.ops = some s.bus
  made : s.sockets.length = s.bus.queues.length
  queue (i : Nat) (socket : Socket R) : s.sockets[i]? = some socket → socket.queue = i
  subscribed (i : Nat) (socket : Socket R) : s.sockets[i]? = some socket →
    (i ∈ s.bus.subscribers ↔ socket.running = true)
  sent (i : Nat) (socket : Socket R) : s.sockets[i]? = some socket → socket.running = true →
    socket.sent = (consumed i s.ops).filter socket.kind.wants
  alerts (i : Nat) (socket : Socket R) : s.sockets[i]? = some socket → socket.kind = .alerts → socket.running = true

section
variable {s s' t : State R} {a : Act R} {op : Op (Event R)} {i : Nat} {socket : Socket R} {e : Event R}

theorem of_call (h : s.call op = some t) : AgentEvents.step s.bus op = some t.bus ∧ t.ops = s.ops ++ [op] ∧
    t.sockets = s.sockets := by
  obtain ⟨bus, hbus, rfl⟩ := Option.map_eq_some_iff.mp h
  exact ⟨hbus, rfl, rfl⟩

theorem run_call (h : s.call op = some t) (hrun : Lts.run AgentEvents.step Lts.free {} s.ops = some s.bus) :
    Lts.run AgentEvents.step Lts.free {} t.ops = some t.bus := by
  obtain ⟨hstep, hops, -⟩ := of_call h
  rw [hops]
  exact Lts.run_concat_eq_some.mpr ⟨s.bus, hrun, trivial, hstep⟩

theorem wf_of_run {ops : List (Op (Event R))} {bus : Bus (Event R)}
    (hrun : Lts.run AgentEvents.step Lts.free {} ops = some bus) : bus.Wf :=
  (Lts.Reach.of_run ops hrun).invariant wf_empty fun _ hs => wf_step hs

/-- Nothing has been taken off a queue that is not made yet. -/
theorem consumed_of_unmade {ops : List (Op (Event R))} {bus : Bus (Event R)}
    (hrun : Lts.run AgentEvents.step Lts.free {} ops = some bus) {q : Nat} (hq : bus.queues.length ≤ q) :
    consumed q ops = [] := by
  have htracked := tracked_of_run hrun q
  rw [Bus.feed, List.getElem?_eq_none hq] at htracked
  cases htracked with
  | absent _ hnone => exact hnone

namespace Inv

theorem init : Inv ({} : State R) where
  run := rfl
  made := rfl
  queue _ _ h := by cases h
  subscribed _ _ h := by cases h
  sent _ _ h := by cases h
  alerts _ _ h := by cases h

/-- A call of the bus that makes no queue and ends no subscription. -/
theorem call (hinv : Inv s) (h : s.call op = some t) (hlen : t.bus.queues.length = s.bus.queues.length)
    (hsub : t.bus.subscribers = s.bus.subscribers) (hconsumed : ∀ i, consumed i [op] = []) : Inv t := by
  obtain ⟨-, hops, hsockets⟩ := of_call h
  refine ⟨run_call h hinv.run, ?_, ?_, ?_, ?_, ?_⟩
  · rw [hsockets, hlen]
    exact hinv.made
  · rw [hsockets]
    exact hinv.queue
  · rw [hsockets, hsub]
    exact hinv.subscribed
  · rw [hsockets, hops]
    intro i socket hi hrunning
    rw [consumed_append, hconsumed, List.append_nil]
    exact hinv.sent i socket hi hrunning
  · rw [hsockets]
    exact hinv.alerts

/-- A step that only one socket takes part in. -/
theorem set (hinv : Inv s) (hi : s.sockets[i]? = some socket) (socket' : Socket R)
    (hsockets : s'.sockets = s.sockets.set i socket') (hqueue : socket'.queue = socket.queue)
    (hkind : socket'.kind = socket.kind) (hrun : Lts.run AgentEvents.step Lts.free {} s'.ops = some s'.bus)
    (hlen : s'.bus.queues.length = s.bus.queues.length)
    (hmem : i ∈ s'.bus.subscribers ↔ socket'.running = true)
    (hmem' : ∀ j, j ≠ i → (j ∈ s'.bus.subscribers ↔ j ∈ s.bus.subscribers))
    (hconsumed : ∀ j, j ≠ i → consumed j s'.ops = consumed j s.ops)
    (hsent : socket'.running = true → socket'.sent = (consumed i s'.ops).filter socket.kind.wants)
    (halerts : socket.kind = .alerts → socket'.running = true) : Inv s' := by
  have hlt : i < s.sockets.length := (List.getElem?_eq_some_iff.mp hi).1
  have hback {j : Nat} {other : Socket R} (hj : s'.sockets[j]? = some other) :
      j = i ∧ other = socket' ∨ j ≠ i ∧ s.sockets[j]? = some other := by
    rw [hsockets] at hj
    by_cases hji : j = i
    · subst hji
      exact .inl ⟨rfl, (Option.some.inj ((List.getElem?_set_self hlt).symm.trans hj)).symm⟩
    · exact .inr ⟨hji, by rwa [List.getElem?_set_ne (Ne.symm hji)] at hj⟩
  refine ⟨hrun, ?_, fun j other hj => ?_, fun j other hj => ?_, fun j other hj hrunning => ?_, fun j other hj hk => ?_⟩
  · rw [hsockets, List.length_set, hlen]
    exact hinv.made
  · rcases hback hj with ⟨rfl, rfl⟩ | ⟨-, hj⟩
    · exact hqueue.trans (hinv.queue _ socket hi)
    · exact hinv.queue j other hj
  · rcases hback hj with ⟨rfl, rfl⟩ | ⟨hji, hj⟩
    · exact hmem
    · exact (hmem' j hji).trans (hinv.subscribed j other hj)
  · rcases hback hj with ⟨rfl, rfl⟩ | ⟨hji, hj⟩
    · rw [hkind]
      exact hsent hrunning
    · rw [hconsumed j hji]
      exact hinv.sent j other hj hrunning
  · rcases hback hj with ⟨rfl, rfl⟩ | ⟨-, hj⟩
    · exact halerts (hkind ▸ hk)
    · exact hinv.alerts j other hj hk

theorem connect (hinv : Inv s) {kind : Kind} (h : s.call (.subscribe s.bus.queues.length) = some t) :
    Inv { t with sockets := s.sockets ++ [{ kind := kind, queue := s.bus.queues.length }] } := by
  obtain ⟨hstep, hops, -⟩ := of_call h
  have hbus : t.bus = s.bus.subscribe := by
    rw [AgentEvents.step, if_pos rfl] at hstep
    exact (Option.some.inj hstep).symm
  have hback {j : Nat} {other : Socket R}
      (hj : (s.sockets ++ [{ kind := kind, queue := s.bus.queues.length }])[j]? = some other) :
      j = s.bus.queues.length ∧ other = { kind := kind, queue := s.bus.queues.length } ∨
        j ≠ s.bus.queues.length ∧ s.sockets[j]? = some other := by
    rw [List.getElem?_append, hinv.made] at hj
    split at hj
    · rename_i hlt
      exact .inr ⟨Nat.ne_of_lt hlt, hj⟩
    · obtain ⟨hlt, heq⟩ := List.getElem?_eq_some_iff.mp hj
      rw [List.length_singleton] at hlt
      exact .inl ⟨by omega, by simpa using heq.symm⟩
  have hmem (j : Nat) : j ∈ t.bus.subscribers ↔ j ∈ s.bus.subscribers ∨ j = s.bus.queues.length := by
    rw [hbus, Bus.subscribe, List.mem_append, List.mem_singleton]
  have hconsumed (j : Nat) : consumed j t.ops = consumed j s.ops := by
    rw [hops, consumed_append]
    exact List.append_nil _
  have hrun := run_call h hinv.run
  refine ⟨hrun, ?_, fun j other hj => ?_, fun j other hj => ?_, fun j other hj hrunning => ?_,
    fun j other hj hk => ?_⟩
  · show (s.sockets ++ [_]).length = t.bus.queues.length
    rw [List.length_append, hbus, Bus.subscribe, List.length_append, hinv.made]
    rfl
  · rcases hback hj with ⟨rfl, rfl⟩ | ⟨-, hj⟩
    · rfl
    · exact hinv.queue j other hj
  · rcases hback hj with ⟨rfl, rfl⟩ | ⟨hne, hj⟩
    · exact iff_of_true ((hmem _).mpr (.inr rfl)) rfl
    · rw [← hinv.subscribed j other hj]
      exact (hmem j).trans (or_iff_left hne)
  · show other.sent = (consumed j t.ops).filter other.kind.wants
    rw [hconsumed]
    rcases hback hj with ⟨rfl, rfl⟩ | ⟨-, hj⟩
    · rw [consumed_of_unmade hinv.run (Nat.le_refl _)]
      rfl
    · exact hinv.sent j other hj hrunning
  · rcases hback hj with ⟨rfl, rfl⟩ | ⟨-, hj⟩
    · rfl
    · exact hinv.alerts j other hj hk

theorem serve (hinv : Inv s) (hi : s.sockets[i]? = some socket) (hrunning : socket.running = true) {rest : List (Event R)}
    (hqueue : s.bus.queues[socket.queue]? = some (e :: rest)) (h : s.call (.get socket.queue e) = some t)
    (h' : t.handle i socket e = some s') : Inv s' := by
  obtain ⟨hstep, hops, hsockets⟩ := of_call h
  obtain rfl : socket.queue = i := hinv.queue i socket hi
  have hbus : t.bus = { s.bus with queues := s.bus.queues.set socket.queue rest } := by
    rw [AgentEvents.step, hqueue] at hstep
    simp only [if_pos] at hstep
    exact (Option.some.inj hstep).symm
  have hconsumed : consumed socket.queue t.ops = consumed socket.queue s.ops ++ [e] := by
    rw [hops, consumed_append]
    simp [consumed]
  have hconsumed' (j : Nat) (hj : j ≠ socket.queue) : consumed j t.ops = consumed j s.ops := by
    rw [hops, consumed_append]
    simp [consumed, Ne.symm hj]
  have hsub : t.bus.subscribers = s.bus.subscribers := by rw [hbus]
  have hlen : t.bus.queues.length = s.bus.queues.length := by rw [hbus, List.length_set]
  have hon : socket.queue ∈ s.bus.subscribers := (hinv.subscribed _ socket hi).mpr hrunning
  have hrun := run_call h hinv.run
  unfold State.handle at h'
  split at h'
  · rename_i hwants
    cases h'
    refine hinv.set hi socket ?_ rfl rfl hrun hlen (iff_of_true (hsub ▸ hon) hrunning) (fun _ _ => by rw [hsub])
      hconsumed' (fun _ => ?_) fun _ => hrunning
    · obtain ⟨hlt, heq⟩ := List.getElem?_eq_some_iff.mp hi
      have hself := List.set_getElem_self hlt
      rw [heq] at hself
      rw [hsockets, hself]
    · rw [hconsumed, List.filter_append, ← hinv.sent _ socket hi hrunning]
      simp [hwants]
  · rename_i hwants
    split at h'
    · cases h'
      refine hinv.set hi { socket with sent := socket.sent ++ [e] } (by rw [← hsockets]; rfl) rfl rfl hrun hlen ?_ ?_
        hconsumed' (fun _ => ?_) fun _ => hrunning
      · exact iff_of_true (hsub ▸ hon) hrunning
      · intro j _
        show j ∈ t.bus.subscribers ↔ _
        rw [hsub]
      · show socket.sent ++ [e] = (consumed socket.queue t.ops).filter socket.kind.wants
        rw [hconsumed, List.filter_append, ← hinv.sent _ socket hi hrunning]
        simp [hwants]
    · obtain ⟨u, hu, rfl⟩ := Option.map_eq_some_iff.mp h'
      obtain ⟨hstep', hops', hsockets'⟩ := of_call hu
      have hbus' : u.bus = t.bus.unsubscribe socket.queue := by
        rw [AgentEvents.step, Option.ite_none_right_eq_some] at hstep'
        exact (Option.some.inj hstep'.2).symm
      have hmem (j : Nat) : j ∈ u.bus.subscribers ↔ j ≠ socket.queue ∧ j ∈ t.bus.subscribers := by
        rw [hbus']
        exact mem_unsubscribe (wf_of_run hrun).nodup
      have hrun' := run_call hu hrun
      have hstopped : ({ socket with running := false } : Socket R).running ≠ true := Bool.false_ne_true
      refine hinv.set hi { socket with running := false } ?_ rfl rfl hrun' ?_ ?_ ?_ ?_
        (fun hrunning => absurd hrunning hstopped) ?_
      · rw [← hsockets, ← hsockets']
        rfl
      · show u.bus.queues.length = _
        rw [hbus', queues_unsubscribe, hlen]
      · exact iff_of_false (fun hmem' => ((hmem _).mp hmem').1 rfl) hstopped
      · intro j hj
        rw [← hsub]
        exact (hmem j).trans (and_iff_right hj)
      · intro j hj
        show consumed j u.ops = _
        rw [hops', consumed_append, ← hconsumed' j hj]
        exact List.append_nil _
      · intro hkind
        rw [hkind, alerts_wants] at hwants
        exact absurd rfl hwants

theorem of_step (hinv : Inv s) (hs : step s a = some s') : Inv s' := by
  cases a with
  | emit e =>
    have hbus : s'.bus = s.bus.emit e := (Option.some.inj (of_call hs).1).symm
    refine hinv.call hs ?_ ?_ fun _ => rfl
    · rw [hbus, Bus.emit, length_forEach]
    · rw [hbus, Bus.emit]
  | connect kind =>
    obtain ⟨t, ht, rfl⟩ := Option.map_eq_some_iff.mp hs
    exact hinv.connect ht
  | leave i =>
    obtain ⟨socket, hi, rfl⟩ := Option.map_eq_some_iff.mp hs
    exact hinv.set hi { socket with connected := false } rfl rfl rfl hinv.run rfl (hinv.subscribed i socket hi)
      (fun _ _ => Iff.rfl) (fun _ _ => rfl) (hinv.sent i socket hi) (hinv.alerts i socket hi)
  | serve i =>
    simp only [step] at hs
    split at hs
    · rename_i socket hi
      split at hs
      · cases hs
      · rename_i hrunning
        split at hs
        · rename_i e rest hqueue
          obtain ⟨t, ht, hs⟩ := Option.bind_eq_some_iff.mp hs
          exact hinv.serve hi (by simpa using hrunning) hqueue ht hs
        · cases hs
    · cases hs

end Inv

end

/-! ### Runs -/

theorem inv_of_reach {s : State R} (h : Lts.Reach step Lts.free {} s) : Inv s :=
  h.invariant .init fun _ hs hinv => hinv.of_step hs

/-- Whatever happens, `websocket_alerts` sends nothing, and each of its calls has a subscription for
good, also after the client has left. -/
theorem alerts_never_sent (s : State R) (h : Lts.Reach step Lts.free {} s) :
    (∀ (i : Nat) (socket : Socket R), s.sockets[i]? = some socket → socket.kind = .alerts →
      socket.sent = [] ∧ socket.queue ∈ s.bus.subscribers) ∧
      s.sockets.countP (·.kind = .alerts) ≤ s.bus.subscribers.length := by
  have hinv := inv_of_reach h
  have hsub (i : Nat) (socket : Socket R) (hi : s.sockets[i]? = some socket) (hk : socket.kind = .alerts) :
      socket.queue ∈ s.bus.subscribers := by
    rw [hinv.queue i socket hi]
    exact (hinv.subscribed i socket hi).mpr (hinv.alerts i socket hi hk)
  refine ⟨fun i socket hi hk => ⟨?_, hsub i socket hi hk⟩, ?_⟩
  · rw [hinv.sent i socket hi (hinv.alerts i socket hi hk), hk]
    exact List.filter_eq_nil_iff.mpr fun e _ => by simp [alerts_wants]
  · have hnodup : (s.sockets.map (·.queue)).Nodup := by
      refine List.nodup_iff_injective_getElem.mpr fun i j hij => Fin.ext ?_
      have hqueue (k : Fin (s.sockets.map (·.queue)).length) : (s.sockets.map (·.queue))[k.val] = k.val := by
        rw [List.getElem_map]
        exact hinv.queue k.val _ (List.getElem?_eq_getElem (by simpa using k.isLt))
      exact (hqueue i).symm.trans (hij.trans (hqueue j))
    have hsubset : ((s.sockets.filter (·.kind = .alerts)).map (·.queue)) ⊆ s.bus.subscribers := by
      intro q hq
      obtain ⟨socket, hmem, rfl⟩ := List.mem_map.mp hq
      obtain ⟨hin, hk⟩ := List.mem_filter.mp hmem
      obtain ⟨i, hi⟩ := List.mem_iff_getElem?.mp hin
      exact hsub i socket hi (of_decide_eq_true hk)
    have hdistinct : ((s.sockets.filter (·.kind = .alerts)).map (·.queue)).Nodup :=
      hnodup.sublist (List.filter_sublist.map _)
    have hle := (List.subperm_of_subset hdistinct hsubset).length_le
    rwa [List.length_map, ← List.countP_eq_length_filter] at hle

/-- While a handler of `websocket_endpoints` runs, its client has got enrolments and registrations
that were emitted since it came, in their order; what is not on its queue any more is lost or sent. -/
theorem endpoints_sent_in_order (s : State R) (h : Lts.Reach step Lts.free {} s) (i : Nat) (socket : Socket R)
    (hi : s.sockets[i]? = some socket) (hrunning : socket.running = true) :
    ∃ k ≤ (emittedTo i s.ops).length, s.bus.queues[i]? = some ((emittedTo i s.ops).drop k) ∧
      socket.sent.Sublist (((emittedTo i s.ops).take k).filter socket.kind.wants) := by
  have hinv := inv_of_reach h
  have hlt : i < s.bus.queues.length := by
    rw [← hinv.made]
    exact (List.getElem?_eq_some_iff.mp hi).1
  have hqueue : s.bus.queues[i]? = some s.bus.queues[i] := List.getElem?_eq_getElem hlt
  obtain ⟨k, hk, hdrop, htaken⟩ := ((busInvariant_of_run hinv.run).queues i _ hqueue).suffix
  refine ⟨k, hk, hqueue.trans (congrArg some hdrop), ?_⟩
  rw [hinv.sent i socket hi hrunning]
  exact htaken.filter _

end

/-- A finding and an enrolment while one client of each socket is there; the first of them leaves. -/
def twoClients : List (Act Nat) :=
  [.connect .alerts, .connect .endpoints, .emit (.finding "rat" "f-1" "10.0.0.9" 90 []), .emit (.enrolled "e-7"),
    .leave 0, .serve 0, .serve 1, .serve 0, .serve 1]

theorem left_client_keeps_subscription :
    ∃ s, Lts.run step Lts.free {} twoClients = some s ∧
      (∀ (i : Nat) (socket : Socket Nat), s.sockets[i]? = some socket → socket.kind = .alerts →
        socket.sent = [] ∧ socket.queue ∈ s.bus.subscribers) :=
  ⟨_, rfl, (alerts_never_sent _ (Lts.Reach.of_run twoClients rfl)).1⟩

theorem enrolment_sent :
    ∃ s, Lts.run step Lts.free {} twoClients = some s ∧ s.sockets[1]?.map (·.sent) = some [.enrolled "e-7"] ∧
      ∃ k ≤ (emittedTo 1 s.ops).length, s.bus.queues[1]? = some ((emittedTo 1 s.ops).drop k) ∧
        [Event.enrolled "e-7"].Sublist (((emittedTo 1 s.ops).take k).filter Kind.endpoints.wants) :=
  ⟨_, rfl, rfl, endpoints_sent_in_order _ (Lts.Reach.of_run twoClients rfl) 1 _ rfl rfl⟩

end SocFabric.LiveSockets
