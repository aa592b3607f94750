import SocFabric.AgentFeed
import SocFabric.WebSocketStream

/-!
# The triage feed of a page (`features/agent-ops/AgentTriageFeed.tsx`)

Each connection to `/ws/agent/stream` brings the last 500 events and then live ones.
`AgentTriageFeed` shows the history of a connection in place of what it showed, and collects live
events in a queue that a timer appends to it unless the feed is paused. Pausing and resuming close
the socket and open another, the closed one reconnects three seconds later, and the queue outlives
them all. `feed_shows_once` is about the runs in which no socket is opened beside another that is
still in use, and a history comes only while the queue is empty, or so long that it pushes the
history out.
-/

namespace SocFabric
namespace TriageFeed
open Lts BoundedQueue AgentEvents
open WebSocketStream (ReadyState)

/-- A socket. `born` is how many events had been emitted when it was opened, and `next`, after its
first message, is a bound of the events it has brought. -/
structure Socket where
  readyState : ReadyState := .connecting
  born : Nat
  next : Option Nat := none
deriving DecidableEq, Repr

def Socket.inUse (w : Socket) : Bool := w.readyState = .connecting || w.readyState = .opened

/-- The events that a socket has brought are below this. -/
def Socket.bound (w : Socket) : Nat := w.next.getD w.born

/-- The feed. An event is its number in the order of emission. `timers` are the armed reconnects.
What the code does not have are `emitted`, the number of events so far, and `received`, the live
events that came while the feed was paused. -/
structure Feed where
  emitted : Nat := 0
  events : List Nat := []
  isPaused : Bool := false
  eventsQueue : List Nat := []
  wsRef : Option Nat := none
  sockets : Nat → Option Socket := fun _ => none
  created : Nat := 0
  timers : Nat := 0
  received : List Nat := []

def maxEvents : Nat := 500

/-- `events.slice(-500)`. -/
def lastEvents (events : List Nat) : List Nat := events.rtake maxEvents

/-- `_event_buffer` after `n` events. -/
def recentEvents (n : Nat) : List Nat := (List.range n).rtake maxHistory

namespace Feed

def connect (s : Feed) : Feed :=
  { s with
    sockets := Function.update s.sockets s.created (some { born := s.emitted })
    created := s.created + 1
    wsRef := some s.created }

def setReadyState (s : Feed) (i : Nat) (state : ReadyState) : Feed :=
  { s with
    sockets := Function.update s.sockets i ((s.sockets i).map ({ · with readyState := state })) }

/-- `wsRef.current?.close()`. -/
def closeRef (s : Feed) : Feed :=
  match s.wsRef with
  | some i => if ((s.sockets i).map Socket.inUse).getD false then s.setReadyState i .closing else s
  | none => s

/-- The cleanup and the effect that the other value of `isPaused` causes. -/
def toggle (s : Feed) : Feed := ({ s.closeRef with isPaused := !s.isPaused } : Feed).connect

def receive (s : Feed) (i : Nat) (w : Socket) (next : Nat) : Feed :=
  { s with sockets := Function.update s.sockets i (some { w with next := some next }) }

def onhistory (s : Feed) (i : Nat) (w : Socket) (n : Nat) : Feed :=
  { s.receive i w n with events := recentEvents n }

def onlive (s : Feed) (i : Nat) (w : Socket) (e : Nat) : Feed :=
  { s.receive i w (e + 1) with
    eventsQueue := s.eventsQueue ++ [e]
    received := if s.isPaused then s.received ++ [e] else s.received }

def onclose (s : Feed) (i : Nat) : Feed := { s.setReadyState i .closed with timers := s.timers + 1 }

def flush (s : Feed) : Feed :=
  if s.isPaused = false ∧ s.eventsQueue ≠ [] then
    { s with events := lastEvents (s.events ++ s.eventsQueue), eventsQueue := [] }
  else s

end Feed

inductive Act
  | emit
  | toggle
  | opened (i : Nat)
  -- the history that the server took after `n` events
  | history (i n : Nat)
  | live (i e : Nat)
  | closed (i : Nat)
  | timer
  | flush
deriving DecidableEq, Repr

/-- A connection brings the history first, which the server takes after the socket was opened and
does not send while it is empty, and then events in the order of emission. -/
def step (s : Feed) : Act → Option Feed
  | .emit => some { s with emitted := s.emitted + 1 }
  | .toggle => some s.toggle
  | .opened i =>
    match s.sockets i with
    | some w => if w.readyState = .connecting then some (s.setReadyState i .opened) else none
    | none => none
  | .history i n =>
    match s.sockets i with
    | some w =>
      if w.readyState = .opened ∧ w.next = none ∧ 0 < n ∧ w.born ≤ n ∧ n ≤ s.emitted then
        some (s.onhistory i w n)
      else none
    | none => none
  | .live i e =>
    match s.sockets i with
    | some w =>
      if w.readyState = .opened ∧ (w.next = none → w.born = 0) ∧ w.bound ≤ e ∧ e < s.emitted then
        some (s.onlive i w e)
      else none
    | none => none
  | .closed i =>
    match s.sockets i with
    | some w => if w.readyState = .closed then none else some (s.onclose i)
    | none => none
  | .timer => if 0 < s.timers then some ({ s with timers := s.timers - 1 } : Feed).connect else none
  | .flush => some s.flush

/-- What the server delivers to a client, if the events are numbered as they are emitted, goes
up. -/
theorem delivered_in_order {correlationId : Nat → Option String} {ops : List (AgentStream.Act Nat)}
    {server : AgentStream.Server Nat} {c n : Nat} {x : AgentStream.Client Nat}
    (h : run (AgentStream.step correlationId) free {} ops = some server)
    (hnumbered : AgentStream.triageEmitted ops = List.range n) (hc : server.clients[c]? = some x) :
    x.delivered.Pairwise (· < ·) := by
  have hsub := (AgentStream.delivered_sublist_flow server.triageEvents x).trans
    ((AgentStream.inOrder_of_run h).flow c x hc)
  rw [hnumbered] at hsub
  exact List.pairwise_lt_range.sublist hsub

/-- A feed that has just been mounted. -/
def mounted : Feed := ({} : Feed).connect

/-! ### What a run is to keep -/

/-- The event is in the list, or the list is full of newer ones. -/
def ShownIn (events : List Nat) (e : Nat) : Prop :=
  e ∈ events ∨ events.length = maxEvents ∧ ∀ x ∈ events, e < x

structure ShowsOnce (s : Feed) : Prop where
  inOrder : s.events.Pairwise (· < ·)
  paused : s.isPaused = false → s.eventsQueue = [] → ∀ e ∈ s.received, ShownIn s.events e

/-- No socket is opened beside one in use, and a history comes only while the queue is empty or
longer than the list. -/
def OneConnection (s : Feed) : Act → Prop
  | .timer => ∀ i < s.created, ∀ w ∈ s.sockets i, w.inUse = false
  | .history _ _ => s.eventsQueue = [] ∨ maxEvents ≤ s.eventsQueue.length
  | _ => True

instance (s : Feed) : ∀ a, Decidable (OneConnection s a)
  | .timer => inferInstanceAs (Decidable (∀ i < s.created, ∀ w ∈ s.sockets i, w.inUse = false))
  | .history _ _ =>
    inferInstanceAs (Decidable (s.eventsQueue = [] ∨ maxEvents ≤ s.eventsQueue.length))
  | .emit | .toggle | .opened _ | .live _ _ | .closed _ | .flush => .isTrue trivial

/-! ### Lists of recent events -/

theorem mem_recentEvents {n x : Nat} : x ∈ recentEvents n ↔ n - maxHistory ≤ x ∧ x < n := by
  rw [recentEvents, List.rtake, List.length_range, List.range_eq_range', List.drop_range',
    List.mem_range'_1]
  omega

theorem length_recentEvents (n : Nat) : (recentEvents n).length = min n maxHistory := by
  rw [recentEvents, length_rtake, List.length_range]

theorem pairwise_recentEvents (n : Nat) : (recentEvents n).Pairwise (· < ·) :=
  List.pairwise_lt_range.sublist (rtake_sublist _ _)

theorem shownIn_recentEvents {n e : Nat} (h : e < n) : ShownIn (recentEvents n) e := by
  by_cases he : n - maxHistory ≤ e
  · exact .inl (mem_recentEvents.mpr ⟨he, h⟩)
  · refine .inr ⟨?_, fun x hx => ?_⟩
    · rw [length_recentEvents]
      simp only [maxHistory, maxEvents] at he ⊢
      omega
    · have hx' := (mem_recentEvents.mp hx).1
      omega

theorem length_lastEvents_le (l : List Nat) : (lastEvents l).length ≤ maxEvents := by
  rw [lastEvents, length_rtake]
  exact Nat.min_le_right _ _

theorem lastEvents_of_length_le {l : List Nat} (h : l.length ≤ maxEvents) : lastEvents l = l :=
  rtake_of_length_le h

theorem mem_of_mem_lastEvents {l : List Nat} {x : Nat} (h : x ∈ lastEvents l) : x ∈ l :=
  (rtake_sublist _ _).mem h

theorem lastEvents_concat (l : List Nat) (e : Nat) :
    lastEvents (l ++ [e]) = lastEvents (lastEvents l ++ [e]) :=
  (rtake_push maxEvents l e).symm

/-- What is as long as the list pushes out what was shown. -/
theorem lastEvents_append_of_long {l l' : List Nat} (h : maxEvents ≤ l'.length) :
    lastEvents (l ++ l') = lastEvents l' := by
  rw [lastEvents, lastEvents, List.rtake, List.rtake, List.length_append, Nat.add_sub_assoc h,
    List.drop_append]
  simp

theorem mem_lastEvents_concat (l : List Nat) (e : Nat) : e ∈ lastEvents (l ++ [e]) := by
  rw [lastEvents, maxEvents, List.rtake_concat_succ]
  simp

theorem pairwise_lastEvents_concat {l : List Nat} {e : Nat} (h : l.Pairwise (· < ·))
    (he : ∀ x ∈ l, x < e) :
    (lastEvents (l ++ [e])).Pairwise (· < ·) := by
  refine List.Pairwise.sublist (rtake_sublist _ _)
    (List.pairwise_append.mpr ⟨h, List.pairwise_singleton .., ?_⟩)
  intro x hx y hy
  rw [List.mem_singleton.mp hy]
  exact he x hx

theorem lastEvents_concat_of_full {l : List Nat} (h : l.length = maxEvents) (e : Nat) :
    lastEvents (l ++ [e]) = l.tail ++ [e] := by
  cases l with
  | nil => cases h
  | cons x l =>
    rw [lastEvents, List.rtake, List.length_append, h]
    simp

/-- A list that is full forgets its oldest event for a newer one. -/
theorem ShownIn.concat {l : List Nat} {e x : Nat} (h : ShownIn l x) (hsorted : l.Pairwise (· < ·))
    (hlen : l.length ≤ maxEvents) (hx : x < e) : ShownIn (lastEvents (l ++ [e])) x := by
  rcases hlen.lt_or_eq with hlt | hfull
  · rw [lastEvents_of_length_le (by rw [List.length_append]; exact hlt)]
    rcases h with hmem | ⟨hfull, -⟩
    · exact .inl (List.mem_append_left _ hmem)
    · omega
  · rw [lastEvents_concat_of_full hfull]
    cases l with
    | nil => cases hfull
    | cons y l =>
      rw [List.tail_cons]
      have hlength : (l ++ [e]).length = maxEvents := by
        rw [← hfull]
        simp
      obtain ⟨hy, -⟩ := List.pairwise_cons.mp hsorted
      have hnewer : (∀ z ∈ l, x < z) → ShownIn (l ++ [e]) x := by
        refine fun hl => .inr ⟨hlength, fun z hz => ?_⟩
        rcases List.mem_append.mp hz with hz | hz
        · exact hl z hz
        · rw [List.mem_singleton.mp hz]
          exact hx
      rcases h with hmem | ⟨-, hall⟩
      · rcases List.mem_cons.mp hmem with rfl | hmem
        · exact hnewer hy
        · exact .inl (List.mem_append_left _ hmem)
      · exact hnewer fun z hz => hall z (List.mem_cons_of_mem y hz)

-- their bounds are numbers that must not be counted down
attribute [irreducible] recentEvents lastEvents

/-! ### One step -/

/-- What the next flush shows. -/
def Feed.upcoming (s : Feed) : List Nat := lastEvents (s.events ++ s.eventsQueue)

/-- Everything shown, waiting or received is older than event `b`. -/
def Below (s : Feed) (b : Nat) : Prop :=
  (∀ x ∈ s.events, x < b) ∧ (∀ x ∈ s.eventsQueue, x < b) ∧ ∀ x ∈ s.received, x < b

/-- A feed with one socket in use at most, which brings nothing but newer events. -/
structure Tidy (s : Feed) : Prop where
  events : s.events.Pairwise (· < ·)
  length : s.events.length ≤ maxEvents
  upcoming : s.upcoming.Pairwise (· < ·)
  received : ∀ e ∈ s.received, ShownIn s.upcoming e
  emitted : Below s s.emitted
  bound : ∀ i w, s.sockets i = some w → w.inUse = true → Below s w.bound
  single : ∀ i w, s.sockets i = some w → w.inUse = true → s.wsRef = some i
  fresh : ∀ i, s.created ≤ i → s.sockets i = none

section
variable {s t : Feed} {a : Act} {i : Nat} {w : Socket} {b c : Nat}

theorem Below.mono (h : Below s b) (hbc : b ≤ c) : Below s c :=
  ⟨fun x hx => (h.1 x hx).trans_le hbc, fun x hx => (h.2.1 x hx).trans_le hbc,
    fun x hx => (h.2.2 x hx).trans_le hbc⟩

theorem upcoming_of_empty (hlen : s.events.length ≤ maxEvents) (h : s.eventsQueue = []) :
    s.upcoming = s.events := by
  rw [Feed.upcoming, h, List.append_nil, lastEvents_of_length_le hlen]

theorem upcoming_of_long (hlong : maxEvents ≤ s.eventsQueue.length)
    (ht : t.eventsQueue = s.eventsQueue) :
    t.upcoming = s.upcoming := by
  rw [Feed.upcoming, Feed.upcoming, ht, lastEvents_append_of_long hlong,
    lastEvents_append_of_long hlong]

theorem Below.upcoming (h : Below s b) : ∀ x ∈ s.upcoming, x < b := by
  intro x hx
  rcases List.mem_append.mp (mem_of_mem_lastEvents hx) with hx | hx
  · exact h.1 x hx
  · exact h.2.1 x hx

theorem Tidy.showsOnce (h : Tidy s) : ShowsOnce s := by
  refine ⟨h.events, fun _ hqueue e he => ?_⟩
  rw [← upcoming_of_empty h.length hqueue]
  exact h.received e he

theorem Tidy.connect (h : Tidy s) (hclosed : ∀ i w, s.sockets i = some w → w.inUse = false) :
    Tidy s.connect where
  events := h.events
  length := h.length
  upcoming := h.upcoming
  received := h.received
  emitted := h.emitted
  bound i w hi hw := by
    rcases Slots.update_cases hi with ⟨-, hnew⟩ | ⟨-, hi⟩
    · cases hnew
      exact h.emitted
    · cases (hclosed i w hi).symm.trans hw
  single i w hi hw := by
    rcases Slots.update_cases hi with ⟨rfl, -⟩ | ⟨-, hi⟩
    · rfl
    · cases (hclosed i w hi).symm.trans hw
  fresh i hi := (Function.update_of_ne (Nat.ne_of_gt hi) ..).trans
    (h.fresh i (Nat.le_of_succ_le hi))

/-- A socket that is not in use stays so. -/
theorem Tidy.setReadyState (h : Tidy s) {state : ReadyState}
    (hstate : ∀ w, s.sockets i = some w → ({ w with readyState := state } : Socket).inUse = true →
      w.inUse = true) :
    Tidy (s.setReadyState i state) where
  events := h.events
  length := h.length
  upcoming := h.upcoming
  received := h.received
  emitted := h.emitted
  bound j v hj hv := by
    rcases Slots.modify_cases hj with ⟨rfl, w, hw, rfl⟩ | ⟨-, hj⟩
    · exact h.bound j w hw (hstate w hw hv)
    · exact h.bound j v hj hv
  single j v hj hv := by
    rcases Slots.modify_cases hj with ⟨rfl, w, hw, rfl⟩ | ⟨-, hj⟩
    · exact h.single j w hw (hstate w hw hv)
    · exact h.single j v hj hv
  fresh j hj := Slots.modify_of_none (h.fresh j hj)

theorem Tidy.closeRef (h : Tidy s) :
    Tidy s.closeRef ∧ ∀ i w, s.closeRef.sockets i = some w → w.inUse = false := by
  unfold Feed.closeRef
  cases href : s.wsRef with
  | none =>
    refine ⟨h, fun i w hi => Bool.eq_false_iff.mpr fun hw => ?_⟩
    cases href.symm.trans (h.single i w hi hw)
  | some i =>
    dsimp only
    split_ifs with huse
    · refine ⟨h.setReadyState nofun, fun j v hj => Bool.eq_false_iff.mpr fun hv => ?_⟩
      rcases Slots.modify_cases hj with ⟨rfl, w, -, rfl⟩ | ⟨hne, hj⟩
      · cases hv
      · exact hne (Option.some.inj ((h.single j v hj hv).symm.trans href))
    · refine ⟨h, fun j v hj => Bool.eq_false_iff.mpr fun hv => ?_⟩
      cases href.symm.trans (h.single j v hj hv)
      rw [hj] at huse
      exact huse hv

theorem Tidy.toggle (h : Tidy s) : Tidy s.toggle := by
  obtain ⟨hclose, hclosed⟩ := h.closeRef
  have hpaused : Tidy ({ s.closeRef with isPaused := !s.isPaused } : Feed) :=
    ⟨hclose.events, hclose.length, hclose.upcoming, hclose.received, hclose.emitted, hclose.bound,
      hclose.single, hclose.fresh⟩
  exact hpaused.connect hclosed

/-- A message of the socket in use, after which everything is older than its bound. -/
theorem Tidy.receive (h : Tidy s) (hi : s.sockets i = some w) (huse : w.inUse = true) (next : Nat)
    (ht : t.sockets = (s.receive i w next).sockets ∧ t.wsRef = s.wsRef ∧ t.created = s.created)
    (hbelow : Below t next) :
    (∀ j v, t.sockets j = some v → v.inUse = true → Below t v.bound) ∧
      (∀ j v, t.sockets j = some v → v.inUse = true → t.wsRef = some j) ∧
      ∀ j, t.created ≤ j → t.sockets j = none := by
  obtain ⟨hsockets, href, hcreated⟩ := ht
  have honly : ∀ j v, t.sockets j = some v → v.inUse = true → j = i ∧
      v = { w with next := some next } := by
    intro j v hj hv
    rw [hsockets] at hj
    rcases Slots.update_cases hj with ⟨hji, hnew⟩ | ⟨hne, hj⟩
    · exact ⟨hji, (Option.some.inj hnew).symm⟩
    · exact absurd (Option.some.inj ((h.single j v hj hv).symm.trans (h.single i w hi huse))) hne
  refine ⟨fun j v hj hv => ?_, fun j v hj hv => ?_, fun j hj => ?_⟩
  · rw [(honly j v hj hv).2]
    exact hbelow
  · rw [href, (honly j v hj hv).1]
    exact h.single i w hi huse
  · have hnone := h.fresh j (hcreated ▸ hj)
    have hne : j ≠ i := by
      rintro rfl
      cases hnone.symm.trans hi
    rw [hsockets]
    exact (Function.update_of_ne hne ..).trans hnone

theorem Tidy.onhistory (h : Tidy s) (hi : s.sockets i = some w) (hopened : w.readyState = .opened)
    (hfirst : w.next = none) {n : Nat} (hborn : w.born ≤ n) (hn : n ≤ s.emitted)
    (hqueue : s.eventsQueue = [] ∨ maxEvents ≤ s.eventsQueue.length) :
    Tidy (s.onhistory i w n) := by
  have huse : w.inUse = true := by simp [Socket.inUse, hopened]
  have hbelow : Below s n := by
    have hbound := h.bound i w hi huse
    rw [Socket.bound, hfirst] at hbound
    exact hbound.mono hborn
  have hbelow' : Below (s.onhistory i w n) n := ⟨fun x hx => (mem_recentEvents.mp hx).2, hbelow.2⟩
  obtain ⟨hbound, hsingle, hfresh⟩ := h.receive hi huse (t := s.onhistory i w n) n
    ⟨rfl, rfl, rfl⟩ hbelow'
  have hlen : (recentEvents n).length ≤ maxEvents := by
    rw [length_recentEvents]
    exact Nat.min_le_right _ _
  have hupcoming : (s.onhistory i w n).upcoming = recentEvents n ∨
      (s.onhistory i w n).upcoming = s.upcoming :=
    hqueue.imp (upcoming_of_empty (s := s.onhistory i w n) hlen) fun hlong =>
      upcoming_of_long hlong rfl
  refine ⟨pairwise_recentEvents n, hlen, ?_, fun e he => ?_, hbelow'.mono hn, hbound, hsingle,
    hfresh⟩
  · rcases hupcoming with heq | heq
    · rw [heq]
      exact pairwise_recentEvents n
    · rw [heq]
      exact h.upcoming
  · rcases hupcoming with heq | heq
    · rw [heq]
      exact shownIn_recentEvents (hbelow.2.2 e he)
    · rw [heq]
      exact h.received e he

theorem Tidy.onlive (h : Tidy s) (hi : s.sockets i = some w) (hopened : w.readyState = .opened)
    {e : Nat} (hbound : w.bound ≤ e) (he : e < s.emitted) : Tidy (s.onlive i w e) := by
  have huse : w.inUse = true := by simp [Socket.inUse, hopened]
  have hbelow : Below s e := (h.bound i w hi huse).mono hbound
  have hlast : ∀ {l : List Nat}, (∀ x ∈ l, x < e) → ∀ x ∈ l ++ [e], x < e + 1 := by
    intro l hl x hx
    rcases List.mem_append.mp hx with hx | hx
    · exact (hl x hx).trans (Nat.lt_succ_self e)
    · rw [List.mem_singleton.mp hx]
      exact Nat.lt_succ_self e
  have hreceived : ∀ x ∈ (s.onlive i w e).received, x ∈ s.received ∨ x = e := by
    intro x hx
    simp only [Feed.onlive] at hx
    split_ifs at hx
    · exact (List.mem_append.mp hx).imp id List.mem_singleton.mp
    · exact .inl hx
  have hbelow' : Below (s.onlive i w e) (e + 1) := by
    refine ⟨fun x hx => (hbelow.1 x hx).trans (Nat.lt_succ_self e), hlast hbelow.2.1,
      fun x hx => ?_⟩
    rcases hreceived x hx with hx | rfl
    · exact (hbelow.2.2 x hx).trans (Nat.lt_succ_self e)
    · exact Nat.lt_succ_self x
  have hupcoming : (s.onlive i w e).upcoming = lastEvents (s.upcoming ++ [e]) := by
    rw [Feed.upcoming, Feed.upcoming, ← lastEvents_concat, List.append_assoc]
    rfl
  obtain ⟨hbounds, hsingle, hfresh⟩ := h.receive hi huse (t := s.onlive i w e) (e + 1)
    ⟨rfl, rfl, rfl⟩ hbelow'
  refine ⟨h.events, h.length, ?_, fun x hx => ?_, hbelow'.mono he, hbounds, hsingle, hfresh⟩
  · rw [hupcoming]
    exact pairwise_lastEvents_concat h.upcoming hbelow.upcoming
  · rw [hupcoming]
    rcases hreceived x hx with hx | rfl
    · exact (h.received x hx).concat h.upcoming (length_lastEvents_le _) (hbelow.2.2 x hx)
    · exact .inl (mem_lastEvents_concat _ x)

theorem Tidy.flush (h : Tidy s) : Tidy s.flush := by
  unfold Feed.flush
  split_ifs
  · change Tidy { s with events := s.upcoming, eventsQueue := [] }
    have hsame : Feed.upcoming { s with events := s.upcoming, eventsQueue := [] } = s.upcoming :=
      upcoming_of_empty (s := { s with events := s.upcoming, eventsQueue := [] })
        (length_lastEvents_le _) rfl
    have hbelow : ∀ b, Below s b → Below { s with events := s.upcoming, eventsQueue := [] } b :=
      fun b hb => ⟨hb.upcoming, nofun, hb.2.2⟩
    exact ⟨h.upcoming, length_lastEvents_le _, hsame.symm ▸ h.upcoming, hsame.symm ▸ h.received,
      hbelow _ h.emitted, fun i w hi hw => hbelow _ (h.bound i w hi hw), h.single, h.fresh⟩
  · exact h

theorem tidy_step (hg : OneConnection s a) (hs : step s a = some t) (h : Tidy s) : Tidy t := by
  cases a with
  | emit =>
    cases hs
    exact ⟨h.events, h.length, h.upcoming, h.received, h.emitted.mono (Nat.le_succ _), h.bound,
      h.single, h.fresh⟩
  | toggle =>
    cases hs
    exact h.toggle
  | opened i =>
    simp only [step] at hs
    split at hs
    · next w hi =>
      obtain ⟨hstate, hs⟩ := Option.ite_none_right_eq_some.mp hs
      cases hs
      refine h.setReadyState fun w' hw' _ => ?_
      cases hi.symm.trans hw'
      simp [Socket.inUse, hstate]
    · cases hs
  | history i n =>
    simp only [step] at hs
    split at hs
    · next w hi =>
      obtain ⟨⟨hopened, hfirst, -, hborn, hn⟩, hs⟩ := Option.ite_none_right_eq_some.mp hs
      cases hs
      exact h.onhistory hi hopened hfirst hborn hn hg
    · cases hs
  | live i e =>
    simp only [step] at hs
    split at hs
    · next w hi =>
      obtain ⟨⟨hopened, -, hbound, he⟩, hs⟩ := Option.ite_none_right_eq_some.mp hs
      cases hs
      exact h.onlive hi hopened hbound he
    · cases hs
  | closed i =>
    simp only [step] at hs
    split at hs
    · split_ifs at hs
      cases hs
      have hclosed : Tidy (s.setReadyState i .closed) := h.setReadyState nofun
      exact ⟨hclosed.events, hclosed.length, hclosed.upcoming, hclosed.received, hclosed.emitted,
        hclosed.bound, hclosed.single, hclosed.fresh⟩
    · cases hs
  | timer =>
    obtain ⟨-, hs⟩ := Option.ite_none_right_eq_some.mp hs
    cases hs
    have hfired : Tidy { s with timers := s.timers - 1 } :=
      ⟨h.events, h.length, h.upcoming, h.received, h.emitted, h.bound, h.single, h.fresh⟩
    refine hfired.connect fun i w hi => ?_
    by_cases hlt : i < s.created
    · exact hg i hlt w hi
    · cases (h.fresh i (not_lt.mp hlt)).symm.trans hi
  | flush =>
    cases hs
    exact h.flush

end

/-! ### Runs -/

theorem tidy_mounted : Tidy mounted := by
  have hempty : Tidy {} := by
    refine ⟨.nil, Nat.zero_le _, ?_, nofun, ⟨nofun, nofun, nofun⟩, nofun, nofun, fun _ _ => rfl⟩
    rw [upcoming_of_empty (Nat.zero_le _) rfl]
    exact .nil
  exact hempty.connect nofun

/-- While no socket is opened beside another in use, and a history comes only while the queue is
empty or as long as the list, what is shown is in the order of emission, without repetition, and a
flush after resuming shows what came while the feed was paused. -/
theorem feed_shows_once (s : Feed) (h : Reach step OneConnection mounted s) : ShowsOnce s :=
  (h.invariant tidy_mounted tidy_step).showsOnce

/-- A feed is paused, gets an event, and is resumed; the flush comes before the history of the new
connection. -/
def calmFeed : List Act :=
  [.emit, .opened 0, .history 0 1, .toggle, .opened 1, .history 1 1, .emit, .live 1 1, .toggle,
    .flush, .opened 2, .history 2 2]

theorem calm_feed_shows_once :
    ∃ s, Reach step OneConnection mounted s ∧ s.received = [1] ∧ s.events = [0, 1] ∧
      ShowsOnce s := by
  have hrun : ((run step OneConnection mounted calmFeed).map fun s => (s.received, s.events)) =
      some ([1], [0, 1]) := by
    decide +kernel
  obtain ⟨s, hs, hshown⟩ := Option.map_eq_some_iff.mp hrun
  obtain ⟨hreceived, hevents⟩ := Prod.mk.inj hshown
  have hreach : Reach step OneConnection mounted s := .of_run calmFeed hs
  exact ⟨s, hreach, hreceived, hevents, feed_shows_once s hreach⟩

/-- The same, but the history comes first. -/
def hastyFeed : List Act :=
  [.emit, .opened 0, .history 0 1, .toggle, .opened 1, .history 1 1, .emit, .live 1 1, .toggle,
    .opened 2, .history 2 2, .flush]

theorem hasty_feed_shows_twice : ¬ ∀ s : Feed, Reach step free mounted s → ShowsOnce s := by
  intro h
  have hrun : (run step free mounted hastyFeed).map Feed.events = some [0, 1, 1] := by
    decide +kernel
  obtain ⟨s, hs, hevents⟩ := Option.map_eq_some_iff.mp hrun
  have horder := (h s (.of_run hastyFeed hs)).inOrder
  rw [hevents] at horder
  revert horder
  decide

end TriageFeed
end SocFabric
